/-
DawnChat/Permissions/Query.lean

The permission query over the database
(`core/database/src/util/permissions.rs`).

A `DatabasePermissionQuery` holds the perspective user and whatever else is
known so far: the other user, the channel, the server, the member.  Missing
pieces are fetched on demand and kept.  `in_timeout` reads the wall clock each
time it is asked, so the query carries the readings still to come; a channel
calculation reads it twice.

The second half computes the calculators of `Calculate.lean` on such a query.
For a text channel they have a closed form, `channelPermissions`, a function
of the server, the channel, the member record and two clock readings.  Later
modules use these equations and never unfold the query again.
-/
import DawnChat.Database
import DawnChat.Permissions.Calculate
import Mathlib.Data.Stream.Defs

namespace DawnChat

open RustStd ChannelPermission

/-- Permissions calculator state. -/
structure DatabasePermissionQuery where
  database : Database
  perspective : User
  user : Option User := none
  channel : Option Channel := none
  server : Option Server := none
  member : Option Member := none
  cachedMutualConnection : Option Bool := none
  /-- The readings of the clock still to come. -/
  clock : Stream' Timestamp

/-- Check whether two users have a mutual connection: a shared server or a
shared group.  The outer `none` is a panic of the driver. -/
def User.hasMutualConnection (u : User) (db : Database) (userB : String) :
    Option (Result Bool) := do
  match ← db.fetchMutualServerIds u.id userB with
  | .error e => pure (.error e)
  | .ok servers =>
    if !servers.isEmpty then pure (.ok true)
    else
      match ← db.fetchMutualChannelIds u.id userB with
      | .error e => pure (.error e)
      | .ok channels => pure (.ok !channels.isEmpty)

/-- The overrides of the roles a member holds in a server, from lowest role to
highest. -/
def serverRoleOverrides (server : Server) (memberRoles : List String) : List Override :=
  let roles := (server.roles.toList.filter fun e => memberRoles.contains e.1).map
    fun e => (e.2.rank, e.2.permissions.toOverride)
  (sortByKeyDesc (·.1) roles).map (·.2)

/-- The overrides that a channel has for the roles a member holds, from lowest
role to highest.  Overrides for roles the server does not know are skipped. -/
def channelRoleOverrides (server : Server) (rolePermissions : HashMap String OverrideField)
    (memberRoles : List String) : List Override :=
  let roles := (rolePermissions.toList.filter fun e => memberRoles.contains e.1).filterMap
    fun e => (server.roles.lookup e.1).map fun role => (role.rank, e.2.toOverride)
  (sortByKeyDesc (·.1) roles).map (·.2)

namespace DatabasePermissionQuery

/-- Create a new permission calculator. -/
def new (database : Database) (perspective : User) (clock : Stream' Timestamp) :
    DatabasePermissionQuery where
  database := database
  perspective := perspective
  clock := clock

/-- Use channel. -/
def withChannel (q : DatabasePermissionQuery) (channel : Channel) : DatabasePermissionQuery :=
  { q with channel := some channel }

/-- Use server. -/
def withServer (q : DatabasePermissionQuery) (server : Server) : DatabasePermissionQuery :=
  { q with server := some server }

/-- Use member. -/
def withMember (q : DatabasePermissionQuery) (member : Member) : DatabasePermissionQuery :=
  { q with member := some member }

/-- Use user. -/
def withUser (q : DatabasePermissionQuery) (user : User) : DatabasePermissionQuery :=
  { q with user := some user }

/-- Get the known member's current ranking; panics for a member without a
server. -/
def getMemberRank : Query DatabasePermissionQuery (Option Int) := do
  let q ← get
  match q.member, q.server with
  | some member, some server => pure (some (member.getRanking server))
  | some _, none => failure
  | none, _ => pure none

/-- Get the relationship we have with the currently selected user. -/
def userRelationship (q : DatabasePermissionQuery) : RelationshipStatus :=
  match q.user with
  | some otherUser =>
    if q.perspective.id = otherUser.id then .user
    -- for permission checks the owner of a bot is the bot
    else if otherUser.bot.any (·.owner = q.perspective.id) then .user
    else
      match (q.perspective.relations.getD []).find? (·.id = otherUser.id) with
      | some entry => entry.status
      | none => .none
  | none => .none

/-- Do we have a mutual connection with the currently selected user? -/
def haveMutualConnection : Query DatabasePermissionQuery Bool := do
  let q ← get
  match q.cachedMutualConnection with
  | some value => pure value
  | none =>
    match q.user with
    | some user =>
      match q.perspective.hasMutualConnection q.database user.id with
      | some result =>
        let value := result.toOption.getD false
        set { q with cachedMutualConnection := some value }
        pure value
      | none => failure
    | none => pure false

/-- Is our perspective user the server's owner? -/
def areWeServerOwner (q : DatabasePermissionQuery) : Bool :=
  q.server.any (·.owner = q.perspective.id)

/-- Is our perspective user a member of the server? -/
def areWeAMember : Query DatabasePermissionQuery Bool := do
  let q ← get
  match q.server with
  | some server =>
    if q.member.isSome then pure true
    else
      match q.database.fetchMember server.id q.perspective.id with
      | .ok member =>
        set { q with member := some member }
        pure true
      | .error _ => pure false
  | none => pure false

/-- Is our perspective user timed out on this server? -/
def areWeTimedOut : Query DatabasePermissionQuery Bool := do
  let q ← get
  match q.member with
  | some member =>
    set { q with clock := q.clock.tail }
    pure (member.inTimeout q.clock.head)
  | none => pure false

/-- Get the type of the channel. -/
def getChannelType (q : DatabasePermissionQuery) : ChannelType :=
  match q.channel with
  | some (.directMessage _) => .directMessage
  | some (.group _) => .group
  | some (.savedMessages _) => .savedMessages
  | some (.textChannel _) => .serverChannel
  | none => .unknown

/-- Get the default channel permissions. -/
def getDefaultChannelPermissions (q : DatabasePermissionQuery) : Override :=
  match q.channel with
  | some (.group c) => { allow := c.permissions.getD defaultPermissionDirectMessage }
  | some (.textChannel c) => (c.defaultPermissions.getD {}).toOverride
  | _ => {}

/-- Get the ordered role overrides for this member in this server. -/
def getOurServerRoleOverrides (q : DatabasePermissionQuery) : List Override :=
  match q.server with
  | some server => serverRoleOverrides server ((q.member.map (·.roles)).getD [])
  | none => []

/-- Get the ordered role overrides for this member in this channel. -/
def getOurChannelRoleOverrides (q : DatabasePermissionQuery) : List Override :=
  match q.channel, q.server with
  | some (.textChannel c), some server =>
    channelRoleOverrides server c.rolePermissions ((q.member.map (·.roles)).getD [])
  | _, _ => []

/-- Do we own this group or saved messages channel if it is one of those? -/
def doWeOwnTheChannel (q : DatabasePermissionQuery) : Bool :=
  match q.channel with
  | some (.group c) => c.owner = q.perspective.id
  | some (.savedMessages c) => c.user = q.perspective.id
  | _ => false

/-- Are we a recipient of this channel? -/
def areWePartOfTheChannel (q : DatabasePermissionQuery) : Bool :=
  match q.channel with
  | some (.directMessage c) => c.recipients.contains q.perspective.id
  | some (.group c) => c.recipients.contains q.perspective.id
  | _ => false

/-- Set the current user as the recipient of this channel. -/
def setRecipientAsUser : Query DatabasePermissionQuery Unit := do
  let q ← get
  match q.channel with
  | some (.directMessage c) =>
    match c.recipients.find? (· ≠ q.perspective.id) with
    | some recipientId =>
      match q.database.fetchUser recipientId with
      | .ok user => set { q with user := some user }
      | .error _ => pure ()
    | none => failure
  | some _ => failure
  | none => pure ()

/-- The server a text channel is calculated against: the known one when it has
the right id, else the stored one; a failed fetch keeps what was there. -/
def channelServer (q : DatabasePermissionQuery) (c : TextChannel) : Option Server :=
  if q.server.any (·.id = c.server) then q.server
  else (q.database.fetchServer c.server).toOption.or q.server

/-- Set the current server as the server owning this channel. -/
def setServerFromChannel : Query DatabasePermissionQuery Unit := do
  let q ← get
  match q.channel with
  | some (.textChannel c) => set { q with server := q.channelServer c }
  | some _ => failure
  | none => pure ()

instance : PermissionQuery DatabasePermissionQuery where
  areWePrivileged := do pure (← get).perspective.privileged
  areWeABot := do pure (← get).perspective.bot.isSome
  areTheUsersSame := do
    let q ← get
    pure (q.user.any (·.id = q.perspective.id))
  userRelationship := do pure (← get).userRelationship
  userIsBot := do pure ((← get).user.any (·.bot.isSome))
  haveMutualConnection := haveMutualConnection
  areWeServerOwner := do pure (← get).areWeServerOwner
  areWeAMember := areWeAMember
  getDefaultServerPermissions := do pure (((← get).server.map (·.defaultPermissions)).getD 0)
  getOurServerRoleOverrides := do pure (← get).getOurServerRoleOverrides
  areWeTimedOut := areWeTimedOut
  doWeHavePublishOverwrites := do pure (((← get).member.map (·.canPublish)).getD true)
  doWeHaveReceiveOverwrites := do pure (((← get).member.map (·.canReceive)).getD true)
  getChannelType := do pure (← get).getChannelType
  getDefaultChannelPermissions := do pure (← get).getDefaultChannelPermissions
  getOurChannelRoleOverrides := do pure (← get).getOurChannelRoleOverrides
  doWeOwnTheChannel := do pure (← get).doWeOwnTheChannel
  areWePartOfTheChannel := do pure (← get).areWePartOfTheChannel
  setRecipientAsUser := setRecipientAsUser
  setServerFromChannel := setServerFromChannel

end DatabasePermissionQuery

/-! ### Closed forms -/

/-- Voice flags and timeout, as the server calculation applies them. -/
def Member.restrictFlags (m : Member) (now : Timestamp) (p : PermissionValue) :
    PermissionValue :=
  let p := if m.canPublish then p
    else (p.revoke ChannelPermission.speak.value).revoke ChannelPermission.video.value
  let p := if m.canReceive then p else p.revoke ChannelPermission.listen.value
  if m.inTimeout now then p.restrict allowInTimeout else p

/-- The server permissions of a plain member. -/
def serverPermissions (server : Server) (member : Member) (now : Timestamp) :
    PermissionValue :=
  member.restrictFlags now
    ((serverRoleOverrides server member.roles).foldl PermissionValue.apply
      server.defaultPermissions)

/-- The channel permissions of a plain member before gating on `ViewChannel`. -/
def ungatedPermissions (server : Server) (c : TextChannel) (member : Member)
    (now now' : Timestamp) : PermissionValue :=
  let p := (serverPermissions server member now).apply
    (c.defaultPermissions.getD {}).toOverride
  let p := (channelRoleOverrides server c.rolePermissions member.roles).foldl
    PermissionValue.apply p
  if member.inTimeout now' then p.restrict allowInTimeout else p

/-- The channel permissions of a plain member. -/
def channelPermissions (server : Server) (c : TextChannel) (member : Member)
    (now now' : Timestamp) : PermissionValue :=
  let p := ungatedPermissions server c member now now'
  if p.hasChannelPermission .viewChannel then p else 0

namespace DatabasePermissionQuery

variable {q : DatabasePermissionQuery}

/-- The member record a query uses: the known one, else the stored one. -/
def ourMember (q : DatabasePermissionQuery) (server : Server) : Option Member :=
  q.member.or (q.database.fetchMember server.id q.perspective.id).toOption

theorem run_areWeAMember {server : Server} {m? : Option Member}
    (hserver : q.server = some server) (hm? : q.ourMember server = m?) :
    areWeAMember.run q = some (m?.isSome, { q with member := m? }) := by
  subst hm?
  rcases hm : q.member with - | m
  · rcases hf : q.database.fetchMember server.id q.perspective.id with e | m <;>
      simp [areWeAMember, hserver, hm, hf, ourMember, Except.toOption]
    cases q
    simp_all
  · simp [areWeAMember, hserver, hm, ourMember]
    cases q
    simp_all

theorem run_applyMemberFlags {m : Member} (hm : q.member = some m) (p : PermissionValue) :
    (applyMemberFlags p).run q
      = some (m.restrictFlags q.clock.head p, { q with clock := q.clock.tail }) := by
  rcases hpub : m.canPublish with - | - <;> rcases hrec : m.canReceive with - | - <;>
    rcases ht : m.inTimeout q.clock.head with - | - <;>
    simp [applyMemberFlags, PermissionQuery.doWeHavePublishOverwrites,
      PermissionQuery.doWeHaveReceiveOverwrites, PermissionQuery.areWeTimedOut, areWeTimedOut,
      Member.restrictFlags, hm, hpub, hrec, ht]

/-! #### Server calculation -/

-- a calculation runs by asking the query
attribute [local simp] calculateServerPermissions calculateChannelPermissions
  PermissionQuery.areWePrivileged PermissionQuery.areWeServerOwner PermissionQuery.areWeAMember
  PermissionQuery.getChannelType getChannelType PermissionQuery.setServerFromChannel
  setServerFromChannel

/-- The owner and privileged users have everything. -/
theorem run_calculateServerPermissions_all
    (h : q.perspective.privileged = true ∨ q.areWeServerOwner = true) :
    calculateServerPermissions.run q = some (grantAllSafe.value, q) := by
  by_cases hp : q.perspective.privileged = true
  · simp [hp]
  · have ho : q.areWeServerOwner = true := h.resolve_left hp
    simp [hp, ho]

attribute [local simp] areWeServerOwner

section Plain

variable {server : Server} (hp : q.perspective.privileged = false)
  (ho : server.owner ≠ q.perspective.id)

include hp ho

/-- A plain member has what `serverPermissions` says. -/
theorem run_calculateServerPermissions_member {m : Member} (hserver : q.server = some server)
    (hm : q.ourMember server = some m) :
    calculateServerPermissions.run q = some (serverPermissions server m q.clock.head,
      { q with member := some m, clock := q.clock.tail }) := by
  obtain ⟨database, perspective, user, channel, _, member, cached, clock⟩ := q
  subst hserver
  have hmember := run_areWeAMember (q := ⟨database, perspective, user,
    channel, some server, member, cached, clock⟩) rfl hm
  have hflags := run_applyMemberFlags (q := ⟨database, perspective, user, channel,
    some server, some m, cached, clock⟩) rfl ((serverRoleOverrides server m.roles).foldl
      PermissionValue.apply server.defaultPermissions)
  dsimp only at hp ho hmember hflags
  simp [hp, ho, hmember, PermissionQuery.getDefaultServerPermissions,
    PermissionQuery.getOurServerRoleOverrides, getOurServerRoleOverrides, hflags, serverPermissions]

/-- Anyone else has nothing. -/
theorem run_calculateServerPermissions_stranger (hserver : q.server = some server)
    (hm : q.ourMember server = none) :
    calculateServerPermissions.run q = some (0, { q with member := none }) := by
  obtain ⟨database, perspective, user, channel, _, member, cached, clock⟩ := q
  subst hserver
  have hmember := run_areWeAMember (q := ⟨database, perspective, user,
    channel, some server, member, cached, clock⟩) rfl hm
  dsimp only at hp ho hmember
  simp [hp, ho, hmember]

end Plain

/-! #### Channel calculation on a text channel -/

theorem run_calculateChannelPermissions_privileged (hp : q.perspective.privileged = true) :
    calculateChannelPermissions.run q = some (grantAllSafe.value, q) := by
  simp [hp]

/-- A channel whose server cannot be found gives nothing. -/
theorem run_calculateChannelPermissions_noServer {c : TextChannel}
    (hchannel : q.channel = some (.textChannel c)) (hserver : q.channelServer c = none)
    (hp : q.perspective.privileged = false) :
    calculateChannelPermissions.run q = some (0, { q with server := none }) := by
  simp [hp, hchannel, hserver, areWeAMember]

section TextChannel

variable {c : TextChannel} {server : Server} (hchannel : q.channel = some (.textChannel c))
  (hserver : q.channelServer c = some server) (hp : q.perspective.privileged = false)

include hchannel hserver hp

theorem run_calculateChannelPermissions_owner (ho : server.owner = q.perspective.id) :
    calculateChannelPermissions.run q
      = some (grantAllSafe.value, { q with server := some server }) := by
  simp [hp, hchannel, hserver, ho]

variable (ho : server.owner ≠ q.perspective.id)

include ho

/-- A plain member has what `channelPermissions` says. -/
theorem run_calculateChannelPermissions_member {m : Member} (hm : q.ourMember server = some m) :
    calculateChannelPermissions.run q
      = some (channelPermissions server c m q.clock.head q.clock.tail.head,
          { q with server := some server, member := some m, clock := q.clock.tail.tail }) := by
  obtain ⟨database, perspective, user, _, srv, member, cached, clock⟩ := q
  subst hchannel
  -- the query once its server is known, and once its member is known as well
  have hmember := run_areWeAMember (q := ⟨database, perspective, user,
    some (.textChannel c), some server, member, cached, clock⟩) rfl hm
  have hcalc := run_calculateServerPermissions_member (m := m)
    (q := ⟨database, perspective, user, some (.textChannel c), some server, some m, cached,
      clock⟩) hp ho rfl rfl
  dsimp only at hp ho hserver hmember hcalc ⊢
  -- the second timeout check reads the rest of the clock
  generalize clock.tail = clock' at hcalc ⊢
  rcases ht : m.inTimeout clock'.head with - | - <;>
  · simp [-calculateServerPermissions, hp, hserver, ho, hmember, hcalc,
      PermissionQuery.getDefaultChannelPermissions,
      getDefaultChannelPermissions, PermissionQuery.getOurChannelRoleOverrides,
      getOurChannelRoleOverrides, PermissionQuery.areWeTimedOut, areWeTimedOut, ht,
      channelPermissions, ungatedPermissions, PermissionValue.revokeAll]
    split <;> rfl

/-- A stranger sees nothing. -/
theorem run_calculateChannelPermissions_stranger (hm : q.ourMember server = none) :
    calculateChannelPermissions.run q
      = some (0, { q with server := some server, member := none }) := by
  obtain ⟨database, perspective, user, _, srv, member, cached, clock⟩ := q
  subst hchannel
  have hmember := run_areWeAMember (q := ⟨database, perspective, user,
    some (.textChannel c), some server, member, cached, clock⟩) rfl hm
  dsimp only at hp ho hserver hmember
  simp [hp, hserver, ho, hmember]

end TextChannel

end DatabasePermissionQuery

end DawnChat
