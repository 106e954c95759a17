/-
DawnChat/Routes/Limits.lean

Requests that are subject to a limit: creating a server and joining one
(`delta/src/routes/servers/server_create.rs`, `delta/src/routes/invites/invite_join.rs`),
creating a channel or a role in a server (`channel_create.rs`, `roles_create.rs`), and
adding a member to a group (`delta/src/routes/channels/group_add_member.rs`).

Each limit is checked before the insertion, in the function that makes it, and each
check has its own comparison.  Roles and group members are refused once their number has
reached the limit.  Servers and channels are refused only once their number is *above*
the limit, so one more than the limit can be had.  The limits are kept if nobody asks for one
more when the number is exactly at the limit (`caps_of_notFull`).

What a request does to the numbers is one equation per write (`counts_insertChannel` and
so on), and `Growth` collects what whole requests can do to them.  Events, system
messages and invite codes are left out; none of them is counted.
-/
import DawnChat.Config
import DawnChat.Lib.Counter
import DawnChat.Lib.Run
import DawnChat.Routes.Servers

namespace DawnChat

open RustStd Fallible Handler Counter Run HashMap Function List Option ReferenceDb Except Nat

/-! ### Queries -/

namespace ReferenceDb

/-- Insert a new channel in the database. -/
def insertChannel (channel : Channel) (db : ReferenceDb) : Result ReferenceDb :=
  if channel.id ∈ db.channels then .error (.databaseError "insert" "channel")
  else .ok { db with channels := db.channels.insert channel.id channel }

/-- Add user to a group. -/
def addUserToGroup (channelId userId : String) (db : ReferenceDb) : Result ReferenceDb :=
  match db.channels.lookup channelId with
  | some (.group c) =>
    let c := { c with recipients := c.recipients ++ [userId] }
    .ok { db with channels := db.channels.modify channelId fun _ => .group c }
  | _ => .error .invalidOperation

/-- Insert a new server into database. -/
def insertServer (server : Server) (db : ReferenceDb) : Result ReferenceDb :=
  if server.id ∈ db.servers then .error (.databaseError "insert" "server")
  else .ok { db with servers := db.servers.insert server.id server }

/-- Fetch server count for a given user id. -/
def fetchServerCount (userId : String) (db : ReferenceDb) : Nat :=
  (db.serverMembers.values.filter (·.id.user = userId)).length

/-- Insert a new server member (or use the existing member if one is found).  The
in-memory driver does not merge. -/
def insertOrMergeMember (member : Member) (db : ReferenceDb) : Result ReferenceDb :=
  if member.id ∈ db.serverMembers then .error (.databaseError "insert" "member")
  else .ok { db with serverMembers := db.serverMembers.insert member.id member }

end ReferenceDb

/-! ### Creating and adding -/

section Create

variable (settings : Settings)

/-- Check if this user can acquire another server. -/
def User.canAcquireServer (user : User) : Request ReferenceDb Unit := do
  let count ← read fun db => .ok (db.fetchServerCount user.id)
  let max := (user.limits settings).servers
  throwIf (¬ count ≤ max) (.tooManyServers max)

/-- Types of channels that can be created. -/
inductive LegacyServerChannelType where
  | text
  | voice
  deriving DecidableEq, Repr

/-- Create new server channel. -/
structure DataCreateServerChannel where
  channelType : LegacyServerChannelType := .text
  name : String := ""
  description : Option String := none
  nsfw : Option Bool := none
  voice : Option VoiceInformation := none
  deriving DecidableEq

def DataCreateServerChannel.validate (data : DataCreateServerChannel) : Result Unit :=
  if (1 ≤ data.name.length ∧ data.name.length ≤ 32) ∧
      data.description.all fun description => description.length ≤ 1024 then .ok ()
  else .error .failedValidation

/-- The channel that is created. -/
def DataCreateServerChannel.channel (data : DataCreateServerChannel) (id serverId : String) :
    TextChannel where
  id := id
  server := serverId
  name := data.name
  description := data.description
  nsfw := data.nsfw.getD false
  voice :=
    match data.channelType with
    | .text => data.voice
    | .voice => some (data.voice.getD {})

/-- Create a new server channel. -/
def Channel.createServerChannel (server : Server) (id : String) (data : DataCreateServerChannel)
    (updateServer : Bool) : Request ReferenceDb Channel := do
  let max := settings.features.limits.global.serverChannels
  throwIf (server.channels.length > max) (.tooManyChannels max)
  let channel := Channel.textChannel (data.channel id server.id)
  write (ReferenceDb.insertChannel channel)
  if updateServer then
    let _ ← server.update ReferenceDb.driver { channels := some (server.channels ++ [id]) } []
    return channel
  else return channel

/-- Information about new server to create. -/
structure DataCreateServer where
  name : String
  description : Option String := none
  nsfw : Option Bool := none

def DataCreateServer.validate (data : DataCreateServer) : Result Unit :=
  if (1 ≤ data.name.length ∧ data.name.length ≤ 32) ∧
      data.description.all fun description => description.length ≤ 1024 then .ok ()
  else .error .failedValidation

/-- The server that is created, without channels. -/
def DataCreateServer.server (data : DataCreateServer) (id ownerId : String) : Server where
  id := id
  owner := ownerId
  name := data.name
  description := data.description
  nsfw := data.nsfw.getD false
  defaultPermissions := defaultPermissionServer

/-- The channels that a server begins with. -/
def Server.defaultChannels (server : Server) (createDefaultChannels : Bool) (channelId : String) :
    Request ReferenceDb (List Channel) :=
  if createDefaultChannels then do
    let channel ← Channel.createServerChannel settings server channelId { name := "General" } false
    return [channel]
  else return []

/-- Create a server. -/
def Server.create (data : DataCreateServer) (owner : User) (createDefaultChannels : Bool)
    (id channelId : String) : Request ReferenceDb (Server × List Channel) := do
  let server := data.server id owner.id
  let channels ← server.defaultChannels settings createDefaultChannels channelId
  let server := { server with channels := channels.map (·.id) }
  write (ReferenceDb.insertServer server)
  return (server, channels)

/-- The channels that the new member can see. -/
def visibleChannels (query : DatabasePermissionQuery) :
    List Channel → Request ReferenceDb (List Channel)
  | [] => pure []
  | channel :: channels => do
      let permissions ← ofOption
        (calculateChannelPermissions.run (query.withChannel channel))
      let rest ← visibleChannels query channels
      return if permissions.1.hasChannelPermission .viewChannel then channel :: rest else rest

/-- Create a new member in a server. -/
def Member.create (clock : Stream' Timestamp) (server : Server) (user : User)
    (channels : Option (List Channel)) : Request ReferenceDb (Member × List Channel) := do
  let db ← get
  throwIf ((⟨server.id, user.id⟩ : MemberCompositeKey) ∈ db.serverBans) .banned
  throwIf ((⟨server.id, user.id⟩ : MemberCompositeKey) ∈ db.serverMembers) .alreadyInServer
  let member : Member := { id := ⟨server.id, user.id⟩ }
  write (ReferenceDb.insertOrMergeMember member)
  match channels with
  | some channels => return (member, channels)
  | none =>
    let db ← get
    let query := (DatabasePermissionQuery.new db.database user clock).withServer server
    let existingChannels ← ofExcept (db.database.fetchChannels server.channels)
    return (member, ← visibleChannels query existingChannels)

/-- Add user to a group. -/
def Channel.addUserToGroup (channel : Channel) (user : User) : Request ReferenceDb Channel :=
  match channel with
  | .group c => do
      throwIf (user.id ∈ c.recipients) .alreadyInGroup
      let max := settings.features.limits.global.groupSize
      throwIf (c.recipients.length ≥ max) (.groupTooLarge max)
      write (ReferenceDb.addUserToGroup c.id user.id)
      return .group { c with recipients := c.recipients ++ [user.id] }
  | _ => fail .invalidOperation

end Create

/-! ### The routes -/

/-- An invite that has been looked up. -/
inductive Invite where
  | server (server : String)
  | group (channel : String)

structure DataCreateRole where
  name : String

def DataCreateRole.validate (data : DataCreateRole) : Result Unit :=
  if 1 ≤ data.name.length ∧ data.name.length ≤ 32 then .ok () else .error .failedValidation

section Routes

variable (settings : Settings) (user : User) (clock : Stream' Timestamp)

/-- Create a new server. -/
def createServer (data : DataCreateServer) (serverId channelId : String) :
    Request ReferenceDb Unit := do
  throwIf (user.bot.isSome = true) .isBot
  let restricted := settings.features.limits.global.restrictServerCreation
  throwIf (restricted ≠ [] ∧ user.id ∉ restricted) .cantCreateServers
  ofExcept data.validate
  user.canAcquireServer settings
  let created ← Server.create settings data user true serverId channelId
  let _ ← Member.create clock created.1 user (some created.2)

/-- Join an invite by its code. -/
def joinInvite (invite : Result Invite) : Request ReferenceDb Unit := do
  throwIf (user.bot.isSome = true) .isBot
  user.canAcquireServer settings
  match ← ofExcept invite with
  | .server server =>
    let server ← read fun db => db.fetchServer server
    let _ ← Member.create clock server user none
  | .group channel =>
    let channel ← read fun db => ReferenceDb.get db.channels channel
    let channel ← channel.addUserToGroup settings user
    let _ ← read fun db => db.database.fetchUsers channel.recipients

/-- Create a new Text or Voice channel. -/
def createServerChannel (target : String) (data : DataCreateServerChannel) (channelId : String) :
    Request ReferenceDb Unit := do
  ofExcept data.validate
  let server ← read fun db => db.fetchServer target
  let query ← requestServerPermissions ReferenceDb.driver user clock server
  ofExcept (query.1.throwIfLackingChannelPermission .manageChannel)
  let _ ← Channel.createServerChannel settings server channelId data true

/-- Creates a new server role. -/
def createRole (target : String) (data : DataCreateRole) (roleId : String) :
    Request ReferenceDb Unit := do
  ofExcept data.validate
  let server ← read fun db => db.fetchServer target
  let query ← requestServerPermissions ReferenceDb.driver user clock server
  ofExcept (query.1.throwIfLackingChannelPermission .manageRole)
  let max := settings.features.limits.global.serverRoles
  throwIf (server.roles.len ≥ max) (.tooManyRoles max)
  let _ ← Role.create ReferenceDb.driver server roleId data.name

/-- Adds another user to the group. -/
def addMember (groupId memberId : String) : Request ReferenceDb Unit := do
  throwIf (user.bot.isSome = true) .isBot
  let channel ← read fun db => ReferenceDb.get db.channels groupId
  let db ← get
  let query ← ofOption (calculateChannelPermissions.run
    ((DatabasePermissionQuery.new db.database user clock).withChannel channel))
  ofExcept (query.1.throwIfLackingChannelPermission .inviteOthers)
  match channel with
  | .group _ =>
    let member ← read fun db => ReferenceDb.get db.users memberId
    throwIf (user.relationshipWith member.id ∉ [.friend, .user]) .notFriends
    let _ ← channel.addUserToGroup settings member
  | _ => fail .invalidOperation

end Routes

/-- What is asked for, with the ids that are generated. -/
inductive LimitedAction where
  | createServer (data : DataCreateServer) (serverId channelId : String)
  | joinInvite (invite : Result Invite)
  | createServerChannel (target : String) (data : DataCreateServerChannel) (channelId : String)
  | createRole (target : String) (data : DataCreateRole) (roleId : String)
  | addMember (groupId memberId : String)

/-- A request of a user. -/
structure LimitedRequest where
  user : User
  clock : Stream' Timestamp
  action : LimitedAction

/-- The user who gets a server, the server that gets a channel, the server that gets a role and
the group that gets a recipient. -/
structure Touched where
  servers : Option String := none
  channels : Option String := none
  roles : Option String := none
  recipients : Option String := none

namespace LimitedRequest

/-- Serve a request. -/
def serve (settings : Settings) (r : LimitedRequest) : Request ReferenceDb Unit :=
  match r.action with
  | .createServer data serverId channelId =>
    DawnChat.createServer settings r.user r.clock data serverId channelId
  | .joinInvite invite => DawnChat.joinInvite settings r.user r.clock invite
  | .createServerChannel target data channelId =>
    DawnChat.createServerChannel settings r.user r.clock target data channelId
  | .createRole target data roleId => DawnChat.createRole settings r.user r.clock target data roleId
  | .addMember groupId memberId => DawnChat.addMember settings r.user r.clock groupId memberId

/-- What there can be one more of. -/
def touched (r : LimitedRequest) : Touched :=
  match r.action with
  | .createServer _ serverId _ => { servers := some r.user.id, channels := some serverId }
  | .joinInvite (.ok (.server _)) => { servers := some r.user.id }
  | .joinInvite (.ok (.group channel)) => { recipients := some channel }
  | .joinInvite (.error _) => {}
  | .createServerChannel target _ _ => { channels := some target }
  | .createRole target _ _ => { roles := some target }
  | .addMember groupId _ => { recipients := some groupId }

/-- The database after a request, whatever the request returned. -/
def after (settings : Settings) (db : ReferenceDb) (r : LimitedRequest) : ReferenceDb :=
  ((r.serve settings).exec db).2

end LimitedRequest

def stepLimited (settings : Settings) (db : ReferenceDb) (r : LimitedRequest) :
    Option ReferenceDb :=
  some (r.after settings db)

/-! ### The numbers that are limited -/

/-- What is counted: servers by user, channels and roles by server, recipients by group. -/
@[ext] structure Counts where
  servers : String → Nat
  channels : String → Nat
  roles : String → Nat
  recipients : String → Nat

/-- The number of recipients of a group. -/
def Channel.groupSize : Channel → Nat
  | group c => c.recipients.length
  | _ => 0

namespace ReferenceDb

def counts (db : ReferenceDb) : Counts where
  servers userId := db.fetchServerCount userId
  channels := db.servers.sizeAt (·.channels.length)
  roles := db.servers.sizeAt (·.roles.len)
  recipients := db.channels.sizeAt Channel.groupSize

/-- Servers and channels are stored under their ids. -/
structure IdsKeyed (db : ReferenceDb) : Prop where
  servers : db.servers.KeyedBy Server.id
  channels : db.channels.KeyedBy Channel.id

variable {db db' : ReferenceDb}

theorem counts_insertChannel {c : TextChannel}
    (h : insertChannel (.textChannel c) db = .ok db') : db'.counts = db.counts := by
  obtain ⟨hnew, rfl⟩ := ite_error_eq_ok.mp h
  have hsize : db.channels.sizeAt Channel.groupSize c.id = 0 := sizeAt_of_notMem _ hnew
  refine Counts.ext rfl rfl rfl ?_
  show sizeAt _ (db.channels.insert c.id (.textChannel c)) = _
  rw [sizeAt_insert]
  exact update_eq_self_iff.mpr hsize.symm

theorem counts_addUserToGroup {channelId userId : String}
    (h : addUserToGroup channelId userId db = .ok db') :
    db'.counts = { db.counts with
      recipients := update db.counts.recipients channelId
        (db.counts.recipients channelId + 1) } := by
  rw [addUserToGroup] at h
  split at h
  · next c hc =>
    obtain rfl := ok.inj h
    have hsize : db.counts.recipients channelId = c.recipients.length :=
      sizeAt_of_lookup _ hc
    refine Counts.ext rfl rfl rfl ?_
    show sizeAt _ (db.channels.modify channelId _) = _
    rw [sizeAt_modify _ hc, hsize]
    simp [counts, Channel.groupSize]
  · cases h

theorem counts_insertServer {server : Server} (h : insertServer server db = .ok db') :
    db'.counts = { db.counts with
      channels := update db.counts.channels server.id server.channels.length
      roles := update db.counts.roles server.id server.roles.len } := by
  obtain ⟨-, rfl⟩ := ite_error_eq_ok.mp h
  exact Counts.ext rfl (sizeAt_insert _ _ _ _) (sizeAt_insert _ _ _ _) rfl

theorem counts_insertOrMergeMember {member : Member}
    (h : insertOrMergeMember member db = .ok db') :
    db'.counts = { db.counts with
      servers := update db.counts.servers member.id.user
        (db.counts.servers member.id.user + 1) } := by
  obtain ⟨hnew, rfl⟩ := ite_error_eq_ok.mp h
  refine Counts.ext (funext fun userId => ?_) rfl rfl rfl
  show ((values (db.serverMembers.insert member.id member)).filter
    (·.id.user = userId)).length = _
  rw [values_insert_of_notMem hnew, filter_cons]
  by_cases huser : member.id.user = userId
  · subst huser
    simp [counts, fetchServerCount]
  · simp [counts, fetchServerCount, huser, update_of_ne (Ne.symm huser)]

/-- A write to the stored server changes its numbers and no others. -/
theorem counts_withServer {id : String} {f : Server → Result Server}
    (h : withServer id f db = .ok db') :
    ∃ server server', db.fetchServer id = .ok server ∧ f server = .ok server' ∧
      db' = { db with servers := db.servers.modify id fun _ => server' } ∧
      db'.counts = { db.counts with
        channels := update db.counts.channels id server'.channels.length
        roles := update db.counts.roles id server'.roles.len } := by
  rcases hserver : db.fetchServer id with e | server
  · rw [withServer, hserver] at h
    cases h
  rw [withServer_eq hserver] at h
  rcases hf : f server with e | server'
  · rw [hf] at h
    cases h
  rw [hf] at h
  obtain rfl := ok.inj h
  have hlookup := get_ok.mp hserver
  exact ⟨server, server', rfl, hf, rfl, Counts.ext rfl (sizeAt_modify _ hlookup)
    (sizeAt_modify _ hlookup) rfl⟩

end ReferenceDb

/-! ### What a request can do to them -/

/-- The limits as they are configured. -/
def Settings.caps (settings : Settings) : Counts where
  servers userId := (settings.limitsOf userId).servers
  channels _ := settings.features.limits.global.serverChannels
  roles _ := settings.features.limits.global.serverRoles
  recipients _ := settings.features.limits.global.groupSize

/-- No number is above its bound. -/
structure Counts.UpTo (top n : Counts) : Prop where
  servers : Within top.servers n.servers
  channels : Within top.channels n.channels
  roles : Within top.roles n.roles
  recipients : Within top.recipients n.recipients

/-- At most one more of everything that is touched.  Servers and channels have a bound that is
one above the limit. -/
structure Growth (settings : Settings) (n n' : Counts) (touched : Touched) : Prop where
  servers : StepsUp (settings.caps.servers · + 1) n.servers n'.servers touched.servers
  channels : StepsUp (settings.caps.channels · + 1) n.channels n'.channels touched.channels
  roles : StepsUp settings.caps.roles n.roles n'.roles touched.roles
  recipients : StepsUp settings.caps.recipients n.recipients n'.recipients touched.recipients

theorem Growth.refl {settings : Settings} {n : Counts} {touched : Touched} :
    Growth settings n n touched :=
  ⟨.refl _ _ _, .refl _ _ _, .refl _ _ _, .refl _ _ _⟩

/-- What a request does to the database. -/
structure CountsGrow (settings : Settings) (db : ReferenceDb) (touched : Touched)
    (db' : ReferenceDb) : Prop where
  keyed : db'.IdsKeyed
  growth : Growth settings db.counts db'.counts touched

section Requests

variable {settings : Settings} {db db' : ReferenceDb} {clock : Stream' Timestamp}
  {touched : Touched} {user server group : String}

theorem ReferenceDb.IdsKeyed.grows (h : db.IdsKeyed) : CountsGrow settings db touched db :=
  ⟨h, .refl⟩

variable {channel : Channel} {db₁ : ReferenceDb} {id : String} {s : Server}

theorem ReferenceDb.IdsKeyed.insertChannel (h : db.IdsKeyed)
    (hinsert : insertChannel channel db = .ok db') : db'.IdsKeyed := by
  obtain ⟨-, rfl⟩ := ite_error_eq_ok.mp hinsert
  exact ⟨h.servers, h.channels.insert channel⟩

instance (query : DatabasePermissionQuery) (channels : List Channel) :
    ReadOnly (visibleChannels query channels) := by
  induction channels with unfold visibleChannels
  | nil | cons => infer_instance

/-- The user has at most one membership more, and nothing else that counts has changed. -/
structure MemberAdded (userId : String) (db db' : ReferenceDb) : Prop where
  servers : db'.servers = db.servers
  channels : db'.channels = db.channels
  counts : db'.counts = db.counts ∨ db'.counts = { db.counts with
    servers := Function.update db.counts.servers userId (db.counts.servers userId + 1) }

theorem MemberAdded.refl (userId : String) (db : ReferenceDb) : MemberAdded userId db db :=
  ⟨rfl, rfl, .inl rfl⟩

theorem memberAdded_insertOrMergeMember {member : Member}
    (h : insertOrMergeMember member db = .ok db') :
    MemberAdded member.id.user db db' := by
  have hcounts := counts_insertOrMergeMember h
  obtain ⟨-, rfl⟩ := ite_error_eq_ok.mp h
  exact ⟨rfl, rfl, .inr hcounts⟩

theorem memberAdded_create (s : Server) (u : User) (channels : Option (List Channel)) :
    MemberAdded u.id db ((Member.create clock s u channels).exec db).2 := by
  refine store_of_get_bind ?_
  refine store_of_throwIf_bind (.refl _ _) fun _ => ?_
  refine store_of_throwIf_bind (.refl _ _) fun _ => ?_
  refine store_of_write_bind (.refl _ _) fun db₁ hinsert => ?_
  have hadded := memberAdded_insertOrMergeMember hinsert
  rcases channels with - | channels
  · refine store_of_get_bind ?_
    refine store_of_ofExcept_bind hadded fun _ _ => ?_
    exact ReadOnly.store_of_bind hadded fun _ _ => hadded
  · exact hadded

/-- Adding a member to a group that is stored. -/
theorem grows_addUserToGroup {u : User} (h : db.IdsKeyed)
    (hlookup : db.channels.lookup group = some channel) :
    CountsGrow settings db { recipients := some group }
      ((channel.addUserToGroup settings u).exec db).2 := by
  obtain rfl := h.channels hlookup
  cases channel with
  | group c =>
    refine store_of_throwIf_bind h.grows fun _ => ?_
    refine store_of_throwIf_bind h.grows fun hsize => ?_
    refine store_of_write_bind h.grows fun db₁ hadd => ?_
    have hlt := not_le.mp hsize
    have hcount : db.counts.recipients c.id = c.recipients.length :=
      sizeAt_of_lookup _ hlookup
    have hcounts := counts_addUserToGroup hadd
    constructor
    · rw [addUserToGroup] at hadd
      split at hadd
      · next c' hc' =>
        obtain rfl := ok.inj hadd
        refine ⟨h.servers, h.channels.modify fun v hv => ?_⟩
        obtain rfl := some.inj (hc'.symm.trans hv)
        rfl
      · cases hadd
    · show Growth settings db.counts db₁.counts { recipients := some c.id }
      rw [hcounts]
      exact ⟨.refl _ _ _, .refl _ _ _, .refl _ _ _, .update_succ rfl (by rwa [hcount])⟩
  | savedMessages c | directMessage c | textChannel c => exact h.grows

theorem CountsGrow.of_counts_eq
    (h : CountsGrow settings db₁ touched db') (hcounts : db₁.counts = db.counts) :
    CountsGrow settings db touched db' :=
  ⟨h.keyed, hcounts ▸ h.growth⟩

/-- A write to a stored server. -/
theorem CountsGrow.withServer {f : Server → Result Server} (h : db.IdsKeyed)
    (hwrite : withServer id f db = .ok db')
    (hf : ∀ stored changed, db.fetchServer id = .ok stored → f stored = .ok changed →
      changed.id = stored.id ∧
      StepsUp (settings.caps.channels · + 1) db.counts.channels
        (Function.update db.counts.channels id changed.channels.length) touched.channels ∧
      StepsUp settings.caps.roles db.counts.roles
        (Function.update db.counts.roles id changed.roles.len) touched.roles) :
    CountsGrow settings db touched db' := by
  obtain ⟨stored, changed, hfetch, hchanged, rfl, hcounts⟩ := counts_withServer hwrite
  obtain ⟨hid, hchannels, hroles⟩ := hf stored changed hfetch hchanged
  constructor
  · refine ⟨h.servers.modify fun v hv => ?_, h.channels⟩
    rw [hid, some.inj ((get_ok.mp hfetch).symm.trans hv)]
  · rw [hcounts]
    exact ⟨.refl _ _ _, hchannels, hroles, .refl _ _ _⟩

/-- Storing one more channel in a server whose number of channels is not above the limit. -/
theorem grows_pushChannel (h : db.IdsKeyed) (hfetch : db.fetchServer s.id = .ok s)
    (hle : s.channels.length ≤ settings.features.limits.global.serverChannels) :
    CountsGrow settings db { channels := some s.id }
      ((s.update driver { channels := some (s.channels ++ [id]) } []).exec db).2 := by
  have hchannels : db.counts.channels s.id = s.channels.length :=
    sizeAt_of_lookup _ (get_ok.mp hfetch)
  have hroles : db.counts.roles s.id = s.roles.len :=
    sizeAt_of_lookup _ (get_ok.mp hfetch)
  refine store_of_write_bind h.grows fun db' hwrite => ?_
  refine CountsGrow.withServer h hwrite fun stored changed hstored hchanged => ?_
  obtain rfl := ok.inj (hfetch.symm.trans hstored)
  obtain rfl := ok.inj hchanged
  refine ⟨rfl, .update_succ ?_ ?_, .update_same hroles.symm⟩
  · have hlength : (s.channels ++ [id]).length = s.channels.length + 1 := length_append
    exact hlength.trans (congrArg (· + 1) hchannels.symm)
  · exact hchannels.trans_lt (lt_succ_of_le hle)

/-- Creating a channel in a server that is stored. -/
theorem grows_createServerChannel {data : DataCreateServerChannel}
    (h : db.IdsKeyed) (hlookup : db.servers.lookup server = some s) :
    CountsGrow settings db { channels := some server }
      ((Channel.createServerChannel settings s id data true).exec db).2 := by
  obtain rfl := h.servers hlookup
  refine store_of_throwIf_bind h.grows fun hle => ?_
  refine store_of_write_bind h.grows fun db₁ hinsert => ?_
  have hcounts₁ := counts_insertChannel hinsert
  have hkeyed₁ := h.insertChannel hinsert
  have hfetch₁ : db₁.fetchServer s.id = .ok s := by
    obtain ⟨-, rfl⟩ := ite_error_eq_ok.mp hinsert
    exact get_ok.mpr hlookup
  rw [if_pos rfl, store_bind_pure]
  exact (grows_pushChannel hkeyed₁ hfetch₁ (not_lt.mp hle)).of_counts_eq hcounts₁

/-- The database after a server has been created, or after an attempt at it. -/
structure ServerAdded (settings : Settings) (db : ReferenceDb) (touched : Touched)
    (db' : ReferenceDb) : Prop extends CountsGrow settings db touched db' where
  sameServers : db'.counts.servers = db.counts.servers

/-- Storing a new server with at most one channel and no roles. -/
theorem serverAdded_insertServer (h : db.IdsKeyed)
    (hinsert : insertServer s db = .ok db') (hchannels : s.channels.length ≤ 1)
    (hroles : s.roles.len = 0) (htouched : touched.channels = some s.id) :
    ServerAdded settings db touched db' := by
  have hcounts := counts_insertServer hinsert
  obtain ⟨hnew, rfl⟩ := ite_error_eq_ok.mp hinsert
  have hchannels₀ : db.counts.channels s.id = 0 := sizeAt_of_notMem _ hnew
  have hroles₀ : db.counts.roles s.id = 0 := sizeAt_of_notMem _ hnew
  refine ⟨⟨⟨h.servers.insert s, h.channels⟩, ?_⟩, rfl⟩
  rw [hcounts]
  refine ⟨.refl _ _ _, ?_, .update_same (hroles.trans hroles₀.symm), .refl _ _ _⟩
  rcases le_one_iff_eq_zero_or_eq_one.mp hchannels with hzero | hone
  · exact .update_same (hzero.trans hchannels₀.symm)
  · rw [htouched]
    exact .update_succ (by rw [hone, hchannels₀]) (by rw [hchannels₀]; exact succ_pos _)

/-- Nothing that is counted has changed. -/
structure SameCounts (db db' : ReferenceDb) : Prop where
  keyed : db'.IdsKeyed
  counts : db'.counts = db.counts

theorem SameCounts.serverAdded (h : SameCounts db db') :
    ServerAdded settings db touched db' :=
  ⟨h.keyed.grows.of_counts_eq h.counts, congrArg Counts.servers h.counts⟩

/-- The channels that a server begins with are stored before the server is. -/
theorem sameCounts_defaultChannels (s : Server) (channelId : String) (h : db.IdsKeyed) :
    SameCounts db ((s.defaultChannels settings true channelId).exec db).2 := by
  have hsame : SameCounts db db := ⟨h, rfl⟩
  rw [Server.defaultChannels, if_pos rfl, store_bind_pure]
  refine store_of_throwIf_bind hsame fun _ => ?_
  refine store_of_write_bind hsame fun db₁ hinsert => ?_
  exact ⟨h.insertChannel hinsert, counts_insertChannel hinsert⟩

theorem length_defaultChannels {channelId : String} {channels : List Channel}
    (h : (s.defaultChannels settings true channelId).exec db = (.ok channels, db')) :
    channels.length = 1 := by
  rw [Server.defaultChannels, if_pos rfl] at h
  obtain ⟨channel, db₁, -, h⟩ := exec_bind_ok.mp h
  obtain ⟨rfl, -⟩ := exec_pure_ok.mp h
  rfl

/-- Creating a server adds nothing but a server with one channel. -/
theorem serverAdded_create {data : DataCreateServer} {owner : User} {channelId : String}
    (h : db.IdsKeyed) (htouched : touched.channels = some id) : ServerAdded settings db touched
      ((Server.create settings data owner true id channelId).exec db).2 := by
  have hdefault : SameCounts db
      (((data.server id owner.id).defaultChannels settings true channelId).exec db).2 :=
    sameCounts_defaultChannels _ channelId h
  refine store_of_bind (fun e db₁ hexec => ?_) (fun channels db₁ hexec => ?_)
  · rw [hexec] at hdefault
    exact hdefault.serverAdded
  · rw [hexec] at hdefault
    refine store_of_write_bind hdefault.serverAdded fun db₂ hinsert => ?_
    have hone : (channels.map (·.id)).length ≤ 1 := by
      rw [length_map, length_defaultChannels hexec]
    have hadded : ServerAdded settings db₁ touched db₂ :=
      serverAdded_insertServer hdefault.keyed hinsert hone rfl htouched
    exact ⟨hadded.toCountsGrow.of_counts_eq hdefault.counts,
      hadded.sameServers.trans (congrArg Counts.servers hdefault.counts)⟩

instance (u : User) : ReadOnly (u.canAcquireServer settings) := by
  unfold User.canAcquireServer
  infer_instance

/-- A user who is allowed to acquire a server is in no more servers than the limit. -/
theorem canAcquireServer_ok {u : User} {r : Unit}
    (h : (u.canAcquireServer settings).exec db = (.ok r, db')) :
    db.counts.servers u.id ≤ settings.caps.servers u.id ∧ db = db' := by
  rw [User.canAcquireServer, exec_read_bind, exec_throwIf_ok, not_not] at h
  exact h

/-- A new membership of a user who may acquire a server. -/
theorem ServerAdded.memberAdded (h : ServerAdded settings db touched db₁)
    (htouched : touched.servers = some user)
    (hle : db.counts.servers user ≤ settings.caps.servers user)
    (hadded : MemberAdded user db₁ db') : CountsGrow settings db touched db' := by
  constructor
  · exact ⟨hadded.servers ▸ h.keyed.servers, hadded.channels ▸ h.keyed.channels⟩
  · rcases hadded.counts with hcounts | hcounts
    · rw [hcounts]
      exact h.growth
    · rw [hcounts, h.sameServers]
      refine ⟨?_, h.growth.channels, h.growth.roles, h.growth.recipients⟩
      rw [htouched]
      exact .update_succ rfl (lt_succ_of_le hle)

/-- Creating a role in a server that is stored and has fewer roles than the limit. -/
theorem grows_roleCreate {roleId name : String} (h : db.IdsKeyed)
    (hlookup : db.servers.lookup server = some s)
    (hlt : s.roles.len < settings.features.limits.global.serverRoles) :
    CountsGrow settings db { roles := some server }
      ((Role.create driver s roleId name).exec db).2 := by
  obtain rfl := h.servers hlookup
  have hchannels : db.counts.channels s.id = s.channels.length := sizeAt_of_lookup _ hlookup
  have hroles : db.counts.roles s.id = s.roles.len := sizeAt_of_lookup _ hlookup
  refine store_of_write_bind h.grows fun db' hwrite => ?_
  refine CountsGrow.withServer h hwrite fun stored changed hstored hchanged => ?_
  obtain rfl := ok.inj ((get_ok.mpr hlookup).symm.trans hstored)
  obtain rfl := ok.inj hchanged
  refine ⟨rfl, .update_same hchannels.symm, ?_⟩
  -- a role id that is in use already would only replace that role
  by_cases hmem : roleId ∈ s.roles
  · refine .update_same ?_
    rw [len_insert, if_pos hmem, hroles]
  · refine .update_succ ?_ (hroles.trans_lt hlt)
    rw [len_insert, if_neg hmem, hroles]

end Requests

/-- What a request does to the numbers. -/
theorem LimitedRequest.grows (settings : Settings) {db : ReferenceDb} (h : db.IdsKeyed)
    (r : LimitedRequest) :
    CountsGrow settings db r.touched (r.after settings db) := by
  obtain ⟨user, clock, action⟩ := r
  cases action with
  | createServer data serverId channelId =>
    refine store_of_throwIf_bind h.grows fun _ => ?_
    refine store_of_throwIf_bind h.grows fun _ => ?_
    refine store_of_ofExcept_bind h.grows fun _ _ => ?_
    refine ReadOnly.store_of_bind h.grows fun _ hacquire => ?_
    have hle := (canAcquireServer_ok hacquire).1
    have hadded : ServerAdded settings db { servers := some user.id, channels := some serverId }
        ((Server.create settings data user true serverId channelId).exec db).2 :=
      serverAdded_create h rfl
    refine store_of_bind (fun e db₁ hexec => ?_) (fun created db₁ hexec => ?_)
    · rw [hexec] at hadded
      exact hadded.toCountsGrow
    · rw [hexec] at hadded
      rw [store_bind_pure]
      exact hadded.memberAdded rfl hle (memberAdded_create _ _ _)
  | joinInvite invite =>
    refine store_of_throwIf_bind h.grows fun _ => ?_
    refine ReadOnly.store_of_bind h.grows fun _ hacquire => ?_
    have hle := (canAcquireServer_ok hacquire).1
    refine store_of_ofExcept_bind h.grows fun invite hinvite => ?_
    subst hinvite
    cases invite with
    | server target =>
      refine store_of_read_bind h.grows fun s hfetch => ?_
      rw [store_bind_pure]
      have hsame : SameCounts db db := ⟨h, rfl⟩
      exact hsame.serverAdded.memberAdded rfl hle (memberAdded_create _ _ _)
    | group target =>
      refine store_of_read_bind h.grows fun channel hfetch => ?_
      have hgrows : CountsGrow settings db { recipients := some target }
          ((channel.addUserToGroup settings user).exec db).2 :=
        grows_addUserToGroup h (get_ok.mp hfetch)
      refine store_of_bind (fun e db₁ hexec => ?_) (fun joined db₁ hexec => ?_)
      · rw [hexec] at hgrows
        exact hgrows
      · rw [hexec] at hgrows
        exact store_of_read_bind hgrows fun _ _ => hgrows
  | createServerChannel target data channelId =>
    refine store_of_ofExcept_bind h.grows fun _ _ => ?_
    refine store_of_read_bind h.grows fun s hfetch => ?_
    refine ReadOnly.store_of_bind h.grows fun _ _ => ?_
    refine store_of_ofExcept_bind h.grows fun _ _ => ?_
    rw [store_bind_pure]
    exact grows_createServerChannel h (get_ok.mp hfetch)
  | createRole target data roleId =>
    refine store_of_ofExcept_bind h.grows fun _ _ => ?_
    refine store_of_read_bind h.grows fun s hfetch => ?_
    refine ReadOnly.store_of_bind h.grows fun _ _ => ?_
    refine store_of_ofExcept_bind h.grows fun _ _ => ?_
    refine store_of_throwIf_bind h.grows fun hlt => ?_
    rw [store_bind_pure]
    exact grows_roleCreate h (get_ok.mp hfetch) (not_le.mp hlt)
  | addMember groupId memberId =>
    refine store_of_throwIf_bind h.grows fun _ => ?_
    refine store_of_read_bind h.grows fun channel hfetch => ?_
    refine store_of_get_bind ?_
    refine store_of_ofOption_bind h.grows fun _ _ => ?_
    refine store_of_ofExcept_bind h.grows fun _ _ => ?_
    cases channel with
    | group c =>
      refine store_of_read_bind h.grows fun member _ => ?_
      refine store_of_throwIf_bind h.grows fun _ => ?_
      rw [store_bind_pure]
      exact grows_addUserToGroup h (get_ok.mp hfetch)
    | savedMessages c | directMessage c | textChannel c => exact h.grows

/-! ### The limits along a run -/

/-- Servers and channels go beyond their limits by at most one, roles and group members
not at all. -/
structure Counts.WithinBounds (settings : Settings) (n : Counts) : Prop where
  servers : Within (settings.caps.servers · + 1) n.servers
  channels : Within (settings.caps.channels · + 1) n.channels
  roles : Within settings.caps.roles n.roles
  recipients : Within settings.caps.recipients n.recipients

/-- **The limits are passed by one at most**, however many requests there are. -/
theorem always_withinBounds (settings : Settings) {db₀ : ReferenceDb} (h₀ : db₀.IdsKeyed)
    (hbounds₀ : db₀.counts.WithinBounds settings) (requests : List LimitedRequest) :
    Always (stepLimited settings) (fun db => db.counts.WithinBounds settings) db₀ requests := by
  have hboth : Always (stepLimited settings)
      (fun db => db.IdsKeyed ∧ db.counts.WithinBounds settings) db₀ requests := by
    refine always_of_step ?_ ⟨h₀, hbounds₀⟩ requests
    rintro db r db' ⟨h, hn⟩ hstep
    obtain rfl := some.inj hstep
    obtain ⟨hkeyed, hgrowth⟩ := r.grows settings h
    exact ⟨hkeyed, hgrowth.servers.within (fun _ => le_rfl) hn.servers,
      hgrowth.channels.within (fun _ => le_rfl) hn.channels,
      hgrowth.roles.within (fun _ => le_rfl) hn.roles,
      hgrowth.recipients.within (fun _ => le_rfl) hn.recipients⟩
  exact hboth.imp fun _ h => h.2

/-- A server is asked for by a user who is in exactly as many servers as the limit says, or a
channel for a server that has exactly as many. -/
def LimitedRequest.AtLimit (settings : Settings) (db : ReferenceDb) (r : LimitedRequest) : Prop :=
  (∃ user ∈ r.touched.servers, db.counts.servers user = settings.caps.servers user) ∨
    ∃ server ∈ r.touched.channels, db.counts.channels server = settings.caps.channels server

instance (settings : Settings) (db : ReferenceDb) (r : LimitedRequest) :
    Decidable (r.AtLimit settings db) :=
  inferInstanceAs (Decidable (_ ∨ _))

/-- A request that is not exactly at a limit keeps all bounds from the limits on. -/
theorem Growth.upTo {settings : Settings} {top : Counts} {db db' : ReferenceDb}
    {r : LimitedRequest} (h : Growth settings db.counts db'.counts r.touched)
    (hfree : ¬ r.AtLimit settings db) (htop : top.UpTo settings.caps)
    (hn : top.UpTo db.counts) : top.UpTo db'.counts := by
  have hservers := h.servers.tighten fun user huser hfull => hfree (.inl ⟨user, huser, hfull⟩)
  have hchannels := h.channels.tighten fun server hserver hfull =>
    hfree (.inr ⟨server, hserver, hfull⟩)
  exact ⟨hservers.within htop.servers hn.servers, hchannels.within htop.channels hn.channels,
    h.roles.within htop.roles hn.roles, h.recipients.within htop.recipients hn.recipients⟩

/-- **Limits.**  A sequence of requests in which nobody asks for a server, or for a channel, that
is exactly at its limit keeps all four limits if they are kept at the start.  More generally it
keeps all bounds that are not below the limits: what is above its limit does not grow further. -/
theorem caps_of_notFull (settings : Settings) {db₀ : ReferenceDb} (h₀ : db₀.IdsKeyed)
    {top : Counts} (htop : top.UpTo settings.caps) (hstart : top.UpTo db₀.counts)
    {requests : List LimitedRequest}
    (hfree : EachStep (stepLimited settings) (fun db r => ¬ r.AtLimit settings db) db₀ requests) :
    Always (stepLimited settings) (fun db => top.UpTo db.counts) db₀ requests := by
  have hboth : Always (stepLimited settings)
      (fun db => db.IdsKeyed ∧ top.UpTo db.counts) db₀ requests := by
    refine always_of_eachStep ?_ ⟨h₀, hstart⟩ hfree
    rintro db r db' ⟨h, hn⟩ hnotFull hstep
    obtain rfl := some.inj hstep
    obtain ⟨hkeyed, hgrowth⟩ := r.grows settings h
    exact ⟨hkeyed, hgrowth.upTo hnotFull htop hn⟩
  exact hboth.imp fun _ h => h.2

/-- Limits of `n` servers for a user, and of `n` channels, roles and group members. -/
def uniformLimits (n : Nat) : Settings where
  features.limits :=
    { global := { groupSize := n, serverRoles := n, serverChannels := n }
      newUser := { servers := n }
      default := { servers := n } }

theorem Counts.upTo_empty (top : Counts) : top.UpTo ({} : ReferenceDb).counts :=
  ⟨fun _ => zero_le _, fun _ => zero_le _, fun _ => zero_le _, fun _ => zero_le _⟩

theorem idsKeyed_empty : ({} : ReferenceDb).IdsKeyed :=
  ⟨keyedBy_empty, keyedBy_empty⟩

/-- A request of the user `u`. -/
def byU (action : LimitedAction) : LimitedRequest where
  user := { id := "u" }
  clock := fun _ => 0
  action := action

/-- A user creates a server, and a channel and a role in it. -/
def setUpServer : List LimitedRequest :=
  [byU (.createServer { name := "home" } "s" "general"),
    byU (.createServerChannel "s" { name := "second" } "second"),
    byU (.createRole "s" { name := "role" } "r")]

theorem always_withinBounds_setUpServer :
    Always (stepLimited (uniformLimits 1)) (·.counts.WithinBounds (uniformLimits 1)) {}
      setUpServer :=
  always_withinBounds _ idsKeyed_empty
    ⟨fun _ => zero_le _, fun _ => zero_le _, fun _ => zero_le _, fun _ => zero_le _⟩ _

/-- With limits of two, nothing goes beyond its limit. -/
theorem caps_of_notFull_setUpServer :
    Always (stepLimited (uniformLimits 2))
      (fun db => (uniformLimits 2).caps.UpTo db.counts) {} setUpServer :=
  caps_of_notFull (uniformLimits 2) idsKeyed_empty
    ⟨fun _ => le_rfl, fun _ => le_rfl, fun _ => le_rfl, fun _ => le_rfl⟩ (Counts.upTo_empty _)
    (by decide +kernel)

/-- With limits of one, a user gets a second server, and a server a second channel. -/
theorem caps_fail :
    (uniformLimits 1).caps.UpTo ({} : ReferenceDb).counts ∧
    (∃ db, run (stepLimited (uniformLimits 1)) {}
        [byU (.createServer { name := "home" } "s" "general"),
          byU (.createServer { name := "other" } "t" "other")] = some db ∧
      db.counts.servers "u" = 2 ∧ ¬ (uniformLimits 1).caps.UpTo db.counts) ∧
    ∃ db, run (stepLimited (uniformLimits 1)) {} setUpServer = some db ∧
      db.counts.channels "s" = 2 ∧ ¬ (uniformLimits 1).caps.UpTo db.counts := by
  refine ⟨Counts.upTo_empty _, ?_, ?_⟩
  · refine exists_run_of (fun db => db.counts.servers "u" = 2) (by decide +kernel)
      fun db _ hcount => ⟨hcount, fun h => ?_⟩
    exact absurd (hcount ▸ h.servers "u") (by decide)
  · refine exists_run_of (fun db => db.counts.channels "s" = 2) (by decide +kernel)
      fun db _ hcount => ⟨hcount, fun h => ?_⟩
    exact absurd (hcount ▸ h.channels "s") (by decide)

end DawnChat
