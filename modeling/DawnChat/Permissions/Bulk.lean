/-
DawnChat/Permissions/Bulk.lean

Permissions of many members at once
(`core/database/src/util/bulk_permissions.rs`).

The bulk calculator repeats the rules of the single one in code of its own, and
not all of them: it knows no voice flags, restricts timed out members only once
and does not gate on `ViewChannel`.  It is used to find out who can see a
channel, and on that question the two agree
(`membersCanSeeChannel_eq_calculateChannelPermissions`).

The records come as two lists, users and members, joined by user id.  Where a
list names an id twice the last record counts, on both sides of the join
(`recordOf`).  Every `expect` of the source is a panic, `none` here.
-/
import DawnChat.Permissions.Bits

namespace DawnChat

open RustStd LastWrite DatabasePermissionQuery PermissionValue List Option

structure BulkDatabasePermissionQuery where
  database : Database
  server : Server
  channel : Option Channel := none
  users : Option (List User) := none
  members : Option (List Member) := none
  /-- In case the users are fetched as part of the operation. -/
  cachedUsers : Option (List User) := none
  /-- In case the members are fetched as part of the operation. -/
  cachedMembers : Option (List Member) := none
  cachedMemberPerms : Option (HashMap String PermissionValue) := none

namespace BulkDatabasePermissionQuery

def new (database : Database) (server : Server) : BulkDatabasePermissionQuery where
  database := database
  server := server

def withChannel (q : BulkDatabasePermissionQuery) (channel : Channel) :
    BulkDatabasePermissionQuery :=
  { q with channel := some channel }

def withMembers (q : BulkDatabasePermissionQuery) (members : List Member) :
    BulkDatabasePermissionQuery :=
  { q with
    members := some members
    cachedMemberPerms := none
    users := none
    cachedMembers := none
    cachedUsers := none }

def withUsers (q : BulkDatabasePermissionQuery) (users : List User) :
    BulkDatabasePermissionQuery :=
  { q with
    users := some users
    cachedMemberPerms := none
    members := none
    cachedMembers := none
    cachedUsers := none }

/-- Fetch the users of the given members, unless the users are given. -/
def loadUsers (q : BulkDatabasePermissionQuery) : Option BulkDatabasePermissionQuery :=
  match q.users with
  | some _ => some q
  | none => do
      let members ← q.members
      let users ← (q.database.fetchUsers (members.map (·.id.user))).toOption
      some { q with cachedUsers := some users, users := some users }

/-- Fetch the members of the given users, unless the members are given. -/
def loadMembers (q : BulkDatabasePermissionQuery) : Option BulkDatabasePermissionQuery :=
  match q.members with
  | some _ => some q
  | none => do
      let users ← q.users
      let members ← (q.database.fetchMembers q.server.id (users.map (·.id))).toOption
      some { q with cachedMembers := some members, members := some members }

end BulkDatabasePermissionQuery

namespace Bulk

/-- Calculates a member's server permissions. -/
def calculateServerPermissions (server : Server) (user : User) (member : Member)
    (now : Timestamp) : PermissionValue :=
  if user.privileged || server.owner = user.id then ChannelPermission.grantAllSafe.value
  else
    let permissions := (serverRoleOverrides server member.roles).foldl PermissionValue.apply
      server.defaultPermissions
    if member.inTimeout now then permissions.restrict allowInTimeout else permissions

/-- What the loop over the users enters for one of them. -/
def calculateMemberPermissions (server : Server) (c : TextChannel)
    (members : HashMap String Member) (user : User) (now : Timestamp) : PermissionValue :=
  match members.lookup user.id with
  -- the user isn't a part of the server
  | none => 0
  | some member =>
    if user.privileged then ChannelPermission.grantAllSafe.value
    else if user.id = server.owner then ChannelPermission.grantAllSafe.value
    else
      let permission := calculateServerPermissions server user member now
      let permission := match c.defaultPermissions with
        | some defaults => permission.apply defaults.toOverride
        | none => permission
      (channelRoleOverrides server c.rolePermissions member.roles).foldl
        PermissionValue.apply permission

/-- One round of the loop; each round reads the clock. -/
def step (server : Server) (c : TextChannel) (members : HashMap String Member)
    (s : HashMap String PermissionValue × Stream' Timestamp) (user : User) :
    HashMap String PermissionValue × Stream' Timestamp :=
  (s.1.insert user.id (calculateMemberPermissions server c members user s.2.head), s.2.tail)

end Bulk

namespace BulkDatabasePermissionQuery

/-- Calculate members permissions in a server channel. -/
def calculateMembersPermissions (q : BulkDatabasePermissionQuery) (clock : Stream' Timestamp) :
    Option (HashMap String PermissionValue × BulkDatabasePermissionQuery) :=
  match q.channel with
  | some (.textChannel c) => do
      let q ← q.loadUsers
      let q ← q.loadMembers
      let users ← q.users
      let members ← q.members
      let members := HashMap.collect (members.map fun m => (m.id.user, m))
      some ((users.foldl (Bulk.step q.server c members) (∅, clock)).1, q)
  | _ => none

/-- Who can see the channel. -/
def membersCanSeeChannel (q : BulkDatabasePermissionQuery) (clock : Stream' Timestamp) :
    Option (HashMap String Bool × BulkDatabasePermissionQuery) := do
  let (perms, q) ← match q.cachedMemberPerms with
    | some perms => some (perms, q)
    | none => q.calculateMembersPermissions clock
  some (perms.mapValues fun _ p => p.hasChannelPermission .viewChannel, q)

end BulkDatabasePermissionQuery

/-! ### Visibility of one user -/

namespace Bulk

variable (server : Server) (c : TextChannel) (members : HashMap String Member)

/-- Whether the bulk calculation lets a user see the channel. -/
def sees (user : User) : Bool :=
  match members.lookup user.id with
  | none => false
  | some m => user.privileged || decide (server.owner = user.id) || viewGranted server c m.roles

theorem getLsbD_calculateServerPermissions {user : User} {m : Member}
    (hp : user.privileged = false) (ho : server.owner ≠ user.id) (now : Timestamp) :
    (calculateServerPermissions server user m now).getLsbD viewBit
      = applyWrites (server.defaultPermissions.getLsbD viewBit)
          ((serverRoleOverrides server m.roles).map (·.mention viewBit)) := by
  have hrestrict : restrictMention allowInTimeout viewBit = none := by decide
  rw [← getLsbD_foldl_apply]
  rcases ht : m.inTimeout now with - | - <;>
    simp [calculateServerPermissions, hp, ho, ht, getLsbD_restrict, hrestrict]

/-- Skipping a missing default override is the same as applying an empty one. -/
theorem apply_defaults (p : PermissionValue) :
    (match c.defaultPermissions with
      | some defaults => p.apply defaults.toOverride
      | none => p) = p.apply (c.defaultPermissions.getD {}).toOverride := by
  rcases c.defaultPermissions with - | o
  · exact (apply_default p).symm
  · rfl

/-- The bulk rules leave `ViewChannel` to the overrides as well. -/
theorem hasViewChannel_calculateMemberPermissions (user : User) (now : Timestamp) :
    (calculateMemberPermissions server c members user now).hasChannelPermission .viewChannel
      = sees server c members user := by
  rw [calculateMemberPermissions, sees]
  rcases members.lookup user.id with - | m
  · show hasChannelPermission 0 .viewChannel = false
    decide
  · dsimp only
    rcases hp : user.privileged with - | -
    · by_cases ho : server.owner = user.id
      · rw [if_neg Bool.false_ne_true, if_pos ho.symm, hasViewChannel_grantAllSafe,
          decide_eq_true ho]
        rfl
      · rw [if_neg Bool.false_ne_true, if_neg (Ne.symm ho), apply_defaults,
          hasChannelPermission_viewChannel, getLsbD_foldl_apply, getLsbD_apply,
          getLsbD_calculateServerPermissions server hp ho, decide_eq_false ho, viewGranted,
          map_append, applyWrites_append, channelOverrides, map_cons, applyWrites_cons]
        rfl
    · rw [if_pos rfl, hasViewChannel_grantAllSafe]
      rfl

/-- After the loop each listed user has the entry of its last record, as calculated in some
round. -/
theorem exists_lookup_foldl_step (users : List User) (s : HashMap String PermissionValue ×
    Stream' Timestamp) (id : String) :
    ∃ n, (users.foldl (step server c members) s).1.lookup id
      = ((recordOf (·.id) users id).map fun user =>
          calculateMemberPermissions server c members user (s.2.get n)).or (s.1.lookup id) := by
  induction users generalizing s with
  | nil => exact ⟨0, rfl⟩
  | cons user users ih =>
    obtain ⟨n, hn⟩ := ih (step server c members s user)
    rw [foldl_cons, hn, recordOf_cons]
    rcases recordOf (fun user : User => user.id) users id with - | later
    · -- this round's entry is the last one for its user
      refine ⟨0, ?_⟩
      by_cases hid : user.id = id
      · subst hid
        rw [if_pos rfl, step, AList.lookup_insert]
        rfl
      · rw [if_neg hid, step, AList.lookup_insert_ne (Ne.symm hid)]
        rfl
    · exact ⟨n + 1, rfl⟩

theorem lookup_foldl_step (users : List User) (s : HashMap String PermissionValue ×
    Stream' Timestamp) (id : String) :
    ((users.foldl (step server c members) s).1.lookup id).map
        (·.hasChannelPermission .viewChannel)
      = ((recordOf (·.id) users id).map (sees server c members)).or
          ((s.1.lookup id).map (·.hasChannelPermission .viewChannel)) := by
  obtain ⟨n, hn⟩ := exists_lookup_foldl_step server c members users s id
  rw [hn]
  rcases recordOf (fun user : User => user.id) users id with - | user
  · rfl
  · exact congrArg some (hasViewChannel_calculateMemberPermissions server c members user _)

end Bulk

/-! ### Agreement with the single calculator -/

/-- The two lists of records a query works on, for either way of building it:
members are given and their users fetched, or the other way round. -/
inductive BulkRecords (db : Database) (server : Server) (channel : Channel) :
    BulkDatabasePermissionQuery → List User → List Member → Prop
  | members {users : List User} {members : List Member}
      (h : db.fetchUsers (members.map (·.id.user)) = .ok users) :
      BulkRecords db server channel
        (((BulkDatabasePermissionQuery.new db server).withChannel channel).withMembers members)
        users members
  | users {users : List User} {members : List Member}
      (h : db.fetchMembers server.id (users.map (·.id)) = .ok members) :
      BulkRecords db server channel
        (((BulkDatabasePermissionQuery.new db server).withChannel channel).withUsers users)
        users members

variable {db : Database} {q : BulkDatabasePermissionQuery} {users : List User} {server : Server}
  {members : List Member} {c : TextChannel}

open BulkDatabasePermissionQuery

attribute [local simp] BulkDatabasePermissionQuery.loadUsers
  BulkDatabasePermissionQuery.loadMembers BulkDatabasePermissionQuery.withChannel
  BulkDatabasePermissionQuery.new Except.toOption in
/-- Loading completes with the two lists in place. -/
theorem BulkRecords.load {channel : Channel} (h : BulkRecords db server channel q users members) :
    ∃ q', (q.loadUsers.bind loadMembers) = some q' ∧
      q'.server = server ∧ q'.users = some users ∧ q'.members = some members := by
  cases h with
  | members h =>
    let q' := ((new db server).withChannel channel).withMembers
      members
    refine ⟨{ q' with cachedUsers := some users, users := some users }, ?_, rfl, rfl, rfl⟩
    simp [withMembers, h, q']
  | users h =>
    let q' := ((new db server).withChannel channel).withUsers users
    refine ⟨{ q' with cachedMembers := some members, members := some members }, ?_,
      rfl, rfl, rfl⟩
    simp [withUsers, h, q']

/-- The calculation is the loop over the records. -/
theorem BulkRecords.run_calculateMembersPermissions
    (h : BulkRecords db server (.textChannel c) q users members) (clock : Stream' Timestamp) :
    ∃ q', q.calculateMembersPermissions clock = some
      ((users.foldl (Bulk.step server c (HashMap.collect (members.map fun m => (m.id.user, m))))
        (∅, clock)).1, q') := by
  obtain ⟨q', hload, hserver, husers, hmembers⟩ := h.load
  obtain ⟨q₁, hq₁, hq'⟩ := bind_eq_some_iff.mp hload
  have hchannel : q.channel = some (.textChannel c) := by cases h <;> rfl
  refine ⟨q', ?_⟩
  simp [calculateMembersPermissions, hchannel, hq₁, hq', husers, hmembers, hserver]

/-- What the bulk query answers, user by user. -/
theorem membersCanSeeChannel_lookup
    (h : BulkRecords db server (.textChannel c) q users members) (clock : Stream' Timestamp) :
    ∃ result q', q.membersCanSeeChannel clock = some (result, q') ∧
      ∀ id, result.lookup id = (recordOf (·.id) users id).map
        (Bulk.sees server c (HashMap.collect (members.map fun m => (m.id.user, m)))) := by
  obtain ⟨q', hrun⟩ := h.run_calculateMembersPermissions clock
  have hcached : q.cachedMemberPerms = none := by cases h <;> rfl
  refine ⟨_, q', by rw [membersCanSeeChannel, hcached, hrun]; rfl, ?_⟩
  intro id
  rw [HashMap.lookup_mapValues, Bulk.lookup_foldl_step]
  exact or_none

/-- Visibility does not depend on the order of enumeration. -/
theorem Reordered.viewGranted_eq {server' : Server} {c' : TextChannel}
    {m m' : Member} (h : Reordered server server' c c' m m') (hranks : server.DistinctRanks) :
    viewGranted server' c' m'.roles = viewGranted server c m.roles := by
  rw [← getLsbD_viewChannel server' c' m' 0 0, ← getLsbD_viewChannel server c m 0 0,
    h.ungatedPermissions_eq hranks]

/-- **The two calculators agree on who can see a channel.**  For a user listed
together with a member record, the bulk answer is the `ViewChannel` flag of
the single calculation for that user and member, whatever the clocks read and
in whatever order the two iterate over roles and overrides. -/
theorem membersCanSeeChannel_eq_calculateChannelPermissions {db : Database} {server : Server}
    (hranks : server.DistinctRanks) {c : TextChannel} (hof : c.server = server.id)
    {q : BulkDatabasePermissionQuery} {users : List User} {members : List Member}
    (h : BulkRecords db server (.textChannel c) q users members)
    {id : String} {user : User} (huser : recordOf (·.id) users id = some user)
    {m : Member} (hm : recordOf (·.id.user) members id = some m)
    {server' : Server} {c' : TextChannel} {m' : Member}
    (hre : Reordered server server' c c' m m') (clock clock' : Stream' Timestamp) :
    ∃ result q', q.membersCanSeeChannel clock = some (result, q') ∧
      ∃ v q₁, calculateChannelPermissions.run
          ((((DatabasePermissionQuery.new db user clock').withChannel
            (.textChannel c')).withServer server').withMember m') = some (v, q₁) ∧
        result.lookup id = some (PermissionValue.hasChannelPermission v .viewChannel) := by
  obtain ⟨result, q', hresult, hlookup⟩ := membersCanSeeChannel_lookup h clock
  have hserver' : ((((new db user clock').withChannel
      (.textChannel c')).withServer server').withMember m').channelServer c' = some server' := by
    have hid : server'.id = c'.server := by
      rw [hre.server, hre.channel]
      exact hof.symm
    exact if_pos (by simpa [withServer, withMember] using hid)
  obtain ⟨v, q₁, hrun, hv⟩ := run_calculateChannelPermissions_viewChannel
    (q := (((new db user clock').withChannel
      (.textChannel c')).withServer server').withMember m') rfl
  refine ⟨result, q', hresult, v, q₁, hrun, ?_⟩
  have hid : user.id = id := by
    have hmem := mem_of_getLast? huser
    simpa using (mem_filter.mp hmem).2
  have howner : server'.owner = server.owner := by rw [hre.server]
  have hsees : seesChannel ((((new db user
      clock').withChannel (.textChannel c')).withServer server').withMember m') c'
      = (user.privileged || (decide (server'.owner = user.id)
        || viewGranted server' c' m'.roles)) := by
    rw [seesChannel, hserver']
    rfl
  rw [hlookup, huser, map_some, hv, hsees, hre.viewGranted_eq hranks, howner, Bulk.sees,
    lookup_collect_eq_recordOf, hid, hm]
  rw [← hid, ← Bool.or_assoc]

/-- A database that knows the muted member's user. -/
def mutedDb : ReferenceDb where
  users := HashMap.collect [("user", { id := "user" })]

theorem membersCanSeeChannel_muted :
    ∃ result q', ((((BulkDatabasePermissionQuery.new mutedDb.database mutedServer).withChannel
        (.textChannel mutedChannel)).withMembers [mutedMember]).membersCanSeeChannel
          (Stream'.const 0)) = some (result, q') ∧
      ∃ v q₁, calculateChannelPermissions.run
          ((((DatabasePermissionQuery.new mutedDb.database { id := "user" }
            (Stream'.const 7)).withChannel (.textChannel mutedChannel)).withServer
              mutedServer).withMember mutedMember) = some (v, q₁) ∧
        result.lookup "user" = some (hasChannelPermission v .viewChannel) :=
  membersCanSeeChannel_eq_calculateChannelPermissions (by decide) rfl
    (.members rfl) rfl rfl
    ⟨.rfl, rfl, .rfl, rfl, fun _ => .rfl, rfl⟩ _ _

end DawnChat
