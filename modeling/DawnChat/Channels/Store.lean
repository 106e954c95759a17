/-
DawnChat/Channels/Store.lean

Group and direct message channels in the two drivers
(`core/database/src/models/channels/ops`).

Three calls are compared: removing a user from a group, finding the direct
message channel of two users, and storing the override of a role.
`ChannelOps.Meets` says what they are for.  The MongoDB driver meets it on every
store.  The in-memory driver differs in each of the three:

* `remove_user_from_group` removes the user from a copy of the recipients;
* `find_direct_message_channel` asks `contains_user`, which is only ever true of
  groups;
* `set_channel_role_permission` refuses a role that has no override yet.

`channelOps_meets_iff` says on which stores the calls still meet their purpose.
-/
import DawnChat.Users.Friends

namespace DawnChat

open RustStd Fallible HashMap ReferenceDb AList

namespace Channel

/-- Replace the recipients; other channels have none. -/
def withRecipients (channel : Channel) (recipients : List String) : Channel :=
  match channel with
  | directMessage c => directMessage { c with recipients := recipients }
  | group c => group { c with recipients := recipients }
  | channel => channel

/-- Get list of recipients. -/
def users : Channel → Result (List String)
  | group c => .ok c.recipients
  | _ => .error .notFound

/-- The recipients without one user. -/
def withoutRecipient (channel : Channel) (user : String) : Channel :=
  channel.withRecipients (channel.recipients.filter (· ≠ user))

theorem notMem_recipients_withoutRecipient (channel : Channel) (user : String) :
    user ∉ (channel.withoutRecipient user).recipients := by
  cases channel <;> simp [withoutRecipient, withRecipients, recipients]

theorem containsUser_eq_true {channel : Channel} {user : String} :
    channel.containsUser user = true ↔ ∃ g, channel = group g ∧ user ∈ g.recipients := by
  cases channel <;> simp [containsUser]

end Channel

/-! ### The two drivers -/

namespace ReferenceDb

/-- Remove a user from a group.  `users` returns a copy, and it is the copy that
the user is removed from. -/
def removeUserFromGroup (channel user : String) (db : ReferenceDb) : Result ReferenceDb :=
  match db.channels.lookup channel with
  | some channelData => do
      let users ← channelData.users
      if users.contains user then return db else .error .notFound
  | none => .error .notFound

/-- Fetch direct message channel (DM or Saved Messages). -/
def findDirectMessageChannel (userA userB : String) (db : ReferenceDb) : Result Channel :=
  findOne db.channels.values fun data => data.containsUser userA && data.containsUser userB

end ReferenceDb

namespace MongoDb

/-- Insert a new channel in the database. -/
def insertChannel (channel : Channel) (db : ReferenceDb) : Result ReferenceDb :=
  if channel.id ∈ db.channels then .error (.databaseError "insert_one" "channels")
  else .ok { db with channels := db.channels.insert channel.id channel }

/-- Remove a user from a group: `$pull` from the recipients. -/
def removeUserFromGroup (channel user : String) (db : ReferenceDb) : Result ReferenceDb :=
  .ok { db with channels := db.channels.modify channel (·.withoutRecipient user) }

/-- The filter for the channel of two users. -/
def directMessageFilter (userA userB : String) : Channel → Bool
  | .savedMessages c => userA = userB && c.user = userA
  | .directMessage c => userA ≠ userB && c.recipients.contains userA && c.recipients.contains userB
  | _ => false

/-- Fetch direct message channel (DM or Saved Messages). -/
def findDirectMessageChannel (userA userB : String) (db : ReferenceDb) : Result Channel :=
  ReferenceDb.findOne db.channels.values (directMessageFilter userA userB)

/-- Insert channel role permissions: `$set` at `role_permissions.<role>`. -/
def setChannelRolePermission (channel role : String) (permissions : OverrideField)
    (db : ReferenceDb) : Result ReferenceDb :=
  .ok { db with
    channels := db.channels.modify channel fun
      | .textChannel c =>
        .textChannel { c with rolePermissions := c.rolePermissions.insert role permissions }
      | data => data }

end MongoDb

/-- The three calls of a driver. -/
structure ChannelOps where
  removeUserFromGroup : String → String → ReferenceDb → Result ReferenceDb
  findDirectMessageChannel : String → String → ReferenceDb → Result Channel
  setChannelRolePermission : String → String → OverrideField → ReferenceDb → Result ReferenceDb

def ReferenceDb.channelOps : ChannelOps where
  removeUserFromGroup := ReferenceDb.removeUserFromGroup
  findDirectMessageChannel := ReferenceDb.findDirectMessageChannel
  setChannelRolePermission := ReferenceDb.setChannelRolePermission

def MongoDb.channelOps : ChannelOps where
  removeUserFromGroup := MongoDb.removeUserFromGroup
  findDirectMessageChannel := MongoDb.findDirectMessageChannel
  setChannelRolePermission := MongoDb.setChannelRolePermission

/-! ### What the calls are for -/

/-- The user is no longer a recipient of the channel, and nothing else changed. -/
structure RecipientRemoved (channel user : String) (db db' : ReferenceDb) : Prop where
  gone : ∀ data, db'.channels.lookup channel = some data → user ∉ data.recipients
  kept : db'.channels.lookup channel
    = (db.channels.lookup channel).map fun data => data.withoutRecipient user
  others : ∀ id ≠ channel, db'.channels.lookup id = db.channels.lookup id
  rest : { db' with channels := db.channels } = db

/-- The override of the role is stored, and nothing else changed. -/
structure OverrideStored (channel role : String) (permissions : OverrideField)
    (db db' : ReferenceDb) (c : TextChannel) : Prop where
  stored : ∃ c' : TextChannel, db'.channels.lookup channel = some (.textChannel c') ∧
    c'.rolePermissions.lookup role = some permissions ∧
    (∀ id ≠ role, c'.rolePermissions.lookup id = c.rolePermissions.lookup id) ∧
    { c' with rolePermissions := c.rolePermissions } = c
  others : ∀ id ≠ channel, db'.channels.lookup id = db.channels.lookup id
  rest : { db' with channels := db.channels } = db

/-- A stored direct message channel of the two users. -/
def SharedDirectMessage (userA userB : String) (db : ReferenceDb) (c : DirectMessage) : Prop :=
  .directMessage c ∈ db.channels.values ∧ userA ∈ c.recipients ∧ userB ∈ c.recipients

/-- What the calls are for, on one store and for one choice of arguments. -/
structure ChannelOps.Meets (ops : ChannelOps) (db : ReferenceDb)
    (channel user userA userB role : String) (permissions : OverrideField) : Prop where
  remove : ∀ db', ops.removeUserFromGroup channel user db = .ok db' →
    RecipientRemoved channel user db db'
  found : (∃ c, SharedDirectMessage userA userB db c) →
    ∃ data, ops.findDirectMessageChannel userA userB db = .ok data
  finds : ∀ data, ops.findDirectMessageChannel userA userB db = .ok data →
    ∃ c, data = .directMessage c ∧ SharedDirectMessage userA userB db c
  override : ∀ c, db.channels.lookup channel = some (.textChannel c) →
    ∃ db', ops.setChannelRolePermission channel role permissions db = .ok db' ∧
      OverrideStored channel role permissions db db' c

/-! ### The MongoDB driver -/

namespace MongoDb

theorem recipientRemoved (db : ReferenceDb) (channel user : String) :
    RecipientRemoved channel user db
      { db with channels := db.channels.modify channel (·.withoutRecipient user) } where
  gone := by
    intro data hdata
    rw [lookup_modify] at hdata
    obtain ⟨data₀, -, rfl⟩ := Option.map_eq_some_iff.mp hdata
    exact data₀.notMem_recipients_withoutRecipient user
  kept := lookup_modify _ _ _
  others _ hid := lookup_modify_ne hid _ _
  rest := rfl

theorem directMessageFilter_eq_true {userA userB : String} (h : userA ≠ userB) {data : Channel} :
    directMessageFilter userA userB data = true ↔
      ∃ c, data = .directMessage c ∧ userA ∈ c.recipients ∧ userB ∈ c.recipients := by
  cases data <;> simp [directMessageFilter, h]

theorem overrideStored {db : ReferenceDb} {channel : String} {c : TextChannel}
    (h : db.channels.lookup channel = some (.textChannel c)) (role : String)
    (permissions : OverrideField) :
    ∃ db', setChannelRolePermission channel role permissions db = .ok db' ∧
      OverrideStored channel role permissions db db' c := by
  refine ⟨_, rfl, ?_, fun id hid => lookup_modify_ne hid _ _, rfl⟩
  refine ⟨{ c with rolePermissions := c.rolePermissions.insert role permissions }, ?_,
    lookup_insert _, fun id hid => lookup_insert_ne hid, rfl⟩
  rw [lookup_modify, h]
  rfl

/-- The MongoDB driver does what the calls are for. -/
theorem channelOps_meets (db : ReferenceDb) (channel user : String) {userA userB : String}
    (h : userA ≠ userB) (role : String) (permissions : OverrideField) :
    channelOps.Meets db channel user userA userB role permissions where
  remove := by
    intro db' hdb'
    obtain rfl := Except.ok.inj hdb'
    exact recipientRemoved db channel user
  found := by
    rintro ⟨c, hmem, hA, hB⟩
    exact exists_findOne hmem
      ((directMessageFilter_eq_true h).mpr ⟨c, rfl, hA, hB⟩)
  finds := by
    intro data hdata
    obtain ⟨hmem, hfilter⟩ := findOne_ok hdata
    obtain ⟨c, rfl, hA, hB⟩ := (directMessageFilter_eq_true h).mp hfilter
    exact ⟨c, rfl, hmem, hA, hB⟩
  override c hc := overrideStored hc role permissions

end MongoDb

/-! ### The in-memory driver -/

namespace ReferenceDb

variable {db : ReferenceDb} {channel user userA userB role : String}

/-- A removal that succeeds leaves everything as it was. -/
theorem removeUserFromGroup_ok {db' : ReferenceDb} :
    removeUserFromGroup channel user db = .ok db' ↔
      db' = db ∧ ∃ g, db.channels.lookup channel = some (.group g) ∧ user ∈ g.recipients := by
  rw [removeUserFromGroup]
  rcases hlookup : db.channels.lookup channel with - | data
  · simp
  · rcases data with c | c | g | c
    case group =>
      by_cases huser : user ∈ g.recipients
      · simp [Channel.users, bind, Except.bind, huser, pure, Except.pure, eq_comm]
      · simp [Channel.users, bind, Except.bind, huser]
    all_goals simp [Channel.users, bind, Except.bind]

/-- Nothing is removed, so the call is only right when it fails. -/
theorem remove_meets_iff :
    (∀ db', removeUserFromGroup channel user db = .ok db' →
        RecipientRemoved channel user db db') ↔
      ¬ ∃ g, db.channels.lookup channel = some (.group g) ∧ user ∈ g.recipients := by
  constructor
  · rintro h ⟨g, hg, huser⟩
    have hremoved := h db (removeUserFromGroup_ok.mpr ⟨rfl, g, hg, huser⟩)
    exact hremoved.gone _ hg huser
  · intro h db' hdb'
    exact absurd (removeUserFromGroup_ok.mp hdb').2 h

/-- Only groups are found. -/
theorem findDirectMessageChannel_group {data : Channel}
    (h : findDirectMessageChannel userA userB db = .ok data) :
    ∃ g, data = .group g ∧ data ∈ db.channels.values ∧ userA ∈ g.recipients ∧
      userB ∈ g.recipients := by
  obtain ⟨hmem, hboth⟩ := findOne_ok h
  rw [Bool.and_eq_true, Channel.containsUser_eq_true, Channel.containsUser_eq_true] at hboth
  obtain ⟨⟨g, rfl, hA⟩, g', hg', hB⟩ := hboth
  obtain rfl := Channel.group.inj hg'
  exact ⟨g, rfl, hmem, hA, hB⟩

theorem exists_findDirectMessageChannel {g : Group} (hmem : .group g ∈ db.channels.values)
    (hA : userA ∈ g.recipients) (hB : userB ∈ g.recipients) :
    ∃ data, findDirectMessageChannel userA userB db = .ok data := by
  refine exists_findOne hmem ?_
  rw [Bool.and_eq_true, Channel.containsUser_eq_true, Channel.containsUser_eq_true]
  exact ⟨⟨g, rfl, hA⟩, g, rfl, hB⟩

/-- A role that has an override can be given another one. -/
theorem overrideStored {c : TextChannel} (h : db.channels.lookup channel = some (.textChannel c))
    (hrole : role ∈ c.rolePermissions) (permissions : OverrideField) :
    ∃ db', setChannelRolePermission channel role permissions db = .ok db' ∧
      OverrideStored channel role permissions db db' c := by
  rw [setChannelRolePermission, h]
  simp only [if_pos hrole]
  refine ⟨_, rfl, ?_, fun id hid => lookup_modify_ne hid _ _, rfl⟩
  refine ⟨{ c with
    rolePermissions := (c.rolePermissions.erase role).insert role permissions }, ?_,
    lookup_insert _, fun id hid => ?_, rfl⟩
  · rw [lookup_modify, h]
    rfl
  · rw [lookup_insert_ne hid, lookup_erase_ne hid]

theorem setChannelRolePermission_refused {c : TextChannel}
    (h : db.channels.lookup channel = some (.textChannel c)) (hrole : role ∉ c.rolePermissions)
    (permissions : OverrideField) :
    setChannelRolePermission channel role permissions db = .error .notFound := by
  rw [setChannelRolePermission, h]
  simp only [if_neg hrole]

end ReferenceDb

/-- **Where the two drivers agree.**  The MongoDB driver does what the calls are
for on every store.  The in-memory driver does so exactly when the removal fails,
no group and no direct message has both users, and the role has an override
already. -/
theorem channelOps_meets_iff (db : ReferenceDb) (channel user userA userB role : String)
    (hne : userA ≠ userB) (permissions : OverrideField) :
    MongoDb.channelOps.Meets db channel user userA userB role permissions ∧
      (ReferenceDb.channelOps.Meets db channel user userA userB role permissions ↔
        (¬ ∃ g, db.channels.lookup channel = some (.group g) ∧ user ∈ g.recipients) ∧
        (¬ ∃ c, SharedDirectMessage userA userB db c) ∧
        (¬ ∃ g, .group g ∈ db.channels.values ∧ userA ∈ g.recipients ∧ userB ∈ g.recipients) ∧
        ∀ c, db.channels.lookup channel = some (.textChannel c) → role ∈ c.rolePermissions) := by
  refine ⟨MongoDb.channelOps_meets db channel user hne role permissions, ?_⟩
  constructor
  · intro h
    -- what is found is a group, so nothing may be found
    have hnone : ∀ data, findDirectMessageChannel userA userB db ≠ .ok data := by
      intro data hdata
      obtain ⟨g, rfl, -⟩ := findDirectMessageChannel_group hdata
      obtain ⟨c, hc, -⟩ := h.finds _ hdata
      cases hc
    refine ⟨remove_meets_iff.mp h.remove, ?_, ?_, ?_⟩
    · intro hshared
      obtain ⟨data, hdata⟩ := h.found hshared
      exact hnone data hdata
    · rintro ⟨g, hmem, hA, hB⟩
      obtain ⟨data, hdata⟩ := exists_findDirectMessageChannel hmem hA hB
      exact hnone data hdata
    · intro c hc
      by_contra hrole
      obtain ⟨db', hdb', -⟩ := h.override c hc
      have hrefused := setChannelRolePermission_refused hc hrole permissions
      cases hdb'.symm.trans hrefused
  · rintro ⟨hremove, hshared, hgroup, hrole⟩
    refine ⟨remove_meets_iff.mpr hremove, fun h => absurd h hshared, ?_, ?_⟩
    · intro data hdata
      obtain ⟨g, rfl, hmem, hA, hB⟩ := findDirectMessageChannel_group hdata
      exact absurd ⟨g, hmem, hA, hB⟩ hgroup
    · exact fun c hc => overrideStored hc (hrole c hc) permissions

/-- Direct message of `a` and `b`. -/
def exampleDm : DirectMessage := { id := "dm", recipients := ["a", "b"] }

/-- Group of `a` and `b`. -/
def exampleGroup : Group := { id := "group", owner := "a", recipients := ["a", "b"] }

/-- Text channel in which only the role `old` has an override. -/
def exampleText : TextChannel :=
  { id := "text", server := "s", rolePermissions := HashMap.collect [("old", {})] }

def exampleChannels : ReferenceDb where
  channels := HashMap.collect
    [("dm", .directMessage exampleDm), ("group", .group exampleGroup),
     ("text", .textChannel exampleText)]

theorem values_exampleChannels : exampleChannels.channels.values
    = [.textChannel exampleText, .group exampleGroup, .directMessage exampleDm] := rfl

/-- With users who share no channel and a role that has an override the in-memory
driver does what the calls are for. -/
theorem channelOps_meets_iff_override :
    ReferenceDb.channelOps.Meets exampleChannels "text" "a" "a" "c" "old" {} := by
  refine (channelOps_meets_iff exampleChannels "text" "a" "a" "c" "old" (by decide) {}).2.mpr
    ⟨?_, ?_, ?_, ?_⟩
  · rintro ⟨g, hg, -⟩
    cases hg
  · rintro ⟨c, hmem, -, hc⟩
    obtain rfl : c = exampleDm := by simpa [values_exampleChannels] using hmem
    exact absurd hc (by decide)
  · rintro ⟨g, hmem, -, hc⟩
    obtain rfl : g = exampleGroup := by simpa [values_exampleChannels] using hmem
    exact absurd hc (by decide)
  · intro c hc
    obtain rfl := Channel.textChannel.inj (Option.some.inj hc)
    decide +kernel

/-- The in-memory driver fails in all three: `a` stays in the group after a removal
that succeeds, the group is found in place of the direct message, and a role
without an override is refused. -/
theorem channelOps_reference_fails :
    (ReferenceDb.removeUserFromGroup "group" "a" exampleChannels = .ok exampleChannels ∧
      ¬ RecipientRemoved "group" "a" exampleChannels exampleChannels) ∧
    ReferenceDb.findDirectMessageChannel "a" "b" exampleChannels = .ok (.group exampleGroup) ∧
    SharedDirectMessage "a" "b" exampleChannels exampleDm ∧
    exampleChannels.channels.lookup "text" = some (.textChannel exampleText) ∧
    ReferenceDb.setChannelRolePermission "text" "new" {} exampleChannels = .error .notFound := by
  refine ⟨⟨rfl, ?_⟩, rfl, ⟨?_, by decide, by decide⟩, rfl, rfl⟩
  · intro h
    exact h.gone (.group exampleGroup) rfl (by decide)
  · simp [values_exampleChannels]

end DawnChat
