/-
DawnChat/Routes/Members.lean

Routes that act on a member of a server
(`delta/src/routes/servers/member_edit.rs`, `member_remove.rs`, `ban_create.rs`).

`edit` checks each field of the request on its own, then the ranks, and then
hands two lists to `Member::update`: new values for some fields and a list of
fields to reset.  A field can change through either list.  `Guards` collects what
an accepted edit has passed and `edit_cases` what it stores; everything else is read
off these two.  `kick` and `ban` share their checks.

The files, the messages and the voice service are outside the model.  What the
routes use of them (`Services`) can fail, and it does not touch the modelled
collections.
-/
import DawnChat.Members.Store
import DawnChat.Routes.Servers

namespace DawnChat

open RustStd Fallible Handler DatabasePermissionQuery List Option Except

variable {σ : Type}

/-! ### Changing a member -/

namespace Member

/-- Update member data. -/
def update (D : Driver σ) (member : Member) (p : PartialMember) (remove : List FieldsMember) :
    Request σ Member := do
  let member' := (remove.foldl removeField member).applyOptions p
  D.updateMember member'.id p remove
  pure member'

/-- Remove member from server. -/
def remove (D : Driver σ) (member : Member) (now : Timestamp) : Request σ Unit :=
  D.softDeleteMember member.id now

end Member

/-- What the routes use besides the modelled collections.  A voice operation can
panic, because it unwraps the node of a channel. -/
structure Services where
  /-- `mark_attachment_as_deleted` -/
  markAttachmentAsDeleted : String → Result Unit
  /-- `File::use_user_avatar` for a file, its parent and its uploader -/
  useUserAvatar : String → String → String → Result File
  /-- `Message::bulk_delete_by_author_since` for channels, an author and a time -/
  bulkDeleteByAuthorSince : List String → String → Timestamp → Result Unit
  /-- `VoiceClient::is_enabled` -/
  voiceEnabled : Bool
  /-- `get_user_voice_channel_in_server` -/
  getUserVoiceChannelInServer : String → String → Result (Option String)
  /-- Move a connected user to another voice channel of the server. -/
  moveToVoiceChannel : User → Server → Channel → Option (Result Unit)
  /-- Bring the voice permissions of a connected user up to date. -/
  syncUserVoicePermissions : User → Server → Option (Result Unit)
  /-- Take a connected user out of their voice channel. -/
  removeFromVoiceChannel : String → Server → Option (Result Unit)

/-- Wait for a voice operation. -/
def voiceOperation (outcome : Option (Result Unit)) : Request σ Unit := do
  ofExcept (← ofOption outcome)

instance (outcome : Option (Result Unit)) :
    ReadOnly (voiceOperation outcome : Request σ Unit) := by
  unfold voiceOperation
  infer_instance

/-! ### Edit member -/

/-- New member information. -/
structure DataMemberEdit where
  nickname : Option String := none
  /-- Attachment Id to set for avatar -/
  avatar : Option String := none
  roles : Option (List String) := none
  timeout : Option Timestamp := none
  canPublish : Option Bool := none
  canReceive : Option Bool := none
  /-- voice channel to move to if already in a voice channel -/
  voiceChannel : Option String := none
  remove : List FieldsMember := []
  deriving DecidableEq, Repr

namespace DataMemberEdit

/-- A nickname has 1 to 32 characters. -/
def validate (data : DataMemberEdit) : Result Unit :=
  if data.nickname.all fun nickname => 1 ≤ nickname.length ∧ nickname.length ≤ 32 then .ok ()
  else .error .failedValidation

/-- The new values, once the avatar has been resolved. -/
def toPartial (data : DataMemberEdit) (avatar : Option File) : PartialMember where
  nickname := data.nickname
  avatar := avatar
  roles := data.roles
  timeout := data.timeout
  canPublish := data.canPublish
  canReceive := data.canReceive

end DataMemberEdit

section Checks

variable (permissions targetPermissions : PermissionValue) (user : User) (member : Member)
  (data : DataMemberEdit)

def checkNickname : Result Unit :=
  if data.nickname.isSome ∨ .nickname ∈ data.remove then
    if user.id = member.id.user then permissions.throwIfLackingChannelPermission .changeNickname
    else permissions.throwIfLackingChannelPermission .manageNicknames
  else .ok ()

def checkAvatar : Result Unit :=
  if data.avatar.isSome ∨ .avatar ∈ data.remove then
    if user.id = member.id.user then permissions.throwIfLackingChannelPermission .changeAvatar
    else if .avatar ∈ data.remove then permissions.throwIfLackingChannelPermission .removeAvatars
    else .error .invalidOperation
  else .ok ()

def checkRoles : Result Unit :=
  if data.roles.isSome ∨ .roles ∈ data.remove then
    permissions.throwIfLackingChannelPermission .assignRoles
  else .ok ()

def checkTimeout : Result Unit :=
  if data.timeout.isSome ∨ .timeout ∈ data.remove then
    if data.timeout.isSome ∧ member.id.user = user.id then .error .cannotTimeoutYourself
    else if data.timeout.isSome ∧ targetPermissions.hasChannelPermission .timeoutMembers then
      .error .isElevated
    else permissions.throwIfLackingChannelPermission .timeoutMembers
  else .ok ()

-- the list of fields to reset is not looked at
def checkCanPublish : Result Unit :=
  if data.canPublish.isSome then permissions.throwIfLackingChannelPermission .muteMembers
  else .ok ()

def checkCanReceive : Result Unit :=
  if data.canReceive.isSome then permissions.throwIfLackingChannelPermission .deafenMembers
  else .ok ()

def checkVoiceChannel (voiceEnabled : Bool) : Result Unit :=
  if data.voiceChannel.isSome ∧ .voiceChannel ∈ data.remove then .error .invalidOperation
  else if data.voiceChannel.isSome ∨ .voiceChannel ∈ data.remove then
    if !voiceEnabled then .error .liveKitUnavailable
    else if member.id.user ≠ user.id then
      permissions.throwIfLackingChannelPermission .moveMembers
    else .ok ()
  else .ok ()

end Checks

/-- Ensure the channel we are moving them to is in the server, and that they are
connected. -/
def resolveVoiceChannel (D : Driver σ) (services : Services) (query : DatabasePermissionQuery)
    (targetUser : User) (server : Server) (member : Member) :
    Option String → Request σ (Option Channel)
  | none => pure none
  | some id => do
      let channel ← read fun s =>
        match (D.database s).fetchChannel id with
        | .ok channel => .ok channel
        | .error _ => .error .unknownChannel
      throwIf (channel.server ≠ some member.id.server) .unknownChannel
      let permissions ← ofOption
        (calculateChannelPermissions.run (query.withChannel channel))
      ofExcept (permissions.1.throwIfLackingChannelPermission .connect)
      let connected ← ofExcept
        (services.getUserVoiceChannelInServer targetUser.id server.id)
      throwIf (connected = none) .notConnected
      pure (some channel)

/-- The loop over the added roles: each is taken out of the server and has to be
below us. -/
def checkAddedRoles (ourRanking : Int) :
    HashMap String Role → List String → Result (HashMap String Role)
  | roles, [] => .ok roles
  | roles, roleId :: added =>
    match roles.lookup roleId with
    | some role =>
      if role.rank ≤ ourRanking then .error .notElevated
      else checkAddedRoles ourRanking (roles.erase roleId) added
    | none => .error .invalidRole

/-- What the checks of `edit` find out. -/
structure EditContext where
  server : Server
  targetUser : User
  member : Member
  permissions : PermissionValue
  ourRanking : Int
  newVoiceChannel : Option Channel

/-- The checks of `edit`. -/
def editChecks (D : Driver σ) (services : Services) (user : User) (clock : Stream' Timestamp)
    (serverId memberId : String) (data : DataMemberEdit) : Request σ EditContext := do
  ofExcept data.validate
  let server ← read fun s => (D.database s).fetchServer serverId
  let targetUser ← read fun s => (D.database s).fetchUser memberId
  let member ← read fun s => (D.database s).fetchMember server.id memberId
  -- fetch our current permissions and those of the target
  let query ← requestServerPermissions D user clock server
  let s ← get
  let target ← ofOption (calculateServerPermissions.run
    (((DatabasePermissionQuery.new (D.database s) targetUser query.2.clock).withServer
      server).withMember member))
  ofExcept (checkNickname query.1 user member data)
  ofExcept (checkAvatar query.1 user member data)
  ofExcept (checkRoles query.1 data)
  ofExcept (checkTimeout query.1 target.1 user member data)
  ofExcept (checkCanPublish query.1 data)
  ofExcept (checkCanReceive query.1 data)
  ofExcept (checkVoiceChannel query.1 user member data services.voiceEnabled)
  let newVoiceChannel ← resolveVoiceChannel D services query.2 targetUser server member
    data.voiceChannel
  -- resolve our ranking
  let rank ← ofOption (DatabasePermissionQuery.getMemberRank.run query.2)
  let ourRanking := rank.1.getD i64Min
  -- check that we have permissions to act against this member
  throwIf (member.id.user ≠ user.id ∧ member.getRanking server ≤ ourRanking) .notElevated
  -- check permissions against roles in diff
  let roles ← ofExcept
    (checkAddedRoles ourRanking server.roles
      (((data.roles.getD []).dedup).filter fun roleId => roleId ∉ member.roles))
  pure ⟨{ server with roles := roles }, targetUser, member, query.1, ourRanking, newVoiceChannel⟩

/-- The new avatar, if one is given; it becomes a file of the user who makes the
request. -/
def resolveAvatar (services : Services) (user : User) : Option String → Result (Option File)
  | none => .ok none
  | some avatar => (services.useUserAvatar avatar user.id user.id).map some

/-- Mark the old avatar as deleted when it is to be removed. -/
def discardAvatar (services : Services) (member : Member) (data : DataMemberEdit) : Result Unit :=
  if .avatar ∈ data.remove then
    match member.avatar with
    | some avatar => services.markAttachmentAsDeleted avatar.id
    | none => .ok ()
  else .ok ()

/-- Move the member to their new voice channel, or tell the voice service about a
mute or a deafen. -/
def syncVoice (services : Services) (user : User) (context : EditContext)
    (data : DataMemberEdit) : Request σ Unit :=
  match context.newVoiceChannel with
  | some channel =>
    voiceOperation (services.moveToVoiceChannel context.targetUser context.server channel)
  | none =>
    if data.canPublish.isSome ∨ data.canReceive.isSome ∨ .canPublish ∈ data.remove ∨
        .canReceive ∈ data.remove then
      voiceOperation (services.syncUserVoicePermissions user context.server)
    else pure ()

/-- Take the member out of their voice channel when it is to be removed. -/
def disconnectVoice (services : Services) (user : User) (context : EditContext)
    (data : DataMemberEdit) : Request σ Unit :=
  if .voiceChannel ∈ data.remove then
    voiceOperation (services.removeFromVoiceChannel user.id context.server)
  else pure ()

/-- Edit a member by their id. -/
def edit (D : Driver σ) (services : Services) (user : User) (clock : Stream' Timestamp)
    (serverId memberId : String) (data : DataMemberEdit) : Request σ Member := do
  let context ← editChecks D services user clock serverId memberId data
  ofExcept (discardAvatar services context.member data)
  let avatar ← ofExcept (resolveAvatar services user data.avatar)
  let member ← context.member.update D (data.toPartial avatar) data.remove
  syncVoice services user context data
  disconnectVoice services user context data
  pure member

/-! ### Kick and ban -/

/-- The checks that removing and banning share. -/
def removalChecks (D : Driver σ) (user : User) (clock : Stream' Timestamp)
    (serverId memberId : String) (permission : ChannelPermission) :
    Request σ (Server × DatabasePermissionQuery) := do
  let server ← read fun s => (D.database s).fetchServer serverId
  throwIf (memberId = user.id) .cannotRemoveYourself
  throwIf (memberId = server.owner) .invalidOperation
  let query ← requestServerPermissions D user clock server
  ofExcept (query.1.throwIfLackingChannelPermission permission)
  pure (server, query.2)

/-- Check privileges against a member, and remove them. -/
def removeBelowUs (D : Driver σ) (server : Server) (query : DatabasePermissionQuery)
    (member : Member) : Request σ Unit := do
  let rank ← ofOption (DatabasePermissionQuery.getMemberRank.run query)
  throwIf (member.getRanking server ≤ rank.1.getD i64Min) .notElevated
  member.remove D query.clock.head

/-- Removes a member from the server. -/
def kick (D : Driver σ) (services : Services) (user : User) (clock : Stream' Timestamp)
    (serverId memberId : String) : Request σ Unit := do
  let checked ← removalChecks D user clock serverId memberId .kickMembers
  let member ← read fun s => (D.database s).fetchMember checked.1.id memberId
  removeBelowUs D checked.1 checked.2 member
  voiceOperation (services.removeFromVoiceChannel memberId checked.1)

/-- Information for new server ban. -/
structure DataBanCreate where
  reason : Option String := none
  deleteMessageSeconds : Option Int := none
  deriving DecidableEq, Repr

/-- A reason has at most 1024 characters, and at most a week is swept. -/
def DataBanCreate.validate (data : DataBanCreate) : Result Unit :=
  if (data.reason.all fun reason => reason.length ≤ 1024) ∧
      (data.deleteMessageSeconds.all fun seconds => 0 ≤ seconds ∧ seconds ≤ 604800) then .ok ()
  else .error .failedValidation

/-- Create ban. -/
def ServerBan.create (D : Driver σ) (server : Server) (userId : String)
    (reason : Option String) : Request σ ServerBan := do
  let ban : ServerBan := { id := ⟨server.id, userId⟩, reason := reason }
  D.insertBan ban
  pure ban

/-- If member exists, check privileges against them and remove them. -/
def removeIfMember (D : Driver σ) (services : Services) (server : Server)
    (query : DatabasePermissionQuery) (target : String) : Result Member → Request σ Unit
  | .ok member => do
      removeBelowUs D server query member
      voiceOperation (services.removeFromVoiceChannel target server)
  | .error _ => pure ()

/-- Delete what the user has recently written. -/
def sweepMessages (services : Services) (server : Server) (target : String) (now : Timestamp)
    (deleteMessageSeconds : Option Int) : Result Unit :=
  match deleteMessageSeconds with
  | some seconds =>
    if seconds > 0 then
      services.bulkDeleteByAuthorSince server.channels target (now - seconds)
    else .ok ()
  | none => .ok ()

/-- Ban a user by their id. -/
def ban (D : Driver σ) (services : Services) (user : User) (clock : Stream' Timestamp)
    (serverId target : String) (data : DataBanCreate) : Request σ ServerBan := do
  ofExcept data.validate
  let checked ← removalChecks D user clock serverId target .banMembers
  let s ← get
  removeIfMember D services checked.1 checked.2 target
    ((D.database s).fetchMember checked.1.id target)
  ofExcept (sweepMessages services checked.1 target checked.2.clock.tail.head
    data.deleteMessageSeconds)
  ServerBan.create D checked.1 target data.reason

/-! ### What acceptance means -/

/-- The permissions of the user who makes a request. -/
def actorPermissions (db : Database) (user : User) (clock : Stream' Timestamp) (server : Server) :
    Option (PermissionValue × DatabasePermissionQuery) :=
  calculateServerPermissions.run ((DatabasePermissionQuery.new db user clock).withServer server)

/-- The user who makes a request has a permission. -/
def ActorHas (db : Database) (user : User) (clock : Stream' Timestamp) (server : Server)
    (permission : ChannelPermission) : Prop :=
  ∃ r, actorPermissions db user clock server = some r ∧
    r.1.hasChannelPermission permission = true

theorem not_hasChannelPermission_zero (permission : ChannelPermission) :
    PermissionValue.hasChannelPermission 0 permission = false := by
  cases permission <;> decide

variable {user : User} {clock : Stream' Timestamp} {services : Services}

theorem actorHas_iff {db : Database} {server : Server}
    {r : PermissionValue × DatabasePermissionQuery}
    (h : actorPermissions db user clock server = some r) (permission : ChannelPermission) :
    ActorHas db user clock server permission ↔ r.1.hasChannelPermission permission = true := by
  rw [ActorHas, h]
  simp only [some.injEq, exists_eq_left']

section Actor

variable {db : Database} {user : User} {clock : Stream' Timestamp} {server : Server}
  (hp : user.privileged = false) (ho : server.owner ≠ user.id)

include hp ho

/-- A plain member acts with their own roles. -/
theorem actorPermissions_member {a : Member} (ha : db.fetchMember server.id user.id = .ok a) :
    actorPermissions db user clock server = some (serverPermissions server a clock.head,
      { database := db, perspective := user, server := some server, member := some a,
        clock := clock.tail }) := by
  refine run_calculateServerPermissions_member
    (q := (new db user clock).withServer server) hp ho rfl ?_
  show (db.fetchMember server.id user.id).toOption = some a
  rw [ha]
  rfl

/-- Who is not a member has no permission at all. -/
theorem actorPermissions_stranger {e : ErrorType}
    (ha : db.fetchMember server.id user.id = .error e) :
    actorPermissions db user clock server = some (0,
      { database := db, perspective := user, server := some server, member := none,
        clock := clock }) := by
  refine run_calculateServerPermissions_stranger
    (q := (new db user clock).withServer server) hp ho rfl ?_
  show (db.fetchMember server.id user.id).toOption = none
  rw [ha]
  rfl

theorem not_actorHas_stranger {e : ErrorType} (ha : db.fetchMember server.id user.id = .error e)
    (permission : ChannelPermission) : ¬ ActorHas db user clock server permission := by
  rw [actorHas_iff (actorPermissions_stranger hp ho ha), not_hasChannelPermission_zero]
  exact Bool.false_ne_true

/-- Someone with a permission is a member, and acts with their ranking. -/
theorem actor_of_permission {p : PermissionValue} {q : DatabasePermissionQuery}
    (h : actorPermissions db user clock server = some (p, q)) {permission : ChannelPermission}
    (hhas : p.hasChannelPermission permission = true) :
    ∃ a, db.fetchMember server.id user.id = .ok a ∧
      DatabasePermissionQuery.getMemberRank.run q = some (some (a.getRanking server), q) := by
  rcases ha : db.fetchMember server.id user.id with e | a
  · rw [actorPermissions_stranger hp ho ha] at h
    obtain ⟨rfl, -⟩ := Prod.mk.inj (some.inj h)
    rw [not_hasChannelPermission_zero] at hhas
    cases hhas
  · rw [actorPermissions_member hp ho ha] at h
    obtain ⟨-, rfl⟩ := Prod.mk.inj (some.inj h)
    exact ⟨a, rfl, rfl⟩

end Actor

/-- What an accepted edit has passed. -/
structure Guards (user : User) (server : Server) (c : EditContext) (data : DataMemberEdit) :
    Prop where
  nickname : data.nickname.isSome ∨ .nickname ∈ data.remove →
    c.permissions.hasChannelPermission
      (if user.id = c.member.id.user then .changeNickname else .manageNicknames) = true
  avatar : data.avatar.isSome ∨ .avatar ∈ data.remove →
    if user.id = c.member.id.user then c.permissions.hasChannelPermission .changeAvatar = true
    else .avatar ∈ data.remove ∧ c.permissions.hasChannelPermission .removeAvatars = true
  roles : data.roles.isSome ∨ .roles ∈ data.remove →
    c.permissions.hasChannelPermission .assignRoles = true
  timeout : data.timeout.isSome ∨ .timeout ∈ data.remove →
    c.permissions.hasChannelPermission .timeoutMembers = true
  canPublish : data.canPublish.isSome → c.permissions.hasChannelPermission .muteMembers = true
  canReceive : data.canReceive.isSome → c.permissions.hasChannelPermission .deafenMembers = true
  ranking : c.member.id.user ≠ user.id → c.ourRanking < c.member.getRanking server
  addedRoles : ∀ roles, data.roles = some roles → ∀ roleId ∈ roles, roleId ∉ c.member.roles →
    ∃ role, server.roles.lookup roleId = some role ∧ c.ourRanking < role.rank

section ChecksOk

open PermissionValue

variable {permissions targetPermissions : PermissionValue} {user : User} {member : Member}
  {data : DataMemberEdit}

theorem checkNickname_ok (h : checkNickname permissions user member data = .ok ())
    (ht : data.nickname.isSome ∨ .nickname ∈ data.remove) :
    permissions.hasChannelPermission
      (if user.id = member.id.user then .changeNickname else .manageNicknames) = true := by
  rw [checkNickname, if_pos ht] at h
  split_ifs at h ⊢ <;> exact throwIfLackingChannelPermission_ok.mp h

theorem checkAvatar_ok (h : checkAvatar permissions user member data = .ok ())
    (ht : data.avatar.isSome ∨ .avatar ∈ data.remove) :
    if user.id = member.id.user then permissions.hasChannelPermission .changeAvatar = true
    else .avatar ∈ data.remove ∧ permissions.hasChannelPermission .removeAvatars = true := by
  rw [checkAvatar, if_pos ht] at h
  split_ifs at h ⊢ with hself hremove
  · exact throwIfLackingChannelPermission_ok.mp h
  · exact ⟨hremove, throwIfLackingChannelPermission_ok.mp h⟩

theorem checkRoles_ok (h : checkRoles permissions data = .ok ())
    (ht : data.roles.isSome ∨ .roles ∈ data.remove) :
    permissions.hasChannelPermission .assignRoles = true := by
  rw [checkRoles, if_pos ht] at h
  exact throwIfLackingChannelPermission_ok.mp h

theorem checkTimeout_ok (h : checkTimeout permissions targetPermissions user member data = .ok ())
    (ht : data.timeout.isSome ∨ .timeout ∈ data.remove) :
    permissions.hasChannelPermission .timeoutMembers = true := by
  rw [checkTimeout, if_pos ht] at h
  split_ifs at h
  exact throwIfLackingChannelPermission_ok.mp h

theorem checkCanPublish_ok (h : checkCanPublish permissions data = .ok ())
    (ht : data.canPublish.isSome) : permissions.hasChannelPermission .muteMembers = true := by
  rw [checkCanPublish, if_pos ht] at h
  exact throwIfLackingChannelPermission_ok.mp h

theorem checkCanReceive_ok (h : checkCanReceive permissions data = .ok ())
    (ht : data.canReceive.isSome) : permissions.hasChannelPermission .deafenMembers = true := by
  rw [checkCanReceive, if_pos ht] at h
  exact throwIfLackingChannelPermission_ok.mp h

end ChecksOk

/-- Every added role exists and is below us. -/
theorem checkAddedRoles_ok {ourRanking : Int} {roles remaining : HashMap String Role}
    {added : List String} (h : checkAddedRoles ourRanking roles added = .ok remaining) :
    ∀ roleId ∈ added, ∃ role, roles.lookup roleId = some role ∧ ourRanking < role.rank := by
  induction added generalizing roles with
  | nil => exact fun roleId hid => absurd hid not_mem_nil
  | cons id added ih =>
    rw [checkAddedRoles] at h
    rcases hrole : roles.lookup id with - | role
    · rw [hrole] at h
      cases h
    rw [hrole] at h
    by_cases hrank : role.rank ≤ ourRanking
    · simp only [hrank, if_true] at h
      cases h
    simp only [hrank, if_false] at h
    intro roleId hid
    by_cases heq : roleId = id
    · subst heq
      exact ⟨role, hrole, lt_of_not_ge hrank⟩
    · obtain ⟨role', hlookup, hlt⟩ := ih h roleId ((mem_cons.mp hid).resolve_left heq)
      rw [AList.lookup_erase_ne heq] at hlookup
      exact ⟨role', hlookup, hlt⟩

instance (D : Driver σ) (services : Services) (query : DatabasePermissionQuery) (targetUser : User)
    (server : Server) (member : Member) (id : Option String) :
    ReadOnly (resolveVoiceChannel D services query targetUser server member id) := by
  unfold resolveVoiceChannel
  split <;> infer_instance

instance (D : Driver σ) (services : Services) (user : User) (clock : Stream' Timestamp)
    (serverId memberId : String) (data : DataMemberEdit) :
    ReadOnly (editChecks D services user clock serverId memberId data) := by
  unfold editChecks
  repeat refine .andThen fun _ => ?_
  infer_instance

/-- **What the checks of an edit establish.**  They change nothing. -/
theorem editChecks_ok {D : Driver σ} {serverId memberId : String} {data : DataMemberEdit} {s s' : σ}
    {c : EditContext}
    (h : exec (editChecks D services user clock serverId memberId data) s = (.ok c, s')) :
    s' = s ∧ ∃ server q rank q', (D.database s).fetchServer serverId = .ok server ∧
      (D.database s).fetchMember server.id memberId = .ok c.member ∧
      actorPermissions (D.database s) user clock server = some (c.permissions, q) ∧
      DatabasePermissionQuery.getMemberRank.run q = some (rank, q') ∧
      c.ourRanking = rank.getD i64Min ∧ Guards user server c data := by
  simp only [editChecks, requestServerPermissions, exec_bind_ok, exec_read_ok, exec_ofExcept_ok,
    exec_ofOption_ok, exec_throwIf_ok, exec_get_ok, exec_pure_ok] at h
  obtain ⟨_, _, ⟨-, rfl⟩, server, _, ⟨hserver, rfl⟩, targetUser, _, ⟨-, rfl⟩, member, _,
    ⟨hmember, rfl⟩, query, _, ⟨_, _, ⟨rfl, rfl⟩, hquery, rfl⟩, _, _, ⟨rfl, rfl⟩, target, _,
    ⟨-, rfl⟩, h⟩ := h
  obtain ⟨_, _, ⟨hnickname, rfl⟩, _, _, ⟨havatar, rfl⟩, _, _, ⟨hroles, rfl⟩, _, _,
    ⟨htimeout, rfl⟩, _, _, ⟨hpublish, rfl⟩, _, _, ⟨hreceive, rfl⟩, _, _, ⟨-, rfl⟩, h⟩ := h
  obtain ⟨channel, s₁, hvoice, rank, _, ⟨hrank, rfl⟩, _, _, ⟨hranking, rfl⟩, roles, _,
    ⟨hadded, rfl⟩, rfl, rfl⟩ := h
  have hs₁ : s₁ = s := ReadOnly.of_exec hvoice
  refine ⟨hs₁, server, query.2, rank.1, rank.2, hserver, hmember, hquery, hrank, rfl, ?_⟩
  exact
    { nickname := checkNickname_ok hnickname
      avatar := checkAvatar_ok havatar
      roles := checkRoles_ok hroles
      timeout := checkTimeout_ok htimeout
      canPublish := checkCanPublish_ok hpublish
      canReceive := checkCanReceive_ok hreceive
      ranking := fun hother => lt_of_not_ge fun hle => hranking ⟨hother, hle⟩
      addedRoles := fun newRoles hnew roleId hid hnot => by
        refine checkAddedRoles_ok hadded roleId (mem_filter.mpr ⟨?_, by simpa using hnot⟩)
        rw [hnew]
        exact mem_dedup.mpr hid }

/-! ### What an edit stores -/

/-- The record that an edit stores. -/
def DataMemberEdit.applyTo (data : DataMemberEdit) (avatar : Option File) (m : Member) : Member :=
  (data.remove.foldl Member.removeField m).applyOptions (data.toPartial avatar)

theorem DataMemberEdit.applyTo_eq (data : DataMemberEdit) (avatar : Option File) (m : Member) :
    data.applyTo avatar m =
      { m with
        nickname := data.nickname.or (if .nickname ∈ data.remove then none else m.nickname)
        avatar := avatar.or (if .avatar ∈ data.remove then none else m.avatar)
        roles := data.roles.getD (if .roles ∈ data.remove then [] else m.roles)
        timeout := data.timeout.or (if .timeout ∈ data.remove then none else m.timeout)
        canPublish :=
          data.canPublish.getD (if .canPublish ∈ data.remove then true else m.canPublish)
        canReceive :=
          data.canReceive.getD (if .canReceive ∈ data.remove then true else m.canReceive) } := by
  rw [applyTo, Member.foldl_removeField]
  rfl

@[simp] theorem DataMemberEdit.applyTo_id (data : DataMemberEdit) (avatar : Option File)
    (m : Member) : (data.applyTo avatar m).id = m.id := by
  rw [applyTo_eq]

theorem resolveAvatar_isSome {id : Option String}
    {avatar : Option File} (h : resolveAvatar services user id = .ok avatar) :
    avatar.isSome ↔ id.isSome := by
  rcases id with - | id
  · obtain rfl := ok.inj h
    rfl
  · rw [resolveAvatar] at h
    rcases hfile : services.useUserAvatar id user.id user.id with e | file
    · rw [hfile] at h
      cases h
    · rw [hfile] at h
      obtain rfl := ok.inj h
      rfl

instance (services : Services) (user : User) (context : EditContext) (data : DataMemberEdit) :
    ReadOnly (syncVoice services user context data : Request σ Unit) := by
  unfold syncVoice
  split <;> infer_instance

instance (services : Services) (user : User) (context : EditContext) (data : DataMemberEdit) :
    ReadOnly (disconnectVoice services user context data : Request σ Unit) := by
  unfold disconnectVoice
  split <;> infer_instance

/-- A driver that stores the record which an update computes, or fails and changes nothing.
MongoDB refuses to set and to reset one field.  A join date on the list of fields to reset is
gone there, and the record is none of a member any more; in memory it stays. -/
structure MemberStore (σ : Type) extends Driver σ where
  /-- Whether resetting the join date takes it away. -/
  unsetsJoinedAt : Bool
  updateMember_cases : ∀ {s s' : σ} {m : Member} {p : PartialMember} {clear : List FieldsMember}
    {outcome : Except (Fault ErrorType) Unit}, p.id = none →
    (database s).fetchMember m.id.server m.id.user = .ok m →
    exec (updateMember m.id p clear) s = (outcome, s') →
    (s' = s ∧ ∃ e, outcome = .error e) ∨ outcome = .ok () ∧
      (unsetsJoinedAt = true ∧ .joinedAt ∈ clear →
        ∃ e, (database s').fetchMember m.id.server m.id.user = .error e) ∧
      (¬ (unsetsJoinedAt = true ∧ .joinedAt ∈ clear) →
        (database s').fetchMember m.id.server m.id.user
          = .ok ((clear.foldl Member.removeField m).applyOptions p))

/-- The in-memory driver. -/
def ReferenceDb.memberStore : MemberStore ReferenceDb where
  toDriver := ReferenceDb.driver
  unsetsJoinedAt := false
  updateMember_cases := by
    intro db db' m p clear outcome _ hm h
    have hlookup : db.serverMembers.lookup m.id = some m := ReferenceDb.get_ok.mp hm
    rw [ReferenceDb.driver, exec_write, ReferenceDb.updateMember_eq hlookup] at h
    obtain ⟨rfl, rfl⟩ := Prod.mk.inj h
    refine .inr ⟨rfl, fun hunset => absurd hunset.1 Bool.false_ne_true, fun _ => ?_⟩
    refine ReferenceDb.get_ok.mpr ?_
    rw [HashMap.lookup_modify, hlookup]
    rfl

section Unset

variable {α : Type} {unset : Prop} [Decidable unset] {new : Option α}

/-- A field that is not both set and reset: the order of the two does not matter. -/
theorem ite_getD_comm {reset old : α} (h : unset → new = none) :
    (if unset then reset else new.getD old) = new.getD (if unset then reset else old) := by
  split_ifs with hunset
  · rw [h hunset]
    rfl
  · rfl

/-- The same for a field that may be empty. -/
theorem ite_or_comm {old : Option α} (h : unset → new = none) :
    (if unset then none else new.or old) = new.or (if unset then none else old) := by
  split_ifs with hunset
  · rw [h hunset]
    rfl
  · rfl

end Unset

/-- A document without its join date is not decoded, and otherwise an update that is not
refused has stored what the route computes. -/
theorem MemberDocument.decode_update {doc : MemberDocument} {m : Member} {p : PartialMember}
    {clear : List FieldsMember} (hid : p.id = none) (hdoc : doc.decode = some m)
    (hconflict : MemberDocument.conflicts p clear = false) :
    (doc.update p clear).decode
      = if .joinedAt ∈ clear then none
        else some ((clear.foldl Member.removeField m).applyOptions p) := by
  have hset := any_eq_false.mp hconflict
  have hnickname : .nickname ∈ clear → p.nickname = none := fun h => by simpa using hset _ h
  have havatar : .avatar ∈ clear → p.avatar = none := fun h => by simpa using hset _ h
  have hroles : .roles ∈ clear → p.roles = none := fun h => by simpa using hset _ h
  have htimeout : .timeout ∈ clear → p.timeout = none := fun h => by simpa using hset _ h
  have hpublish : .canPublish ∈ clear → p.canPublish = none := fun h => by simpa using hset _ h
  have hreceive : .canReceive ∈ clear → p.canReceive = none := fun h => by simpa using hset _ h
  obtain ⟨joinedAt, hjoined, rfl⟩ := map_eq_some_iff.mp hdoc
  rw [MemberDocument.decode, MemberDocument.update, hjoined, ite_or_comm hnickname,
    ite_or_comm havatar, ite_getD_comm hroles, ite_or_comm htimeout, ite_getD_comm hpublish,
    ite_getD_comm hreceive, Member.foldl_removeField]
  by_cases hclear : .joinedAt ∈ clear
  · rw [if_pos hclear, if_pos hclear]
    rfl
  · rw [if_neg hclear, if_neg hclear, Member.applyOptions, hid]
    rcases p.joinedAt with - | joinedAt' <;> rfl

/-- The MongoDB driver: members and their bans.  The rest is taken from any driver. -/
def MemberDb.memberStore (rest : Driver MemberDb) : MemberStore MemberDb where
  toDriver :=
    { rest with
      database := fun db => { rest.database db with
        fetchMember := fun serverId userId => MemberDb.fetchMember serverId userId db }
      updateMember := fun id p clear => write (MemberDb.updateMember id p clear)
      softDeleteMember := MemberDb.softDeleteMember
      insertBan := fun ban => write (MemberDb.insertBan ban) }
  unsetsJoinedAt := true
  updateMember_cases := by
    intro db db' m p clear outcome hid hm h
    rw [exec_write] at h
    rcases hconflict : MemberDocument.conflicts p clear with - | -
    · rw [MemberDb.updateMember, hconflict, if_neg Bool.false_ne_true] at h
      obtain ⟨rfl, rfl⟩ := Prod.mk.inj h
      obtain ⟨doc, hdoc, hdeparted, hdecode⟩ := MemberDb.fetchMember_ok.mp hm
      have hdoc' := (Collection.get?_updateMany_key db.members m.id (·.update p clear)
        (fun _ => rfl) m.id).trans (if_pos rfl)
      rw [hdoc] at hdoc'
      have hdecode' := MemberDocument.decode_update hid hdecode hconflict
      refine .inr ⟨rfl, fun hunset => ?_, fun hkept => ?_⟩
      · rw [if_pos hunset.2] at hdecode'
        dsimp only
        rcases hfetch : MemberDb.fetchMember m.id.server m.id.user _ with e | m'
        · exact ⟨e, rfl⟩
        · obtain ⟨doc', hget, -, hsome⟩ := MemberDb.fetchMember_ok.mp hfetch
          obtain rfl := some.inj (hdoc'.symm.trans hget)
          cases hdecode'.symm.trans hsome
      · rw [if_neg fun hjoined => hkept ⟨rfl, hjoined⟩] at hdecode'
        exact MemberDb.fetchMember_ok.mpr ⟨_, hdoc', hdeparted, hdecode'⟩
    · rw [MemberDb.updateMember, hconflict, if_pos rfl] at h
      obtain ⟨rfl, rfl⟩ := Prod.mk.inj h
      exact .inl ⟨rfl, _, rfl⟩

namespace MemberStore

/-- A request that takes the join date away. -/
def Forgets (D : MemberStore σ) (data : DataMemberEdit) : Prop :=
  D.unsetsJoinedAt = true ∧ .joinedAt ∈ data.remove

variable {D : MemberStore σ} {services : Services} {user : User} {clock : Stream' Timestamp}
  {serverId memberId : String} {data : DataMemberEdit} {server : Server} {m : Member} {s s' : σ}

/-- The edited record is stored, and the request has passed its checks. -/
structure EditStored (D : MemberStore σ) (services : Services) (user : User)
    (clock : Stream' Timestamp) (server : Server) (memberId : String) (data : DataMemberEdit)
    (m : Member) (s s' : σ) (c : EditContext) (avatar : Option File)
    (q : DatabasePermissionQuery) : Prop where
  member : c.member = m
  resolved : resolveAvatar services user data.avatar = .ok avatar
  forgotten : D.Forgets data → ∃ e, (D.database s').fetchMember server.id memberId = .error e
  stored : ¬ D.Forgets data →
    (D.database s').fetchMember server.id memberId = .ok (data.applyTo avatar m)
  actor : actorPermissions (D.database s) user clock server = some (c.permissions, q)
  ranking : ∃ rank q', DatabasePermissionQuery.getMemberRank.run q = some (rank, q') ∧
    c.ourRanking = rank.getD i64Min
  guards : Guards user server c data

/-- **What a request to edit does**, whatever its outcome: nothing and an error, or it has
passed its checks and stores the edited record. -/
theorem edit_cases (hserver : (D.database s).fetchServer serverId = .ok server)
    (hm : (D.database s).fetchMember server.id memberId = .ok m)
    (hid : m.id = ⟨server.id, memberId⟩) {outcome : Except (Fault ErrorType) Member}
    (h : exec (edit D.toDriver services user clock serverId memberId data) s = (outcome, s')) :
    (s' = s ∧ ∃ e, outcome = .error e) ∨
      ∃ c avatar q, D.EditStored services user clock server memberId data m s s' c avatar q := by
  rw [edit] at h
  rcases hchecks : exec (editChecks D.toDriver services user clock serverId memberId data) s
    with ⟨e | c, s₁⟩
  · obtain rfl := ReadOnly.of_exec hchecks
    rw [exec_bind_of_error hchecks] at h
    obtain ⟨rfl, rfl⟩ := Prod.mk.inj h
    exact .inl ⟨rfl, e, rfl⟩
  obtain ⟨rfl, server', q, rank, q', hserver', hmember, hactor, hrank, hranking, hguards⟩ :=
    editChecks_ok hchecks
  obtain rfl := ok.inj (hserver.symm.trans hserver')
  obtain rfl := ok.inj (hm.symm.trans hmember)
  rw [exec_bind_of_ok hchecks] at h
  rcases hdiscard : discardAvatar services c.member data with e | ⟨⟩
  · rw [exec_bind_of_error (exec_ofExcept_error hdiscard _)] at h
    obtain ⟨rfl, rfl⟩ := Prod.mk.inj h
    exact .inl ⟨rfl, _, rfl⟩
  rw [exec_bind_of_ok (exec_ofExcept_ok.mpr ⟨hdiscard, rfl⟩)] at h
  rcases havatar : resolveAvatar services user data.avatar with e | avatar
  · rw [exec_bind_of_error (exec_ofExcept_error havatar _)] at h
    obtain ⟨rfl, rfl⟩ := Prod.mk.inj h
    exact .inl ⟨rfl, _, rfl⟩
  rw [exec_bind_of_ok (exec_ofExcept_ok.mpr ⟨havatar, rfl⟩)] at h
  -- what the driver makes of the update
  have hread : (D.database s₁).fetchMember c.member.id.server c.member.id.user = .ok c.member := by
    rw [hid]
    exact hm
  rcases hupdate : exec (D.updateMember c.member.id (data.toPartial avatar) data.remove) s₁
    with ⟨outcome', s₂⟩
  rw [Member.update, LawfulMonad.bind_assoc] at h
  change exec (D.updateMember (data.applyTo avatar c.member).id _ _ >>= _) s₁ = _ at h
  rw [DataMemberEdit.applyTo_id] at h
  rcases D.updateMember_cases rfl hread hupdate with ⟨rfl, e, rfl⟩ | ⟨rfl, hstored⟩
  · rw [exec_bind_of_error hupdate] at h
    obtain ⟨rfl, rfl⟩ := Prod.mk.inj h
    exact .inl ⟨rfl, e, rfl⟩
  rw [exec_bind_of_ok hupdate] at h
  obtain rfl : s' = s₂ := ReadOnly.of_exec h
  rw [hid] at hstored
  exact .inr ⟨c, avatar, q, rfl, havatar, hstored.1, hstored.2, hactor,
    ⟨rank, q', hrank, hranking⟩, hguards⟩

end MemberStore

end DawnChat
