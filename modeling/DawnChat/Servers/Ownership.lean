/-
DawnChat/Servers/Ownership.lean

Owners of servers, on the MongoDB driver
(`delta/src/routes/servers/{server_create,server_delete,server_edit,member_remove,ban_create}.rs`
and `delta/src/routes/invites/invite_join.rs`).

The owner of a server is a field of the server, who is a member is in another collection and
who is banned in a third.  Each route guards one of them: a new owner has to be a member, the
owner can be neither kicked nor banned, the owner who leaves deletes the server, and a ban
removes the member before it is written.

`Owned` ties the three together: owners are members, and no member is banned.  Every request
keeps it (`owned_step`), and only the owner's own request removes a server, so both hold along
every history (`owners_always`).
-/
import DawnChat.Channels.Groups
import DawnChat.Members.Ban
import DawnChat.Routes.Moderation
import DawnChat.Servers.Mongo

namespace DawnChat

open RustStd Fallible Handler Run Collection HashMap MemberCall MongoStore Option MemberDb Prod

/-! ### The routes -/

namespace MongoStore

/-- Find an invite by its code, or a server that can be discovered by its id. -/
def findInvite (code : String) (s : MongoStore) : Result StoredInvite :=
  match s.channelInvites.lookup code with
  | some invite => .ok invite
  | none =>
    match s.db.servers.lookup code with
    | some server =>
      match server.discoverable, server.channels with
      | true, channel :: _ => .ok (.server code server.id server.owner channel)
      | _, _ => .error .notFound
    | none => .error .notFound

/-- Delete a server, its channels with their invites, its members and its bans. -/
def deleteServer (id : String) (s : MongoStore) : MongoStore :=
  let channels := MongoDb.channelsOfServer id s.db
  { s with
    db := MongoDb.deleteServer id s.db
    memberDb :=
      { members := s.memberDb.members.retain (·.id.server ≠ id)
        bans := s.memberDb.bans.retain (·.id.server ≠ id) }
    channelInvites := s.channelInvites.retain fun _ invite => !channels.contains invite.channel }

section Routes

variable (settings : Settings) (rest : Driver MongoStore) (services : Services) (user : User)
  (clock : Stream' Timestamp)

/-- Check if this user can acquire another server. -/
def canAcquireServer : Request MongoStore Unit := do
  let count ← read fun s => .ok (s.memberDb.fetchServerCount user.id)
  let max := (user.limits settings).servers
  throwIf (¬ count ≤ max) (.tooManyServers max)

/-- The channels of the server that the new member is told of. -/
def viewableChannels (server : Server) : Option (List Channel) → Request MongoStore (List Channel)
  | some channels => pure channels
  | none => do
      let s ← get
      let existingChannels ← ofExcept
        ((database rest s).fetchChannels server.channels)
      onDb (visibleChannels
        ((DatabasePermissionQuery.new (database rest s) user clock.tail).withServer server)
        existingChannels)

/-- Create a new member in a server. -/
def createMember (server : Server) (channels : Option (List Channel)) :
    Request MongoStore (Member × List Channel) := do
  let member ← onMembers (MemberDb.createMember server.id user.id clock.head)
  let channels ← viewableChannels rest user clock server channels
  let s ← get
  let _ ← ofExcept ((database rest s).fetchEmojiByParentIds [server.id])
  return (member, channels)

/-- Create a new server. -/
def createServer (data : DataCreateServer) (serverId channelId : String) :
    Request MongoStore Unit := do
  throwIf (user.bot.isSome = true) .isBot
  let restricted := settings.features.limits.global.restrictServerCreation
  throwIf (restricted ≠ [] ∧ user.id ∉ restricted) .cantCreateServers
  ofExcept data.validate
  canAcquireServer settings user
  let server := data.server serverId user.id
  let channel ← createServerChannel settings rest server channelId { name := "General" } false
  let server := { server with channels := [channel.id] }
  onDb (write (MongoDb.insertServer server))
  let _ ← createMember rest user clock server (some [channel])

/-- Join an invite by its code. -/
def joinInvite (code : String) : Request MongoStore Unit := do
  throwIf (user.bot.isSome = true) .isBot
  canAcquireServer settings user
  match ← read (findInvite code) with
  | .server _ serverId _ _ =>
    let server ← read fun s => s.db.fetchServer serverId
    let _ ← createMember rest user clock server none
  | .group _ _ channelId =>
    let channel ← read fun s => ReferenceDb.get s.db.channels channelId
    onDb (Groups.addUserToGroup settings channel user)
    let _ ← read fun s =>
      (database rest s).fetchUsers (channel.recipients ++ [user.id])

/-- Delete the voice channels of a server, one by one. -/
def deleteVoiceChannels (deleteVoiceChannel : String → Server → Option (Result Unit))
    (server : Server) : List String → Request MongoStore Unit
  | [] => pure ()
  | id :: ids => do
      voiceOperation (deleteVoiceChannel id server)
      deleteVoiceChannels deleteVoiceChannel server ids

/-- Deletes a server if owner otherwise leaves. -/
def deleteOrLeave (deleteVoiceChannel : String → Server → Option (Result Unit))
    (target : String) : Request MongoStore Unit := do
  let server ← read fun s => s.db.fetchServer target
  let member ← read fun s => s.memberDb.fetchMember target user.id
  if server.owner = user.id then do
    deleteVoiceChannels deleteVoiceChannel server server.channels
    write fun s => .ok (s.deleteServer server.id)
  else do
    voiceOperation (services.removeFromVoiceChannel user.id server)
    member.remove (driver rest) clock.head

end Routes

end MongoStore

/-- A request that can change who owns a server, who is in it or who is banned. -/
inductive OwnershipRequest where
  | create (data : DataCreateServer) (serverId channelId : String)
  | join (code : String)
  | edit (validatedTicket : Bool) (target : String) (data : DataEditServer)
  | kick (serverId memberId : String)
  | ban (serverId target : String) (data : DataBanCreate)
  | deleteOrLeave (target : String)

/-- What the requests use besides the collections. -/
structure Surroundings where
  settings : Settings
  files : ServerFiles
  services : Services
  /-- `delete_voice_channel` -/
  deleteVoiceChannel : String → Server → Option (Result Unit)
  /-- What else the database driver does. -/
  rest : Driver MongoStore

namespace OwnershipRequest

/-- Serve a request of a user. -/
def perform (env : Surroundings) (user : User) (clock : Stream' Timestamp) :
    OwnershipRequest → Request MongoStore Unit
  | create data serverId channelId =>
    MongoStore.createServer env.settings env.rest user clock data serverId channelId
  | join code => MongoStore.joinInvite env.settings env.rest user clock code
  | edit validatedTicket target data => do
      let _ ← Servers.edit (MongoStore.driver env.rest) env.files user clock validatedTicket
        target data
  | kick serverId memberId =>
    DawnChat.kick (MongoStore.driver env.rest) env.services user clock serverId memberId
  | ban serverId target data => do
      let _ ← DawnChat.ban (MongoStore.driver env.rest) env.services user clock serverId target
        data
  | deleteOrLeave target =>
    MongoStore.deleteOrLeave env.rest env.services user clock env.deleteVoiceChannel target

end OwnershipRequest

/-! ### Members and bans -/

namespace MemberDb

variable {db : MemberDb} {id k : MemberCompositeKey} {now : Timestamp}

theorem bans_createMember (id : MemberCompositeKey) (now : Timestamp) (db : MemberDb) :
    ((createMember id.server id.user now).exec db).2.bans = db.bans := by
  by_cases hturned : (db.bans.get? id).isSome = true ∨
      (db.members.get? id).any (·.isMember) = true
  · rw [store_createMember_of_turnedAway hturned]
  · rw [not_or, Bool.not_eq_true, Bool.not_eq_true] at hturned
    rw [exec_createMember hturned.1 hturned.2, store_bind_pure, exec_insertOrMergeMember]
    split
    · rfl
    · rw [insertMember]
      rcases db.members.get? id with - | doc <;> rfl

theorem bans_softDeleteMember (id : MemberCompositeKey) (now : Timestamp) (db : MemberDb) :
    ((softDeleteMember id now).exec db).2.bans = db.bans := by
  refine store_of_get_bind (P := fun db' : MemberDb => db'.bans = db.bans) ?_
  rcases fetchMember id.server id.user db with e | member
  · rfl
  · show ((departOrDelete id member now).exec db).2.bans = db.bans
    rw [departOrDelete]
    split
    · rcases member.timeout with - | timeout <;> rfl
    · rfl

/-- Whoever is removed is no member any more, and everybody else is as before. -/
theorem isMember_softDeleteMember (id k : MemberCompositeKey) (now : Timestamp) (db : MemberDb) :
    ((softDeleteMember id now).exec db).2.isMember k = (decide (k ≠ id) && db.isMember k) := by
  rw [isMember_eq, isMember_eq, get?_softDeleteMember, effect]
  by_cases hk : k = id
  · subst hk
    rw [if_pos rfl, decide_eq_false (not_not.mpr rfl), Bool.false_and]
    rcases db.members.get? k with - | doc
    · rfl
    · rw [bind_some]
      split
      · rcases doc.timeout with - | timeout
        · rfl
        · rw [bind_some]
          split <;> rfl
      · next hmember =>
        rw [any_some]
        exact Bool.eq_false_iff.mpr hmember
  · rw [if_neg (Ne.symm hk), decide_eq_true hk, Bool.true_and]

/-- Nobody is put out by somebody who joins. -/
theorem isMember_of_createMember (h : db.isMember k = true) :
    ((createMember id.server id.user now).exec db).2.isMember k = true := by
  rw [isMember_eq] at h ⊢
  rw [get?_createMember, effect]
  split
  · obtain ⟨doc, hdoc, hmember⟩ := any_eq_true _ _ |>.mp h
    have hdeparted : doc.departed = false := by
      rw [MemberDocument.isMember, Bool.and_eq_true, Bool.not_eq_true'] at hmember
      exact hmember.1
    rw [hdoc, elim_some, if_neg (by rw [hdeparted]; exact Bool.false_ne_true)]
    exact hmember
  · exact h

/-- A new member is not banned. -/
theorem isMember_createMember_cases
    (h : ((createMember id.server id.user now).exec db).2.isMember k = true) :
    db.isMember k = true ∨ k = id ∧ db.isBanned k = false := by
  rw [isMember_eq, get?_createMember, effect] at h
  split at h
  · next hk => exact .inr ⟨hk.1.symm, by rw [isBanned_eq]; exact hk.2⟩
  · exact .inl (by rwa [isMember_eq])

/-- Whoever has no record and is not banned becomes a member. -/
theorem isMember_createMember_self (hmember : db.members.get? id = none)
    (hban : db.bans.get? id = none) :
    ((createMember id.server id.user now).exec db).2.isMember id = true := by
  rw [isMember_eq, get?_createMember, effect, hban, hmember, if_pos ⟨rfl, rfl⟩]
  rfl

end MemberDb

/-! ### Owners -/

namespace MongoStore

/-- Servers are stored under their ids, owners are members, and no member is banned. -/
structure Owned (s : MongoStore) : Prop where
  keyed : s.db.servers.KeyedBy Server.id
  owner : ∀ id server, s.db.servers.lookup id = some server →
    s.memberDb.isMember ⟨id, server.owner⟩ = true
  notBanned : ∀ id, s.memberDb.isMember id = true → s.memberDb.isBanned id = false

/-- Owners are members and no server has gone. -/
structure Kept (s₀ s : MongoStore) : Prop extends s.Owned where
  servers : ∀ id, id ∈ s₀.db.servers → id ∈ s.db.servers

theorem Owned.kept {s : MongoStore} (h : s.Owned) : Kept s s := ⟨h, fun _ hid => hid⟩

section Writes

variable {s₀ s : MongoStore} {db : ReferenceDb} {server : Server}

/-- A write that does not concern servers. -/
theorem Kept.of_servers (h : Kept s₀ s) (hservers : db.servers = s.db.servers) :
    Kept s₀ { s with db := db } where
  keyed := hservers ▸ h.keyed
  owner id server hserver := h.owner id server (hservers ▸ hserver)
  notBanned := h.notBanned
  servers id hid := hservers ▸ h.servers id hid

/-- Somebody joins. -/
theorem Kept.createMember (h : Kept s₀ s) (id : MemberCompositeKey) (now : Timestamp) :
    Kept s₀ { s with
      memberDb := (exec (MemberDb.createMember id.server id.user now) s.memberDb).2 } where
  keyed := h.keyed
  owner id' server hserver := MemberDb.isMember_of_createMember (h.owner id' server hserver)
  notBanned k hk := by
    rw [isBanned_eq, MemberDb.bans_createMember, ← isBanned_eq]
    rcases isMember_createMember_cases hk with hbefore | ⟨-, hban⟩
    · exact h.notBanned k hbefore
    · exact hban
  servers := h.servers

/-- Somebody who is not the owner is removed. -/
theorem Kept.softDeleteMember (h : Kept s₀ s) {id : MemberCompositeKey}
    (hserver : s.db.servers.lookup id.server = some server) (howner : id.user ≠ server.owner)
    (now : Timestamp) :
    Kept s₀ { s with
      memberDb := (exec (softDeleteMember id now) s.memberDb).2 } where
  keyed := h.keyed
  owner id' server' hserver' := by
    rw [isMember_softDeleteMember, h.owner id' server' hserver', Bool.and_true]
    refine decide_eq_true fun hid => howner ?_
    subst hid
    obtain rfl := some.inj (hserver.symm.trans hserver')
    rfl
  notBanned k hk := by
    rw [isBanned_eq, bans_softDeleteMember, ← isBanned_eq]
    rw [isMember_softDeleteMember, Bool.and_eq_true] at hk
    exact h.notBanned k hk.2
  servers := h.servers

/-- Somebody who is not a member is banned. -/
theorem Kept.insertBan (h : Kept s₀ s) {ban : ServerBan} {memberDb : MemberDb}
    (hban : insertBan ban s.memberDb = .ok memberDb)
    (hmember : s.memberDb.isMember ban.id = false) : Kept s₀ { s with memberDb := memberDb } := by
  rw [MemberDb.insertBan] at hban
  split at hban
  · cases hban
  · obtain rfl := Except.ok.inj hban
    refine ⟨⟨h.keyed, h.owner, fun k hk => ?_⟩, h.servers⟩
    have hne : k ≠ ban.id := by
      rintro rfl
      exact Bool.false_ne_true (hmember.symm.trans hk)
    rw [isBanned_eq, get?_insert, if_neg hne, ← isBanned_eq]
    exact h.notBanned k hk

/-- The server gets another owner, or keeps its own. -/
theorem Kept.updateServer (h : Kept s₀ s) {changes : PartialServer} {remove : List FieldsServer}
    (hupdate : MongoDb.updateServer server.id changes remove s.db = .ok db)
    (hid : changes.id = none) (howner : ∀ owner, changes.owner = some owner →
      s.memberDb.isMember ⟨server.id, owner⟩ = true) : Kept s₀ { s with db := db } := by
  obtain ⟨-, rfl⟩ := ite_error_eq_ok.mp hupdate
  have hkeeps := fun stored : Server => Server.foldl_removeField_keeps stored remove
  refine ⟨⟨h.keyed.modify fun stored _ => ?_, fun id stored hstored => ?_, h.notBanned⟩,
    fun id hid => mem_modify.mpr (h.servers id hid)⟩
  · rw [Server.applyOptions, hid]
    exact (hkeeps stored).1
  · rw [lookup_modify_eq] at hstored
    split at hstored
    · next hkey =>
      obtain ⟨before, hbefore, rfl⟩ := map_eq_some_iff.mp hstored
      rw [Server.applyOptions]
      dsimp only
      rcases hnew : changes.owner with - | owner
      · rw [getD_none, (hkeeps before).2.1]
        exact h.owner id before hbefore
      · rw [hkey]
        exact howner owner hnew
    · exact h.owner id stored hstored

/-- A server whose owner is a member. -/
theorem Kept.insertServer (h : Kept s₀ s) (hinsert : MongoDb.insertServer server s.db = .ok db)
    (howner : s.memberDb.isMember ⟨server.id, server.owner⟩ = true) :
    Kept s₀ { s with db := db } := by
  obtain ⟨-, rfl⟩ := ite_error_eq_ok.mp hinsert
  refine ⟨⟨h.keyed.insert server, fun id stored hstored => ?_, h.notBanned⟩,
    fun id hid => (AList.mem_insert _).mpr (.inr (h.servers id hid))⟩
  rcases lookup_insert_eq_some.mp hstored with ⟨rfl, rfl⟩ | ⟨-, hbefore⟩
  · exact howner
  · exact h.owner id stored hbefore

theorem servers_deleteServer (id : String) (s : MongoStore) :
    (s.deleteServer id).db.servers = s.db.servers.erase id := by
  show (MongoDb.deleteServer id s.db).servers = _
  exact congrArg (AList.erase id) (MongoDb.deleteBulkMessages_keeps _ s.db).servers

/-- A server goes, with its members and its bans. -/
theorem Owned.deleteServer (h : s.Owned) (id : String) : (s.deleteServer id).Owned := by
  have hservers := servers_deleteServer id s
  have hmembers : ∀ k, (s.deleteServer id).memberDb.isMember k
      = (decide (k.server ≠ id) && s.memberDb.isMember k) := fun k => by
    rw [isMember_eq, isMember_eq]
    refine (congrArg (Option.any _) (get?_retain _ _ k)).trans ?_
    rcases hdoc : s.memberDb.members.get? k with - | doc
    · rw [any_none, Bool.and_false]
      rfl
    · have hkey : doc.id = k := (get?_eq_some.mp hdoc).2
      subst hkey
      by_cases hid : doc.id.server = id <;> simp [hid]
  refine ⟨fun k server hserver => ?_, fun k server hserver => ?_, fun k hk => ?_⟩
  · rw [hservers] at hserver
    exact h.keyed (lookup_erase_eq_some.mp hserver).2
  · rw [hservers] at hserver
    obtain ⟨hne, hserver⟩ := lookup_erase_eq_some.mp hserver
    rw [hmembers, h.owner k server hserver, Bool.and_true]
    exact decide_eq_true hne
  · rw [hmembers, Bool.and_eq_true] at hk
    have hfree := h.notBanned k hk.2
    rw [isBanned_eq, isSome_eq_false_iff, isNone_iff_eq_none] at hfree ⊢
    refine (get?_retain _ _ k).trans ?_
    rw [hfree]
    rfl

end Writes

/-! ### What the requests leave -/

section Requests

variable {settings : Settings} {rest : Driver MongoStore} {services : Services} {user : User}
  {clock : Stream' Timestamp} {s₀ s : MongoStore}

/-- No record and no ban is about the server. -/
def Unused (serverId : String) (s : MongoStore) : Prop :=
  (∀ doc ∈ s.memberDb.members.documents, doc.id.server ≠ serverId) ∧
    ∀ ban ∈ s.memberDb.bans.documents, ban.id.server ≠ serverId

instance (serverId : String) (s : MongoStore) : Decidable (s.Unused serverId) :=
  inferInstanceAs (Decidable (_ ∧ _))

instance {α : Type} {x : Request ReferenceDb α} [h : ReadOnly x] : ReadOnly (onDb x) where
  store s := by
    show { s with db := (exec x s.db).2 } = s
    rw [h.store s.db]

instance : ReadOnly (canAcquireServer settings user) := by
  unfold canAcquireServer
  infer_instance

instance (server : Server) (channels : Option (List Channel)) :
    ReadOnly (viewableChannels rest user clock server channels) := by
  unfold viewableChannels
  split <;> infer_instance

instance (deleteVoiceChannel : String → Server → Option (Result Unit)) (server : Server)
    (ids : List String) : ReadOnly (deleteVoiceChannels deleteVoiceChannel server ids) := by
  induction ids with unfold deleteVoiceChannels
  | nil | cons => infer_instance

/-- Creating a member is the write to the members, and the rest reads. -/
theorem store_createMember (server : Server) (channels : Option (List Channel)) :
    (exec (createMember rest user clock server channels) s).2 = { s with
      memberDb := (exec (MemberDb.createMember server.id user.id clock.head)
        s.memberDb).2 } := by
  rw [createMember, exec_bind, onMembers, exec_on]
  rcases (exec (MemberDb.createMember server.id user.id clock.head) s.memberDb).1
    with e | member
  · rfl
  · exact ReadOnly.store _

theorem get?_of_unused {serverId : String} (h : s.Unused serverId) (userId : String) :
    s.memberDb.members.get? ⟨serverId, userId⟩ = none ∧
      s.memberDb.bans.get? ⟨serverId, userId⟩ = none := by
  constructor
  · refine eq_none_iff_forall_ne_some.mpr fun doc hdoc => ?_
    obtain ⟨hmem, hid⟩ := get?_eq_some.mp hdoc
    exact h.1 doc hmem (by rw [hid])
  · refine eq_none_iff_forall_ne_some.mpr fun ban hban => ?_
    obtain ⟨hmem, hid⟩ := get?_eq_some.mp hban
    exact h.2 ban hmem (by rw [hid])

/-- A channel that is not listed yet does not concern servers. -/
theorem store_createServerChannel (settings : Settings) (rest : Driver MongoStore)
    (s : MongoStore) (server : Server) (id : String) (data : DataCreateServerChannel) :
    ∃ db, (exec (createServerChannel settings rest server id data false) s).2
      = { s with db := db } ∧ db.servers = s.db.servers := by
  let P (s' : MongoStore) : Prop := ∃ db, s' = { s with db := db } ∧ db.servers = s.db.servers
  have hs : P s := ⟨s.db, rfl, rfl⟩
  show P _
  refine store_of_throwIf_bind hs fun _ => ?_
  refine store_of_onDb_write_bind hs fun db hinsert => ⟨db, rfl, ?_⟩
  obtain ⟨-, rfl⟩ := ite_error_eq_ok.mp hinsert
  rfl

theorem kept_createServer (hs : s.Owned) (data : DataCreateServer) {serverId : String}
    (hfresh : s.Unused serverId) (channelId : String) :
    Kept s (exec
      (createServer settings rest user clock data serverId channelId) s).2 := by
  have hkept := hs.kept
  refine store_of_throwIf_bind hkept fun _ => ?_
  refine store_of_throwIf_bind hkept fun _ => ?_
  refine store_of_ofExcept_bind hkept fun _ _ => ?_
  refine ReadOnly.store_of_bind hkept fun _ _ => ?_
  obtain ⟨db, hchannel, hservers⟩ := store_createServerChannel settings rest s
    (data.server serverId user.id) channelId { name := "General" }
  have hkept' := hkept.of_servers hservers
  refine store_of_bind (fun e s₁ h => ?_) fun channel s₁ h => ?_
  · obtain rfl : s₁ = _ := (congrArg snd h).symm.trans hchannel
    exact hkept'
  · obtain rfl : s₁ = _ := (congrArg snd h).symm.trans hchannel
    refine store_of_onDb_write_bind hkept' fun db' hinsert => ?_
    rw [store_bind_pure, store_createMember]
    -- the owner is a member by the time the server counts
    obtain ⟨hmember, hban⟩ := get?_of_unused hfresh user.id
    exact (hkept'.createMember ⟨serverId, user.id⟩ clock.head).insertServer hinsert
      (MemberDb.isMember_createMember_self hmember hban)

theorem servers_addUserToGroup (settings : Settings) (user : User) (channel : Channel)
    (db : ReferenceDb) :
    (exec (Groups.addUserToGroup settings channel user) db).2.servers = db.servers := by
  let P (db' : ReferenceDb) : Prop := db'.servers = db.servers
  show P _
  cases channel with
  | group c =>
    refine store_of_ofExcept_bind (P := P) rfl fun _ _ => ?_
    refine store_of_write (P := P) rfl fun db' hadd => ?_
    obtain rfl := Except.ok.inj hadd
    rfl
  | _ => rfl

theorem kept_joinInvite (hs : s.Owned) (code : String) :
    Kept s (exec (joinInvite settings rest user clock code) s).2 := by
  have hkept := hs.kept
  refine store_of_throwIf_bind hkept fun _ => ?_
  refine ReadOnly.store_of_bind hkept fun _ _ => ?_
  refine store_of_read_bind hkept fun invite _ => ?_
  cases invite with
  | server code serverId creator channel =>
    refine store_of_read_bind hkept fun server _ => ?_
    rw [store_bind_pure, store_createMember]
    exact hkept.createMember ⟨server.id, user.id⟩ clock.head
  | group code creator channelId =>
    refine store_of_read_bind hkept fun channel _ => ?_
    have hadded := hkept.of_servers (servers_addUserToGroup settings user channel s.db)
    refine store_of_bind (fun e s₁ h => ?_) fun _ s₁ h => ?_
    · obtain rfl := congrArg snd h
      exact hadded
    · obtain rfl := congrArg snd h
      rw [store_bind_pure, ReadOnly.store]
      exact hadded

theorem kept_edit (hs : s.Owned) (files : ServerFiles) (validatedTicket : Bool) (target : String)
    (data : DataEditServer) :
    Kept s (exec (Servers.edit (driver rest) files user clock validatedTicket target data)
      s).2 := by
  refine Servers.store_of_edit hs.kept fun server changes _ hchecked => ?_
  refine store_of_onDb_write hs.kept fun db hupdate => ?_
  refine hs.kept.updateServer hupdate hchecked.id fun owner howner => ?_
  obtain ⟨member, hmember⟩ := hchecked.owner owner howner
  have hfetch : fetchMember server.id owner s.memberDb = .ok member := hmember
  rw [isMember, hfetch]
  rfl

/-! ### Kicks, bans and departures -/

/-- The store without somebody who was a member. -/
def removed (s : MongoStore) (id : MemberCompositeKey) (now : Timestamp) : MongoStore :=
  { s with memberDb := (exec (MemberDb.softDeleteMember id now) s.memberDb).2 }

section Removal

variable {server : Server} {query : DatabasePermissionQuery} {member : Member}
  {P : MongoStore → Prop} {s₁ : MongoStore} {serverId : String}

theorem store_of_removeBelowUs (hs : P s) (hremoved : P (s.removed member.id query.clock.head)) :
    P (exec (removeBelowUs (driver rest) server query member) s).2 := by
  refine store_of_ofOption_bind hs fun rank _ => ?_
  exact store_of_throwIf_bind hs fun _ => hremoved

/-- A removal that succeeds has removed the member. -/
theorem removed_of_removeBelowUs {u : Unit}
    (h : exec (removeBelowUs (driver rest) server query member) s = (.ok u, s₁)) :
    s₁ = s.removed member.id query.clock.head := by
  obtain ⟨rank, -, hrest⟩ := exec_ofOption_bind_ok.mp h
  obtain ⟨_, -, hremove⟩ := exec_throwIf_bind_ok.mp hrest
  exact (congrArg snd hremove).symm

instance (D : Driver MongoStore) (serverId memberId : String) (permission : ChannelPermission) :
    ReadOnly (removalChecks D user clock serverId memberId permission) := by
  unfold removalChecks
  infer_instance

/-- Who is fetched as a member of a server has a record under that server's id. -/
theorem id_of_fetchMember {userId : String}
    (h : fetchMember serverId userId s.memberDb = .ok member) :
    member.id = ⟨serverId, userId⟩ := by
  obtain ⟨doc, -, -, hid, -⟩ := exists_of_fetchMember
    (show fetchMember (⟨serverId, userId⟩ : MemberCompositeKey).server _ _ = _ from h)
  exact hid

/-- A member who is not the owner of the server is removed. -/
theorem Kept.removed (h : Kept s₀ s) {userId : String}
    (hserver : s.db.fetchServer serverId = .ok server) (howner : userId ≠ server.owner)
    (hmember : fetchMember server.id userId s.memberDb = .ok member) (now : Timestamp) :
    Kept s₀ (s.removed member.id now) := by
  have hlookup : s.db.servers.lookup serverId = some server := ReferenceDb.get_ok.mp hserver
  have hkey : s.db.servers.lookup (⟨server.id, userId⟩ : MemberCompositeKey).server
      = some server := by
    rw [h.keyed hlookup]
    exact hlookup
  rw [id_of_fetchMember hmember]
  exact h.softDeleteMember hkey howner now

theorem kept_kick (hs : s.Owned) (serverId memberId : String) :
    Kept s (exec (kick (driver rest) services user clock serverId memberId) s).2 := by
  have hkept := hs.kept
  refine ReadOnly.store_of_bind hkept fun checked hchecks => ?_
  obtain ⟨-, hserver, howner, -⟩ := removalChecks_ok hchecks
  refine store_of_read_bind hkept fun member hmember => ?_
  have hremoved := hkept.removed hserver howner hmember checked.2.clock.head
  have hstore : Kept s
      (exec (removeBelowUs (driver rest) checked.1 checked.2 member) s).2 :=
    store_of_removeBelowUs hkept hremoved
  refine store_of_bind (fun e s₁ h => ?_) fun _ s₁ h => ?_
  · rwa [h] at hstore
  · rw [h] at hstore
    rw [ReadOnly.store]
    exact hstore

/-- Before somebody is banned they are removed, if they are a member. -/
theorem kept_removeIfMember (hs : s.Owned) {target : String}
    (hserver : s.db.fetchServer serverId = .ok server) (howner : target ≠ server.owner)
    {outcome : Except (Fault ErrorType) Unit}
    (h : exec (removeIfMember (driver rest) services server query target
      (fetchMember server.id target s.memberDb)) s = (outcome, s₁)) :
    Kept s s₁ ∧ (outcome.isOk = true → s₁.memberDb.isMember ⟨server.id, target⟩ = false) := by
  rcases hfetch : fetchMember server.id target s.memberDb with e | member
  · rw [hfetch] at h
    obtain ⟨rfl, rfl⟩ := Prod.mk.inj h
    refine ⟨hs.kept, fun _ => ?_⟩
    rw [isMember, hfetch]
    rfl
  · rw [hfetch] at h
    have hremoved := hs.kept.removed hserver howner hfetch query.clock.head
    rcases hbelow : exec (removeBelowUs (driver rest) server query member) s
      with ⟨e | u, s₂⟩
    · have hstore : Kept s (exec (removeBelowUs (driver rest) server query member) s).2 :=
        store_of_removeBelowUs hs.kept hremoved
      have hexec := (exec_bind_of_error hbelow _).symm.trans h
      obtain ⟨rfl, rfl⟩ := Prod.mk.inj hexec
      rw [hbelow] at hstore
      exact ⟨hstore, fun hok => (by cases hok)⟩
    · obtain rfl := removed_of_removeBelowUs hbelow
      have hexec := (exec_bind_of_ok hbelow _).symm.trans h
      obtain rfl := ReadOnly.of_exec hexec
      refine ⟨hremoved, fun _ => ?_⟩
      refine (isMember_softDeleteMember ..).trans ?_
      rw [id_of_fetchMember hfetch, decide_eq_false (not_not.mpr rfl), Bool.false_and]

theorem kept_ban (hs : s.Owned) (serverId target : String) (data : DataBanCreate) :
    Kept s (exec (ban (driver rest) services user clock serverId target data) s).2 := by
  have hkept := hs.kept
  refine store_of_ofExcept_bind hkept fun _ _ => ?_
  refine ReadOnly.store_of_bind hkept fun checked hchecks => ?_
  obtain ⟨-, hserver, howner, -⟩ := removalChecks_ok hchecks
  refine store_of_get_bind ?_
  refine store_of_bind (fun e s₁ h => ?_) fun _ s₁ h => ?_
  · exact (kept_removeIfMember hs hserver howner h).1
  · obtain ⟨hkept₁, hgone⟩ := kept_removeIfMember hs hserver howner h
    refine store_of_ofExcept_bind hkept₁ fun _ _ => ?_
    refine (congrArg (Kept s) (store_bind_pure _ _ s₁)).mpr ?_
    show Kept s { s₁ with memberDb := (exec (write (insertBan
      { id := ⟨checked.1.id, target⟩, reason := data.reason })) s₁.memberDb).2 }
    refine store_of_write (P := fun memberDb => Kept s { s₁ with memberDb := memberDb })
      hkept₁ fun memberDb hban => ?_
    exact hkept₁.insertBan hban (hgone rfl)

/-- The owner deletes the server, and anybody else leaves it. -/
theorem store_of_deleteOrLeave (hs : s.Owned)
    (deleteVoiceChannel : String → Server → Option (Result Unit)) (target : String)
    (hkept : ∀ s', Kept s s' → P s')
    (hdelete : ∀ server, s.db.servers.lookup target = some server → server.owner = user.id →
      P (s.deleteServer target)) :
    P (exec (deleteOrLeave rest services user clock deleteVoiceChannel target) s).2 := by
  have hstart := hkept s hs.kept
  refine store_of_read_bind hstart fun server hserver => ?_
  have hlookup : s.db.servers.lookup target = some server := ReferenceDb.get_ok.mp hserver
  have hid : server.id = target := hs.keyed hlookup
  refine store_of_read_bind hstart fun member hmember => ?_
  split
  · next howner =>
    refine ReadOnly.store_of_bind hstart fun _ _ => ?_
    refine store_of_write hstart fun s' hs' => ?_
    obtain rfl := Except.ok.inj hs'
    rw [hid]
    exact hdelete server hlookup howner
  · next howner =>
    refine ReadOnly.store_of_bind hstart fun _ _ => ?_
    rw [← hid] at hmember
    exact hkept _ (hs.kept.removed hserver (Ne.symm howner) hmember clock.head)

end Removal

end Requests

end MongoStore

/-! ### Histories -/

/-- A request, who makes it and when. -/
structure OwnershipCall where
  user : User
  clock : Stream' Timestamp
  request : OwnershipRequest

namespace OwnershipCall

/-- The store after a request, whatever the request returned. -/
def after (env : Surroundings) (s : MongoStore) (c : OwnershipCall) : MongoStore :=
  (exec (c.request.perform env c.user c.clock) s).2

def step (env : Surroundings) (s : MongoStore) (c : OwnershipCall) : Option MongoStore :=
  some (c.after env s)

/-- A new server has a new id. -/
def FreshIn (c : OwnershipCall) (s : MongoStore) : Prop :=
  match c.request with
  | .create _ serverId _ => s.Unused serverId
  | _ => True

instance (c : OwnershipCall) (s : MongoStore) : Decidable (c.FreshIn s) :=
  match h : c.request with
  | .create _ serverId _ => decidable_of_iff (s.Unused serverId) (by rw [FreshIn, h])
  | .join _ => isTrue (by rw [FreshIn, h]; trivial)
  | .edit _ _ _ => isTrue (by rw [FreshIn, h]; trivial)
  | .kick _ _ => isTrue (by rw [FreshIn, h]; trivial)
  | .ban _ _ _ => isTrue (by rw [FreshIn, h]; trivial)
  | .deleteOrLeave _ => isTrue (by rw [FreshIn, h]; trivial)

/-- A server that goes is deleted by its owner. -/
def RemovesOwn (env : Surroundings) (s : MongoStore) (c : OwnershipCall) : Prop :=
  ∀ id server, s.db.servers.lookup id = some server → id ∉ (c.after env s).db.servers →
    c.request = .deleteOrLeave id ∧ c.user.id = server.owner

end OwnershipCall

/-- The owner of every server has a record that is not marked, and no ban. -/
def MongoStore.OwnersOk (s : MongoStore) : Prop :=
  ∀ id server, s.db.fetchServer id = .ok server →
    (∃ doc, s.memberDb.members.get? ⟨id, server.owner⟩ = some doc ∧ doc.departed = false) ∧
      s.memberDb.bans.get? ⟨id, server.owner⟩ = none

theorem MongoStore.Owned.ownersOk {s : MongoStore} (h : s.Owned) : s.OwnersOk := by
  intro id server hserver
  have hmember := h.owner id server (ReferenceDb.get_ok.mp hserver)
  have hban := h.notBanned _ hmember
  rw [isBanned_eq, isSome_eq_false_iff, isNone_iff_eq_none] at hban
  rw [isMember_eq] at hmember
  obtain ⟨doc, hdoc, hdocMember⟩ := any_eq_true _ _ |>.mp hmember
  rw [MemberDocument.isMember, Bool.and_eq_true, Bool.not_eq_true'] at hdocMember
  exact ⟨⟨doc, hdoc, hdocMember.1⟩, hban⟩

namespace OwnershipCall

variable {env : Surroundings} {s : MongoStore} {c : OwnershipCall}

theorem removesOwn_of_kept (h : MongoStore.Kept s (c.after env s)) : c.RemovesOwn env s :=
  fun id server hserver hgone =>
    absurd (h.servers id (mem_iff_exists_lookup.mpr ⟨server, hserver⟩)) hgone

/-- **What every request keeps**, and who removes a server. -/
theorem owned_step (hs : s.Owned) (hfresh : c.FreshIn s) :
    (c.after env s).Owned ∧ c.RemovesOwn env s := by
  have hboth : MongoStore.Kept s (c.after env s) → (c.after env s).Owned ∧ c.RemovesOwn env s :=
    fun hkept => ⟨hkept.toOwned, removesOwn_of_kept hkept⟩
  obtain ⟨user, clock, request⟩ := c
  cases request with
  | create data serverId channelId =>
    exact hboth (kept_createServer hs data hfresh channelId)
  | join code => exact hboth (kept_joinInvite hs code)
  | edit validatedTicket target data =>
    refine hboth ?_
    rw [after, OwnershipRequest.perform, store_bind_pure]
    exact kept_edit hs env.files validatedTicket target data
  | kick serverId memberId => exact hboth (kept_kick hs serverId memberId)
  | ban serverId target data =>
    refine hboth ?_
    rw [after, OwnershipRequest.perform, store_bind_pure]
    exact kept_ban hs serverId target data
  | deleteOrLeave target =>
    refine store_of_deleteOrLeave (P := fun s' : MongoStore => s'.Owned ∧
      ∀ id server, s.db.servers.lookup id = some server → id ∉ s'.db.servers →
        OwnershipRequest.deleteOrLeave target = .deleteOrLeave id ∧ user.id = server.owner)
      hs env.deleteVoiceChannel target (fun s' hkept => ⟨hkept.toOwned, ?_⟩)
      fun server hserver howner => ⟨hs.deleteServer target, ?_⟩
    · exact fun id server hserver hgone =>
        absurd (hkept.servers id (mem_iff_exists_lookup.mpr ⟨server, hserver⟩)) hgone
    · intro id server' hserver' hgone
      have hid : id = target := by
        by_contra hne
        rw [servers_deleteServer, AList.mem_erase] at hgone
        exact hgone ⟨hne, mem_iff_exists_lookup.mpr ⟨server', hserver'⟩⟩
      subst hid
      obtain rfl := some.inj (hserver.symm.trans hserver')
      exact ⟨rfl, howner.symm⟩

/-- **Owners are members who are not banned, and only they remove their servers**, along every
history of requests by any users. -/
theorem owners_always (env : Surroundings) (hs : s.Owned) {calls : List OwnershipCall}
    (hfresh : EachStep (step env) (fun s c => c.FreshIn s) s calls) :
    Always (step env) MongoStore.OwnersOk s calls ∧
      EachStep (step env) (fun s c => c.RemovesOwn env s) s calls := by
  have hinv : Always (step env) MongoStore.Owned s calls := by
    refine always_of_eachStep (fun s c s' hs hfresh hstep => ?_) hs hfresh
    obtain rfl := some.inj hstep
    exact (owned_step hs hfresh).1
  refine ⟨hinv.imp fun s hs => hs.ownersOk, fun l c s₁ hpre hrun => ?_⟩
  have hs₁ := hinv l s₁ ((List.prefix_append l [c]).trans hpre) hrun
  exact (owned_step hs₁ (hfresh l c s₁ hpre hrun)).2

/-- Two users, and an invite to a server that does not exist yet. -/
def exampleStore : MongoStore where
  db := { users := HashMap.collect [("a", { id := "a" }), ("b", { id := "b" })] }
  channelInvites := (∅ : HashMap String StoredInvite).insert "code" (.server "code" "s" "a" "c")

def exampleSurroundings : Surroundings where
  settings := Settings.shipped
  files :=
    { markAttachmentAsDeleted := fun _ => .ok ()
      useServerIcon := fun id _ _ => .ok { id := id }
      useServerBanner := fun id _ _ => .ok { id := id } }
  services := ReferenceDb.noServices
  deleteVoiceChannel _ _ := some (.ok ())
  rest := { MongoStore.exampleRest with database := fun s => s.db.database }

/-- A server is created and given away; then its first owner leaves it and its second one
deletes it. -/
def exampleCalls : List OwnershipCall :=
  [⟨{ id := "a" }, Stream'.const 0, .create { name := "server" } "s" "c"⟩,
    ⟨{ id := "b" }, Stream'.const 0, .join "code"⟩,
    ⟨{ id := "a" }, Stream'.const 0, .edit true "s" { owner := some "b" }⟩,
    ⟨{ id := "a" }, Stream'.const 0, .deleteOrLeave "s"⟩,
    ⟨{ id := "b" }, Stream'.const 0, .deleteOrLeave "s"⟩]

theorem owned_exampleStore : exampleStore.Owned where
  keyed := keyedBy_empty
  owner _ _ hserver := by cases hserver
  notBanned _ hmember := by cases hmember

theorem owners_always_given_away :
    (∃ s, run (step exampleSurroundings) exampleStore (exampleCalls.take 4) = some s ∧
      (s.db.servers.lookup "s").map (·.owner) = some "b" ∧
      s.memberDb.isMember ⟨"s", "a"⟩ = false) ∧
    Always (step exampleSurroundings) MongoStore.OwnersOk exampleStore exampleCalls ∧
      EachStep (step exampleSurroundings) (fun s c => c.RemovesOwn exampleSurroundings s)
        exampleStore exampleCalls := by
  exact ⟨exists_run_decide (by decide +kernel),
    owners_always exampleSurroundings owned_exampleStore (by decide +kernel)⟩

end OwnershipCall

end DawnChat
