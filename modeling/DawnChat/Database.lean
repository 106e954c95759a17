/-
DawnChat/Database.lean

The database (`core/database/src/drivers`, `core/database/src/models/*/ops`).

`Database` is the read side as the permission and event code uses it: one
function per query, each of which may fail.  Results about that code hold for
every `Database`, hence for every driver.

`Driver σ` is a database whose contents have type `σ`: it reads them through a
`Database` and changes them through request handlers.  `ReferenceDb` is the
in-memory driver, a record of hash maps.  Queries that it leaves as `todo!()`
panic, so the two mutual-id queries return `none` for it.
-/
import DawnChat.Models.Channels
import DawnChat.Models.Messages
import DawnChat.Models.Payload

namespace DawnChat

open RustStd Fallible List

/-- The read side of a database. -/
structure Database where
  fetchUser : String → Result User
  fetchUsers : List String → Result (List User)
  /-- Ids of servers that both users share; `none` when the driver panics. -/
  fetchMutualServerIds : String → String → Option (Result (List String))
  /-- Ids of channels that both users are in; `none` when the driver panics. -/
  fetchMutualChannelIds : String → String → Option (Result (List String))
  fetchServer : String → Result Server
  fetchServers : List String → Result (List Server)
  /-- Fetch a server member by server id and user id. -/
  fetchMember : String → String → Result Member
  /-- Fetch multiple members of a server by their user ids. -/
  fetchMembers : String → List String → Result (List Member)
  fetchAllMemberships : String → Result (List Member)
  fetchChannel : String → Result Channel
  fetchChannels : List String → Result (List Channel)
  findDirectMessages : String → Result (List Channel)
  fetchPolicyChanges : Result (List PolicyChange)
  fetchEmojiByParentIds : List String → Result (List Emoji)
  /-- Fetch a subset of user settings, by keys. -/
  fetchUserSettings : String → List String → Result UserSettings
  fetchUnreads : String → Result (List ChannelUnread)

/-- Member queries answer with records of the user or the server asked for. -/
structure Database.RecordsKeyed (db : Database) : Prop where
  memberships : ∀ {userId members}, db.fetchAllMemberships userId = .ok members →
    ∀ m ∈ members, m.id.user = userId
  members : ∀ {serverId ids members}, db.fetchMembers serverId ids = .ok members →
    ∀ m ∈ members, m.id.server = serverId

/-- A database whose contents have type `σ`. -/
structure Driver (σ : Type) where
  database : σ → Database
  updateServer : String → PartialServer → List FieldsServer → Request σ Unit
  insertRole : String → Role → Request σ Unit
  updateRole : String → String → PartialRole → List FieldsRole → Request σ Unit
  deleteRole : String → String → Request σ Unit
  setChannelRolePermission : String → String → OverrideField → Request σ Unit
  setRelationship : String → String → RelationshipStatus → Request σ Unit
  updateMember : MemberCompositeKey → PartialMember → List FieldsMember → Request σ Unit
  /-- The time is that of the call. -/
  softDeleteMember : MemberCompositeKey → Timestamp → Request σ Unit
  insertBan : ServerBan → Request σ Unit

/-! ### The reference database -/

/-- Reference implementation: the collections the modelled code uses. -/
structure ReferenceDb where
  users : HashMap String User := ∅
  servers : HashMap String Server := ∅
  serverMembers : HashMap MemberCompositeKey Member := ∅
  serverBans : HashMap MemberCompositeKey ServerBan := ∅
  channels : HashMap String Channel := ∅
  policyChanges : HashMap String PolicyChange := ∅
  emojis : HashMap String Emoji := ∅
  userSettings : HashMap String UserSettings := ∅
  channelUnreads : HashMap ChannelCompositeKey ChannelUnread := ∅
  messages : Collection Message.id := ∅
  files : Collection File.id := ∅
  fileHashes : Collection FileHash.id := ∅
  ratelimitEvents : Collection RatelimitEvent.id := ∅
  deriving Inhabited

namespace ReferenceDb

/-- `.get(id).cloned().ok_or_else(|| create_error!(NotFound))` -/
def get {K V : Type} [DecidableEq K] (m : HashMap K V) (k : K) : Result V :=
  match m.lookup k with
  | some v => .ok v
  | none => .error .notFound

/-- The first document that a query finds, in the order of the collection. -/
def findOne {V : Type} (documents : List V) (p : V → Bool) : Result V :=
  match documents.find? p with
  | some v => .ok v
  | none => .error .notFound

def fetchServer (db : ReferenceDb) (id : String) : Result Server := get db.servers id

def fetchMember (db : ReferenceDb) (serverId userId : String) : Result Member :=
  get db.serverMembers ⟨serverId, userId⟩

def fetchMembers (db : ReferenceDb) (serverId : String) (ids : List String) :
    Result (List Member) :=
  .ok (ids.filterMap fun id => db.serverMembers.lookup ⟨serverId, id⟩)

def fetchAllMemberships (db : ReferenceDb) (userId : String) : Result (List Member) :=
  .ok (db.serverMembers.values.filter (·.id.user = userId))

def findDirectMessages (db : ReferenceDb) (userId : String) : Result (List Channel) :=
  .ok (db.channels.values.filter (·.containsUser userId))

def fetchEmojiByParentIds (db : ReferenceDb) (parentIds : List String) : Result (List Emoji) :=
  .ok (db.emojis.values.filter fun emoji =>
    match emoji.parent with
    | .server id => parentIds.contains id
    | .detached => false)

def fetchUserSettings (db : ReferenceDb) (id : String) (filter : List String) :
    Result UserSettings := do
  let settings ← get db.userSettings id
  return HashMap.collect (settings.toList.filter fun e => filter.contains e.1)

/-- The queries of the in-memory driver. -/
def database (db : ReferenceDb) : Database where
  fetchUser := get db.users
  fetchUsers ids := ids.mapM (get db.users)
  fetchMutualServerIds _ _ := none
  fetchMutualChannelIds _ _ := none
  fetchServer := db.fetchServer
  fetchServers ids := ids.mapM (get db.servers)
  fetchMember := db.fetchMember
  fetchMembers := db.fetchMembers
  fetchAllMemberships := db.fetchAllMemberships
  fetchChannel := get db.channels
  fetchChannels ids := ids.mapM (get db.channels)
  findDirectMessages := db.findDirectMessages
  fetchPolicyChanges := .ok db.policyChanges.values
  fetchEmojiByParentIds := db.fetchEmojiByParentIds
  fetchUserSettings := db.fetchUserSettings
  fetchUnreads userId := .ok (db.channelUnreads.values.filter (·.id.user = userId))

/-- Change the server with the given id, which must exist. -/
def withServer (id : String) (f : Server → Result Server) (db : ReferenceDb) :
    Result ReferenceDb := do
  let server ← db.fetchServer id
  let server ← f server
  return { db with servers := db.servers.modify id fun _ => server }

/-- Update a server with new information. -/
def updateServer (id : String) (p : PartialServer) (remove : List FieldsServer) :
    ReferenceDb → Result ReferenceDb :=
  withServer id fun server => .ok ((remove.foldl Server.removeField server).applyOptions p)

/-- Insert a new role into server object. -/
def insertRole (serverId : String) (role : Role) : ReferenceDb → Result ReferenceDb :=
  withServer serverId fun server =>
    .ok { server with roles := server.roles.insert role.id role }

/-- Update an existing role on a server. -/
def updateRole (serverId roleId : String) (p : PartialRole) (remove : List FieldsRole) :
    ReferenceDb → Result ReferenceDb :=
  withServer serverId fun server =>
    if roleId ∈ server.roles then
      .ok { server with
        roles := server.roles.modify roleId fun role =>
          (remove.foldl Role.removeField role).applyOptions p }
    else .error .notFound

/-- Delete a role from a server.  Members and channels are left alone. -/
def deleteRole (serverId roleId : String) : ReferenceDb → Result ReferenceDb :=
  withServer serverId fun server =>
    if roleId ∈ server.roles then .ok { server with roles := server.roles.erase roleId }
    else .error .notFound

/-- Insert channel role permissions.  A role without an override is an error. -/
def setChannelRolePermission (channelId roleId : String) (permissions : OverrideField)
    (db : ReferenceDb) : Result ReferenceDb :=
  match db.channels.lookup channelId with
  | some (.textChannel c) =>
    if roleId ∈ c.rolePermissions then
      let c := { c with
        rolePermissions := (c.rolePermissions.erase roleId).insert roleId permissions }
      .ok { db with channels := db.channels.modify channelId fun _ => .textChannel c }
    else .error .notFound
  | _ => .error .notFound

/-- Set relationship with another user. -/
def setRelationship (userId targetId : String) (status : RelationshipStatus)
    (db : ReferenceDb) : Result ReferenceDb := do
  let user ← get db.users userId
  return { db with
    users := db.users.modify userId fun _ => user.withRelationship targetId status }

/-- Update information for a server member. -/
def updateMember (id : MemberCompositeKey) (p : PartialMember) (remove : List FieldsMember)
    (db : ReferenceDb) : Result ReferenceDb := do
  let member ← get db.serverMembers id
  return { db with
    serverMembers := db.serverMembers.modify id fun _ =>
      (remove.foldl Member.removeField member).applyOptions p }

/-- Soft delete a member.  What is to be kept of a member in timeout is not
implemented, and the driver panics. -/
def softDeleteMember (id : MemberCompositeKey) (now : Timestamp) : Request ReferenceDb Unit := do
  let member ← Handler.read fun db => get db.serverMembers id
  if member.inTimeout now then Handler.ofOption none
  else Handler.write fun db => .ok { db with serverMembers := db.serverMembers.erase id }

/-- Insert new ban into database. -/
def insertBan (ban : ServerBan) (db : ReferenceDb) : Result ReferenceDb :=
  if ban.id ∈ db.serverBans then .error (.databaseError "insert" "ban")
  else .ok { db with serverBans := db.serverBans.insert ban.id ban }

/-- The in-memory driver. -/
def driver : Driver ReferenceDb where
  database := database
  updateServer id p remove := Handler.write (updateServer id p remove)
  insertRole serverId role := Handler.write (insertRole serverId role)
  updateRole serverId roleId p remove := Handler.write (updateRole serverId roleId p remove)
  deleteRole serverId roleId := Handler.write (deleteRole serverId roleId)
  setChannelRolePermission channelId roleId permissions :=
    Handler.write (setChannelRolePermission channelId roleId permissions)
  setRelationship userId targetId status := Handler.write (setRelationship userId targetId status)
  updateMember id p remove := Handler.write (updateMember id p remove)
  softDeleteMember := softDeleteMember
  insertBan ban := Handler.write (insertBan ban)

/-! #### What a write does to the stored server -/

@[simp] theorem get_ok {K V : Type} [DecidableEq K] {m : HashMap K V} {k : K} {v : V} :
    get m k = .ok v ↔ m.lookup k = some v := by
  rcases h : m.lookup k with - | v' <;> simp [get, h]

theorem findOne_ok {V : Type} {documents : List V} {p : V → Bool} {v : V}
    (h : findOne documents p = .ok v) : v ∈ documents ∧ p v = true := by
  rw [findOne] at h
  split at h
  · next hfind =>
    obtain rfl := Except.ok.inj h
    exact ⟨mem_of_find?_eq_some hfind, find?_some hfind⟩
  · cases h

theorem exists_findOne {V : Type} {documents : List V} {p : V → Bool} {v : V}
    (hmem : v ∈ documents) (hv : p v = true) : ∃ w, findOne documents p = .ok w := by
  have hsome : (documents.find? p).isSome = true := find?_isSome.mpr ⟨v, hmem, hv⟩
  obtain ⟨w, hw⟩ := Option.isSome_iff_exists.mp hsome
  exact ⟨w, by rw [findOne, hw]⟩

variable {id : String} {db : ReferenceDb} {server : Server}

/-- A write to a stored server succeeds when the change does, and it stores the
changed server. -/
theorem withServer_eq (h : db.fetchServer id = .ok server) (f : Server → Result Server) :
    withServer id f db = (f server).map fun server' =>
      { db with servers := db.servers.modify id fun _ => server' } := by
  rcases hf : f server with e | server' <;>
    simp [withServer, h, hf, bind, Except.bind, pure, Except.pure, Except.map]

theorem fetchServer_modify {server' : Server} (h : db.fetchServer id = .ok server) :
    fetchServer { db with servers := db.servers.modify id fun _ => server' } id = .ok server' := by
  have h' : db.servers.lookup id = some server := get_ok.mp h
  show get (db.servers.modify id fun _ => server') id = .ok server'
  rw [get_ok, HashMap.lookup_modify, h']
  rfl

theorem updateMember_eq {id : MemberCompositeKey} {m : Member}
    (h : db.serverMembers.lookup id = some m) (p : PartialMember) (remove : List FieldsMember) :
    updateMember id p remove db = .ok { db with
      serverMembers := db.serverMembers.modify id fun _ =>
        (remove.foldl Member.removeField m).applyOptions p } := by
  rw [updateMember, get_ok.mpr h]
  rfl

/-- The in-memory driver answers with the right records when each is stored
under its own key. -/
theorem recordsKeyed (h : ∀ e ∈ db.serverMembers.toList, e.2.id = e.1) :
    db.database.RecordsKeyed where
  memberships := by
    intro userId members hmembers m hm
    obtain rfl := Except.ok.inj hmembers
    simpa using (mem_filter.mp hm).2
  members := by
    intro serverId ids members hmembers m hm
    obtain rfl := Except.ok.inj hmembers
    obtain ⟨id, -, hlookup⟩ := mem_filterMap.mp hm
    have hid : m.id = ⟨serverId, id⟩ := h (⟨serverId, id⟩, m) (HashMap.mem_toList_iff.mpr hlookup)
    rw [hid]

end ReferenceDb

end DawnChat
