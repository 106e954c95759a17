/-
DawnChat/Servers/Store.lean

Roles of servers in MongoDB, and how a role is deleted
(`core/database/src/models/servers/ops/{mongodb,reference}.rs`).

A role is an entry of its server, and members and channels refer to it by its id.  The
MongoDB driver updates all three collections: all members of the server, one channel of the
server and the server.  The in-memory driver updates the server only.

`withoutRole` takes what concerns a role out of a document.  It says what the updates do, and
also what it is to leave everything else alone: two stores agree on the rest if they agree
once the role is taken out of their documents (`OthersKept`).  `deleteRole_iff` says for both
drivers when nothing refers to the role any more.
-/
import DawnChat.Database

namespace DawnChat

open RustStd Fallible Handler HashMap Option

/-! ### Documents without a role -/

/-- A member of the server without the role. -/
def Member.withoutRole (serverId roleId : String) (member : Member) : Member :=
  if member.id.server = serverId then
    { member with roles := member.roles.filter (· ≠ roleId) }
  else member

/-- A channel of the server without permissions for the role. -/
def Channel.withoutRole (serverId roleId : String) : Channel → Channel
  | .textChannel c =>
    if c.server = serverId then
      .textChannel { c with rolePermissions := c.rolePermissions.erase roleId }
    else .textChannel c
  | channel => channel

/-- A server without the role. -/
def Server.withoutRole (roleId : String) (server : Server) : Server :=
  { server with roles := server.roles.erase roleId }

theorem Member.withoutRole_withoutRole (serverId roleId : String) (member : Member) :
    (member.withoutRole serverId roleId).withoutRole serverId roleId
      = member.withoutRole serverId roleId := by
  by_cases h : member.id.server = serverId <;> simp [withoutRole, h]

theorem Channel.withoutRole_withoutRole (serverId roleId : String) (channel : Channel) :
    (channel.withoutRole serverId roleId).withoutRole serverId roleId
      = channel.withoutRole serverId roleId := by
  cases channel with
  | textChannel c =>
    by_cases h : c.server = serverId
    · have hgone : roleId ∉ c.rolePermissions.erase roleId := by simp [AList.mem_erase]
      simp [withoutRole, h, erase_of_notMem hgone]
    · simp [withoutRole, h]
  | _ => rfl

/-- A member of the server does not list the role any more. -/
theorem Member.notMem_withoutRole {serverId roleId : String} {member : Member}
    (h : (member.withoutRole serverId roleId).id.server = serverId) :
    roleId ∉ (member.withoutRole serverId roleId).roles := by
  by_cases hserver : member.id.server = serverId
  · simp [withoutRole, hserver]
  · rw [withoutRole, if_neg hserver] at h
    exact absurd h hserver

/-- A channel of the server has no entry for the role any more. -/
theorem Channel.notMem_withoutRole {serverId roleId : String} {channel : Channel} {c : TextChannel}
    (h : channel.withoutRole serverId roleId = .textChannel c) (hserver : c.server = serverId) :
    roleId ∉ c.rolePermissions := by
  cases channel with
  | textChannel c' =>
    rw [withoutRole] at h
    split at h <;> obtain rfl := Channel.textChannel.inj h
    · simp [AList.mem_erase]
    · next hne => exact absurd hserver hne
  | _ => cases h

/-! ### The MongoDB driver -/

/-- The field is set by an update. -/
def PartialServer.sets (p : PartialServer) : FieldsServer → Bool
  | .description => p.description.isSome
  | .categories => p.categories.isSome
  | .systemMessages => p.systemMessages.isSome
  | .icon => p.icon.isSome
  | .banner => p.banner.isSome

namespace MongoDb

/-- Update a server with new information.  An update cannot set and unset the same field. -/
def updateServer (id : String) (p : PartialServer) (remove : List FieldsServer)
    (db : ReferenceDb) : Result ReferenceDb :=
  if remove.any p.sets then .error (.databaseError "update_one_by_id" "servers")
  else .ok { db with
    servers := db.servers.modify id fun server =>
      (remove.foldl Server.removeField server).applyOptions p }

/-- Insert a new server into database. -/
def insertServer (server : Server) (db : ReferenceDb) : Result ReferenceDb :=
  if server.id ∈ db.servers then .error (.databaseError "insert_one" "servers")
  else .ok { db with servers := db.servers.insert server.id server }

/-- Insert a new role into server object. -/
def insertRole (serverId : String) (role : Role) (db : ReferenceDb) : ReferenceDb :=
  { db with
    servers := db.servers.modify serverId fun server =>
      { server with roles := server.roles.insert role.id role } }

/-- Take the role from all members of the server. -/
def pullRole (serverId roleId : String) (db : ReferenceDb) : ReferenceDb :=
  { db with
    serverMembers := db.serverMembers.mapValues fun _ (member : Member) =>
      member.withoutRole serverId roleId }

/-- The channel that `update_one` comes to when it looks for a channel of the server. -/
def firstChannelOf (serverId : String) (db : ReferenceDb) : Option String :=
  (db.channels.toList.find? fun e => e.2.server = some serverId).map (·.1)

/-- Remove the permissions for the role from one channel of the server. -/
def unsetChannelRole (serverId roleId : String) (db : ReferenceDb) : ReferenceDb :=
  match firstChannelOf serverId db with
  | some id => { db with channels := db.channels.modify id (·.withoutRole serverId roleId) }
  | none => db

/-- Remove the role from the server. -/
def unsetRole (serverId roleId : String) (db : ReferenceDb) : ReferenceDb :=
  { db with servers := db.servers.modify serverId (·.withoutRole roleId) }

/-- Delete a role from a server.  Also updates channels and members. -/
def deleteRole (serverId roleId : String) : Request ReferenceDb Unit := do
  write fun db => .ok (pullRole serverId roleId db)
  write fun db => .ok (unsetChannelRole serverId roleId db)
  write fun db => .ok (unsetRole serverId roleId db)

variable {serverId roleId : String} {db : ReferenceDb}

theorem exec_deleteRole : exec (deleteRole serverId roleId) db
    = (.ok (), unsetRole serverId roleId
        (unsetChannelRole serverId roleId (pullRole serverId roleId db))) := rfl

theorem lookup_unsetChannelRole (id : String) :
    (unsetChannelRole serverId roleId db).channels.lookup id =
      if firstChannelOf serverId db = some id then
        (db.channels.lookup id).map (·.withoutRole serverId roleId)
      else db.channels.lookup id := by
  rw [unsetChannelRole]
  rcases firstChannelOf serverId db with - | first
  · rfl
  · by_cases h : first = id
    · subst h
      rw [if_pos rfl]
      exact lookup_modify ..
    · rw [if_neg fun hsome => h (some.inj hsome)]
      exact lookup_modify_ne (Ne.symm h) ..

theorem unsetChannelRole_keeps (serverId roleId : String) (db : ReferenceDb) :
    (unsetChannelRole serverId roleId db).servers = db.servers ∧
      (unsetChannelRole serverId roleId db).serverMembers = db.serverMembers := by
  rw [unsetChannelRole]
  rcases firstChannelOf serverId db with - | first <;> exact ⟨rfl, rfl⟩

end MongoDb

/-! ### What is left of a role -/

/-- No member and no channel of the server refers to the role. -/
structure ReferenceDb.RoleUnused (serverId roleId : String) (db : ReferenceDb) : Prop where
  members : ∀ id member, db.serverMembers.lookup id = some member →
    member.id.server = serverId → roleId ∉ member.roles
  channels : ∀ id c, db.channels.lookup id = some (.textChannel c) →
    c.server = serverId → roleId ∉ c.rolePermissions

/-- The role is gone from its server, and nothing but the role has changed. -/
structure ReferenceDb.OthersKept (serverId roleId : String) (db db' : ReferenceDb) : Prop where
  servers : ∀ id, db'.servers.lookup id =
    if id = serverId then (db.servers.lookup id).map (·.withoutRole roleId)
    else db.servers.lookup id
  members : ∀ id, (db'.serverMembers.lookup id).map (·.withoutRole serverId roleId)
    = (db.serverMembers.lookup id).map (·.withoutRole serverId roleId)
  channels : ∀ id, (db'.channels.lookup id).map (·.withoutRole serverId roleId)
    = (db.channels.lookup id).map (·.withoutRole serverId roleId)

namespace MongoDb

variable {serverId roleId : String} {db db' : ReferenceDb}

theorem othersKept_deleteRole
    (h : exec (deleteRole serverId roleId) db = (.ok (), db')) :
    db.OthersKept serverId roleId db' := by
  obtain rfl := congrArg Prod.snd (exec_deleteRole.symm.trans h)
  obtain ⟨hservers, hmembers⟩ := unsetChannelRole_keeps serverId roleId
    (pullRole serverId roleId db)
  refine ⟨fun id => ?_, fun id => ?_, fun id => ?_⟩
  · exact (lookup_modify_eq ..).trans (by rw [hservers]; rfl)
  · have hlookup : (unsetRole serverId roleId (unsetChannelRole serverId roleId
        (pullRole serverId roleId db))).serverMembers.lookup id
        = (db.serverMembers.lookup id).map (·.withoutRole serverId roleId) :=
      (congrArg (AList.lookup id) hmembers).trans (lookup_mapValues ..)
    rw [hlookup, map_map]
    exact Option.map_congr fun member _ => member.withoutRole_withoutRole serverId roleId
  · refine (congrArg (Option.map _) (lookup_unsetChannelRole id)).trans ?_
    split
    · rw [map_map]
      exact Option.map_congr fun channel _ => channel.withoutRole_withoutRole serverId roleId
    · rfl

/-- Only the channel that is found first loses its entry. -/
theorem roleUnused_deleteRole_iff
    (h : exec (deleteRole serverId roleId) db = (.ok (), db')) :
    db'.RoleUnused serverId roleId ↔
      ∀ id c, db.channels.lookup id = some (.textChannel c) → c.server = serverId →
        firstChannelOf serverId db ≠ some id → roleId ∉ c.rolePermissions := by
  obtain rfl := congrArg Prod.snd (exec_deleteRole.symm.trans h)
  have hchannel : ∀ id, (unsetRole serverId roleId (unsetChannelRole serverId roleId
      (pullRole serverId roleId db))).channels.lookup id =
      if firstChannelOf serverId db = some id then
        (db.channels.lookup id).map (·.withoutRole serverId roleId)
      else db.channels.lookup id := lookup_unsetChannelRole
  constructor
  · intro hunused id c hc hserver hfirst
    exact hunused.channels id c ((hchannel id).trans (if_neg hfirst ▸ hc)) hserver
  · intro hothers
    refine ⟨fun id member hmember hserver => ?_, fun id c hc hserver => ?_⟩
    · have hmembers := (unsetChannelRole_keeps serverId roleId (pullRole serverId roleId db)).2
      have hlookup : (db.serverMembers.lookup id).map (·.withoutRole serverId roleId)
          = some member :=
        ((congrArg (AList.lookup id) hmembers).trans (lookup_mapValues ..)).symm.trans
          hmember
      obtain ⟨before, -, rfl⟩ := map_eq_some_iff.mp hlookup
      exact Member.notMem_withoutRole hserver
    · rw [hchannel id] at hc
      split at hc
      · obtain ⟨before, -, hbefore⟩ := map_eq_some_iff.mp hc
        exact Channel.notMem_withoutRole hbefore hserver
      · next hfirst => exact hothers id c hc hserver hfirst

end MongoDb

namespace ReferenceDb

variable {serverId roleId : String} {db : ReferenceDb}

/-- The in-memory driver changes the server only. -/
theorem exec_deleteRole {server : Server} (hserver : db.servers.lookup serverId = some server)
    (hrole : roleId ∈ server.roles) :
    exec (driver.deleteRole serverId roleId) db
      = (.ok (), { db with servers := db.servers.modify serverId fun _ =>
          server.withoutRole roleId }) := by
  have hfetch : db.fetchServer serverId = .ok server := get_ok.mpr hserver
  refine exec_write_ok (u := ()) |>.mpr ?_
  rw [deleteRole, withServer_eq hfetch, if_pos hrole]
  rfl

end ReferenceDb

/-- **When nothing refers to a deleted role.**  On both drivers the role leaves its server and
everything else stays.  On MongoDB nothing refers to the role afterwards exactly if no channel
but the one that is found first has an entry for it; on the in-memory driver exactly if nothing
did so before. -/
theorem deleteRole_iff (serverId roleId : String) (db : ReferenceDb) :
    (∃ db', exec (MongoDb.deleteRole serverId roleId) db = (.ok (), db') ∧
      db.OthersKept serverId roleId db' ∧
      (db'.RoleUnused serverId roleId ↔
        ∀ id c, db.channels.lookup id = some (.textChannel c) → c.server = serverId →
          MongoDb.firstChannelOf serverId db ≠ some id → roleId ∉ c.rolePermissions)) ∧
    ∀ server, db.servers.lookup serverId = some server → roleId ∈ server.roles →
      ∃ db', exec (ReferenceDb.driver.deleteRole serverId roleId) db = (.ok (), db') ∧
        db.OthersKept serverId roleId db' ∧
        (db'.RoleUnused serverId roleId ↔ db.RoleUnused serverId roleId) := by
  refine ⟨⟨_, MongoDb.exec_deleteRole, MongoDb.othersKept_deleteRole MongoDb.exec_deleteRole,
    MongoDb.roleUnused_deleteRole_iff MongoDb.exec_deleteRole⟩, fun server hserver hrole => ?_⟩
  refine ⟨_, ReferenceDb.exec_deleteRole hserver hrole, ⟨fun id => ?_, fun _ => rfl, fun _ => rfl⟩,
    fun h => ⟨h.members, h.channels⟩, fun h => ⟨h.members, h.channels⟩⟩
  refine (lookup_modify_eq ..).trans ?_
  split
  · next hid =>
    subst hid
    rw [hserver]
    rfl
  · rfl

/-- A channel with an entry for the role. -/
def exampleRoleChannel (id : String) : Channel := .textChannel
  { id := id, server := "s", rolePermissions := (∅ : HashMap String OverrideField).insert "r" {} }

/-- A server with a role, two channels that have an entry for it, and a member who has it. -/
def exampleRoleDb : ReferenceDb where
  servers := (∅ : HashMap String Server).insert "s"
    { id := "s", owner := "a", roles := (∅ : HashMap String Role).insert "r" { id := "r" } }
  channels := ((∅ : HashMap String Channel).insert "c1" (exampleRoleChannel "c1")).insert "c2"
    (exampleRoleChannel "c2")
  serverMembers := (∅ : HashMap MemberCompositeKey Member).insert ⟨"s", "b"⟩
    { id := ⟨"s", "b"⟩, roles := ["r"] }

/-- The in-memory driver finds the role. -/
theorem deleteRole_iff_found :
    ∃ db', exec (ReferenceDb.driver.deleteRole "s" "r") exampleRoleDb = (.ok (), db') ∧
      exampleRoleDb.OthersKept "s" "r" db' ∧
      (db'.RoleUnused "s" "r" ↔ exampleRoleDb.RoleUnused "s" "r") :=
  (deleteRole_iff "s" "r" exampleRoleDb).2 _ rfl (by decide)

/-- MongoDB leaves the entry of the second channel; the in-memory driver leaves everything. -/
theorem deleteRole_left :
    ¬ (exec (MongoDb.deleteRole "s" "r") exampleRoleDb).2.RoleUnused "s" "r" ∧
      exec (ReferenceDb.driver.deleteRole "s" "r") exampleRoleDb
        = (.ok (), (exec (ReferenceDb.driver.deleteRole "s" "r") exampleRoleDb).2) ∧
      ¬ (exec (ReferenceDb.driver.deleteRole "s" "r") exampleRoleDb).2.RoleUnused
        "s" "r" := by
  refine ⟨fun h => ?_, rfl, fun h => ?_⟩
  · exact h.channels "c1" _ rfl rfl (by decide)
  · exact h.members ⟨"s", "b"⟩ _ rfl rfl (by decide)

end DawnChat
