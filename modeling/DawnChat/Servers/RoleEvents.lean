/-
DawnChat/Servers/RoleEvents.lean

The events that changes of roles publish
(`core/database/src/models/servers/model.rs`).

`Servers/Roles.lean` has what `Role::create`, `Role::update`, `Role::delete` and
`Server::set_role_ordering` do to the database.  Here the same functions are
complete with the event each of them publishes to the server's topic; a
deletion is the one that publishes before it writes.

`RoleChange.perform_effect` reduces a call to a function on the map of roles: the
roles afterwards, and the events that went out.
-/
import DawnChat.Events
import DawnChat.Servers.Roles

namespace DawnChat

open RustStd Fallible Handler ReferenceDb Option Prod

variable {σ : Type}

/-- Handlers that write to a database and publish events. -/
abbrev Announcing (σ : Type) := Request (Outbox σ Publication)

namespace Role

/-- Create a role, and publish it as an update. -/
def createAndPublish (D : Driver σ) (server : Server) (id name : String) : Announcing σ Role := do
  let role ← onStore (create D server id name)
  publish ⟨server.id, .serverRoleUpdate server.id role.id role.intoOptional []⟩
  pure role

/-- Update role data, and publish the change. -/
def updateAndPublish (D : Driver σ) (role : Role) (serverId : String) (p : PartialRole)
    (remove : List FieldsRole) : Announcing σ Role := do
  let role ← onStore (role.update D serverId p remove)
  publish ⟨serverId, .serverRoleUpdate serverId role.id p remove⟩
  pure role

/-- Publish the deletion of a role, and delete it. -/
def deleteAndPublish (D : Driver σ) (role : Role) (serverId : String) : Announcing σ Unit := do
  publish ⟨serverId, .serverRoleDelete serverId role.id⟩
  onStore (role.delete D serverId)

end Role

/-- Reorder the server's roles, and publish the new order
(`ServerRoleRanksUpdate`, which the events server does not look into). -/
def Server.setRoleOrderingAndPublish (D : Driver σ) (server : Server) (newOrder : List String) :
    Announcing σ Server := do
  let server ← onStore (server.setRoleOrdering D newOrder)
  publish ⟨server.id, .other⟩
  pure server

/-- A change to the roles of a server. -/
inductive RoleChange where
  /-- The id stands for the fresh ULID. -/
  | create (id name : String)
  | update (roleId : String) (p : PartialRole) (remove : List FieldsRole)
  | delete (roleId : String)
  | setRoleOrdering (newOrder : List String)
  deriving DecidableEq, Repr

namespace RoleChange

/-- Perform a change on the stored server. -/
def performAndPublish (D : Driver σ) (serverId : String) (change : RoleChange) :
    Announcing σ Unit := do
  let server ← onStore (read fun s => (D.database s).fetchServer serverId)
  match change with
  | .create id name => do
      let _ ← Role.createAndPublish D server id name
      pure ()
  | .update roleId p remove =>
    match server.roles.lookup roleId with
    | some role => do
        let _ ← role.updateAndPublish D server.id p remove
        pure ()
    | none => fail .notFound
  | .delete roleId =>
    match server.roles.lookup roleId with
    | some role => role.deleteAndPublish D server.id
    | none => fail .notFound
  | .setRoleOrdering newOrder => do
      let _ ← server.setRoleOrderingAndPublish D newOrder
      pure ()

/-- The database after a change and what was published; `none` is a panic. -/
def perform (serverId : String) (db : ReferenceDb) (change : RoleChange) :
    Option (Outbox ReferenceDb Publication) :=
  match exec (change.performAndPublish ReferenceDb.driver serverId) ⟨db, []⟩ with
  | (.error .panic, _) => none
  | (_, out) => some out

/-- What a change does to the map of roles, and the events it publishes. -/
def effect (serverId : String) (roles : HashMap String Role) :
    RoleChange → Option (HashMap String Role × List EventV1)
  | .create id name =>
    let role : Role := { id := id, name := name, rank := roles.len }
    some (roles.insert id role, [.serverRoleUpdate serverId id role.intoOptional []])
  | .update roleId p remove =>
    match roles.lookup roleId with
    | some role =>
      let roleId := ((remove.foldl Role.removeField role).applyOptions p).id
      if roleId ∈ roles then
        some (roles.modify roleId fun stored =>
            (remove.foldl Role.removeField stored).applyOptions p,
          [.serverRoleUpdate serverId roleId p remove])
      else some (roles, [])
    | none => some (roles, [])
  | .delete roleId =>
    match roles.lookup roleId with
    | some role => some (roles.erase role.id, [.serverRoleDelete serverId role.id])
    | none => some (roles, [])
  | .setRoleOrdering newOrder =>
    if roles.len = newOrder.length then
      (Server.setRanks roles newOrder).map fun roles => (roles, [.other])
    else none

/-- The ways in which a change ends without a panic. -/
inductive Outcome (serverId : String) (roles : HashMap String Role) :
    RoleChange → HashMap String Role → List EventV1 → Prop
  | created (role : Role) :
      Outcome serverId roles (.create role.id role.name) (roles.insert role.id role)
        [.serverRoleUpdate serverId role.id role.intoOptional []]
  | updated (roleId id : String) (p : PartialRole) (remove : List FieldsRole) :
      Outcome serverId roles (.update roleId p remove)
        (roles.modify id fun stored => (remove.foldl Role.removeField stored).applyOptions p)
        [.serverRoleUpdate serverId id p remove]
  | updateRefused (roleId : String) (p : PartialRole) (remove : List FieldsRole) :
      Outcome serverId roles (.update roleId p remove) roles []
  | deleted (roleId id : String) :
      Outcome serverId roles (.delete roleId) (roles.erase id) [.serverRoleDelete serverId id]
  | deleteRefused (roleId : String) : Outcome serverId roles (.delete roleId) roles []
  | reordered {newOrder : List String} {roles' : HashMap String Role}
      (hlen : roles.len = newOrder.length) (hranks : Server.setRanks roles newOrder = some roles') :
      Outcome serverId roles (.setRoleOrdering newOrder) roles' [.other]

theorem outcome_of_effect {serverId : String} {roles roles' : HashMap String Role}
    {events : List EventV1} {change : RoleChange}
    (h : change.effect serverId roles = some (roles', events)) :
    Outcome serverId roles change roles' events := by
  cases change with
  | create id name =>
    obtain ⟨rfl, rfl⟩ := mk.inj (some.inj h)
    exact .created { id := id, name := name, rank := roles.len }
  | update roleId p remove =>
    rw [effect] at h
    split at h
    · dsimp only at h
      split at h
      · obtain ⟨rfl, rfl⟩ := mk.inj (some.inj h)
        exact .updated roleId _ p remove
      · obtain ⟨rfl, rfl⟩ := mk.inj (some.inj h)
        exact .updateRefused roleId p remove
    · obtain ⟨rfl, rfl⟩ := mk.inj (some.inj h)
      exact .updateRefused roleId p remove
  | delete roleId =>
    rw [effect] at h
    split at h
    · obtain ⟨rfl, rfl⟩ := mk.inj (some.inj h)
      exact .deleted roleId _
    · obtain ⟨rfl, rfl⟩ := mk.inj (some.inj h)
      exact .deleteRefused roleId
  | setRoleOrdering newOrder =>
    rw [effect] at h
    split at h
    · rename_i hlen
      obtain ⟨roles', hranks, hpair⟩ := map_eq_some_iff.mp h
      obtain ⟨rfl, rfl⟩ := mk.inj hpair
      exact .reordered hlen hranks
    · cases h

/-- **A change on the database is a change of the map of roles.** -/
theorem perform_effect {db : ReferenceDb} {server : Server}
    (hserver : db.fetchServer server.id = .ok server) (change : RoleChange) :
    (change.perform server.id db).map
        (fun out => (out.store.fetchServer server.id, out.sent.map (·.event)))
      = (change.effect server.id server.roles).map
          fun e => (.ok { server with roles := e.1 }, e.2) := by
  have hread : exec (onStore (read fun s : ReferenceDb =>
      (driver.database s).fetchServer server.id)) (⟨db, []⟩ : Outbox _ Publication)
        = (.ok server, ⟨db, []⟩) := by
    rw [exec_onStore, exec_read]
    show ((db.fetchServer server.id).mapError Fault.error, _) = _
    rw [hserver]
    rfl
  have hstored := fetchServer_withRoles hserver
  rw [perform, performAndPublish, exec_bind, hread]
  cases change with
  | create id name =>
    simp only [Role.createAndPublish, exec_bind, exec_onStore, exec_create hserver,
      exec_publish, exec_pure, effect, map_some, hstored]
    rfl
  | update roleId p remove =>
    rcases hrole : server.roles.lookup roleId with - | role
    · simp only [effect, hrole, exec_fail, map_some, hserver]
      rfl
    · simp only [effect, hrole, Role.updateAndPublish, exec_bind, exec_onStore, exec_update hserver]
      by_cases hmem : ((remove.foldl Role.removeField role).applyOptions p).id ∈ server.roles
      · simp only [if_pos hmem, exec_publish, exec_pure, map_some, hstored]
        rfl
      · simp only [if_neg hmem, map_some, hserver]
        rfl
  | delete roleId =>
    rcases hrole : server.roles.lookup roleId with - | role
    · simp only [effect, hrole, exec_fail, map_some, hserver]
      rfl
    · simp only [effect, hrole, Role.deleteAndPublish, exec_bind, exec_onStore, exec_publish,
        exec_delete hserver]
      by_cases hmem : role.id ∈ server.roles
      · simp only [if_pos hmem, map_some, hstored]
        rfl
      · -- the event went out, and there was nothing to delete
        simp only [if_neg hmem, map_some, HashMap.erase_of_notMem hmem, hserver]
        rfl
  | setRoleOrdering newOrder =>
    simp only [effect, Server.setRoleOrderingAndPublish, exec_bind, exec_onStore,
      ReferenceDb.exec_setRoleOrdering hserver]
    by_cases hlen : server.roles.len = newOrder.length
    · rcases hranks : Server.setRanks server.roles newOrder with - | roles
      · simp only [if_pos hlen, map_none]
      · simp only [if_pos hlen, exec_publish, exec_pure, map_some, hstored]
        rfl
    · simp only [if_neg hlen, map_none]

end RoleChange

end DawnChat
