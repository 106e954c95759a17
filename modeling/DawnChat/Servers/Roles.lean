/-
DawnChat/Servers/Roles.lean

Changes to servers and their roles
(`core/database/src/models/servers/model.rs`).

Each change is made twice, on the value in hand and in the database, and is
written for any driver.  The events that announce it are left out.  The id of
a new role is a fresh ULID, so `Role.create` takes it as an argument.

`set_role_ordering` walks over the new order and sets the rank of each role to
its position; a role that is not there is a panic.  `setRanks_eq` says what the
loop computes for an order without duplicates, and `orderedRoles_rankedFrom` that
sorting by rank afterwards gives the order back.
-/
import DawnChat.Database

namespace DawnChat

open RustStd Fallible Handler List HashMap

variable {σ : Type}

namespace Role

/-- Create a role. -/
def create (D : Driver σ) (server : Server) (id name : String) : Request σ Role := do
  let role : Role :=
    { id := id
      name := name
      -- rank of the new role should be below the lowest role
      rank := server.roles.len
      colour := none
      hoist := false
      permissions := {} }
  D.insertRole server.id role
  pure role

/-- Update role data. -/
def update (D : Driver σ) (role : Role) (serverId : String) (p : PartialRole)
    (remove : List FieldsRole) : Request σ Role := do
  let role' := (remove.foldl removeField role).applyOptions p
  D.updateRole serverId role'.id p remove
  pure role'

/-- Delete a role. -/
def delete (D : Driver σ) (role : Role) (serverId : String) : Request σ Unit :=
  D.deleteRole serverId role.id

end Role

namespace Server

/-- Update server data. -/
def update (D : Driver σ) (server : Server) (p : PartialServer) (remove : List FieldsServer) :
    Request σ Server := do
  let server' := (remove.foldl removeField server).applyOptions p
  D.updateServer server'.id p remove
  pure server'

/-- Set role permission on a server. -/
def setRolePermission (D : Driver σ) (server : Server) (roleId : String)
    (permissions : OverrideField) : Request σ Server :=
  match server.roles.lookup roleId with
  | some role => do
      let role' ← role.update D server.id { permissions := some permissions } []
      pure { server with roles := server.roles.modify roleId fun _ => role' }
  | none => fail .notFound

/-- The loop of `set_role_ordering`: `get_mut(id).unwrap().rank = rank`. -/
def setRanks (roles : HashMap String Role) (newOrder : List String) :
    Option (HashMap String Role) :=
  newOrder.zipIdx.foldlM
    (fun roles e =>
      if e.1 ∈ roles then some (roles.modify e.1 fun role => { role with rank := e.2 })
      else none)
    roles

/-- Reorders the server's roles rankings. -/
def setRoleOrdering (D : Driver σ) (server : Server) (newOrder : List String) :
    Request σ Server := do
  -- new order must always contain every role (a debug assertion)
  if server.roles.len ≠ newOrder.length then ofOption none
  else
    let roles ← ofOption (setRanks server.roles newOrder)
    D.updateServer server.id { roles := some roles } []
    pure { server with roles := roles }

end Server

/-! ### On the in-memory driver -/

namespace ReferenceDb

/-- The database with other roles for a server. -/
def withRoles (db : ReferenceDb) (server : Server) (roles : HashMap String Role) : ReferenceDb :=
  { db with servers := db.servers.modify server.id fun _ => { server with roles := roles } }

variable {db : ReferenceDb} {server : Server} (hserver : db.fetchServer server.id = .ok server)

include hserver

@[simp] theorem fetchServer_withRoles (roles : HashMap String Role) :
    (db.withRoles server roles).fetchServer server.id = .ok { server with roles := roles } :=
  fetchServer_modify hserver

theorem exec_create (id name : String) :
    let role : Role := { id := id, name := name, rank := server.roles.len }
    exec (Role.create driver server id name) db
      = (.ok role, db.withRoles server (server.roles.insert id role)) := by
  simp only [Role.create, driver, insertRole, exec_bind, exec_write,
    exec_pure, withServer_eq hserver]
  rfl

theorem exec_update (role : Role) (p : PartialRole) (remove : List FieldsRole) :
    let role' := (remove.foldl Role.removeField role).applyOptions p
    exec (role.update driver server.id p remove) db =
      if role'.id ∈ server.roles then
        (.ok role', db.withRoles server (server.roles.modify role'.id fun stored =>
          (remove.foldl Role.removeField stored).applyOptions p))
      else (.error (.error .notFound), db) := by
  intro role'
  simp only [Role.update, driver, updateRole, exec_bind, exec_write,
    exec_pure, withServer_eq hserver]
  by_cases hmem : role'.id ∈ server.roles
  · rw [if_pos hmem, if_pos hmem]
    rfl
  · rw [if_neg hmem, if_neg hmem]
    rfl

theorem exec_delete (role : Role) :
    exec (role.delete driver server.id) db =
      if role.id ∈ server.roles then (.ok (), db.withRoles server (server.roles.erase role.id))
      else (.error (.error .notFound), db) := by
  simp only [Role.delete, driver, deleteRole, exec_write, withServer_eq hserver]
  by_cases hmem : role.id ∈ server.roles
  · rw [if_pos hmem, if_pos hmem]
    rfl
  · rw [if_neg hmem, if_neg hmem]
    rfl

theorem exec_setRoleOrdering (newOrder : List String) :
    exec (server.setRoleOrdering driver newOrder) db =
      match if server.roles.len = newOrder.length then Server.setRanks server.roles newOrder
        else none with
      | some roles => (.ok { server with roles := roles }, db.withRoles server roles)
      | none => (.error .panic, db) := by
  simp only [Server.setRoleOrdering]
  by_cases hlen : server.roles.len = newOrder.length
  · rw [if_neg (not_not.mpr hlen), if_pos hlen]
    rcases hranks : Server.setRanks server.roles newOrder with - | roles
    · rfl
    · simp only [exec_bind, exec_ofOption_some, driver, updateServer,
        exec_write, exec_pure, withServer_eq hserver]
      rfl
  · rw [if_pos hlen, if_neg hlen]
    rfl

end ReferenceDb

namespace Server

/-! ### What reordering does -/

/-- The roles with their positions in `newOrder`, counted from `k`, as ranks. -/
def rankedFrom (k : Nat) (newOrder : List String) (roles : HashMap String Role) :
    HashMap String Role :=
  roles.mapValues fun id role =>
    if id ∈ newOrder then { role with rank := (k + newOrder.idxOf id : Nat) } else role

theorem foldlM_setRank (newOrder : List String) (k : Nat) (roles : HashMap String Role)
    (hnodup : newOrder.Nodup) (hmem : ∀ id ∈ newOrder, id ∈ roles) :
    (newOrder.zipIdx k).foldlM
      (fun roles e =>
        if e.1 ∈ roles then some (roles.modify e.1 fun role => { role with rank := e.2 })
        else none)
      roles = some (rankedFrom k newOrder roles) := by
  induction newOrder generalizing k roles with
  | nil =>
    simp [rankedFrom]
  | cons id newOrder ih =>
    have hid : id ∈ roles := hmem id (by simp)
    obtain ⟨hnot, hnodup'⟩ := nodup_cons.mp hnodup
    have hmem' : ∀ id' ∈ newOrder,
        id' ∈ roles.modify id fun role => { role with rank := (k : Int) } := by
      intro id' hid'
      rw [AList.mem_keys, keys_modify, ← AList.mem_keys]
      exact hmem id' (by simp [hid'])
    rw [zipIdx_cons, foldlM_cons, if_pos hid, Option.bind_eq_bind, Option.bind_some,
      ih (k + 1) _ hnodup' hmem']
    -- the head gets rank `k`, and the later rounds leave it alone
    refine congrArg some ?_
    rw [rankedFrom, rankedFrom, HashMap.modify, HashMap.mapValues_mapValues]
    refine mapValues_congr fun e _ => ?_
    by_cases he : e.1 = id
    · rw [if_pos he, he, if_neg hnot, if_pos mem_cons_self, idxOf_cons_self]
      rfl
    · rw [if_neg he, idxOf_cons_ne _ (Ne.symm he)]
      simp only [mem_cons, he, false_or, Nat.add_right_comm k 1, Nat.add_assoc]

variable {roles : HashMap String Role} {newOrder : List String}

/-- **The ranks become the positions.**  For an order of existing roles without
duplicates the loop completes. -/
theorem setRanks_eq (hnodup : newOrder.Nodup) (hmem : ∀ id ∈ newOrder, id ∈ roles) :
    setRanks roles newOrder = some (rankedFrom 0 newOrder roles) :=
  foldlM_setRank newOrder 0 roles hnodup hmem

theorem lookup_rankedFrom {id : String} (hid : id ∈ newOrder) :
    (rankedFrom 0 newOrder roles).lookup id
      = (roles.lookup id).map fun role => { role with rank := newOrder.idxOf id } := by
  rw [rankedFrom, lookup_mapValues]
  simp only [hid, if_true, Nat.zero_add]

section Reordered

variable {server : Server} {newOrder : List String} (hperm : newOrder.Perm server.roles.keys)

include hperm

/-- Along a permutation of the role ids every rank is a position. -/
theorem rank_of_mem_rankedFrom {e : String × Role}
    (he : e ∈ (rankedFrom 0 newOrder server.roles).toList) :
    e.1 ∈ newOrder ∧ e.2.rank = newOrder.idxOf e.1 := by
  have hkey : e.1 ∈ (rankedFrom 0 newOrder server.roles).keys := by
    rw [← map_fst_toList]
    exact mem_map_of_mem he
  rw [rankedFrom, keys_mapValues] at hkey
  have hid : e.1 ∈ newOrder := hperm.mem_iff.mpr hkey
  have hlookup := mem_toList_iff.mp he
  rw [lookup_rankedFrom hid] at hlookup
  obtain ⟨role, -, hrole⟩ := Option.map_eq_some_iff.mp hlookup
  exact ⟨hid, by rw [← hrole]⟩

/-- **Sorting by the new ranks gives the new order back**, and the ranks are
`0, …, n - 1`. -/
theorem orderedRoles_rankedFrom :
    (orderedRoles { server with roles := rankedFrom 0 newOrder server.roles }).map (·.1)
        = newOrder ∧
      (orderedRoles { server with roles := rankedFrom 0 newOrder server.roles }).map (·.2.rank)
        = (List.range newOrder.length).map Int.ofNat := by
  have hnodup : newOrder.Nodup := hperm.nodup_iff.mpr server.roles.keys_nodup
  let sorted := orderedRoles { server with roles := rankedFrom 0 newOrder server.roles }
  have hmem : ∀ e ∈ sorted, e.1 ∈ newOrder ∧ e.2.rank = newOrder.idxOf e.1 := fun e he =>
    rank_of_mem_rankedFrom hperm ((mem_sortByKey _).mp he)
  have hids : sorted.map (·.1) = newOrder := by
    refine eq_of_sorted_by_idxOf hnodup ?_ ?_
    · have hkeys : (sorted.map (·.1)).Perm (rankedFrom 0 newOrder server.roles).keys := by
        rw [← map_fst_toList]
        exact (sortByKey_perm _ _).map _
      rw [rankedFrom, keys_mapValues] at hkeys
      exact hkeys.trans hperm.symm
    · refine pairwise_map.mpr ((sortByKey_pairwise _ _).imp_of_mem ?_)
      intro a b ha hb hle
      rw [(hmem a ha).2, (hmem b hb).2] at hle
      exact Int.ofNat_le.mp hle
  refine ⟨hids, ?_⟩
  calc sorted.map (·.2.rank)
      = sorted.map fun e => Int.ofNat (newOrder.idxOf e.1) :=
        map_congr_left fun e he => (hmem e he).2
    _ = ((sorted.map (·.1)).map fun id => newOrder.idxOf id).map Int.ofNat := by
        rw [map_map, map_map]
        rfl
    _ = (List.range newOrder.length).map Int.ofNat := by
        rw [hids, map_idxOf_self hnodup]

/-- A permutation of the role ids leaves distinct ranks. -/
theorem distinctRanks_rankedFrom :
    DistinctRanks { server with roles := rankedFrom 0 newOrder server.roles } := by
  have hranks : ((orderedRoles { server with
      roles := rankedFrom 0 newOrder server.roles }).map (·.2.rank)).Nodup := by
    rw [(orderedRoles_rankedFrom hperm).2]
    exact nodup_map_ofNat_range _
  rw [DistinctRanks, values, map_map]
  exact ((sortByKey_perm _ _).map _).nodup_iff.mp hranks

end Reordered

end Server

end DawnChat
