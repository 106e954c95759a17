/-
DawnChat/Routes/RoleRanks.lean

Reordering the roles of a server
(`delta/src/routes/servers/roles_edit_positions.rs`).

A request lists role ids in their new order.  It is accepted when it has as
many entries as there are roles and contains every role, and when, for anyone
but the owner, no role at or above the caller has another position in it than
in the current order.  The three consequences are proved separately: such a
list is a permutation (`perm_keys_of_checks`), so setting the ranks cannot
panic, and the roles below the caller stay below
(`idxOf_lt_of_fixed_prefix`).

The member record of the caller is loaded while permissions are calculated,
except for privileged users.  Without it every role counts as protected.
-/
import DawnChat.Routes.Servers

namespace DawnChat

open RustStd Fallible Handler HashMap DatabasePermissionQuery List Option PermissionValue Prod

variable {σ : Type}

/-- The roles that a caller with the given top rank may not move. -/
def protectedRoles (server : Server) (memberTopRank : Option Int) : List (String × Role) :=
  server.roles.toList.filter fun e =>
    match memberTopRank with
    | some topRank => e.2.rank ≤ topRank
    | none => true

/-- The checks of `edit_role_ranks`. -/
def editRoleRanksChecks (D : Driver σ) (user : User) (clock : Stream' Timestamp)
    (target : String) (ranks : List String) : Request σ Server := do
  let server ← read fun s => (D.database s).fetchServer target
  let query ← requestServerPermissions D user clock server
  ofExcept (query.1.throwIfLackingChannelPermission .manageRole)
  let existingOrder := server.orderedRoles.map (·.1)
  -- verify all roles are in the new ordering
  throwIf (ranks.length ≠ server.roles.len ∨
    ¬ server.roles.toList.all fun e => ranks.contains e.1) .invalidOperation
  -- don't have to check what the user can't modify if they are the server owner
  if server.owner ≠ user.id then
    let memberTopRank ← ofOption (DatabasePermissionQuery.getMemberRank.run query.2)
    throwIf ((protectedRoles server memberTopRank.1).any fun e =>
      existingOrder.idxOf? e.1 ≠ ranks.idxOf? e.1) .notElevated
    pure server
  else pure server

/-- Edits server roles ranks. -/
def editRoleRanks (D : Driver σ) (sync : VoiceSync σ) (user : User)
    (clock : Stream' Timestamp) (target : String) (ranks : List String) : Request σ Server := do
  let server ← editRoleRanksChecks D user clock target ranks
  let server ← server.setRoleOrdering D ranks
  syncChannels D sync server none
  pure server

section Checks

variable {D : Driver σ} {user : User} {clock : Stream' Timestamp} {target : String}
  {ranks : List String} {s s' : σ} {server : Server}

/-- Everything that acceptance says. -/
theorem editRoleRanksChecks_ok
    (h : exec (editRoleRanksChecks D user clock target ranks) s = (.ok server, s')) :
    s' = s ∧ ranks.length = server.roles.len ∧ (∀ id ∈ server.roles, id ∈ ranks) ∧
      ∃ p q, calculateServerPermissions.run
          ((new (D.database s) user clock).withServer server)
            = some (p, q) ∧
        hasChannelPermission p .manageRole = true ∧
        (server.owner ≠ user.id →
          ∃ top q', getMemberRank.run q = some (top, q') ∧
            ∀ e ∈ protectedRoles server top,
              (server.orderedRoles.map (·.1)).idxOf? e.1 = ranks.idxOf? e.1) := by
  simp only [editRoleRanksChecks, requestServerPermissions, exec_bind_ok, exec_read_ok, exec_get_ok,
    exec_ofExcept_ok, exec_ofOption_ok, exec_throwIf_ok, not_or, not_not] at h
  obtain ⟨server₁, _, ⟨-, rfl⟩, ⟨p, q⟩, _, ⟨_, _, ⟨rfl, rfl⟩, hrun, rfl⟩, _, _, ⟨hperm, rfl⟩, _, _,
    ⟨⟨hlen, hall⟩, rfl⟩, h⟩ := h
  have hmanage : hasChannelPermission p .manageRole = true := by
    rw [throwIfLackingChannelPermission] at hperm
    by_contra hno
    rw [if_neg hno] at hperm
    cases hperm
  have hmem : ∀ id ∈ server₁.roles, id ∈ ranks := by
    intro id hid
    obtain ⟨role, hrole⟩ := mem_iff_exists_lookup.mp hid
    have hcontains := List.all_eq_true.mp hall (id, role) (mem_toList_iff.mpr hrole)
    exact contains_iff_mem.mp hcontains
  by_cases ho : server₁.owner = user.id
  · rw [if_neg (not_not.mpr ho), exec_pure_ok] at h
    obtain ⟨rfl, rfl⟩ := h
    exact ⟨rfl, hlen, hmem, p, q, hrun, hmanage, fun hne => absurd ho hne⟩
  · rw [if_pos ho] at h
    simp only [exec_bind_ok, exec_ofOption_ok, exec_throwIf_ok, exec_pure_ok] at h
    obtain ⟨⟨top, q'⟩, _, ⟨hrank, rfl⟩, _, _, ⟨hfixed, rfl⟩, rfl, rfl⟩ := h
    refine ⟨rfl, hlen, hmem, p, q, hrun, hmanage, fun _ => ⟨top, q', hrank, fun e he => ?_⟩⟩
    by_contra hne
    exact hfixed (List.any_eq_true.mpr ⟨e, he, by simpa using hne⟩)

/-- The length and containment checks leave only permutations. -/
theorem perm_keys_of_checks (hlen : ranks.length = server.roles.len)
    (hmem : ∀ id ∈ server.roles, id ∈ ranks) : ranks.Perm server.roles.keys := by
  have hsub : server.roles.keys ⊆ ranks := fun id hid => hmem id (AList.mem_keys.mpr hid)
  have hsubperm := subperm_of_subset server.roles.keys_nodup hsub
  exact (hsubperm.perm_of_length_le (by rw [hlen, len_eq_length_keys])).symm

/-- For a permutation the write is all that can fail. -/
theorem exec_setRoleOrdering (hperm : ranks.Perm server.roles.keys) :
    exec (server.setRoleOrdering D ranks) s
      = exec (do
          D.updateServer server.id
            { roles := some (Server.rankedFrom 0 ranks server.roles) } []
          pure { server with roles := Server.rankedFrom 0 ranks server.roles }) s := by
  have hlen : ¬ server.roles.len ≠ ranks.length := by
    rw [hperm.length_eq, len_eq_length_keys]
    exact not_not.mpr rfl
  have hranks := Server.setRanks_eq (hperm.nodup_iff.mpr server.roles.keys_nodup)
    fun id hid => AList.mem_keys.mpr (hperm.mem_iff.mp hid)
  rw [Server.setRoleOrdering, if_neg hlen, hranks, exec_bind, exec_ofOption_some]

/-- The role is at or above the top role of the caller's member record.  For a
caller without a record every role is. -/
def AtOrAboveCaller (db : Database) (user : User) (server : Server) (role : Role) : Prop :=
  ∀ m, db.fetchMember server.id user.id = .ok m → role.rank ≤ m.getRanking server

/-- What a caller who is not the owner must leave in place. -/
theorem protectedRoles_of_checks {p : PermissionValue} {q q' : DatabasePermissionQuery}
    {top : Option Int} (ho : server.owner ≠ user.id)
    (hrun : calculateServerPermissions.run
      ((new (D.database s) user clock).withServer server) = some (p, q))
    (hmanage : hasChannelPermission p .manageRole = true)
    (hrank : getMemberRank.run q = some (top, q'))
    {e : String × Role} (he : server.roles.lookup e.1 = some e.2)
    (habove : AtOrAboveCaller (D.database s) user server e.2) :
    e ∈ protectedRoles server top := by
  rw [protectedRoles, mem_filter, mem_toList_iff]
  refine ⟨he, ?_⟩
  rcases hp : user.privileged with - | -
  · rcases hm : (D.database s).fetchMember server.id user.id with err | m
    · -- without a member record there are no permissions
      have hstranger := run_calculateServerPermissions_stranger
        (q := (new (D.database s) user clock).withServer server)
        hp ho rfl (by rw [ourMember]; exact congrArg Except.toOption hm)
      obtain ⟨rfl, -⟩ := mk.inj (some.inj (hrun.symm.trans hstranger))
      exact absurd hmanage (by decide)
    · have hmember := run_calculateServerPermissions_member
        (q := (new (D.database s) user clock).withServer server)
        hp ho rfl (by rw [ourMember]; exact congrArg Except.toOption hm)
      obtain ⟨-, rfl⟩ := mk.inj (some.inj (hrun.symm.trans hmember))
      obtain ⟨rfl, -⟩ := mk.inj (some.inj hrank)
      exact decide_eq_true (habove m hm)
  · have hall := run_calculateServerPermissions_all
      (q := (new (D.database s) user clock).withServer server) (.inl hp)
    obtain ⟨-, rfl⟩ := mk.inj (some.inj (hrun.symm.trans hall))
    obtain ⟨rfl, -⟩ := mk.inj (some.inj hrank)
    rfl

theorem orderedRoles_perm_keys (server : Server) :
    (server.orderedRoles.map (·.1)).Perm server.roles.keys := by
  rw [← map_fst_toList]
  exact (sortByKey_perm _ _).map _

/-- Roles at or above a caller who is not the owner keep their positions. -/
theorem idxOf_eq_of_atOrAboveCaller
    (haccept : exec (editRoleRanksChecks D user clock target ranks) s
      = (.ok server, s')) (ho : server.owner ≠ user.id) {id : String} {role : Role}
    (hrole : server.roles.lookup id = some role)
    (habove : AtOrAboveCaller (D.database s) user server role) :
    (server.orderedRoles.map (·.1)).idxOf id = ranks.idxOf id := by
  obtain ⟨rfl, hlen, hmem, p, q, hrun, hmanage, hcaller⟩ := editRoleRanksChecks_ok haccept
  obtain ⟨top, q', hrank, hfixed⟩ := hcaller ho
  have hprotected := protectedRoles_of_checks (e := (id, role)) ho hrun hmanage hrank hrole habove
  have hperm := perm_keys_of_checks hlen hmem
  rw [idxOf_eq_getD_idxOf?, idxOf_eq_getD_idxOf?, hfixed _ hprotected,
    (orderedRoles_perm_keys server).length_eq, hperm.length_eq]

/-- Where these roles keep their positions, all others stay below them: in the
current order they come first, because it is sorted by rank. -/
theorem idxOf_lt_of_not_atOrAboveCaller {db : Database} (hperm : ranks.Perm server.roles.keys)
    (hfix : ∀ id role, server.roles.lookup id = some role → AtOrAboveCaller db user server role →
      (server.orderedRoles.map (·.1)).idxOf id = ranks.idxOf id)
    {id id' : String} {role role' : Role} (hrole : server.roles.lookup id = some role)
    (habove : AtOrAboveCaller db user server role) (hrole' : server.roles.lookup id' = some role')
    (hbelow : ¬ AtOrAboveCaller db user server role') :
    ranks.idxOf id < ranks.idxOf id' := by
  have hexisting := orderedRoles_perm_keys server
  let isProtected : String → Prop := fun id => ∀ role, server.roles.lookup id = some role →
    AtOrAboveCaller db user server role
  refine idxOf_lt_of_fixed_prefix (P := isProtected)
    (hexisting.nodup_iff.mpr server.roles.keys_nodup) ?_ ?_ ?_ ?_ ?_ ?_
  · intro a ha
    exact hperm.mem_iff.mpr (hexisting.mem_iff.mp ha)
  · refine pairwise_map.mpr ((sortByKey_pairwise _ _).imp_of_mem ?_)
    intro a b ha hb hle hprotected role₁ hrole₁ m hm
    have ha' := mem_toList_iff.mp ((mem_sortByKey _).mp ha)
    have hb' := mem_toList_iff.mp ((mem_sortByKey _).mp hb)
    obtain rfl := some.inj (ha'.symm.trans hrole₁)
    exact hle.trans (hprotected b.2 hb' m hm)
  · intro a ha hprotected
    obtain ⟨role₁, hrole₁⟩ := mem_iff_exists_lookup.mp
      (AList.mem_keys.mpr (hexisting.mem_iff.mp ha))
    exact hfix a role₁ hrole₁ (hprotected role₁ hrole₁)
  · exact hexisting.mem_iff.mpr
      (AList.mem_keys.mp (mem_iff_exists_lookup.mpr ⟨role, hrole⟩))
  · intro role₁ hrole₁
    obtain rfl := some.inj (hrole.symm.trans hrole₁)
    exact habove
  · intro hprotected
    exact hbelow (hprotected role' hrole')

/-- **Reordering is safe.**  An accepted list is a permutation of the role ids.
Setting the ranks cannot panic, gives the ranks `0, …, n - 1` in the requested
order, and only the write can fail.  Unless the caller is the owner, the roles
at or above the caller keep their positions and all others stay below them. -/
theorem editRoleRanks_safe
    (haccept : exec (editRoleRanksChecks D user clock target ranks) s
      = (.ok server, s')) :
    (ranks.Perm server.roles.keys ∧ ranks.Nodup) ∧
    (∃ roles,
      exec (server.setRoleOrdering D ranks) s' = exec (do
        D.updateServer server.id { roles := some roles } []
        pure { server with roles := roles }) s' ∧
      (Server.orderedRoles { server with roles := roles }).map (·.1) = ranks ∧
      (Server.orderedRoles { server with roles := roles }).map (·.2.rank)
        = (List.range ranks.length).map Int.ofNat) ∧
    (server.owner ≠ user.id → ∀ id role, server.roles.lookup id = some role →
      AtOrAboveCaller (D.database s) user server role →
      (server.orderedRoles.map (·.1)).idxOf id = ranks.idxOf id ∧
      ∀ id' role', server.roles.lookup id' = some role' →
        ¬ AtOrAboveCaller (D.database s) user server role' →
        ranks.idxOf id < ranks.idxOf id') := by
  obtain ⟨-, hlen, hmem, -⟩ := editRoleRanksChecks_ok haccept
  have hperm := perm_keys_of_checks hlen hmem
  refine ⟨⟨hperm, hperm.nodup_iff.mpr server.roles.keys_nodup⟩,
    ⟨_, exec_setRoleOrdering hperm, Server.orderedRoles_rankedFrom hperm⟩, ?_⟩
  intro ho id role hrole habove
  have hfix : ∀ id role, server.roles.lookup id = some role →
      AtOrAboveCaller (D.database s) user server role →
      (server.orderedRoles.map (·.1)).idxOf id = ranks.idxOf id :=
    fun _ _ hrole habove => idxOf_eq_of_atOrAboveCaller haccept ho hrole habove
  refine ⟨hfix id role hrole habove, ?_⟩
  intro id' role' hrole' hbelow
  exact idxOf_lt_of_not_atOrAboveCaller hperm hfix hrole habove hrole' hbelow

/-- A rejected request leaves the store as it was. -/
theorem editRoleRanks_rejected {sync : VoiceSync σ} :
    Rejects (editRoleRanksChecks D user clock target ranks)
      (editRoleRanks D sync user clock target ranks) := by
  unfold editRoleRanks editRoleRanksChecks
  exact ReadOnly.rejects

end Checks

/-! ### A moderator reorders the roles below them -/

/-- A server whose ranks have a gap and a tie. -/
def ranksServer : Server where
  id := "server"
  owner := "owner"
  roles := HashMap.collect
    [("mod", { id := "mod", permissions := ⟨ChannelPermission.manageRole.value, 0⟩, rank := 0 }),
      ("red", { id := "red", rank := 5 }), ("blue", { id := "blue", rank := 5 })]

def ranksDb : ReferenceDb where
  servers := HashMap.collect [("server", ranksServer)]
  serverMembers := HashMap.collect
    [(⟨"server", "moderator"⟩, { id := ⟨"server", "moderator"⟩, roles := ["mod"] })]

/-- Swapping the two lower roles is accepted. -/
theorem editRoleRanksChecks_moderator :
    exec (editRoleRanksChecks ReferenceDb.driver { id := "moderator" }
      (Stream'.const 0) "server" ["mod", "blue", "red"]) ranksDb = (.ok ranksServer, ranksDb) :=
  rfl

theorem editRoleRanks_safe_moderator :
    ["mod", "blue", "red"].Perm ranksServer.roles.keys ∧
    (∀ id role, ranksServer.roles.lookup id = some role →
      AtOrAboveCaller ranksDb.database { id := "moderator" } ranksServer role →
      (ranksServer.orderedRoles.map (·.1)).idxOf id = ["mod", "blue", "red"].idxOf id) :=
  ⟨(editRoleRanks_safe editRoleRanksChecks_moderator).1.1, fun id role hrole habove =>
    ((editRoleRanks_safe editRoleRanksChecks_moderator).2.2 (by decide) id role hrole habove).1⟩

end DawnChat
