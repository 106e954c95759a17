/-
DawnChat/Servers/RoleHistory.lean

Histories of role changes on one server.

A history is a list of `Role::create`, `Role::delete` and
`Server::set_role_ordering` calls, each on the server as it is stored at that
moment.  The rank of a new role is the *number* of roles, which is below every
other role only while the ranks in use are `0, …, n - 1`.  Deleting a role
other than the lowest leaves a gap, and a role created into a gap gets a rank
that may already be taken.  `roleHistory_ranks_iff` says that gaps are the only
problem: ranks stay distinct and new roles come last exactly when no role is
created while there is one.
-/
import DawnChat.Lib.Run
import DawnChat.Servers.Roles

namespace DawnChat

open RustStd Fallible Handler Run HashMap ReferenceDb List Option Except

/-- A change to the roles of a server. -/
inductive RoleOp where
  /-- The id stands for the fresh ULID. -/
  | create (id name : String)
  | delete (roleId : String)
  | setRoleOrdering (newOrder : List String)
  deriving DecidableEq, Repr

/-- Perform a change on the stored server. -/
def RoleOp.perform {σ : Type} (D : Driver σ) (serverId : String) (op : RoleOp) :
    Request σ Unit := do
  let server ← read fun s => (D.database s).fetchServer serverId
  match op with
  | .create id name => do
      let _ ← Role.create D server id name
      pure ()
  | .delete roleId =>
    match server.roles.lookup roleId with
    | some role => role.delete D server.id
    | none => fail .notFound
  | .setRoleOrdering newOrder => do
      let _ ← server.setRoleOrdering D newOrder
      pure ()

/-- One step of a history; it ends only with a panic. -/
def roleStep (serverId : String) (db : ReferenceDb) (op : RoleOp) : Option ReferenceDb :=
  match exec (op.perform ReferenceDb.driver serverId) db with
  | (.error .panic, _) => none
  | (_, db') => some db'

/-! ### Steps on the map of roles -/

/-- What a change does to the map of roles. -/
def RoleOp.effect (roles : HashMap String Role) : RoleOp → Option (HashMap String Role)
  | .create id name => some (roles.insert id { id := id, name := name, rank := roles.len })
  | .delete roleId =>
    match roles.lookup roleId with
    | some role => some (roles.erase role.id)
    | none => some roles
  | .setRoleOrdering newOrder =>
    if roles.len = newOrder.length then Server.setRanks roles newOrder else none

variable {serverId : String} {server : Server}

/-- A step on the database is a step on the map of roles of the server. -/
theorem roleStep_effect {db : ReferenceDb}
    (hserver : db.fetchServer serverId = .ok server) (hid : server.id = serverId) (op : RoleOp) :
    (roleStep serverId db op).map (·.fetchServer serverId)
      = (op.effect server.roles).map fun roles => .ok { server with roles := roles } := by
  subst hid
  have hread : exec (read fun s : ReferenceDb =>
      (driver.database s).fetchServer server.id) db = (.ok server, db) := by
    rw [exec_read]
    show ((db.fetchServer server.id).mapError Fault.error, db) = _
    rw [hserver]
    rfl
  have hstored := fetchServer_withRoles hserver
  rw [roleStep, RoleOp.perform, exec_bind, hread]
  cases op with
  | create id name =>
    simp only [exec_bind, exec_create hserver, exec_pure]
    exact congrArg some (hstored _)
  | delete roleId =>
    rcases hrole : server.roles.lookup roleId with - | role
    · simp only [RoleOp.effect, hrole, exec_fail]
      exact congrArg some hserver
    · simp only [RoleOp.effect, hrole, exec_delete hserver]
      by_cases hmem : role.id ∈ server.roles
      · rw [if_pos hmem]
        exact congrArg some (hstored _)
      · rw [if_neg hmem, erase_of_notMem hmem]
        exact congrArg some hserver
  | setRoleOrdering newOrder =>
    simp only [RoleOp.effect, exec_bind, ReferenceDb.exec_setRoleOrdering hserver]
    by_cases hlen : server.roles.len = newOrder.length
    · rw [if_pos hlen]
      rcases Server.setRanks server.roles newOrder with - | roles
      · rfl
      · exact congrArg some (hstored roles)
    · rw [if_neg hlen]
      rfl

/-- A step leads from a stored server to a stored server. -/
theorem roleStep_stored {db db' : ReferenceDb}
    (hserver : db.fetchServer serverId = .ok server) (hid : server.id = serverId) {op : RoleOp}
    (hstep : roleStep serverId db op = some db') :
    ∃ roles, op.effect server.roles = some roles ∧
      db'.fetchServer serverId = .ok { server with roles := roles } := by
  have h := roleStep_effect hserver hid op
  rw [hstep, map_some] at h
  obtain ⟨roles, hroles, hfetch⟩ := map_eq_some_iff.mp h.symm
  exact ⟨roles, hroles, hfetch.symm⟩

/-! ### Ranks along a history -/

/-- The calls a history may contain: new roles have fresh ids, and a new
ordering is a permutation of the role ids. -/
def RoleOp.Allowed (roles : HashMap String Role) : RoleOp → Prop
  | .create id _ => id ∉ roles
  | .delete _ => True
  | .setRoleOrdering newOrder => newOrder.Perm roles.keys

/-- No role is created while a rank below the number of roles is unused. -/
def RoleOp.NoGap (roles : HashMap String Role) : RoleOp → Prop
  | .create _ _ => ∀ i < roles.len, ∃ role ∈ roles.values, role.rank = Int.ofNat i
  | _ => True

/-- A condition on the roles of the stored server. -/
def OnRoles (serverId : String) (C : HashMap String Role → RoleOp → Prop) (db : ReferenceDb)
    (op : RoleOp) : Prop :=
  ∀ server, db.fetchServer serverId = .ok server → C server.roles op

/-- The roles of the stored server have pairwise distinct ranks. -/
def RanksDistinct (serverId : String) (db : ReferenceDb) : Prop :=
  ∀ server, db.fetchServer serverId = .ok server → server.DistinctRanks

instance (roles : HashMap String Role) : DecidablePred (RoleOp.Allowed roles)
  | .create id _ => inferInstanceAs (Decidable (id ∉ roles))
  | .delete _ => inferInstanceAs (Decidable True)
  | .setRoleOrdering newOrder => inferInstanceAs (Decidable (newOrder.Perm roles.keys))

/-- Decide a property of the stored server. -/
def decidableStored {serverId : String} {db : ReferenceDb} {P : Server → Prop}
    [DecidablePred P] : Decidable (∀ server, db.fetchServer serverId = .ok server → P server) :=
  match db.fetchServer serverId with
  | .error _ => isTrue fun _ h => nomatch h
  | .ok server => decidable_of_iff (P server)
      ⟨fun h _ hs => Except.ok.inj hs ▸ h, fun h => h server rfl⟩

instance {C : HashMap String Role → RoleOp → Prop} [∀ roles, DecidablePred (C roles)]
    (serverId : String) (db : ReferenceDb) (op : RoleOp) : Decidable (OnRoles serverId C db op) :=
  decidableStored

instance (serverId : String) : DecidablePred (RanksDistinct serverId) :=
  fun _ => decidableStored

/-- A role that is created gets a rank greater than all roles before it. -/
def CreatedLowest (serverId : String) (db : ReferenceDb) : RoleOp → Prop
  | .create id name => ∀ server db' server' new,
      db.fetchServer serverId = .ok server →
      roleStep serverId db (.create id name) = some db' →
      db'.fetchServer serverId = .ok server' → server'.roles.lookup id = some new →
      ∀ role ∈ server.roles.values, role.rank < new.rank
  | _ => True

/-- The server is stored, and its ranks are not negative. -/
def RanksStored (serverId : String) (db : ReferenceDb) : Prop :=
  ∃ server, db.fetchServer serverId = .ok server ∧ server.id = serverId ∧
    ∀ role ∈ server.roles.values, 0 ≤ role.rank

section Effect

variable {server : Server} {roles : HashMap String Role} {op : RoleOp}

/-- Everything an allowed change can do: add a role with the next rank, drop
roles, or rank all roles by their positions in a list. -/
theorem effect_cases (hallowed : op.Allowed server.roles)
    (hroles : op.effect server.roles = some roles) :
    (∃ id name, op = .create id name ∧ id ∉ server.roles ∧
      roles = server.roles.insert id { id := id, name := name, rank := server.roles.len }) ∨
    roles.values.Sublist server.roles.values ∨
    (∃ newOrder, newOrder.Perm server.roles.keys ∧
      roles = Server.rankedFrom 0 newOrder server.roles) := by
  cases op with
  | create id name => exact .inl ⟨id, name, rfl, hallowed, (some.inj hroles).symm⟩
  | delete roleId =>
    refine .inr (.inl ?_)
    rcases hrole : server.roles.lookup roleId with - | deleted <;>
      rw [RoleOp.effect, hrole] at hroles <;> obtain rfl := some.inj hroles
    · exact List.Sublist.refl _
    · exact values_erase_sublist _ _
  | setRoleOrdering newOrder =>
    have hperm : newOrder.Perm server.roles.keys := hallowed
    rw [RoleOp.effect, if_pos (by rw [hperm.length_eq, len_eq_length_keys]),
      Server.setRanks_eq (hperm.nodup_iff.mpr server.roles.keys_nodup)
        fun id hid => AList.mem_keys.mpr (hperm.mem_iff.mp hid)] at hroles
    exact .inr (.inr ⟨newOrder, hperm, (some.inj hroles).symm⟩)

theorem nonneg_effect (hallowed : op.Allowed server.roles)
    (hroles : op.effect server.roles = some roles)
    (hnonneg : ∀ role ∈ server.roles.values, 0 ≤ role.rank) :
    ∀ role ∈ roles.values, 0 ≤ role.rank := by
  intro role hrole
  obtain ⟨id, name, -, hid, rfl⟩ | hsub | ⟨newOrder, hperm, rfl⟩ := effect_cases hallowed hroles
  · rw [values_insert_of_notMem hid] at hrole
    rcases mem_cons.mp hrole with rfl | hrole
    · exact Int.natCast_nonneg _
    · exact hnonneg role hrole
  · exact hnonneg role (hsub.mem hrole)
  · obtain ⟨e, he, rfl⟩ := mem_map.mp hrole
    rw [(Server.rank_of_mem_rankedFrom hperm he).2]
    exact Int.natCast_nonneg _

theorem length_ranks (roles : HashMap String Role) :
    (roles.values.map (·.rank)).length = roles.len := by
  simp [values]

/-- Ranks that cover `0, …, n - 1` stay below `n`. -/
theorem lt_len_of_noGap {id name : String} (hgap : RoleOp.NoGap server.roles (.create id name)) :
    ∀ role ∈ server.roles.values, role.rank < server.roles.len := by
  have hlen := length_ranks server.roles
  have hdense : Dense (server.roles.values.map (·.rank)) := by
    refine dense_of_cover fun i hi => ?_
    obtain ⟨role, hrole, hrank⟩ := hgap i (hlen ▸ hi)
    exact mem_map.mpr ⟨role, hrole, hrank⟩
  intro role hrole
  rw [← hlen]
  exact hdense.lt_length (mem_map_of_mem hrole)

/-- Distinct ranks below `n` cover `0, …, n - 1`. -/
theorem noGap_of_lt_len {id name : String} (hranks : server.DistinctRanks)
    (hnonneg : ∀ role ∈ server.roles.values, 0 ≤ role.rank)
    (hlt : ∀ role ∈ server.roles.values, role.rank < server.roles.len) :
    RoleOp.NoGap server.roles (.create id name) := by
  have hlen := length_ranks server.roles
  have hdense : Dense (server.roles.values.map (·.rank)) := by
    refine dense_of_nodup hranks fun x hx => ?_
    obtain ⟨role, hrole, rfl⟩ := mem_map.mp hx
    rw [hlen]
    exact ⟨hnonneg role hrole, hlt role hrole⟩
  intro i hi
  exact mem_map.mp (hdense.cover (hlen ▸ hi))

/-- Without a gap a change keeps the ranks distinct. -/
theorem distinctRanks_effect (hallowed : op.Allowed server.roles) (hgap : op.NoGap server.roles)
    (hroles : op.effect server.roles = some roles) (hranks : server.DistinctRanks) :
    Server.DistinctRanks { server with roles := roles } := by
  obtain ⟨id, name, rfl, hid, rfl⟩ | hsub | ⟨newOrder, hperm, rfl⟩ :=
    effect_cases hallowed hroles
  · show ((values (server.roles.insert id _)).map (·.rank)).Nodup
    rw [values_insert_of_notMem hid, map_cons, nodup_cons]
    refine ⟨fun hmem => ?_, hranks⟩
    obtain ⟨role, hrole, hrank⟩ := mem_map.mp hmem
    exact absurd hrank (lt_len_of_noGap hgap role hrole).ne
  · exact (hsub.map _).nodup hranks
  · exact Server.distinctRanks_rankedFrom hperm

/-- The created role is the lowest exactly when all ranks are below the number
of roles. -/
theorem createdLowest_iff {serverId : String} {db : ReferenceDb}
    (hserver : db.fetchServer serverId = .ok server) (hid : server.id = serverId)
    {id name : String} :
    CreatedLowest serverId db (.create id name) ↔
      ∀ role ∈ server.roles.values, role.rank < server.roles.len := by
  have heffect := roleStep_effect hserver hid (.create id name)
  obtain ⟨db', hstep, hfetch⟩ := map_eq_some_iff.mp heffect
  constructor
  · intro h role hrole
    exact h server db' _ _ hserver hstep hfetch (AList.lookup_insert _) role hrole
  · intro h server₁ db₁ server' new hserver₁ hstep₁ hserver' hnew role hrole
    obtain rfl := some.inj (hstep.symm.trans hstep₁)
    obtain rfl := ok.inj (hserver.symm.trans hserver₁)
    obtain rfl := ok.inj (hfetch.symm.trans hserver')
    have hnew' : (server.roles.insert id _).lookup id = some new := hnew
    rw [AList.lookup_insert] at hnew'
    obtain rfl := some.inj hnew'
    exact h role hrole

end Effect

section History

variable {serverId : String} {db : ReferenceDb} {op : RoleOp}

/-- One allowed step keeps the server stored with nonnegative ranks. -/
theorem ranksStored_step {db' : ReferenceDb} (h : RanksStored serverId db)
    (hallowed : OnRoles serverId (fun roles op => op.Allowed roles) db op)
    (hstep : roleStep serverId db op = some db') : RanksStored serverId db' := by
  obtain ⟨server, hserver, hid, hnonneg⟩ := h
  obtain ⟨roles, hroles, hserver'⟩ := roleStep_stored hserver hid hstep
  exact ⟨_, hserver', hid, nonneg_effect (hallowed server hserver) hroles hnonneg⟩

/-- One allowed step without a gap keeps the ranks distinct. -/
theorem ranksDistinct_step {db' : ReferenceDb}
    (h : RanksStored serverId db ∧ RanksDistinct serverId db)
    (hallowed : OnRoles serverId (fun roles op => op.Allowed roles) db op)
    (hgap : OnRoles serverId (fun roles op => op.NoGap roles) db op)
    (hstep : roleStep serverId db op = some db') : RanksDistinct serverId db' := by
  obtain ⟨⟨server, hserver, hid, -⟩, hranks⟩ := h
  obtain ⟨roles, hroles, hserver'⟩ := roleStep_stored hserver hid hstep
  intro server₁ hserver₁
  obtain rfl := ok.inj (hserver'.symm.trans hserver₁)
  exact distinctRanks_effect (hallowed server hserver) (hgap server hserver) hroles
    (hranks server hserver)

/-- On distinct nonnegative ranks a step creates the lowest role exactly when
there is no gap. -/
theorem createdLowest_iff_noGap (h : RanksStored serverId db) (hranks : RanksDistinct serverId db) :
    CreatedLowest serverId db op ↔ OnRoles serverId (fun roles op => op.NoGap roles) db op := by
  obtain ⟨server, hserver, hid, hnonneg⟩ := h
  have hon : OnRoles serverId (fun roles op => op.NoGap roles) db op ↔
      op.NoGap server.roles := by
    constructor
    · intro h
      exact h server hserver
    · intro h server₁ hserver₁
      obtain rfl := ok.inj (hserver.symm.trans hserver₁)
      exact h
  rw [hon]
  cases op with
  | create id name =>
    rw [createdLowest_iff hserver hid]
    exact ⟨noGap_of_lt_len (hranks server hserver) hnonneg, lt_len_of_noGap⟩
  | delete roleId | setRoleOrdering newOrder => exact Iff.rfl

/-- **Ranks stay distinct and new roles come last exactly when no role is
created into a gap.**  The history starts from a server without roles. -/
theorem roleHistory_ranks_iff {db : ReferenceDb} {server : Server}
    (hserver : db.fetchServer serverId = .ok server) (hid : server.id = serverId)
    (hempty : server.roles = ∅) {ops : List RoleOp}
    (hallowed : EachStep (roleStep serverId)
      (OnRoles serverId fun roles op => op.Allowed roles) db ops) :
    (Always (roleStep serverId) (RanksDistinct serverId) db ops ∧
      EachStep (roleStep serverId) (CreatedLowest serverId) db ops) ↔
    EachStep (roleStep serverId) (OnRoles serverId fun roles op => op.NoGap roles) db ops := by
  have hvalues : server.roles.values = [] := by rw [hempty]; rfl
  have hstored : RanksStored serverId db := by
    refine ⟨server, hserver, hid, ?_⟩
    rw [hvalues]
    exact fun role hrole => absurd hrole not_mem_nil
  have hdistinct : RanksDistinct serverId db := by
    intro server₁ hserver₁
    obtain rfl := ok.inj (hserver.symm.trans hserver₁)
    rw [Server.DistinctRanks, hvalues]
    exact nodup_nil
  have hstoredAlways : Always (roleStep serverId) (RanksStored serverId) db ops :=
    always_of_eachStep (fun _ _ _ h hC hstep => ranksStored_step h hC hstep) hstored hallowed
  constructor
  · rintro ⟨hranks, hlowest⟩
    exact hlowest.imp_of_always (hstoredAlways.and hranks) fun db op h hC =>
      (createdLowest_iff_noGap h.1 h.2).mp hC
  · intro hgap
    have hinv : Always (roleStep serverId)
        (fun db => RanksStored serverId db ∧ RanksDistinct serverId db) db ops := by
      refine always_of_eachStep (fun db op db' h hC hstep => ⟨?_, ?_⟩) ⟨hstored, hdistinct⟩
        (hallowed.and hgap)
      · exact ranksStored_step h.1 hC.1 hstep
      · exact ranksDistinct_step h hC.1 hC.2 hstep
    exact ⟨hinv.imp fun _ h => h.2, hgap.imp_of_always hinv fun db op h hC =>
      (createdLowest_iff_noGap h.1 h.2).mpr hC⟩

end History

/-! ### A role created into a gap -/

/-- A server without roles. -/
def historyServer : Server where
  id := "server"
  owner := "owner"

def historyDb : ReferenceDb where
  servers := HashMap.collect [("server", historyServer)]

theorem fetchServer_historyDb : historyDb.fetchServer "server" = .ok historyServer := rfl

/-- Two roles are created, the first is deleted, and a third is created. -/
def gapHistory : List RoleOp :=
  [.create "admin" "Admin", .create "mod" "Mod", .delete "admin", .create "dj" "DJ"]

theorem gapHistory_allowed :
    EachStep (roleStep "server") (OnRoles "server" fun roles op => op.Allowed roles) historyDb
      gapHistory := by
  decide +kernel

/-- The third role gets the rank that the second one has. -/
theorem gapHistory_ranks_collide :
    EachStep (roleStep "server") (OnRoles "server" fun roles op => op.Allowed roles) historyDb
        gapHistory ∧
      ¬ (Always (roleStep "server") (RanksDistinct "server") historyDb gapHistory ∧
        EachStep (roleStep "server") (CreatedLowest "server") historyDb gapHistory) := by
  refine ⟨gapHistory_allowed, ?_⟩
  rintro ⟨hranks, -⟩
  revert hranks
  decide +kernel

theorem roleHistory_ranks_iff_gap :
    (Always (roleStep "server") (RanksDistinct "server") historyDb gapHistory ∧
      EachStep (roleStep "server") (CreatedLowest "server") historyDb gapHistory) ↔
    EachStep (roleStep "server") (OnRoles "server" fun roles op => op.NoGap roles) historyDb
      gapHistory :=
  roleHistory_ranks_iff fetchServer_historyDb rfl rfl gapHistory_allowed

end DawnChat
