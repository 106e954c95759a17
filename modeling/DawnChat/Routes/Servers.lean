/-
DawnChat/Routes/Servers.lean

Server routes that edit permissions
(`delta/src/routes/servers/permissions_set.rs`, `permissions_set_default.rs`).

A route checks the request, writes, and then brings voice clients up to date.
The checks are definitions of their own, because most questions are about what
an accepted request can do; they return what the rest of the route works on.
The voice client is outside the model, so `sync_voice_permissions` is a
parameter, and no result depends on it.

The main result is that editing server permissions cannot be used to hand out
what one does not have: every bit a member gains was held by the user who made
the edit.  The check looks at one override and the calculation folds many, so
the proof runs both calculations side by side and keeps the relation `Covered`
between the old and the new bit (`applyWrites_map_rel`).
-/
import DawnChat.Permissions.Bits
import DawnChat.Servers.Roles

namespace DawnChat

open RustStd Fallible Handler LastWrite DatabasePermissionQuery PermissionValue List

variable {σ : Type}

/-- `sync_voice_permissions` for a channel, its server and an edited role. -/
abbrev VoiceSync (σ : Type) := Channel → Option Server → Option String → Request σ Unit

/-- The loop that ends the server routes. -/
def syncChannels (D : Driver σ) (sync : VoiceSync σ) (server : Server)
    (roleId : Option String) : Request σ Unit :=
  server.channels.forM fun channelId => do
    let channel ← read fun s => (D.database s).fetchChannel channelId
    sync channel (some server) roleId

/-- Calculate the server permissions of the user who makes the request. -/
def requestServerPermissions (D : Driver σ) (user : User) (clock : Stream' Timestamp)
    (server : Server) : Request σ (PermissionValue × DatabasePermissionQuery) := do
  let s ← get
  ofOption (calculateServerPermissions.run
    ((DatabasePermissionQuery.new (D.database s) user clock).withServer server))

instance (D : Driver σ) (user : User) (clock : Stream' Timestamp) (server : Server) :
    ReadOnly (requestServerPermissions D user clock server) := by
  unfold requestServerPermissions
  infer_instance

/-! ### The routes -/

/-- The checks of `set_role_permission`. -/
def setRolePermissionChecks (D : Driver σ) (user : User) (clock : Stream' Timestamp)
    (target roleId : String) (data : Override) : Request σ (Server × PermissionValue) := do
  let server ← read fun s => (D.database s).fetchServer target
  let role ← Handler.ofExcept ((server.roles.lookup roleId).elim (.error .notFound) .ok)
  let query ← requestServerPermissions D user clock server
  ofExcept (query.1.throwIfLackingChannelPermission .managePermissions)
  -- prevent us from editing roles above us
  let rank ← ofOption (DatabasePermissionQuery.getMemberRank.run query.2)
  throwIf (role.rank ≤ rank.1.getD i64Min) .notElevated
  -- ensure we have access to grant these permissions forwards
  ofExcept (query.1.throwPermissionOverride (some role.permissions.toOverride) data)
  pure (server, query.1)

/-- Sets permissions for the specified role in the server. -/
def setRolePermission (D : Driver σ) (sync : VoiceSync σ) (user : User)
    (clock : Stream' Timestamp) (target roleId : String) (data : Override) :
    Request σ Server := do
  let checked ← setRolePermissionChecks D user clock target roleId data
  let server ← checked.1.setRolePermission D roleId data.toField
  syncChannels D sync server (some roleId)
  pure server

/-- The checks of `set_default_server_permissions`. -/
def setDefaultServerPermissionsChecks (D : Driver σ) (user : User) (clock : Stream' Timestamp)
    (target : String) (data : U64) : Request σ (Server × PermissionValue) := do
  let server ← read fun s => (D.database s).fetchServer target
  let query ← requestServerPermissions D user clock server
  ofExcept (query.1.throwIfLackingChannelPermission .managePermissions)
  -- ensure we have permissions to grant these permissions forwards
  ofExcept (query.1.throwPermissionOverride none { allow := data, deny := 0 })
  pure (server, query.1)

/-- Sets permissions for the default role in this server. -/
def setDefaultServerPermissions (D : Driver σ) (sync : VoiceSync σ) (user : User)
    (clock : Stream' Timestamp) (target : String) (data : U64) : Request σ Server := do
  let checked ← setDefaultServerPermissionsChecks D user clock target data
  let server ← checked.1.update D { defaultPermissions := some data } []
  syncChannels D sync server none
  pure server

/-! ### What acceptance means -/

section Accepted

variable {D : Driver σ} {user : User} {clock : Stream' Timestamp} {target roleId : String}
  {s s' : σ} {server edited : Server} {p : PermissionValue}

theorem setRolePermissionChecks_ok {data : Override}
    (h : exec (setRolePermissionChecks D user clock target roleId data) s
      = (.ok (server, p), s')) :
    ∃ role, server.roles.lookup roleId = some role ∧
      PermissionValue.throwPermissionOverride p (some role.permissions.toOverride) data
        = .ok () := by
  simp only [setRolePermissionChecks, exec_bind_ok, exec_read_ok, exec_ofExcept_ok,
    exec_ofOption_ok, exec_throwIf_ok, exec_pure_ok] at h
  obtain ⟨server, _, -, role, _, ⟨hrole, -⟩, query, _, -, _, _, -, _, _, -, _, _, -, _, _,
    ⟨hoverride, -⟩, heq, -⟩ := h
  obtain ⟨rfl, rfl⟩ := Prod.mk.inj heq
  refine ⟨role, ?_, hoverride⟩
  rcases hlookup : server.roles.lookup roleId with - | role'
  · rw [hlookup] at hrole
    exact nomatch hrole
  · rw [hlookup] at hrole
    exact congrArg some (Except.ok.inj hrole)

theorem setDefaultServerPermissionsChecks_ok {data : U64}
    (h : exec (setDefaultServerPermissionsChecks D user clock target data) s
      = (.ok (server, p), s')) :
    PermissionValue.throwPermissionOverride p none { allow := data, deny := 0 } = .ok () := by
  simp only [setDefaultServerPermissionsChecks, exec_bind_ok, exec_read_ok,
    exec_ofExcept_ok, exec_pure_ok] at h
  obtain ⟨_, _, -, query, _, -, _, _, -, _, _, ⟨hoverride, -⟩, heq, -⟩ := h
  obtain ⟨-, rfl⟩ := Prod.mk.inj heq
  exact hoverride

/-- The written server has the new override in place of the old one. -/
theorem setRolePermission_ok {permissions : OverrideField}
    (h : exec (server.setRolePermission D roleId permissions) s = (.ok edited, s')) :
    ∃ role, server.roles.lookup roleId = some role ∧
      edited = { server with
        roles := server.roles.modify roleId
          fun _ => { role with permissions := permissions } } := by
  rcases hrole : server.roles.lookup roleId with - | role
  · simp [Server.setRolePermission, hrole] at h
  · simp only [Server.setRolePermission, hrole, Role.update, exec_bind_ok, exec_pure_ok] at h
    obtain ⟨_, _, ⟨_, _, -, rfl, -⟩, rfl, -⟩ := h
    exact ⟨role, rfl, rfl⟩

theorem update_defaultPermissions_ok {data : U64}
    (h : exec (server.update D { defaultPermissions := some data } []) s
      = (.ok edited, s')) : edited = { server with defaultPermissions := data } := by
  simp only [Server.update, exec_bind_ok, exec_pure_ok] at h
  obtain ⟨_, _, -, rfl, -⟩ := h
  rfl

end Accepted

section Rejected

variable {D : Driver σ} {sync : VoiceSync σ} {user : User} {clock : Stream' Timestamp}
  {target : String}

/-- Rejected requests leave the store as it was. -/
theorem setRolePermission_rejected {roleId : String} {data : Override} :
    Rejects (setRolePermissionChecks D user clock target roleId data)
      (setRolePermission D sync user clock target roleId data) := by
  unfold setRolePermission setRolePermissionChecks
  exact ReadOnly.rejects

theorem setDefaultServerPermissions_rejected {data : U64} :
    Rejects (setDefaultServerPermissionsChecks D user clock target data)
      (setDefaultServerPermissions D sync user clock target data) := by
  unfold setDefaultServerPermissions setDefaultServerPermissionsChecks
  exact ReadOnly.rejects

end Rejected

/-! ### No escalation -/

/-- What is set now was set before, or is covered by the editor's bit `p`. -/
def Covered (p old new : Bool) : Prop := new = true → old = true ∨ p = true

theorem Covered.refl (p v : Bool) : Covered p v v := Or.inl

open Covered

/-- The same write on both sides keeps the bits covered. -/
theorem Covered.write {p old new : Bool} (h : Covered p old new) (w : Option Bool) :
    Covered p (w.getD old) (w.getD new) := by
  cases w with
  | none => exact h
  | some v => exact refl p v

theorem Covered.writes {p old new : Bool} (h : Covered p old new) (ws : List (Option Bool)) :
    Covered p (applyWrites old ws) (applyWrites new ws) := by
  rw [← map_id ws]
  exact applyWrites_map_rel (R := Covered p) (fun w _ _ _ h => h.write w) h

/-- An accepted override on the new side keeps the bits covered: an added allow
and a removed deny both need the bit. -/
theorem Covered.override {p : PermissionValue} {current next : Override}
    (haccept : p.throwPermissionOverride (some current) next = .ok ()) (b : Nat)
    {old new : Bool} (h : Covered (p.getLsbD b) old new) :
    Covered (p.getLsbD b) ((current.mention b).getD old) ((next.mention b).getD new) := by
  obtain ⟨hallow, hdeny⟩ := throwPermissionOverride_some_bit haccept b
  intro hnew
  simp only [Override.mention] at hnew ⊢
  rcases hnd : next.deny.getLsbD b with - | -
  · rcases hcd : current.deny.getLsbD b with - | -
    · rcases hca : current.allow.getLsbD b with - | -
      · rcases hna : next.allow.getLsbD b with - | -
        · simp only [hnd, hna, Bool.false_eq_true, if_false, Option.getD_none] at hnew
          simpa using h hnew
        · exact .inr ((hallow hna).resolve_left (by simp [hca]))
      · simp
    · exact .inr ((hdeny hcd).resolve_left (by simp [hnd]))
  · simp [hnd] at hnew

section Edited

variable {server : Server} {roleId : String} {role : Role} {next : OverrideField}

/-- After the edit of a role the member's overrides are as before, with the new
one in the place of the old. -/
theorem serverRoleOverrides_edited (hrole : server.roles.lookup roleId = some role)
    (memberRoles : List String) :
    serverRoleOverrides { server with
        roles := server.roles.modify roleId fun _ => { role with permissions := next } }
        memberRoles
      = (heldRoles server memberRoles).map fun e =>
          if e.1 = roleId then next.toOverride else e.2.permissions.toOverride := by
  let edit : String × Role → String × Role := fun e =>
    (e.1, if e.1 = roleId then { e.2 with permissions := next } else e.2)
  have hlist : (server.roles.modify roleId fun _ =>
      { role with permissions := next }).toList = server.roles.toList.map edit := by
    rw [HashMap.modify, HashMap.toList_mapValues]
    refine map_congr_left fun e he => ?_
    by_cases hid : e.1 = roleId
    · have hlookup := HashMap.mem_toList_iff.mp he
      rw [hid, hrole] at hlookup
      simp only [edit, hid, if_true, Option.some.inj hlookup]
    · simp only [edit, hid, if_false]
  -- the edit changes no id and no rank, so filtering and sorting ignore it
  have hkey : (fun e => (edit e).2.rank) = fun e : String × Role => e.2.rank := by
    funext e
    by_cases hid : e.1 = roleId <;> simp [edit, hid]
  have hheld : heldRoles { server with
      roles := server.roles.modify roleId fun _ => { role with permissions := next } }
      memberRoles = (heldRoles server memberRoles).map edit := by
    rw [heldRoles, hlist, filter_map, sortByKeyDesc, sortByKey_map]
    show List.map edit (sortByKey (fun a => OrderDual.toDual ((fun e => (edit e).2.rank) a)) _) = _
    rw [hkey]
    rfl
  rw [serverRoleOverrides_eq_map, hheld, map_map]
  refine map_congr_left fun e _ => ?_
  by_cases hid : e.1 = roleId <;> simp [edit, hid]

/-- Along the calculation for one member, an accepted edit of a role keeps every
bit covered. -/
theorem covered_serverPermissions_role {p : PermissionValue} {data : Override}
    (hrole : server.roles.lookup roleId = some role)
    (haccept : p.throwPermissionOverride (some role.permissions.toOverride) data = .ok ())
    (m : Member) (now : Timestamp) (b : Nat) :
    Covered (p.getLsbD b) ((serverPermissions server m now).getLsbD b)
      ((serverPermissions { server with
        roles := server.roles.modify roleId fun _ => { role with permissions := data.toField } }
        m now).getLsbD b) := by
  rw [getLsbD_serverPermissions, getLsbD_serverPermissions, serverRoleOverrides_edited hrole,
    serverRoleOverrides_eq_map, map_map, map_map]
  simp only [applyWrites_append]
  -- flags and timeout are the same on both sides
  refine writes (writes ?_ _) _
  refine applyWrites_map_rel (R := Covered (p.getLsbD b)) (fun e he x y h => ?_)
    (refl _ _)
  by_cases hid : e.1 = roleId
  · -- the edited role itself
    have hlookup := (mem_heldRoles.mp he).1
    rw [hid, hrole] at hlookup
    obtain rfl := Option.some.inj hlookup
    simp only [Function.comp_apply, hid, if_true, Override.toOverride_toField]
    exact override haccept b h
  · simp only [Function.comp_apply, hid, if_false]
    exact h.write _

/-- The same for an accepted edit of the default permissions, whose new value
the editor has altogether. -/
theorem covered_serverPermissions_default {p : PermissionValue} {data : U64}
    (haccept : p.throwPermissionOverride none { allow := data, deny := 0 } = .ok ())
    (m : Member) (now : Timestamp) (b : Nat) :
    Covered (p.getLsbD b) ((serverPermissions server m now).getLsbD b)
      ((serverPermissions { server with defaultPermissions := data } m now).getLsbD b) := by
  have hhas := has_iff.mp (throwPermissionOverride_none_ok.mp
    haccept) b
  rw [getLsbD_serverPermissions, getLsbD_serverPermissions]
  refine writes ?_ _
  intro hnew
  exact .inr (hhas hnew)

end Edited

/-- An accepted edit of server permissions: the checks of one of the two routes
pass for `server` and the user's permissions `p`, and the write that follows
makes it `edited`. -/
inductive AcceptedEdit (D : Driver σ) (user : User) (clock : Stream' Timestamp)
    (target : String) (s : σ) : Server → PermissionValue → Server → Prop
  | role (roleId : String) (data : Override) {server edited : Server} {p : PermissionValue}
      {s₁ s₂ : σ}
      (hchecks : exec (setRolePermissionChecks D user clock target roleId data) s
        = (.ok (server, p), s₁))
      (hwrite : exec (server.setRolePermission D roleId data.toField) s₁
        = (.ok edited, s₂)) : AcceptedEdit D user clock target s server p edited
  | default (data : U64) {server edited : Server} {p : PermissionValue} {s₁ s₂ : σ}
      (hchecks : exec (setDefaultServerPermissionsChecks D user clock target data) s
        = (.ok (server, p), s₁))
      (hwrite : exec (server.update D { defaultPermissions := some data } []) s₁
        = (.ok edited, s₂)) : AcceptedEdit D user clock target s server p edited

section AcceptedEdit

variable {D : Driver σ} {user : User} {clock : Stream' Timestamp} {target : String}
  {s : σ} {server edited : Server} {p : PermissionValue}

/-- An accepted edit keeps the owner and every member's bits covered. -/
theorem AcceptedEdit.covered (h : AcceptedEdit D user clock target s server p edited) :
    edited.owner = server.owner ∧ ∀ (m : Member) (now : Timestamp) (b : Nat),
      Covered (p.getLsbD b) ((serverPermissions server m now).getLsbD b)
        ((serverPermissions edited m now).getLsbD b) := by
  cases h with
  | role roleId data hchecks hwrite =>
    obtain ⟨role, hrole, haccept⟩ := setRolePermissionChecks_ok hchecks
    obtain ⟨role', hrole', rfl⟩ := setRolePermission_ok hwrite
    obtain rfl := Option.some.inj (hrole.symm.trans hrole')
    exact ⟨rfl, covered_serverPermissions_role hrole haccept⟩
  | default data hchecks hwrite =>
    have haccept := setDefaultServerPermissionsChecks_ok hchecks
    obtain rfl := update_defaultPermissions_ok hwrite
    exact ⟨rfl, covered_serverPermissions_default haccept⟩

/-- **No escalation through server permission edits.**  `q` and `q'` ask about
the same user at the same time before and after an accepted edit.  Whoever is
neither owner nor privileged gains only what the editor has. -/
theorem acceptedEdit_no_escalation (h : AcceptedEdit D user clock target s server p edited)
    {q q' : DatabasePermissionQuery} (hserver : q.server = some server)
    (hserver' : q'.server = some edited) (hperspective : q'.perspective = q.perspective)
    (hclock : q'.clock = q.clock) (hmember : q'.ourMember edited = q.ourMember server)
    (hp : q.perspective.privileged = false) (ho : server.owner ≠ q.perspective.id) :
    ∃ v v' q₁ q₁', calculateServerPermissions.run q = some (v, q₁) ∧
      calculateServerPermissions.run q' = some (v', q₁') ∧
      ∀ b, v'.getLsbD b = true → v.getLsbD b = false → p.getLsbD b = true := by
  obtain ⟨howner, hcovered⟩ := h.covered
  have hp' : q'.perspective.privileged = false := by rw [hperspective]; exact hp
  have ho' : edited.owner ≠ q'.perspective.id := by rw [howner, hperspective]; exact ho
  rcases hm : q.ourMember server with - | m
  · -- strangers have nothing before and after
    refine ⟨0, 0, _, _,
      run_calculateServerPermissions_stranger hp ho hserver hm,
      run_calculateServerPermissions_stranger hp' ho' hserver'
        (hmember.trans hm), ?_⟩
    intro b hnew
    simp at hnew
  · refine ⟨_, _, _, _,
      run_calculateServerPermissions_member hp ho hserver hm,
      run_calculateServerPermissions_member hp' ho' hserver'
        (hmember.trans hm), ?_⟩
    intro b hnew hold
    rw [hclock] at hnew
    rcases hcovered m q.clock.head b hnew with h | h
    · rw [hold] at h
      exact absurd h Bool.false_ne_true
    · exact h

end AcceptedEdit

/-- A database with the server of the muted member. -/
def editDb : ReferenceDb where
  servers := HashMap.collect [("server", mutedServer)]

/-- The server after its owner lets the role `dj` speak. -/
def editedServer : Server :=
  { mutedServer with
    roles := mutedServer.roles.modify "dj" fun role =>
      { role with permissions := ⟨ChannelPermission.speak.value, 0⟩ } }

theorem acceptedEdit_dj : AcceptedEdit ReferenceDb.driver { id := "owner" } (Stream'.const 0)
    "server" editDb mutedServer ChannelPermission.grantAllSafe.value editedServer :=
  .role "dj" { allow := ChannelPermission.speak.value } rfl rfl

theorem acceptedEdit_no_escalation_dj :
    ∃ v v' q₁ q₁', calculateServerPermissions.run mutedQuery = some (v, q₁) ∧
      calculateServerPermissions.run (mutedQuery.withServer editedServer) = some (v', q₁') ∧
      ∀ b, v'.getLsbD b = true → v.getLsbD b = false →
        ChannelPermission.grantAllSafe.value.getLsbD b = true :=
  acceptedEdit_no_escalation acceptedEdit_dj rfl rfl rfl rfl rfl rfl (by decide)

end DawnChat
