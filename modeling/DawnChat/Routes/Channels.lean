/-
DawnChat/Routes/Channels.lean

Channel routes that edit permissions
(`delta/src/routes/channels/permissions_set.rs`).

The route that sets a role's override in a channel compares the new override
with the role's override *on the server*, whereas what it replaces is the
override stored *on the channel*.  Where the two disagree on a bit that the
caller does not have, the check lets edits through that it should refuse, such
as clearing a deny.  `setRolePermissions_no_escalation_iff` says exactly where:
an accepted edit gives nothing away precisely when, on the bits the caller
lacks, it neither drops a deny that only the channel has nor keeps an allow
that only the server role has.
-/
import DawnChat.Routes.Servers

namespace DawnChat

open RustStd Fallible Handler PermissionValue

variable {σ : Type}

/-- Set role permission on a channel. -/
def Channel.setRolePermission (D : Driver σ) (channel : Channel) (roleId : String)
    (permissions : OverrideField) : Request σ Channel :=
  match channel with
  | .textChannel c => do
      D.setChannelRolePermission c.id roleId permissions
      pure (.textChannel { c with
        rolePermissions := c.rolePermissions.insert roleId permissions })
  | _ => fail .invalidOperation

/-- What the checks of `set_role_permissions` hand on. -/
structure RolePermissionsEdit where
  channel : Channel
  server : Server
  role : Role
  permissions : PermissionValue

/-- The checks of `set_role_permissions`. -/
def setRolePermissionsChecks (D : Driver σ) (user : User) (clock : Stream' Timestamp)
    (target roleId : String) (data : Override) : Request σ RolePermissionsEdit := do
  let channel ← read fun s => (D.database s).fetchChannel target
  let s ← get
  let query ← ofOption (calculateChannelPermissions.run
    ((DatabasePermissionQuery.new (D.database s) user clock).withChannel channel))
  ofExcept (query.1.throwIfLackingChannelPermission .managePermissions)
  let server ← Handler.ofExcept (query.2.server.elim (.error .invalidOperation) .ok)
  let role ← Handler.ofExcept ((server.roles.lookup roleId).elim (.error .notFound) .ok)
  let rank ← ofOption (DatabasePermissionQuery.getMemberRank.run query.2)
  throwIf (role.rank ≤ rank.1.getD i64Min) .notElevated
  -- the current value is taken from the server's role, not from the channel
  ofExcept (query.1.throwPermissionOverride (some role.permissions.toOverride) data)
  pure ⟨channel, server, role, query.1⟩

/-- Sets permissions for the specified role in this channel. -/
def setRolePermissions (D : Driver σ) (sync : VoiceSync σ) (user : User)
    (clock : Stream' Timestamp) (target roleId : String) (data : Override) :
    Request σ Channel := do
  let edit ← setRolePermissionsChecks D user clock target roleId data
  let newChannel ← edit.channel.setRolePermission D roleId data.toField
  sync newChannel (some edit.server) (some roleId)
  pure newChannel

variable {D : Driver σ} {user : User} {clock : Stream' Timestamp} {data : Override}

theorem setRolePermissionsChecks_ok {target roleId : String} {s s' : σ} {edit : RolePermissionsEdit}
    (h : exec (setRolePermissionsChecks D user clock target roleId data) s
      = (.ok edit, s')) :
    edit.permissions.throwPermissionOverride (some edit.role.permissions.toOverride) data
      = .ok () := by
  simp only [setRolePermissionsChecks, exec_bind_ok, exec_ofExcept_ok,
    exec_pure_ok] at h
  obtain ⟨_, _, -, _, _, -, _, _, -, _, _, -, _, _, -, _, _, -, _, _, -, _, _, -, _, _,
    ⟨hoverride, -⟩, rfl, -⟩ := h
  exact hoverride

/-- A rejected request leaves the store as it was. -/
theorem setRolePermissions_rejected {sync : VoiceSync σ} {target roleId : String} :
    Rejects (setRolePermissionsChecks D user clock target roleId data)
      (setRolePermissions D sync user clock target roleId data) := by
  unfold setRolePermissions setRolePermissionsChecks
  exact ReadOnly.rejects

/-! ### One bit -/

/-- The override a channel stores for a role, empty when absent. -/
def TextChannel.storedOverride (c : TextChannel) (roleId : String) : Override :=
  ((c.rolePermissions.lookup roleId).getD {}).toOverride

/-- On a bit the caller lacks, an edit drops no deny that only the channel has,
and keeps no allow that only the server role has. -/
def KeepsChannelBit (role stored data : Override) (b : Nat) : Prop :=
  (stored.deny.getLsbD b = true → role.deny.getLsbD b = true ∨ data.deny.getLsbD b = true) ∧
  (role.allow.getLsbD b = true → data.allow.getLsbD b = true →
    data.deny.getLsbD b = true ∨ stored.allow.getLsbD b = true ∨ stored.deny.getLsbD b = true)

/-- A bit the caller lacks, whatever it was before: an accepted override sets
it only where the stored one does, exactly when the edit keeps the channel's
bit. -/
theorem forall_mention_iff {p : PermissionValue} {role stored : Override}
    (haccept : p.throwPermissionOverride (some role) data = .ok ()) {b : Nat}
    (hb : p.getLsbD b = false) :
    (∀ x, (data.mention b).getD x = true → (stored.mention b).getD x = true) ↔
      KeepsChannelBit role stored data b := by
  obtain ⟨hallow, hdeny⟩ := throwPermissionOverride_some_bit haccept b
  simp only [hb, Bool.false_eq_true, or_false] at hallow hdeny
  simp only [Override.mention, KeepsChannelBit]
  clear haccept hb
  generalize data.allow.getLsbD b = da at *
  generalize data.deny.getLsbD b = dd at *
  generalize stored.allow.getLsbD b = sa at *
  generalize stored.deny.getLsbD b = sd at *
  generalize role.allow.getLsbD b = ra at *
  generalize role.deny.getLsbD b = rd at *
  revert da dd sa sd ra rd
  decide

/-- **An accepted edit of a channel override gives nothing away exactly when it
keeps the channel's bits where the caller lacks them.** -/
theorem setRolePermissions_no_escalation_iff {D : Driver σ} {user : User}
    {clock : Stream' Timestamp} {target roleId : String} {data : Override} {s s' : σ}
    {c : TextChannel} {server : Server} {role : Role} {p : PermissionValue}
    (haccept : exec (setRolePermissionsChecks D user clock target roleId data) s
      = (.ok ⟨.textChannel c, server, role, p⟩, s')) :
    (∀ (v : PermissionValue) (b : Nat), (v.apply data).getLsbD b = true →
      (v.apply (c.storedOverride roleId)).getLsbD b = false → p.getLsbD b = true) ↔
    ∀ b, p.getLsbD b = false →
      KeepsChannelBit role.permissions.toOverride (c.storedOverride roleId) data b := by
  have hoverride := setRolePermissionsChecks_ok haccept
  constructor
  · intro h b hb
    rw [← forall_mention_iff hoverride hb]
    intro x hnew
    by_cases hlt : b < 64
    · -- a value whose bit `b` is `x`
      obtain ⟨v, hv⟩ : ∃ v : PermissionValue, v.getLsbD b = x := by
        cases x with
        | false => exact ⟨0, by simp⟩
        | true => exact ⟨BitVec.allOnes 64, by rw [BitVec.getLsbD_allOnes, decide_eq_true hlt]⟩
      by_contra hold
      rw [Bool.not_eq_true] at hold
      have hset := h v b (by rw [getLsbD_apply, hv]; exact hnew)
        (by rw [getLsbD_apply, hv]; exact hold)
      exact Bool.false_ne_true (hb.symm.trans hset)
    · have hge : ∀ v : U64, v.getLsbD b = false := fun v => BitVec.getLsbD_of_ge v b (by omega)
      simp only [Override.mention, hge] at hnew ⊢
      exact hnew
  · intro h v b hnew hold
    by_contra hb
    rw [Bool.not_eq_true] at hb
    rw [getLsbD_apply] at hnew hold
    have hset := (forall_mention_iff hoverride hb).mpr (h b hb) _ hnew
    exact Bool.false_ne_true (hold.symm.trans hset)

/-! ### Clearing a deny -/

/-- A moderator may manage permissions; the role `muted` is restricted only by
channel overrides. -/
def clearedServer : Server where
  id := "server"
  owner := "owner"
  roles := HashMap.collect
    [("mod", { id := "mod", permissions := ⟨ChannelPermission.managePermissions.value, 0⟩ }),
      ("muted", { id := "muted", rank := 1 })]
  defaultPermissions := ChannelPermission.viewChannel.value

/-- The channel denies `SendMessage` to the role `muted`. -/
def clearedChannel : TextChannel where
  id := "general"
  server := "server"
  rolePermissions := HashMap.collect [("muted", ⟨0, ChannelPermission.sendMessage.value⟩)]

def clearedDb : ReferenceDb where
  servers := HashMap.collect [("server", clearedServer)]
  serverMembers := HashMap.collect
    [(⟨"server", "moderator"⟩, { id := ⟨"server", "moderator"⟩, roles := ["mod"] })]
  channels := HashMap.collect [("general", .textChannel clearedChannel)]

/-- The permissions of the moderator, who may not send messages either. -/
def clearedPermissions : PermissionValue :=
  ChannelPermission.viewChannel.value ||| ChannelPermission.managePermissions.value

/-- The moderator may replace the override by an empty one. -/
theorem setRolePermissionsChecks_clearedDb :
    exec (setRolePermissionsChecks ReferenceDb.driver { id := "moderator" }
        (Stream'.const 0) "general" "muted" {}) clearedDb
      = (.ok ⟨.textChannel clearedChannel, clearedServer, { id := "muted", rank := 1 },
          clearedPermissions⟩, clearedDb) :=
  rfl

/-- This clears a deny of `SendMessage` that the moderator could not override. -/
theorem clearedDb_escalates :
    exec (setRolePermissionsChecks ReferenceDb.driver { id := "moderator" }
        (Stream'.const 0) "general" "muted" {}) clearedDb
      = (.ok ⟨.textChannel clearedChannel, clearedServer, { id := "muted", rank := 1 },
          clearedPermissions⟩, clearedDb) ∧
    ¬ ∀ (v : PermissionValue) (b : Nat), (v.apply {}).getLsbD b = true →
      (v.apply (clearedChannel.storedOverride "muted")).getLsbD b = false →
      clearedPermissions.getLsbD b = true := by
  refine ⟨setRolePermissionsChecks_clearedDb, fun h => ?_⟩
  have hset := h ChannelPermission.sendMessage.value 22 (by decide) (by decide)
  exact absurd hset (by decide)

theorem setRolePermissions_no_escalation_iff_clearedDb :
    (∀ (v : PermissionValue) (b : Nat), (v.apply {}).getLsbD b = true →
      (v.apply (clearedChannel.storedOverride "muted")).getLsbD b = false →
      clearedPermissions.getLsbD b = true) ↔
    ∀ b, clearedPermissions.getLsbD b = false →
      KeepsChannelBit {} (clearedChannel.storedOverride "muted") {} b :=
  setRolePermissions_no_escalation_iff setRolePermissionsChecks_clearedDb

end DawnChat
