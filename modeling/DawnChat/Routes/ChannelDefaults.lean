/-
DawnChat/Routes/ChannelDefaults.lean

The default permissions of a channel
(`delta/src/routes/channels/permissions_set_default.rs`).

In a channel of a server the new override is compared with the stored one, and an
accepted edit gives nobody a bit that the editor lacks.  In a group nothing is
compared: whoever may manage permissions can set any value.  There an edit gives
nothing away exactly if the new value is within the editor's own
(`setDefaultChannelPermissions_no_escalation_iff`).
-/
import DawnChat.Routes.Servers

namespace DawnChat

open RustStd Fallible Handler DatabasePermissionQuery PermissionValue Option Bool Prod

variable {σ : Type}

/-! ### The route -/

/-- New default permissions. -/
inductive DataDefaultChannelPermissions where
  /-- Permission values to set for members in a `Group` -/
  | value (permissions : U64)
  /-- Allow / deny values to set for members in this server channel -/
  | field (permissions : Override)

/-- `update_channel` of the database. -/
abbrev UpdateChannel (σ : Type) := String → PartialChannel → List FieldsChannel → Request σ Unit

/-- Update channel data. -/
def Channel.update (updateChannel : UpdateChannel σ) (channel : Channel) (p : PartialChannel)
    (remove : List FieldsChannel) : Request σ Channel := do
  let channel' := (remove.foldl removeField channel).applyOptions p
  updateChannel channel'.id p remove
  pure channel'

/-- What the checks of `set_default_channel_permissions` hand on. -/
structure DefaultPermissionsEdit where
  channel : Channel
  changes : PartialChannel
  permissions : PermissionValue

/-- The channel with the new default. -/
def DefaultPermissionsEdit.edited (edit : DefaultPermissionsEdit) : Channel :=
  edit.channel.applyOptions edit.changes

/-- The checks of `set_default_channel_permissions`. -/
def setDefaultChannelPermissionsChecks (D : Driver σ) (user : User) (clock : Stream' Timestamp)
    (target : String) (data : DataDefaultChannelPermissions) :
    Request σ DefaultPermissionsEdit := do
  let channel ← read fun s => (D.database s).fetchChannel target
  let s ← get
  let query ← ofOption (calculateChannelPermissions.run
    ((DatabasePermissionQuery.new (D.database s) user clock).withChannel channel))
  ofExcept (query.1.throwIfLackingChannelPermission .managePermissions)
  match channel, data with
  -- the value for a group is not compared with anything
  | .group _, .value permissions =>
    pure ⟨channel, { permissions := some permissions }, query.1⟩
  | .textChannel c, .field field => do
      ofExcept
        (query.1.throwPermissionOverride (c.defaultPermissions.map (·.toOverride)) field)
      pure ⟨channel, { defaultPermissions := some field.toField }, query.1⟩
  | _, _ => fail .invalidOperation

/-- Sets permissions for the default role in this channel. -/
def setDefaultChannelPermissions (D : Driver σ) (updateChannel : UpdateChannel σ)
    (sync : VoiceSync σ) (user : User) (clock : Stream' Timestamp) (target : String)
    (data : DataDefaultChannelPermissions) : Request σ Channel := do
  let edit ← setDefaultChannelPermissionsChecks D user clock target data
  let channel ← edit.channel.update updateChannel edit.changes []
  let server ← match channel.server with
    | some serverId => do
        let server ← read fun s => (D.database s).fetchServer serverId
        pure (some server)
    | none => pure none
  sync channel server none
  pure channel

/-! ### What acceptance means -/

/-- An accepted edit: the editor's permissions were calculated in the channel, and only an
override has been compared. -/
inductive Accepted (db : Database) (user : User) (clock : Stream' Timestamp) :
    DataDefaultChannelPermissions → DefaultPermissionsEdit → Prop
  | group {c : Group} {permissions : U64} {p : PermissionValue} {q : DatabasePermissionQuery}
      (hrun : calculateChannelPermissions.run
        ((DatabasePermissionQuery.new db user clock).withChannel (.group c)) = some (p, q))
      (hmanage : p.hasChannelPermission .managePermissions = true) :
      Accepted db user clock (.value permissions)
        ⟨.group c, { permissions := some permissions }, p⟩
  | textChannel {c : TextChannel} {field : Override} {p : PermissionValue}
      (hoverride : p.throwPermissionOverride (c.defaultPermissions.map (·.toOverride)) field
        = .ok ()) :
      Accepted db user clock (.field field)
        ⟨.textChannel c, { defaultPermissions := some field.toField }, p⟩

section Checks

variable {D : Driver σ} {user : User} {clock : Stream' Timestamp} {target : String}
  {data : DataDefaultChannelPermissions} {s s' : σ} {edit : DefaultPermissionsEdit}

theorem accepted_of_checks
    (h : exec (setDefaultChannelPermissionsChecks D user clock target data) s
      = (.ok edit, s')) : Accepted (D.database s) user clock data edit := by
  simp only [setDefaultChannelPermissionsChecks, exec_bind_ok, exec_read_ok,
    exec_get_ok, exec_ofOption_ok, exec_ofExcept_ok] at h
  obtain ⟨channel, _, ⟨-, rfl⟩, _, _, ⟨rfl, rfl⟩, ⟨p, q⟩, _, ⟨hrun, rfl⟩, _, _, ⟨hmanage, rfl⟩,
    h⟩ := h
  split at h
  · obtain ⟨rfl, -⟩ := exec_pure_ok.mp h
    exact .group hrun (throwIfLackingChannelPermission_ok.mp hmanage)
  · simp only [exec_bind_ok, exec_ofExcept_ok, exec_pure_ok] at h
    obtain ⟨_, _, ⟨hoverride, -⟩, rfl, -⟩ := h
    exact .textChannel hoverride
  · rw [exec_fail] at h
    cases h

/-- A rejected request leaves the store as it was. -/
theorem setDefaultChannelPermissions_rejected {updateChannel : UpdateChannel σ}
    {sync : VoiceSync σ} :
    Rejects (setDefaultChannelPermissionsChecks D user clock target data)
      (setDefaultChannelPermissions D updateChannel sync user clock target data) := by
  have : ReadOnly (setDefaultChannelPermissionsChecks D user clock target data) :=
    .andThen fun _ => .andThen fun _ => .andThen fun _ => .andThen fun _ => by
      split <;> infer_instance
  exact ReadOnly.rejects

end Checks

/-! ### Groups -/

/-- What a participant of a group who does not own it may do. -/
def Group.participantPermissions (c : Group) : PermissionValue :=
  defaultPermissionViewOnly ||| c.permissions.getD defaultPermissionDirectMessage

section Group

variable (db : Database) {user : User} (clock : Stream' Timestamp) {c : Group}
  (hp : user.privileged = false) (ho : c.owner ≠ user.id)

include hp ho

theorem run_calculateChannelPermissions_group :
    calculateChannelPermissions.run
        ((new db user clock).withChannel (.group c))
      = some (if user.id ∈ c.recipients then c.participantPermissions else 0,
          (new db user clock).withChannel (.group c)) := by
  by_cases hpart : user.id ∈ c.recipients <;>
    simp [calculateChannelPermissions, PermissionQuery.areWePrivileged, hp,
      PermissionQuery.getChannelType, getChannelType, withChannel, new,
      PermissionQuery.doWeOwnTheChannel, doWeOwnTheChannel, ho,
      PermissionQuery.areWePartOfTheChannel, areWePartOfTheChannel, hpart,
      PermissionQuery.getDefaultChannelPermissions, getDefaultChannelPermissions,
      Group.participantPermissions]

variable {db clock}

/-- Who may manage the permissions of a group without owning it is a participant. -/
theorem participant_of_manages {p : PermissionValue} {q : DatabasePermissionQuery}
    (hrun : calculateChannelPermissions.run
      ((new db user clock).withChannel (.group c)) = some (p, q))
    (hmanage : p.hasChannelPermission .managePermissions = true) :
    user.id ∈ c.recipients ∧ p = c.participantPermissions := by
  rw [run_calculateChannelPermissions_group db clock hp ho] at hrun
  have hvalue := congrArg fst (some.inj hrun)
  dsimp only at hvalue
  split at hvalue
  · next hpart => exact ⟨hpart, hvalue.symm⟩
  · rw [← hvalue] at hmanage
    exact absurd hmanage (by decide)

end Group

/-! ### No escalation -/

/-- Whatever a user who does not own the group has more in the channel after the edit, the editor
has. -/
def DefaultPermissionsEdit.GroupCovered (edit : DefaultPermissionsEdit) (c : Group) : Prop :=
  ∀ (db : Database) (user : User) (clock : Stream' Timestamp) (v v' : PermissionValue)
    (q q' : DatabasePermissionQuery), c.owner ≠ user.id →
    calculateChannelPermissions.run
      ((DatabasePermissionQuery.new db user clock).withChannel edit.channel) = some (v, q) →
    calculateChannelPermissions.run
      ((DatabasePermissionQuery.new db user clock).withChannel edit.edited) = some (v', q') →
    ∀ b, v'.getLsbD b = true → v.getLsbD b = false → edit.permissions.getLsbD b = true

/-- Without a stored override an accepted edit is one of the empty override. -/
theorem throwPermissionOverride_map {p : PermissionValue} {current : Option OverrideField}
    {next : Override} (h : p.throwPermissionOverride (current.map (·.toOverride)) next = .ok ()) :
    p.throwPermissionOverride (some (current.getD {}).toOverride) next = .ok () := by
  cases current with
  | some current => exact h
  | none =>
    rw [map_none, throwPermissionOverride_none_ok] at h
    rw [throwPermissionOverride_some_ok]
    constructor
    · rw [has_iff] at h ⊢
      exact fun b hb => h b (by rw [BitVec.getLsbD_and, and_eq_true] at hb; exact hb.2)
    · rw [has_iff]
      intro b hb
      simp [OverrideField.toOverride] at hb

theorem getLsbD_participantPermissions (c : Group) (permissions : U64) (b : Nat) :
    ({ c with permissions := some permissions } : Group).participantPermissions.getLsbD b
      = (defaultPermissionViewOnly.getLsbD b || permissions.getLsbD b) :=
  BitVec.getLsbD_or

/-- What everybody may do, participants may. -/
theorem participantPermissions_viewOnly (c : Group) {b : Nat}
    (hb : defaultPermissionViewOnly.getLsbD b = true) :
    c.participantPermissions.getLsbD b = true := by
  rw [Group.participantPermissions, BitVec.getLsbD_or, hb, Bool.true_or]

theorem groupCovered_iff {db : Database} {user : User} {clock : Stream' Timestamp} {c : Group}
    {permissions : U64} {p : PermissionValue} {q : DatabasePermissionQuery}
    (hp : user.privileged = false) (ho : c.owner ≠ user.id)
    (hrun : calculateChannelPermissions.run
      ((new db user clock).withChannel (.group c)) = some (p, q))
    (hmanage : p.hasChannelPermission .managePermissions = true) :
    DefaultPermissionsEdit.GroupCovered
        ⟨.group c, { permissions := some permissions }, p⟩ c ↔
      has p permissions = true := by
  obtain ⟨hpart, rfl⟩ := participant_of_manages hp ho hrun hmanage
  rw [has_iff]
  constructor
  · intro h b hb
    -- the editor is a participant, and would gain the bit
    by_contra hlacks
    rw [not_eq_true] at hlacks
    have hbefore := run_calculateChannelPermissions_group db clock hp ho
    have hafter : calculateChannelPermissions.run ((new db user
        clock).withChannel (.group { c with permissions := some permissions })) = _ :=
      run_calculateChannelPermissions_group db clock hp ho
    rw [if_pos hpart] at hbefore hafter
    have hgain := h db user clock _ _ _ _ ho hbefore hafter b
      (by rw [getLsbD_participantPermissions, hb, Bool.or_true]) hlacks
    exact false_ne_true (hlacks.symm.trans hgain)
  · intro h db' user' clock' v v' q q' ho' hbefore hafter b hnew hold
    rcases hp' : user'.privileged with - | -
    · have hbefore' := run_calculateChannelPermissions_group db' clock' hp' ho'
      have hafter' : calculateChannelPermissions.run ((new db' user'
          clock').withChannel (.group { c with permissions := some permissions })) = _ :=
        run_calculateChannelPermissions_group db' clock' hp' ho'
      obtain ⟨rfl, -⟩ := mk.inj (some.inj (hbefore'.symm.trans hbefore))
      obtain ⟨rfl, -⟩ := mk.inj (some.inj (hafter'.symm.trans hafter))
      by_cases hpart' : user'.id ∈ c.recipients
      · rw [if_pos hpart', getLsbD_participantPermissions, or_eq_true] at hnew
        rw [if_pos hpart'] at hold
        obtain hview | hset := hnew
        · exact participantPermissions_viewOnly c hview
        · exact h b hset
      · rw [if_neg hpart'] at hnew
        simp at hnew
    · -- for privileged users nothing depends on the channel
      have hprivileged : ∀ channel, calculateChannelPermissions.run
          ((new db' user' clock').withChannel channel) = _ :=
        fun _ => run_calculateChannelPermissions_privileged hp'
      obtain ⟨rfl, -⟩ := mk.inj (some.inj ((hprivileged _).symm.trans hbefore))
      obtain ⟨rfl, -⟩ := mk.inj (some.inj ((hprivileged _).symm.trans hafter))
      exact absurd (hold.symm.trans hnew) false_ne_true

/-- **Default permissions of a channel.**  An accepted edit of an editor who is not privileged
gives nobody a bit that the editor lacks: always in a channel of a server, and in a group that the
editor does not own exactly if the new value is within the editor's own. -/
theorem setDefaultChannelPermissions_no_escalation_iff {D : Driver σ} {user : User}
    {clock : Stream' Timestamp} {target : String} {data : DataDefaultChannelPermissions} {s s' : σ}
    {edit : DefaultPermissionsEdit}
    (haccept : exec (setDefaultChannelPermissionsChecks D user clock target data) s
      = (.ok edit, s')) (hp : user.privileged = false) :
    (∀ c c', edit.channel = .group c → edit.edited = .group c' → c.owner ≠ user.id →
      (edit.GroupCovered c ↔ PermissionValue.has edit.permissions
        (c'.permissions.getD defaultPermissionDirectMessage) = true)) ∧
    ∀ c c', edit.channel = .textChannel c → edit.edited = .textChannel c' →
      ∀ (v : PermissionValue) (b : Nat),
        (v.apply (c'.defaultPermissions.getD {}).toOverride).getLsbD b = true →
        (v.apply (c.defaultPermissions.getD {}).toOverride).getLsbD b = false →
        edit.permissions.getLsbD b = true := by
  cases accepted_of_checks haccept with
  | group hrun hmanage =>
    refine ⟨?_, fun c c' hc => (by cases hc)⟩
    rintro c c' hc hc' ho
    cases hc
    cases hc'
    exact groupCovered_iff hp ho hrun hmanage
  | textChannel hoverride =>
    refine ⟨fun c c' hc => (by cases hc), ?_⟩
    rintro c c' hc hc' v b hnew hold
    cases hc
    cases hc'
    rw [getLsbD_apply] at hnew hold
    have hcovered := Covered.override (throwPermissionOverride_map hoverride) b
      (Covered.refl _ (v.getLsbD b))
    exact (hcovered hnew).resolve_left (by rw [hold]; exact false_ne_true)

/-! ### A group in which participants may manage permissions -/

/-- A group that lets its participants manage permissions, and no more. -/
def managedGroup : Group where
  id := "group"
  name := "group"
  owner := "owner"
  recipients := ["owner", "user"]
  permissions := some ChannelPermission.managePermissions.value

def managedDb : ReferenceDb where
  channels := HashMap.collect [("group", .group managedGroup)]

/-- The participant gives everybody the permission to send messages, which they do not have. -/
def managedEdit : DefaultPermissionsEdit where
  channel := .group managedGroup
  changes := { permissions := some ChannelPermission.sendMessage.value }
  permissions := managedGroup.participantPermissions

theorem setDefaultChannelPermissions_no_escalation_iff_managed :
    managedEdit.GroupCovered managedGroup ↔
      PermissionValue.has managedGroup.participantPermissions
        ChannelPermission.sendMessage.value = true := by
  have haccept : exec (setDefaultChannelPermissionsChecks ReferenceDb.driver
      { id := "user" } (Stream'.const 0) "group" (.value ChannelPermission.sendMessage.value))
      managedDb = (.ok managedEdit, managedDb) := rfl
  exact (setDefaultChannelPermissions_no_escalation_iff haccept rfl).1 managedGroup
    { managedGroup with permissions := some ChannelPermission.sendMessage.value } rfl rfl
    (by decide)

/-- The edit is accepted, and the participant gains a permission that they lack. -/
theorem managedGroup_escalates :
    exec (setDefaultChannelPermissionsChecks ReferenceDb.driver
      { id := "user" } (Stream'.const 0) "group" (.value ChannelPermission.sendMessage.value))
      managedDb = (.ok managedEdit, managedDb) ∧
    (calculateChannelPermissions.run ((new managedDb.database
      { id := "user" } (Stream'.const 0)).withChannel managedEdit.edited)).map
        (fun r => hasChannelPermission r.1 .sendMessage) = some true ∧
    managedEdit.permissions.hasChannelPermission .sendMessage = false :=
  ⟨rfl, rfl, by decide⟩

end DawnChat
