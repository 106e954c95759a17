/-
DawnChat/Permissions/Value.lean

Permission values and overrides (`core/permissions/src/models`).

A permission value is a `u64` of flags.  Two representations of an override
exist: `Override` with unsigned fields, used while calculating, and
`OverrideField` with signed fields, as stored.  The casts between `i64` and
`u64` keep the bits, so both are 64-bit vectors here and the conversions are
the identity on them.

Calculations are read one bit at a time.  On a single bit an override either
writes `false` (deny), or writes `true` (allow), or says nothing; deny is
looked at first because `apply` revokes after it allows.  `getLsbD_apply` and
its companions for `revoke` and `restrict` say that each operation is such an
optional write, so that a whole calculation is a sequence of writes in the
sense of `LastWrite`.
-/
import DawnChat.Lib.LastWrite
import DawnChat.Result
import Mathlib.Data.BitVec

namespace DawnChat

open LastWrite

/-- `u64`, and `i64` read through its bits. -/
abbrev U64 := BitVec 64

/-! ### Flags -/

/-- Abstract channel type. -/
inductive ChannelType where
  | savedMessages
  | directMessage
  | group
  | serverChannel
  | unknown
  deriving DecidableEq, Repr

/-- Permission flags of servers and channels. -/
inductive ChannelPermission where
  -- generic permissions
  | manageChannel
  | manageServer
  | managePermissions
  | manageRole
  | manageCustomisation
  -- member permissions
  | kickMembers
  | banMembers
  | timeoutMembers
  | assignRoles
  | changeNickname
  | manageNicknames
  | changeAvatar
  | removeAvatars
  -- channel permissions
  | viewChannel
  | readMessageHistory
  | sendMessage
  | manageMessages
  | manageWebhooks
  | inviteOthers
  | sendEmbeds
  | uploadFiles
  | masquerade
  | react
  | bypassSlowmode
  -- voice permissions
  | connect
  | speak
  | video
  | muteMembers
  | deafenMembers
  | moveMembers
  | listen
  -- channel permissions two electric boogaloo
  | mentionEveryone
  | mentionRoles
  -- grant all permissions
  | grantAllSafe
  | grantAll
  deriving DecidableEq, Repr

namespace ChannelPermission

/-- The discriminant, `self as u64`. -/
def value : ChannelPermission → U64
  | manageChannel => .twoPow 64 0
  | manageServer => .twoPow 64 1
  | managePermissions => .twoPow 64 2
  | manageRole => .twoPow 64 3
  | manageCustomisation => .twoPow 64 4
  | kickMembers => .twoPow 64 6
  | banMembers => .twoPow 64 7
  | timeoutMembers => .twoPow 64 8
  | assignRoles => .twoPow 64 9
  | changeNickname => .twoPow 64 10
  | manageNicknames => .twoPow 64 11
  | changeAvatar => .twoPow 64 12
  | removeAvatars => .twoPow 64 13
  | viewChannel => .twoPow 64 20
  | readMessageHistory => .twoPow 64 21
  | sendMessage => .twoPow 64 22
  | manageMessages => .twoPow 64 23
  | manageWebhooks => .twoPow 64 24
  | inviteOthers => .twoPow 64 25
  | sendEmbeds => .twoPow 64 26
  | uploadFiles => .twoPow 64 27
  | masquerade => .twoPow 64 28
  | react => .twoPow 64 29
  | bypassSlowmode => .twoPow 64 39
  | connect => .twoPow 64 30
  | speak => .twoPow 64 31
  | video => .twoPow 64 32
  | muteMembers => .twoPow 64 33
  | deafenMembers => .twoPow 64 34
  | moveMembers => .twoPow 64 35
  | listen => .twoPow 64 36
  | mentionEveryone => .twoPow 64 37
  | mentionRoles => .twoPow 64 38
  | grantAllSafe => 0x000FFFFFFFFFFFFF#64
  | grantAll => .allOnes 64

/-- `Display`, which is the derived `Debug` name. -/
def toString : ChannelPermission → String
  | manageChannel => "ManageChannel"
  | manageServer => "ManageServer"
  | managePermissions => "ManagePermissions"
  | manageRole => "ManageRole"
  | manageCustomisation => "ManageCustomisation"
  | kickMembers => "KickMembers"
  | banMembers => "BanMembers"
  | timeoutMembers => "TimeoutMembers"
  | assignRoles => "AssignRoles"
  | changeNickname => "ChangeNickname"
  | manageNicknames => "ManageNicknames"
  | changeAvatar => "ChangeAvatar"
  | removeAvatars => "RemoveAvatars"
  | viewChannel => "ViewChannel"
  | readMessageHistory => "ReadMessageHistory"
  | sendMessage => "SendMessage"
  | manageMessages => "ManageMessages"
  | manageWebhooks => "ManageWebhooks"
  | inviteOthers => "InviteOthers"
  | sendEmbeds => "SendEmbeds"
  | uploadFiles => "UploadFiles"
  | masquerade => "Masquerade"
  | react => "React"
  | bypassSlowmode => "BypassSlowmode"
  | connect => "Connect"
  | speak => "Speak"
  | video => "Video"
  | muteMembers => "MuteMembers"
  | deafenMembers => "DeafenMembers"
  | moveMembers => "MoveMembers"
  | listen => "Listen"
  | mentionEveryone => "MentionEveryone"
  | mentionRoles => "MentionRoles"
  | grantAllSafe => "GrantAllSafe"
  | grantAll => "GrantAll"

end ChannelPermission

/-- Permission flags towards another user. -/
inductive UserPermission where
  | access
  | viewProfile
  | sendMessage
  | invite
  deriving DecidableEq, Repr

/-- The discriminant, `self as u64`. -/
def UserPermission.value : UserPermission → U64
  | access => .twoPow 64 0
  | viewProfile => .twoPow 64 1
  | sendMessage => .twoPow 64 2
  | invite => .twoPow 64 3

/-- What a timed out member is left with at most. -/
def allowInTimeout : U64 :=
  ChannelPermission.viewChannel.value ||| ChannelPermission.readMessageHistory.value

def defaultPermissionViewOnly : U64 :=
  ChannelPermission.viewChannel.value ||| ChannelPermission.readMessageHistory.value

def defaultPermission : U64 :=
  defaultPermissionViewOnly +
    (ChannelPermission.sendMessage.value ||| ChannelPermission.inviteOthers.value |||
      ChannelPermission.sendEmbeds.value ||| ChannelPermission.uploadFiles.value |||
      ChannelPermission.connect.value ||| ChannelPermission.speak.value |||
      ChannelPermission.listen.value ||| ChannelPermission.video.value)

def defaultPermissionSavedMessages : U64 := ChannelPermission.grantAllSafe.value

def defaultPermissionDirectMessage : U64 :=
  defaultPermission +
    (ChannelPermission.manageChannel.value ||| ChannelPermission.react.value |||
      ChannelPermission.masquerade.value)

def defaultPermissionServer : U64 :=
  defaultPermission +
    (ChannelPermission.react.value ||| ChannelPermission.changeNickname.value |||
      ChannelPermission.changeAvatar.value)

/-! ### Overrides and values -/

/-- A single permission override. -/
structure Override where
  allow : U64 := 0
  deny : U64 := 0
  deriving DecidableEq, Repr, Inhabited

/-- A single permission override as it is stored. -/
structure OverrideField where
  a : U64 := 0
  d : U64 := 0
  deriving DecidableEq, Repr, Inhabited

/-- `From<OverrideField> for Override`. -/
def OverrideField.toOverride (v : OverrideField) : Override := ⟨v.a, v.d⟩

/-- `From<Override> for OverrideField`. -/
def Override.toField (v : Override) : OverrideField := ⟨v.allow, v.deny⟩

@[simp] theorem Override.toOverride_toField (v : Override) : v.toField.toOverride = v := rfl

/-- A permission value to manipulate. -/
abbrev PermissionValue := U64

namespace PermissionValue

/-- Allow given permissions. -/
def allow (p : PermissionValue) (v : U64) : PermissionValue := p ||| v

/-- Revoke given permissions. -/
def revoke (p : PermissionValue) (v : U64) : PermissionValue := p &&& ~~~v

/-- Apply a given override to this value. -/
def apply (p : PermissionValue) (v : Override) : PermissionValue :=
  revoke (allow p v.allow) v.deny

/-- Revoke all permissions. -/
def revokeAll (_ : PermissionValue) : PermissionValue := 0

/-- Restrict to given permissions. -/
def restrict (p : PermissionValue) (v : U64) : PermissionValue := p &&& v

/-- Check whether certain permissions have been granted. -/
def has (p : PermissionValue) (v : U64) : Bool := p &&& v == v

def hasUserPermission (p : PermissionValue) (permission : UserPermission) : Bool :=
  has p permission.value

def hasChannelPermission (p : PermissionValue) (permission : ChannelPermission) : Bool :=
  has p permission.value

/-- Throw if missing channel permission. -/
def throwIfLackingChannelPermission (p : PermissionValue) (permission : ChannelPermission) :
    Result Unit :=
  if hasChannelPermission p permission then .ok ()
  else .error (.missingPermission permission.toString)

/-- Throw an error if we cannot grant permissions on either allows or denies
going from the previous given value to the next given value. -/
def throwPermissionOverride (p : PermissionValue) (currentValue : Option Override)
    (nextValue : Override) : Result Unit :=
  match currentValue with
  | some currentValue =>
    -- allows added, and denies removed
    if !has p (~~~currentValue.allow &&& nextValue.allow)
        || !has p (currentValue.deny &&& ~~~nextValue.deny) then
      .error .cannotGiveMissingPermissions
    else .ok ()
  | none =>
    if !has p nextValue.allow then .error .cannotGiveMissingPermissions else .ok ()

end PermissionValue

/-! ### One bit at a time -/

/-- What an override says about bit `b`; inside one override deny beats allow. -/
def Override.mention (o : Override) (b : Nat) : Option Bool :=
  if o.deny.getLsbD b then some false
  else if o.allow.getLsbD b then some true
  else none

/-- Revoking `v` clears the bits of `v`. -/
def revokeMention (v : U64) (b : Nat) : Option Bool :=
  if v.getLsbD b then some false else none

/-- Restricting to `v` clears the bits outside `v`. -/
def restrictMention (v : U64) (b : Nat) : Option Bool :=
  if v.getLsbD b then none else some false

namespace PermissionValue

variable (p : PermissionValue) (v : U64)

theorem getLsbD_allow (b : Nat) : (allow p v).getLsbD b = (p.getLsbD b || v.getLsbD b) := by
  simp [allow]

theorem getLsbD_and_not (p v : U64) (b : Nat) :
    (p &&& ~~~v).getLsbD b = (p.getLsbD b && !v.getLsbD b) := by
  by_cases hb : b < 64
  · simp [hb]
  · simp [BitVec.getLsbD_of_ge p b (by omega)]

theorem getLsbD_revoke (b : Nat) :
    (revoke p v).getLsbD b = (revokeMention v b).getD (p.getLsbD b) := by
  rw [revoke, getLsbD_and_not, revokeMention]
  cases v.getLsbD b <;> simp

theorem getLsbD_restrict (b : Nat) :
    (restrict p v).getLsbD b = (restrictMention v b).getD (p.getLsbD b) := by
  rw [restrict, BitVec.getLsbD_and, restrictMention]
  cases v.getLsbD b <;> simp

/-- Applying an override is one optional write to each bit. -/
theorem getLsbD_apply (o : Override) (b : Nat) :
    (apply p o).getLsbD b = (o.mention b).getD (p.getLsbD b) := by
  rw [apply, revoke, getLsbD_and_not, getLsbD_allow, Override.mention]
  cases o.deny.getLsbD b <;> cases o.allow.getLsbD b <;> simp

/-- Applying overrides one after another is a sequence of writes to each bit. -/
theorem getLsbD_foldl_apply (os : List Override) (b : Nat) :
    (os.foldl apply p).getLsbD b = applyWrites (p.getLsbD b) (os.map (·.mention b)) :=
  obs_foldl (BitVec.getLsbD · b) (fun p o => getLsbD_apply p o b) p os

/-- The default override says nothing. -/
@[simp] theorem apply_default : apply p {} = p := by
  refine BitVec.eq_of_getLsbD_eq fun b _ => ?_
  rw [getLsbD_apply]
  simp [Override.mention]

variable {p : PermissionValue} {n : Override}

/-- A value has `v` when it has every bit of `v`. -/
theorem has_iff {v : U64} : has p v = true ↔ ∀ b, v.getLsbD b = true → p.getLsbD b = true := by
  rw [has, beq_iff_eq]
  constructor
  · intro h b hb
    rw [← h, BitVec.getLsbD_and, Bool.and_eq_true] at hb
    exact hb.1
  · intro h
    refine BitVec.eq_of_getLsbD_eq fun b _ => ?_
    rw [BitVec.getLsbD_and]
    rcases hb : v.getLsbD b with - | -
    · simp
    · simp [h b hb]

/-- Having a single flag is a bit test. -/
theorem has_twoPow {i : Nat} (hi : i < 64) : has p (.twoPow 64 i) = p.getLsbD i := by
  rw [Bool.eq_iff_iff, has_iff]
  constructor
  · intro h
    exact h i (by simp [hi])
  · intro h b hb
    rw [BitVec.getLsbD_twoPow] at hb
    simp only [Bool.and_eq_true, decide_eq_true_eq] at hb
    rwa [← hb.2]

theorem throwIfLackingChannelPermission_ok {permission : ChannelPermission} :
    throwIfLackingChannelPermission p permission = .ok () ↔
      hasChannelPermission p permission = true := by
  rw [throwIfLackingChannelPermission]
  split <;> simp_all

theorem throwPermissionOverride_some_ok {c : Override} :
    throwPermissionOverride p (some c) n = .ok () ↔
      has p (~~~c.allow &&& n.allow) = true ∧ has p (c.deny &&& ~~~n.deny) = true := by
  simp only [throwPermissionOverride]
  rcases has p (~~~c.allow &&& n.allow) with - | - <;>
    rcases has p (c.deny &&& ~~~n.deny) with - | - <;> simp

/-- What acceptance says about one bit: it needs the permission to be added to
the allows or removed from the denies. -/
theorem throwPermissionOverride_some_bit {c : Override}
    (h : throwPermissionOverride p (some c) n = .ok ()) (b : Nat) :
    (n.allow.getLsbD b = true → c.allow.getLsbD b = true ∨ p.getLsbD b = true) ∧
      (c.deny.getLsbD b = true → n.deny.getLsbD b = true ∨ p.getLsbD b = true) := by
  obtain ⟨hallow, hdeny⟩ := throwPermissionOverride_some_ok.mp h
  constructor
  · intro hn
    rcases hc : c.allow.getLsbD b with - | -
    · refine .inr (has_iff.mp hallow b ?_)
      rw [BitVec.and_comm, getLsbD_and_not, hn, hc]
      rfl
    · exact .inl rfl
  · intro hc
    rcases hn : n.deny.getLsbD b with - | -
    · refine .inr (has_iff.mp hdeny b ?_)
      rw [getLsbD_and_not, hn, hc]
      rfl
    · exact .inl rfl

theorem throwPermissionOverride_none_ok :
    throwPermissionOverride p none n = .ok () ↔ has p n.allow = true := by
  simp only [throwPermissionOverride]
  rcases has p n.allow with - | - <;> simp

end PermissionValue

end DawnChat
