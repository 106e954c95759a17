/-
DawnChat/Users/Badges.lean

The badges of a user (`core/database/src/models/users/model.rs`), and the conversion of a user
to the model that clients see and back (`core/database/src/util/bridge/v0.rs`).

Badges are bits of a word.  `get_badges` *adds* the bit of an early adopter to the stored
word.  That is the union of the two exactly if the bit is not stored already, and an early
adopter who is converted, read back and converted again has the bit added a second time
(`badges_bit_set_iff`).
-/
import DawnChat.Users.Relationships

namespace DawnChat

open Option

/-- `UserBadges::EarlyAdopter`: one of the first few users. -/
def UserBadges.earlyAdopter : BitVec 32 := 256

/-- Adding the bit is the union exactly if it is not there. -/
theorem UserBadges.add_earlyAdopter_eq_or_iff (badges : BitVec 32) :
    badges + earlyAdopter = badges ||| earlyAdopter ↔ badges &&& earlyAdopter = 0 := by
  constructor
  · intro hadd
    have hbit : badges &&& earlyAdopter
        = if badges.getLsbD 8 then earlyAdopter else 0 := BitVec.and_twoPow badges 8
    split at hbit
    · -- the union changes nothing, and the sum does
      have hor : badges ||| badges &&& earlyAdopter = badges := by
        ext i
        simp +contextual
      rw [hbit, ← hadd] at hor
      exact absurd (BitVec.add_right_eq_self.mp hor) (by decide)
    · exact hbit
  · exact BitVec.add_eq_or_of_and_eq_zero _ _

/-- Bits that are not there are added without a carry. -/
theorem UserBadges.not_uaddOverflow {badges added : BitVec 32} (h : badges &&& added = 0) :
    badges.uaddOverflow added = false := by
  have hlt := (badges + added).isLt
  rw [BitVec.toNat_add_of_and_eq_zero h] at hlt
  simpa [BitVec.uaddOverflow] using hlt

/-- A stored user with the bit field of their badges, an `i32`. -/
structure BadgedUser extends User where
  badges : Option (BitVec 32) := none
  deriving DecidableEq, Repr

/-- A user as clients see them, with their badges. -/
structure BadgedV0User extends V0User where
  badges : BitVec 32
  deriving DecidableEq, Repr

/-- `From<v0::User> for User`, with the badges. -/
def BadgedV0User.toBadgedUser (value : BadgedV0User) : BadgedUser :=
  { value.toV0User.toUser with badges := some value.badges }

namespace BadgedUser

-- the configured cut-off, and the time that is encoded in an id if it is a ULID
variable (cutoff : Option Nat) (timestampMs : String → Option Nat)

/-- Gets the user's badges along with calculating any dynamic badges.  It panics if a cut-off
is configured and the id is not a ULID; the sum wraps around, as it does in a release build. -/
def getBadges (u : BadgedUser) : Option (BitVec 32) :=
  let badges := u.badges.getD 0
  match cutoff with
  | some cutoff => do
    let timestamp ← timestampMs u.id
    if timestamp < cutoff then some (badges + UserBadges.earlyAdopter) else some badges
  | none => some badges

/-- Convert user object into user model, with the badges. -/
def into (u : BadgedUser) (db : Database) (isOnline : String → Bool)
    (clock : Stream' Timestamp) (perspective : Option User) : Option BadgedV0User := do
  let value ← u.toUser.into db isOnline clock perspective
  let badges ← u.getBadges cutoff timestampMs
  some { value with badges := badges }

/-- The account is older than the cut-off. -/
def isEarly (id : String) : Bool :=
  cutoff.any fun cutoff => (timestampMs id).any (· < cutoff)

/-- The badges that are computed. -/
def dynamicBadges (id : String) : BitVec 32 :=
  if isEarly cutoff timestampMs id then UserBadges.earlyAdopter else 0

variable {cutoff : Option Nat} {timestampMs : String → Option Nat} {u : BadgedUser}

theorem getBadges_eq {reported : BitVec 32} (h : u.getBadges cutoff timestampMs = some reported) :
    reported = u.badges.getD 0 + dynamicBadges cutoff timestampMs u.id := by
  rcases cutoff with - | cutoff
  · obtain rfl := some.inj h
    simp [dynamicBadges, isEarly]
  · obtain ⟨timestamp, htimestamp, h⟩ := bind_eq_some_iff.mp h
    by_cases hlt : timestamp < cutoff
    · rw [if_pos hlt] at h
      obtain rfl := some.inj h
      simp [dynamicBadges, isEarly, htimestamp, hlt]
    · rw [if_neg hlt] at h
      obtain rfl := some.inj h
      simp [dynamicBadges, isEarly, htimestamp, hlt]

/-- A conversion keeps the id and shows what `get_badges` returns. -/
theorem into_ok {db : Database} {isOnline : String → Bool} {clock : Stream' Timestamp}
    {perspective : Option User} {v : BadgedV0User}
    (h : u.into cutoff timestampMs db isOnline clock perspective = some v) :
    v.id = u.id ∧ v.badges = u.badges.getD 0 + dynamicBadges cutoff timestampMs u.id := by
  obtain ⟨value, hvalue, h⟩ := bind_eq_some_iff.mp h
  obtain ⟨badges, hbadges, h⟩ := bind_eq_some_iff.mp h
  obtain rfl := some.inj h
  exact ⟨User.into_id hvalue, getBadges_eq hbadges⟩

/-- **Badges as a bit set.**  What is reported is the union of the stored and the computed
badges exactly if an early adopter does not have the bit stored; and a user who is converted,
read back and converted again, at any time and for anyone, keeps the badges exactly if they
are not an early adopter. -/
theorem badges_bit_set_iff {reported : BitVec 32}
    (h : u.getBadges cutoff timestampMs = some reported) :
    ((reported = u.badges.getD 0 ||| dynamicBadges cutoff timestampMs u.id ∧
        (u.badges.getD 0).uaddOverflow (dynamicBadges cutoff timestampMs u.id) = false) ↔
      (isEarly cutoff timestampMs u.id = true →
        u.badges.getD 0 &&& UserBadges.earlyAdopter = 0)) ∧
    ∀ {db db' isOnline isOnline' clock clock' perspective perspective' v v'},
      u.into cutoff timestampMs db isOnline clock perspective = some v →
      v.toBadgedUser.into cutoff timestampMs db' isOnline' clock' perspective' = some v' →
      (v'.badges = v.badges ↔ isEarly cutoff timestampMs u.id = false) := by
  constructor
  · rw [getBadges_eq h, dynamicBadges]
    split
    next hearly =>
      rw [UserBadges.add_earlyAdopter_eq_or_iff]
      exact ⟨fun hbit _ => hbit.1, fun hbit =>
        ⟨hbit hearly, UserBadges.not_uaddOverflow (hbit hearly)⟩⟩
    next hearly =>
      have hcarry := UserBadges.not_uaddOverflow (BitVec.and_zero (x := u.badges.getD 0))
      exact ⟨fun _ h => absurd h hearly, fun _ => ⟨by simp, hcarry⟩⟩
  · intro db db' isOnline isOnline' clock clock' perspective perspective' v v' hv hv'
    have hagain : v'.badges = v.badges + dynamicBadges cutoff timestampMs u.id := by
      rw [← (into_ok hv).1]
      exact (into_ok hv').2
    rw [hagain, BitVec.add_right_eq_self, dynamicBadges]
    split
    next hearly => simp [hearly, UserBadges.earlyAdopter]
    next hearly => simp [hearly]

/-- An account that is older than the cut-off and has no badges. -/
def earlyAccount : BadgedUser := { id := "early" }

theorem badges_bit_set_iff_early :
    earlyAccount.getBadges (some 2) (fun _ => some 1) = some 256 ∧
      (256 : BitVec 32) = 0 ||| dynamicBadges (some 2) (fun _ => some 1) "early" := by
  have hget : earlyAccount.getBadges (some 2) (fun _ => some 1) = some 256 := rfl
  exact ⟨hget, ((badges_bit_set_iff hget).1.mpr fun _ => by decide).1⟩

/-- **A badge that is added twice.**  The early adopter is shown to themselves, read back and
shown again: the bit has become the next one. -/
theorem badges_added_twice : ∃ v v' : BadgedV0User, ∀ db clock,
    earlyAccount.into (some 2) (fun _ => some 1) db (fun _ => true) clock
        (some earlyAccount.toUser) = some v ∧
      v.toBadgedUser.into (some 2) (fun _ => some 1) db (fun _ => true) clock
        (some earlyAccount.toUser) = some v' ∧
      v.badges = 256 ∧ v'.badges = 512 := by
  exact ⟨_, _, fun _ _ => ⟨rfl, rfl, rfl, rfl⟩⟩

end BadgedUser

end DawnChat
