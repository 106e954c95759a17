/-
DawnChat/Lib/Counter.lean

Counters with caps.

A family of counters is a function to the natural numbers, and `Within top n` says that
no counter is above its bound.  A guarded increment (`StepsUp bound n n' k`) raises at most the
counter `k`, by at most one, and only from a value below the bound of the guard.

Bounds that are at least those of the guard are kept (`StepsUp.within`).  A guard that lets one
too many through does as well as the right one for a counter that is not exactly full
(`StepsUp.tighten`).
-/
import Mathlib.Logic.Function.Basic

namespace Counter

variable {κ : Type*} {top cap bound n n' : κ → Nat} {k : Option κ}

/-- No counter is above its bound. -/
def Within (top n : κ → Nat) : Prop := ∀ k, n k ≤ top k

/-- At most one more at `k`, and only from below the bound. -/
def StepsUp (bound n n' : κ → Nat) (k : Option κ) : Prop :=
  ∀ k', n' k' = n k' ∨ k = some k' ∧ n' k' = n k' + 1 ∧ n k' < bound k'

theorem StepsUp.refl (bound n : κ → Nat) (k : Option κ) : StepsUp bound n n k :=
  fun _ => .inl rfl

/-- Writing the old value. -/
theorem StepsUp.update_same [DecidableEq κ] {k' : κ} {m : Nat} (hm : m = n k') :
    StepsUp bound n (Function.update n k' m) k := by
  rw [hm, Function.update_eq_self]
  exact .refl bound n k

/-- Writing the next value. -/
theorem StepsUp.update_succ [DecidableEq κ] {k' : κ} {m : Nat} (hm : m = n k' + 1)
    (h : n k' < bound k') : StepsUp bound n (Function.update n k' m) (some k') := by
  intro j
  by_cases hj : j = k'
  · subst hj
    exact .inr ⟨rfl, by rw [Function.update_self, hm], h⟩
  · exact .inl (Function.update_of_ne hj _ _)

theorem StepsUp.within (h : StepsUp bound n n' k) (htop : Within top bound) (hn : Within top n) :
    Within top n' := by
  intro k'
  have hle := htop k'
  have hcount := hn k'
  rcases h k' with hsame | ⟨-, hup, hlt⟩ <;> omega

theorem StepsUp.tighten (h : StepsUp (cap · + 1) n n' k) (hfull : ∀ k' ∈ k, n k' ≠ cap k') :
    StepsUp cap n n' k := by
  intro k'
  refine (h k').imp_right fun ⟨hk, hup, hlt⟩ => ⟨hk, hup, ?_⟩
  exact Nat.lt_of_le_of_ne (Nat.le_of_lt_succ hlt) (hfull k' hk)

end Counter
