/-
DawnChat/Lib/Custody.lean

Things that are in one place at a time.

Names are drawn from a supply that never yields the same name twice.  A named thing is
put somewhere when its name is drawn, and from then on it is handed from place to place
or lost.  `InOnePlace` says that no thing is in two places, and it is kept by these three
moves (`lose`, `mint` and `handOver`), whatever the places are.
-/
import Mathlib.Logic.Embedding.Basic

namespace Custody

variable {place name : Type*} {supply : ℕ ↪ name} {bound bound' : ℕ}
  {holds holds' : place → name → Prop}

/-- No thing is in two places, and all names are among the first `bound` ones of the supply. -/
structure InOnePlace (supply : ℕ ↪ name) (bound : ℕ) (holds : place → name → Prop) : Prop where
  unique : ∀ {p q x}, holds p x → holds q x → p = q
  drawn : ∀ {p x}, holds p x → ∃ n < bound, supply n = x

/-- At first there is nothing. -/
theorem InOnePlace.nowhere (h : ∀ p x, ¬ holds p x) : InOnePlace supply bound holds where
  unique hp := absurd hp (h _ _)
  drawn hp := absurd hp (h _ _)

variable (h : InOnePlace supply bound holds)

include h

/-- Things get lost. -/
theorem InOnePlace.lose (hbound : bound ≤ bound')
    (hstep : ∀ p x, holds' p x → holds p x) : InOnePlace supply bound' holds' where
  unique hp hq := h.unique (hstep _ _ hp) (hstep _ _ hq)
  drawn hp := by
    obtain ⟨n, hn, hx⟩ := h.drawn (hstep _ _ hp)
    exact ⟨n, Nat.lt_of_lt_of_le hn hbound, hx⟩

/-- One name is in one place, and everything else is where it was. -/
theorem InOnePlace.put (hbound : bound ≤ bound') (there : place)
    {x₀ : name} (hx₀ : ∃ n < bound', supply n = x₀)
    (hstep : ∀ p x, holds' p x → holds p x ∧ x ≠ x₀ ∨ p = there ∧ x = x₀) :
    InOnePlace supply bound' holds' where
  unique := by
    intro p q x hp hq
    obtain ⟨hp, hne⟩ | ⟨hp, rfl⟩ := hstep p x hp
    · obtain ⟨hq, -⟩ | ⟨-, heq⟩ := hstep q x hq
      · exact h.unique hp hq
      · exact absurd heq hne
    · obtain ⟨-, hne⟩ | ⟨hq, -⟩ := hstep q x hq
      · exact absurd rfl hne
      · rw [hp, hq]
  drawn := by
    intro p x hp
    obtain ⟨hp, -⟩ | ⟨-, rfl⟩ := hstep p x hp
    · obtain ⟨n, hn, hx⟩ := h.drawn hp
      exact ⟨n, Nat.lt_of_lt_of_le hn hbound, hx⟩
    · exact hx₀

/-- A new name is drawn. -/
theorem InOnePlace.mint {n : ℕ} (hn : bound ≤ n) (hn' : n < bound') (there : place)
    (hstep : ∀ p x, holds' p x → holds p x ∨ p = there ∧ x = supply n) :
    InOnePlace supply bound' holds' := by
  refine h.put (Nat.le_trans hn (Nat.le_of_lt hn')) there ⟨n, hn', rfl⟩ fun p x hp => ?_
  refine (hstep p x hp).imp_left fun hp => ?_
  refine ⟨hp, fun heq => ?_⟩
  obtain ⟨m, hm, hx⟩ := h.drawn hp
  have hmn : m = n := supply.injective (hx.trans heq)
  rw [hmn] at hm
  exact absurd hm (Nat.not_lt_of_ge hn)

/-- A thing is handed over. -/
theorem InOnePlace.handOver (hbound : bound ≤ bound') (here there : place) {x₀ : name}
    (hhere : holds here x₀)
    (hstep : ∀ p x, holds' p x → holds p x ∧ (p = here → x ≠ x₀) ∨ p = there ∧ x = x₀) :
    InOnePlace supply bound' holds' := by
  obtain ⟨n, hn, hx⟩ := h.drawn hhere
  refine h.put hbound there ⟨n, Nat.lt_of_lt_of_le hn hbound, hx⟩ fun p x hp => ?_
  refine (hstep p x hp).imp_left fun ⟨hp, hne⟩ => ⟨hp, fun heq => ?_⟩
  rw [heq] at hp
  exact hne (h.unique hp hhere) heq

end Custody
