/-
DawnChat/Lib/Recency.lean

The most recent keys of a stream, kept in a list with the latest one first.

A cache with room for `n` keys that is only asked whether it has a key, and told of keys
it does not have, holds the `n` most recent distinct keys it was told of.
-/
import Mathlib.Init

namespace Recency

open List

variable {α : Type*} [DecidableEq α]

/-- The distinct elements of a list, each in its first place. -/
def distinct : List α → List α
  | [] => []
  | x :: l => x :: (distinct l).filter (· ≠ x)

/-- Put a key in front; what is beyond the capacity is evicted. -/
def put (n : Nat) (x : α) (l : List α) : List α := (x :: l.filter (· ≠ x)).take n

theorem take_filter_ne {x : α} {n : Nat} {l : List α} (h : x ∉ l.take (n + 1)) :
    (l.filter (· ≠ x)).take n = l.take n := by
  induction l generalizing n with
  | nil => rfl
  | cons y l ih =>
    rw [take_succ_cons, mem_cons, not_or] at h
    rw [filter_cons_of_pos (by simpa using Ne.symm h.1)]
    cases n with
    | zero => rfl
    | succ n => rw [take_succ_cons, take_succ_cons, ih h.2]

/-- Putting a new key: the cache still holds the most recent distinct keys. -/
theorem put_take_distinct {x : α} {n : Nat} {l : List α} (h : x ∉ (distinct l).take n) :
    put n x ((distinct l).take n) = (distinct (x :: l)).take n := by
  cases n with
  | zero => rfl
  | succ n =>
    have hself : ((distinct l).take (n + 1)).filter (· ≠ x) = (distinct l).take (n + 1) :=
      filter_eq_self.mpr fun y hy => by simpa using fun hyx : y = x => h (hyx ▸ hy)
    rw [put, hself, distinct, take_succ_cons, take_succ_cons, take_filter_ne h,
      take_take, Nat.min_eq_left (Nat.le_succ n)]

end Recency
