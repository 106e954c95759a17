/-
DawnChat/Lib/SetLog.lean

Logs of insertions and removals on a set.

`replay` carries out a list of operations one by one.  A batched implementation
keeps two lists instead, the elements that were really added and the elements
that were really removed (`added`, `removed`), and loses the order between the
two.  An element that changes more than once is on both lists, and then the
order in which the lists are applied decides: "removals last" loses the element
and "additions last" keeps it.

The bookkeeping is one equation, `count_balance`: additions minus removals of
an element is the change of its membership.  From it `batch_eq_replay_iff`: the
two orders agree with each other and with the replay exactly when no element
changes more than once.
-/
import Mathlib.Data.Finset.Union
import Mathlib.Data.List.Count

namespace SetLog

open List

variable {α : Type*} [DecidableEq α]

/-- An operation on a set. -/
inductive Op (α : Type*) where
  | insert (a : α)
  | remove (a : α)
  deriving DecidableEq, Repr

/-- Carry out one operation. -/
def Op.apply (S : Finset α) : Op α → Finset α
  | .insert a => Insert.insert a S
  | .remove a => S.erase a

/-- What the operation adds to the set. -/
def Op.gain (S : Finset α) : Op α → List α
  | .insert a => if a ∈ S then [] else [a]
  | .remove _ => []

/-- What the operation takes from the set. -/
def Op.loss (S : Finset α) : Op α → List α
  | .insert _ => []
  | .remove a => if a ∈ S then [a] else []

/-- Carry out the operations one by one. -/
def replay (S : Finset α) (ops : List (Op α)) : Finset α := ops.foldl Op.apply S

/-- Everything the operations add, in order. -/
def added (S : Finset α) : List (Op α) → List α
  | [] => []
  | op :: ops => op.gain S ++ added (op.apply S) ops

/-- Everything the operations take, in order. -/
def removed (S : Finset α) : List (Op α) → List α
  | [] => []
  | op :: ops => op.loss S ++ removed (op.apply S) ops

/-- How often the operations change whether `t` is in the set. -/
def flips (t : α) (S : Finset α) : List (Op α) → Nat
  | [] => 0
  | op :: ops => (if t ∈ S ↔ t ∈ op.apply S then 0 else 1) + flips t (op.apply S) ops

/-- Membership as a number. -/
def indicator (t : α) (S : Finset α) : Nat := if t ∈ S then 1 else 0

/-! ### One operation -/

attribute [local simp] Op.apply Op.gain Op.loss

theorem indicator_le_one (t : α) (S : Finset α) : indicator t S ≤ 1 := by
  rw [indicator]
  split <;> omega

/-- One operation's gain and loss account for the change of membership. -/
theorem count_balance_op (t : α) (S : Finset α) (op : Op α) :
    indicator t S + (op.gain S).count t = (op.loss S).count t + indicator t (op.apply S) := by
  rcases op with a | a
  · by_cases ha : a ∈ S
    · simp [ha]
    · by_cases hta : t = a <;> simp [indicator, ha, hta, eq_comm]
  · by_cases ha : a ∈ S
    · by_cases hta : t = a <;> simp [indicator, ha, hta, eq_comm]
    · simp [ha]

/-- An operation changes the membership of `t` when `t` is its gain or its loss. -/
theorem flips_op (t : α) (S : Finset α) (op : Op α) :
    (if t ∈ S ↔ t ∈ op.apply S then 0 else 1) = (op.gain S).count t + (op.loss S).count t := by
  rcases op with a | a
  · by_cases ha : a ∈ S
    · simp [ha]
    · by_cases hta : t = a <;> simp [ha, hta, eq_comm]
  · by_cases ha : a ∈ S
    · by_cases hta : t = a <;> simp [ha, hta, eq_comm]
    · simp [ha]

/-! ### A list of operations -/

/-- **Balance.**  The additions and removals of an element account for the
change of its membership. -/
theorem count_balance (t : α) (S : Finset α) (ops : List (Op α)) :
    indicator t S + (added S ops).count t
      = (removed S ops).count t + indicator t (replay S ops) := by
  induction ops generalizing S with
  | nil => exact Nat.add_comm _ _
  | cons op ops ih =>
    have hop := count_balance_op t S op
    have hops := ih (op.apply S)
    show indicator t S + (op.gain S ++ added (op.apply S) ops).count t
      = (op.loss S ++ removed (op.apply S) ops).count t
        + indicator t (replay (op.apply S) ops)
    rw [count_append, count_append]
    omega

theorem flips_eq_count (t : α) (S : Finset α) (ops : List (Op α)) :
    flips t S ops = (added S ops).count t + (removed S ops).count t := by
  induction ops generalizing S with
  | nil => rfl
  | cons op ops ih =>
    rw [flips, flips_op, ih, added, removed, count_append, count_append]
    omega

/-- An element changes at most once exactly when it is not on both lists. -/
theorem flips_le_one_iff (t : α) (S : Finset α) (ops : List (Op α)) :
    flips t S ops ≤ 1 ↔ ¬ (t ∈ added S ops ∧ t ∈ removed S ops) := by
  have hbal := count_balance t S ops
  have hS := indicator_le_one t S
  have hR := indicator_le_one t (replay S ops)
  rw [flips_eq_count, ← count_pos_iff, ← count_pos_iff]
  omega

variable {t : α} {S : Finset α} {ops : List (Op α)}

/-- Membership after the replay, read off the two lists, for an element that is
not on both. -/
theorem mem_replay_of_not_both (h : ¬ (t ∈ added S ops ∧ t ∈ removed S ops)) :
    t ∈ replay S ops ↔ (t ∈ S ∨ t ∈ added S ops) ∧ t ∉ removed S ops := by
  have hbal := count_balance t S ops
  rw [← count_pos_iff, ← count_pos_iff] at h ⊢
  by_cases hS : t ∈ S <;> by_cases hR : t ∈ replay S ops <;>
    simp only [indicator, hS, hR, if_true, if_false] at hbal <;>
    simp only [hS, hR, true_or, false_or, true_and, true_iff, false_iff] <;>
    omega

/-- What was added is still there or was removed again. -/
theorem mem_replay_or_removed (h : t ∈ added S ops) : t ∈ replay S ops ∨ t ∈ removed S ops := by
  have hbal := count_balance t S ops
  rw [← count_pos_iff] at h ⊢
  by_cases hR : t ∈ replay S ops
  · exact .inl hR
  · rw [show indicator t (replay S ops) = 0 from if_neg hR] at hbal
    exact .inr (by omega)

/-- What is in the set was there or was inserted. -/
theorem mem_of_mem_replay (h : t ∈ replay S ops) : t ∈ S ∨ .insert t ∈ ops := by
  induction ops generalizing S with
  | nil => exact .inl h
  | cons op ops ih =>
    rcases ih (S := op.apply S) h with ht | ht
    · rcases op with a | a
      · rcases Finset.mem_insert.mp ht with rfl | ht
        · exact .inr mem_cons_self
        · exact .inl ht
      · exact .inl (Finset.mem_of_mem_erase ht)
    · exact .inr (mem_cons_of_mem _ ht)

theorem replay_append (S : Finset α) (ops ops' : List (Op α)) :
    replay S (ops ++ ops') = replay (replay S ops) ops' :=
  foldl_append

theorem remove_mem_of_mem_removed (h : t ∈ removed S ops) : .remove t ∈ ops := by
  induction ops generalizing S with
  | nil => exact absurd h not_mem_nil
  | cons op ops ih =>
    rcases mem_append.mp h with ht | ht
    · rcases op with a | a
      · exact absurd ht not_mem_nil
      · rw [Op.loss] at ht
        split at ht
        · rw [mem_singleton.mp ht]
          exact mem_cons_self
        · exact absurd ht not_mem_nil
    · exact mem_cons_of_mem op (ih ht)

/-- An element that the operations only insert or only remove. -/
theorem mem_replay_of_one_way (h : .insert t ∈ ops → .remove t ∉ ops) :
    t ∈ replay S ops ↔ (t ∈ S ∨ .insert t ∈ ops) ∧ .remove t ∉ ops := by
  induction ops generalizing S with
  | nil => simp [replay]
  | cons op ops ih =>
    have htail : .insert t ∈ ops → .remove t ∉ ops := fun hins hrem =>
      h (mem_cons_of_mem op hins) (mem_cons_of_mem op hrem)
    rw [show replay S (op :: ops) = replay (op.apply S) ops from rfl, ih htail]
    rcases op with a | a
    · simp only [Op.apply, Finset.mem_insert, mem_cons, Op.insert.injEq, reduceCtorEq, false_or]
      tauto
    · by_cases hta : t = a
      · subst hta
        have hins : .insert t ∉ ops := fun hins =>
          h (mem_cons_of_mem _ hins) mem_cons_self
        simp [hins]
      · simp [hta]

/-! ### The two lists applied as batches -/

/-- Insert every element of a list. -/
def insertAll (S : Finset α) (l : List α) : Finset α := l.foldl (fun S a => insert a S) S

/-- Remove every element of a list. -/
def removeAll (S : Finset α) (l : List α) : Finset α := l.foldl Finset.erase S

@[simp]
theorem mem_insertAll {l : List α} : t ∈ insertAll S l ↔ t ∈ S ∨ t ∈ l := by
  induction l generalizing S with
  | nil => simp [insertAll]
  | cons a l ih =>
    rw [show insertAll S (a :: l) = insertAll (insert a S) l from rfl, ih,
      Finset.mem_insert, mem_cons]
    tauto

@[simp]
theorem mem_removeAll {l : List α} : t ∈ removeAll S l ↔ t ∈ S ∧ t ∉ l := by
  induction l generalizing S with
  | nil => simp [removeAll]
  | cons a l ih =>
    rw [show removeAll S (a :: l) = removeAll (S.erase a) l from rfl, ih,
      Finset.mem_erase, mem_cons]
    tauto

/-- Insertions and removals of whole lists. -/
theorem replay_map_insert (S : Finset α) (l : List α) : replay S (l.map .insert) = insertAll S l :=
  foldl_map

theorem replay_map_remove (S : Finset α) (l : List α) : replay S (l.map .remove) = removeAll S l :=
  foldl_map

/-- **Batches agree with the replay exactly when nothing changes twice.**  One
party replays the operations and then applies the two lists once more, additions
first; the other starts from the same set and applies removals first. -/
theorem batch_eq_replay_iff (S : Finset α) (ops : List (Op α)) :
    (insertAll (removeAll S (removed S ops)) (added S ops)
        = removeAll (insertAll (replay S ops) (added S ops)) (removed S ops)
      ∧ removeAll (insertAll (replay S ops) (added S ops)) (removed S ops) = replay S ops)
      ↔ ∀ t, flips t S ops ≤ 1 := by
  constructor
  · -- an element on both lists is kept by the first order and lost by the second
    rintro ⟨hagree, -⟩ t
    rw [flips_le_one_iff]
    rintro ⟨hadd, hrem⟩
    have hmem := Finset.ext_iff.mp hagree t
    rw [mem_insertAll, mem_removeAll, mem_removeAll] at hmem
    exact (hmem.mp (Or.inr hadd)).2 hrem
  · intro hflips
    have hboth : ∀ t, ¬ (t ∈ added S ops ∧ t ∈ removed S ops) :=
      fun t => (flips_le_one_iff t S ops).mp (hflips t)
    constructor
    all_goals
      ext t
      have hb := hboth t
      have hr := mem_replay_of_not_both (hboth t)
      simp only [mem_insertAll, mem_removeAll, hr]
      tauto

end SetLog
