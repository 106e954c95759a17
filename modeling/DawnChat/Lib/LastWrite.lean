/-
DawnChat/Lib/LastWrite.lean

Sequences of optional writes to one cell.

A step either overwrites the cell (`some v`) or leaves it alone (`none`).  A
whole sequence of steps then has a closed form: the cell ends with the value of
the last step that wrote, or with its starting value when none did.  This is
the shape of every layered override calculation, read one flag at a time.

`applyWrites` is the sequence as a fold, `lastWrite` the closed form, and
`applyWrites_eq` says they agree.  `applyWrites_map_rel` compares two sequences
step by step, for arguments about what a change to one of the steps can cause.
`obs_foldl` finds such a sequence in the steps of a larger state.
-/
import Mathlib.Data.List.Basic

namespace LastWrite

open List Option

variable {α : Type*}

/-- Run the writes in order from the starting value `v`. -/
def applyWrites (v : α) (ws : List (Option α)) : α :=
  ws.foldl (fun v w => w.getD v) v

/-- The last write of the sequence, if there is one. -/
def lastWrite (ws : List (Option α)) : Option α :=
  ws.foldl (fun acc w => w.or acc) none

@[simp] theorem applyWrites_nil (v : α) : applyWrites v [] = v := rfl

@[simp] theorem applyWrites_cons (v : α) (w : Option α) (ws : List (Option α)) :
    applyWrites v (w :: ws) = applyWrites (w.getD v) ws := rfl

@[simp] theorem applyWrites_append (v : α) (ws ws' : List (Option α)) :
    applyWrites v (ws ++ ws') = applyWrites (applyWrites v ws) ws' :=
  foldl_append ..

@[simp] theorem lastWrite_nil : lastWrite ([] : List (Option α)) = none := rfl

theorem foldl_or (ws : List (Option α)) (acc : Option α) :
    ws.foldl (fun acc w => w.or acc) acc = (lastWrite ws).or acc := by
  induction ws generalizing acc with
  | nil => rfl
  | cons w ws ih =>
    simp only [lastWrite, foldl_cons]
    rw [ih, ih (w.or none), or_none, Option.or_assoc]

@[simp] theorem lastWrite_cons (w : Option α) (ws : List (Option α)) :
    lastWrite (w :: ws) = (lastWrite ws).or w := by
  rw [lastWrite, foldl_cons, foldl_or, or_none]

@[simp] theorem lastWrite_append (ws ws' : List (Option α)) :
    lastWrite (ws ++ ws') = (lastWrite ws').or (lastWrite ws) := by
  rw [lastWrite, foldl_append, foldl_or]
  rfl

/-- **The last write decides**, and without one the starting value stays. -/
theorem applyWrites_eq (v : α) (ws : List (Option α)) :
    applyWrites v ws = (lastWrite ws).getD v := by
  induction ws generalizing v with
  | nil => rfl
  | cons w ws ih =>
    rw [applyWrites_cons, ih, lastWrite_cons]
    cases lastWrite ws <;> simp

/-- A sequence that starts with a write always has a last one. -/
theorem lastWrite_some_cons (v : α) (ws : List (Option α)) :
    lastWrite (some v :: ws) = some (applyWrites v ws) := by
  rw [lastWrite_cons, applyWrites_eq]
  cases lastWrite ws <;> rfl

variable {β : Type*} {f : β → Option α} {l : List β}

theorem lastWrite_map_eq_none (h : lastWrite (l.map f) = none) : ∀ b ∈ l, f b = none := by
  induction l with
  | nil => exact fun b hb => absurd hb not_mem_nil
  | cons a l ih =>
    rw [map_cons, lastWrite_cons, or_eq_none_iff] at h
    exact forall_mem_cons.mpr ⟨h.2, ih h.1⟩

/-- The last write is that of an element that no other write comes after. -/
theorem lastWrite_map_eq_some {v : α} (h : lastWrite (l.map f) = some v) :
    ∃ l₁ b l₂, l = l₁ ++ b :: l₂ ∧ f b = some v ∧ ∀ b' ∈ l₂, f b' = none := by
  induction l with
  | nil => cases h
  | cons a l ih =>
    rw [map_cons, lastWrite_cons] at h
    rcases hl : lastWrite (l.map f) with - | w
    · rw [hl, none_or] at h
      exact ⟨[], a, l, rfl, h, lastWrite_map_eq_none hl⟩
    · rw [hl, some_or] at h
      obtain ⟨l₁, b, l₂, rfl, hb, hl₂⟩ := ih (hl.trans h)
      exact ⟨a :: l₁, b, l₂, rfl, hb, hl₂⟩

/-- What is observed of a state that changes step by step, if every step writes it or leaves it
alone. -/
theorem obs_foldl {σ : Type*} {step : σ → β → σ} (obs : σ → α)
    (h : ∀ s b, obs (step s b) = (f b).getD (obs s)) (s : σ) (l : List β) :
    obs (l.foldl step s) = applyWrites (obs s) (l.map f) := by
  induction l generalizing s with
  | nil => rfl
  | cons b l ih => rw [foldl_cons, ih, h, map_cons, applyWrites_cons]

/-- Elements that write nothing can be skipped. -/
theorem applyWrites_map_bind {γ : Type*} (v : α) (l : List β) (f : β → Option γ)
    (g : γ → Option α) :
    applyWrites v (l.map fun a => (f a).bind g) = applyWrites v ((l.filterMap f).map g) := by
  induction l generalizing v with
  | nil => rfl
  | cons a l ih =>
    rcases h : f a with - | x
    · rw [map_cons, applyWrites_cons, filterMap_cons_none h, h]
      exact ih v
    · rw [map_cons, applyWrites_cons, filterMap_cons_some h, h, map_cons, applyWrites_cons]
      exact ih _

/-- Two sequences whose steps respect a relation keep it. -/
theorem applyWrites_map_rel {R : α → α → Prop} {g : β → Option α}
    (h : ∀ b ∈ l, ∀ x y, R x y → R ((f b).getD x) ((g b).getD y)) {x y : α} (hxy : R x y) :
    R (applyWrites x (l.map f)) (applyWrites y (l.map g)) := by
  induction l generalizing x y with
  | nil => exact hxy
  | cons b l ih =>
    refine ih (fun b' hb' => h b' (mem_cons_of_mem b hb')) ?_
    exact h b mem_cons_self x y hxy

end LastWrite
