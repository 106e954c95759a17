/-
DawnChat/Lib/Interleave.lean

Calls that run at the same time on one store.

A call is cut into atomic steps.  Its phase says which step comes next and holds
what the call has read so far; nothing but the phase survives between two of its
steps, so any number of steps of other calls can come in between.  A schedule is
the list of the calls in the order in which they take their steps, and a run of
the system (`Run.run`) follows a schedule.

`phase_keeps` is the rule for what a call has achieved: a property of phases that
the call's own steps keep, whatever the store is, is kept by every run.  `Finishes`
compares a call that is cut into steps with the handler it was cut from.
-/
import DawnChat.Lib.Fallible
import DawnChat.Lib.Run
import Mathlib.Data.List.Count
import Mathlib.Data.List.Infix
import Mathlib.Logic.Function.Basic
import Mathlib.Logic.Function.Iterate

namespace Interleave

open Fallible Handler Run Function Option List

variable {ε σ φ : Type}

/-- Take the next step of a call; a failure ends the call. -/
def advance (next : φ → Handler ε σ φ) (failed : Fault ε → φ) (x : φ × σ) : φ × σ :=
  match exec (next x.1) x.2 with
  | (.ok phase, s) => (phase, s)
  | (.error e, s) => (failed e, s)

section Advance

variable {next : φ → Handler ε σ φ} {failed : Fault ε → φ} {phase phase' : φ} {s s' : σ}

theorem advance_of_ok (h : exec (next phase) s = (.ok phase', s')) :
    advance next failed (phase, s) = (phase', s') := by
  rw [advance, h]

theorem advance_snd (x : φ × σ) : (advance next failed x).2 = (exec (next x.1) x.2).2 := by
  rw [advance]
  rcases exec (next x.1) x.2 with ⟨e | phase, s⟩ <;> rfl

theorem advance_of_error {e : Fault ε} (h : exec (next phase) s = (.error e, s')) :
    advance next failed (phase, s) = (failed e, s') := by
  rw [advance, h]

/-- A step that is one write. -/
theorem advance_of_write {f : σ → Except ε σ}
    (hnext : next phase = do
      write f
      return phase') (hf : f s = .ok s') :
    advance next failed (phase, s) = (phase', s') := by
  refine advance_of_ok ?_
  rw [hnext, exec_bind_of_ok (exec_write_ok (u := ()) |>.mpr hf)]
  rfl

section Outcome

variable {R : φ → σ → Prop}

/-- What holds after a step: what its failure leads to, and what its success does. -/
theorem of_advance
    (hfailed : ∀ e s', exec (next phase) s = (.error e, s') → R (failed e) s')
    (hok : ∀ phase' s', exec (next phase) s = (.ok phase', s') → R phase' s') :
    R (advance next failed (phase, s)).1 (advance next failed (phase, s)).2 := by
  rcases h : exec (next phase) s with ⟨e | phase', s'⟩
  · rw [advance_of_error h]
    exact hfailed e s' h
  · rw [advance_of_ok h]
    exact hok phase' s' h

/-- How far the call is after a step: as far as the step brings it, if it succeeds. -/
theorem phase_advance {Q : φ → Prop} (hfailed : ∀ e, Q (failed e))
    (hok : ∀ phase' s', exec (next phase) s = (.ok phase', s') → Q phase') :
    Q (advance next failed (phase, s)).1 :=
  of_advance (R := fun phase' _ => Q phase') (fun e _ _ => hfailed e) hok

/-- What holds after a step that only reads. -/
theorem of_advance_read [ReadOnly (next phase)] (hfailed : ∀ e, R (failed e) s)
    (hok : ∀ phase', exec (next phase) s = (.ok phase', s) → R phase' s) :
    R (advance next failed (phase, s)).1 (advance next failed (phase, s)).2 := by
  refine of_advance (fun e s' h => ?_) fun phase' s' h => ?_ <;> obtain rfl := ReadOnly.of_exec h
  · exact hfailed e
  · exact hok phase' h

/-- What holds after a step that is one write. -/
theorem of_advance_write {f : σ → Except ε σ}
    (hnext : next phase = do
      write f
      return phase')
    (hfailed : ∀ e, R (failed e) s) (hok : ∀ s', f s = .ok s' → R phase' s') :
    R (advance next failed (phase, s)).1 (advance next failed (phase, s)).2 := by
  rcases hf : f s with e | s'
  · have hwrite : exec (write f) s = (.error (.error e), s) := by rw [exec_write, hf]
    rw [advance_of_error (hnext ▸ exec_bind_of_error hwrite _)]
    exact hfailed _
  · rw [advance_of_write hnext hf]
    exact hok s' hf

end Outcome

/-- On its own the call comes to an end, and leaves the store `s'` behind. -/
def Finishes (next : φ → Handler ε σ φ) (failed : Fault ε → φ) (ended : φ → Prop) (x : φ × σ)
    (s' : σ) : Prop :=
  ∃ n, ended ((advance next failed)^[n] x).1 ∧ ((advance next failed)^[n] x).2 = s'

theorem finishes_of_ended {ended : φ → Prop} (h : ended phase) :
    Finishes next failed ended (phase, s) s :=
  ⟨0, h, rfl⟩

/-- The first step does what the first statement of a handler does.  If the call goes on as the
handler does, then both leave the same store. -/
theorem finishes_bind {α β : Type} {ended : φ → Prop} (hfailed : ∀ e, ended (failed e))
    {x : Handler ε σ α} {after : α → φ} {f : α → Handler ε σ β}
    (hnext : next phase = do
      let a ← x
      return after a)
    (hrest : ∀ a s₁, exec x s = (.ok a, s₁) →
      Finishes next failed ended (after a, s₁) (exec (f a) s₁).2) :
    Finishes next failed ended (phase, s) (exec (x >>= f) s).2 := by
  rcases h : exec x s with ⟨e | a, s₁⟩
  · have hstep : exec (next phase) s = (.error e, s₁) := hnext ▸ exec_bind_of_error h _
    refine ⟨1, ?_⟩
    rw [iterate_one, advance_of_error hstep, exec_bind_of_error h]
    exact ⟨hfailed e, rfl⟩
  · have hstep : exec (next phase) s = (.ok (after a), s₁) := hnext ▸ exec_bind_of_ok h _
    obtain ⟨n, hn⟩ := hrest a s₁ h
    refine ⟨n + 1, ?_⟩
    rw [iterate_succ_apply, advance_of_ok hstep, exec_bind_of_ok h]
    exact hn

end Advance

variable {ι : Type} {Phase : ι → Type}

/-- How far each call has come, and the store.  Calls of different kinds have phases of
different types. -/
structure Config (ι : Type) (Phase : ι → Type) (σ : Type) where
  phase : (i : ι) → Phase i
  store : σ

namespace Config

variable [DecidableEq ι] {adv : (i : ι) → Phase i × σ → Phase i × σ} {c c' : Config ι Phase σ}
  {i j : ι}

/-- One call takes its next step. -/
def step (adv : (i : ι) → Phase i × σ → Phase i × σ) (c : Config ι Phase σ) (i : ι) :
    Option (Config ι Phase σ) :=
  let next := adv i (c.phase i, c.store)
  some { phase := Function.update c.phase i next.1, store := next.2 }

theorem store_of_step (h : step adv c i = some c') : c'.store = (adv i (c.phase i, c.store)).2 := by
  rw [← some.inj h]

theorem phase_of_step (h : step adv c i = some c') :
    c'.phase i = (adv i (c.phase i, c.store)).1 := by
  rw [← some.inj h]
  exact update_self ..

theorem phase_of_step_ne (h : step adv c i = some c') (hne : j ≠ i) : c'.phase j = c.phase j := by
  rw [← some.inj h]
  exact update_of_ne hne ..

/-- Other calls do not change how far a call has come. -/
theorem phase_keeps_step {Q : Phase j → Prop} (hQ : ∀ phase s, Q phase → Q (adv j (phase, s)).1)
    (h : step adv c i = some c') (hj : Q (c.phase j)) : Q (c'.phase j) := by
  by_cases hne : j = i
  · subst hne
    rw [phase_of_step h]
    exact hQ _ _ hj
  · rwa [phase_of_step_ne h hne]

/-- **What a call has achieved stays**, in every run. -/
theorem phase_keeps {Q : Phase j → Prop} (hQ : ∀ phase s, Q phase → Q (adv j (phase, s)).1)
    {schedule : List ι} (hrun : run (step adv) c schedule = some c') (hj : Q (c.phase j)) :
    Q (c'.phase j) :=
  run_keeps (P := fun c => Q (c.phase j)) (fun _ _ _ hc h => phase_keeps_step hQ h hc) hrun hj

end Config

/-! ### The order of steps -/

section Before

variable [DecidableEq ι] {schedule p : List ι} {i j x : ι} {k l : Nat}

/-- In a schedule, the `k`-th step of `i` comes before the `l`-th step of `j`. -/
def Before (schedule : List ι) (i : ι) (k : Nat) (j : ι) (l : Nat) : Prop :=
  ∃ p, p <+: schedule ∧ k ≤ p.count i ∧ p.count j < l

instance : Decidable (Before schedule i k j l) :=
  decidable_of_iff (∃ p ∈ schedule.inits, k ≤ p.count i ∧ p.count j < l)
    (exists_congr fun _ => and_congr_left' (mem_inits _ _))

theorem Before.le (h : Before schedule i k j l) : k ≤ schedule.count i := by
  obtain ⟨p, hp, hk, -⟩ := h
  exact hk.trans (hp.sublist.count_le i)

theorem before_of_lt (hk : k ≤ schedule.count i) (hl : schedule.count j < l) :
    Before schedule i k j l :=
  ⟨schedule, prefix_rfl, hk, hl⟩

theorem before_concat : Before (p ++ [x]) i k j l ↔
    Before p i k j l ∨ k ≤ (p ++ [x]).count i ∧ (p ++ [x]).count j < l := by
  simp only [Before, prefix_concat_iff, or_and_right, exists_or, exists_eq_left]
  exact or_comm

/-- Once the later of the two steps is taken, their order is settled. -/
theorem before_concat_of_le (h : l ≤ p.count j) :
    Before (p ++ [x]) i k j l ↔ Before p i k j l := by
  rw [before_concat, or_iff_left]
  rintro ⟨-, hlt⟩
  exact absurd (hlt.trans_le h) (by simp [count_append])

/-- What comes before a step is what has been taken when that step is taken. -/
theorem before_concat_self (hl : p.count x + 1 = l) :
    Before (p ++ [x]) i k x l ↔ k ≤ p.count i := by
  rw [before_concat, count_append, count_append, count_singleton_self]
  refine ⟨fun hb => ?_, fun hle => .inl (before_of_lt hle (by omega))⟩
  exact hb.elim Before.le fun hb => absurd hb.2 (by omega)

/-- Of two steps, one comes first. -/
theorem Before.asymm (h : Before schedule i k j l) : ¬ Before schedule j l i k := by
  rintro ⟨q, hq, hlq, hkq⟩
  obtain ⟨p, hp, hkp, hlp⟩ := h
  rcases prefix_or_prefix_of_prefix hp hq with hpq | hqp
  · exact absurd (hkp.trans (hpq.sublist.count_le i)) hkq.not_ge
  · exact absurd (hlq.trans (hqp.sublist.count_le j)) hlp.not_ge

/-- An earlier step comes before a later one as well. -/
theorem Before.mono {k' l' : Nat} (h : Before schedule i k j l) (hk : k' ≤ k) (hl : l ≤ l') :
    Before schedule i k' j l' := by
  obtain ⟨p, hp, hkp, hlp⟩ := h
  exact ⟨p, hp, hk.trans hkp, hlp.trans_le hl⟩

end Before

end Interleave
