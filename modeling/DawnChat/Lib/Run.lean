/-
DawnChat/Lib/Run.lean

Runs of a partial step function.

`step s i` is the state after input `i` in state `s`; `none` means that the
process stops there (it panics, or the input is not possible).  A run is a list
of inputs.  Two notions are used about runs:

* `Always step P s l` — `P` holds in the state after every prefix of `l`;
* `EachStep step C s l` — every step taken along `l` meets `C` in the state
  before it.

`outputs` lists what the steps of a run put out.

`always_of_eachStep` is the induction rule that turns a statement about one
step into one about whole runs.  Both notions can be decided along a concrete
run when `P` and `C` can.
-/
import Mathlib.Data.List.Infix

namespace Run

open List Option

variable {σ ι : Type*} {step : σ → ι → Option σ}

/-- The state after a list of inputs. -/
def run (step : σ → ι → Option σ) : σ → List ι → Option σ
  | s, [] => some s
  | s, i :: l => (step s i).bind fun s' => run step s' l

@[simp] theorem run_cons (s : σ) (i : ι) (l : List ι) :
    run step s (i :: l) = (step s i).bind fun s' => run step s' l := rfl

theorem run_append (s : σ) (l₁ l₂ : List ι) :
    run step s (l₁ ++ l₂) = (run step s l₁).bind fun s' => run step s' l₂ := by
  induction l₁ generalizing s with
  | nil => rfl
  | cons i l ih =>
    rw [cons_append, run_cons, run_cons, bind_assoc]
    exact congrArg _ (funext fun s' => ih s')

variable {s s' : σ} {l : List ι} {i : ι} {P Q : σ → Prop} {C : σ → ι → Prop}

/-- A run that goes on after a prefix takes the next step there. -/
theorem exists_step_of_prefix {s₁ : σ} {l₁ : List ι} (hpre : l₁ ++ [i] <+: l)
    (hrun₁ : run step s l₁ = some s₁) (hrun : run step s l = some s') :
    ∃ s₂ l₂, step s₁ i = some s₂ ∧ run step s₂ l₂ = some s' := by
  obtain ⟨l₂, rfl⟩ := hpre
  rw [append_assoc, run_append, hrun₁, bind_some] at hrun
  obtain ⟨s₂, hstep, hrun₂⟩ := bind_eq_some_iff.mp hrun
  exact ⟨s₂, l₂, hstep, hrun₂⟩

/-- If every step of one system is a step of another, then so are its runs. -/
theorem run_map {κ : Type*} {step' : σ → κ → Option σ} {f : κ → ι}
    (h : ∀ {s i s'}, step' s i = some s' → step s (f i) = some s') {l : List κ}
    (hrun : run step' s l = some s') : run step s (l.map f) = some s' := by
  induction l generalizing s with
  | nil => exact hrun
  | cons i l ih =>
    obtain ⟨s₁, hstep, hrun₁⟩ := bind_eq_some_iff.mp hrun
    rw [map_cons, run_cons, h hstep]
    exact ih hrun₁

/-- **Induction over a run**, for a property of the state and of the inputs so far. -/
theorem run_history {R : List ι → σ → Prop}
    (hpres : ∀ l s i s', R l s → step s i = some s' → R (l ++ [i]) s') (hs : R [] s)
    (hrun : run step s l = some s') : R l s' := by
  induction l using List.reverseRecOn generalizing s' with
  | nil => exact some.inj hrun ▸ hs
  | append_singleton l i ih =>
    rw [run_append] at hrun
    obtain ⟨s₁, hrun₁, hrun₂⟩ := bind_eq_some_iff.mp hrun
    obtain ⟨s₂, hstep, hrun₂⟩ := bind_eq_some_iff.mp hrun₂
    exact some.inj hrun₂ ▸ hpres l s₁ i s₂ (ih hrun₁) hstep

/-- `P` holds after every prefix of the run. -/
def Always (step : σ → ι → Option σ) (P : σ → Prop) (s : σ) (l : List ι) : Prop :=
  ∀ l₁ s₁, l₁ <+: l → run step s l₁ = some s₁ → P s₁

/-- Every step taken along the run meets `C` in the state before it. -/
def EachStep (step : σ → ι → Option σ) (C : σ → ι → Prop) (s : σ) (l : List ι) : Prop :=
  ∀ l₁ i s₁, l₁ ++ [i] <+: l → run step s l₁ = some s₁ → C s₁ i

theorem Always.start (h : Always step P s l) : P s :=
  h [] s nil_prefix rfl

theorem Always.and (hP : Always step P s l) (hQ : Always step Q s l) :
    Always step (fun s => P s ∧ Q s) s l :=
  fun l₁ s₁ hpre hrun => ⟨hP l₁ s₁ hpre hrun, hQ l₁ s₁ hpre hrun⟩

theorem Always.imp (hP : Always step P s l) (himp : ∀ s, P s → Q s) : Always step Q s l :=
  fun l₁ s₁ hpre hrun => himp s₁ (hP l₁ s₁ hpre hrun)

theorem EachStep.and {C' : σ → ι → Prop} (hC : EachStep step C s l) (hC' : EachStep step C' s l) :
    EachStep step (fun s i => C s i ∧ C' s i) s l :=
  fun l₁ i s₁ hpre hrun => ⟨hC l₁ i s₁ hpre hrun, hC' l₁ i s₁ hpre hrun⟩

theorem EachStep.shorten {l' : List ι} (h : EachStep step C s l) (hpre : l' <+: l) :
    EachStep step C s l' :=
  fun l₁ i s₁ hpre₁ hrun => h l₁ i s₁ (hpre₁.trans hpre) hrun

theorem EachStep.tail (h : EachStep step C s (i :: l)) (hstep : step s i = some s') :
    EachStep step C s' l := by
  intro l₁ j s₁ hpre hrun
  refine h (i :: l₁) j s₁ ?_ ?_
  · exact (prefix_cons_inj i).mpr hpre
  · rw [run_cons, hstep]
    exact hrun

theorem always_nil : Always step P s [] ↔ P s := by
  constructor
  · exact Always.start
  · intro h l₁ s₁ hpre hrun
    obtain rfl := prefix_nil.mp hpre
    obtain rfl := some.inj hrun
    exact h

theorem always_cons :
    Always step P s (i :: l) ↔ P s ∧ ∀ s', step s i = some s' → Always step P s' l := by
  constructor
  · intro h
    refine ⟨h.start, fun s' hstep l₁ s₁ hpre hrun => ?_⟩
    refine h (i :: l₁) s₁ ((prefix_cons_inj i).mpr hpre) ?_
    rw [run_cons, hstep]
    exact hrun
  · rintro ⟨hs, h⟩ l₁ s₁ hpre hrun
    cases l₁ with
    | nil =>
      obtain rfl := some.inj hrun
      exact hs
    | cons j l₁ =>
      obtain ⟨rfl, hpre'⟩ := cons_prefix_cons.mp hpre
      obtain ⟨s', hstep, hrun'⟩ := bind_eq_some_iff.mp hrun
      exact h s' hstep l₁ s₁ hpre' hrun'

theorem eachStep_nil : EachStep step C s [] := by
  intro l₁ i s₁ hpre _
  exact absurd (prefix_nil.mp hpre) (by simp)

theorem eachStep_cons :
    EachStep step C s (i :: l) ↔ C s i ∧ ∀ s', step s i = some s' → EachStep step C s' l := by
  constructor
  · intro h
    exact ⟨h [] i s (by simp) rfl, fun s' hstep => h.tail hstep⟩
  · rintro ⟨hs, h⟩ l₁ j s₁ hpre hrun
    cases l₁ with
    | nil =>
      obtain rfl := some.inj hrun
      obtain ⟨rfl, -⟩ := cons_prefix_cons.mp hpre
      exact hs
    | cons k l₁ =>
      obtain ⟨rfl, hpre'⟩ := cons_prefix_cons.mp hpre
      obtain ⟨s', hstep, hrun'⟩ := bind_eq_some_iff.mp hrun
      exact h s' hstep l₁ j s₁ hpre' hrun'

/-- **Invariant rule.**  What holds at the start and is preserved by every step
that meets `C` holds throughout a run whose steps all meet `C`. -/
theorem always_of_eachStep (hpres : ∀ s i s', P s → C s i → step s i = some s' → P s') (hs : P s)
    (hC : EachStep step C s l) : Always step P s l := by
  induction l generalizing s with
  | nil => exact always_nil.mpr hs
  | cons i l ih =>
    obtain ⟨hok, htail⟩ := eachStep_cons.mp hC
    refine always_cons.mpr ⟨hs, fun s' hstep => ?_⟩
    exact ih (hpres s i s' hs hok hstep) (htail s' hstep)

/-- The invariant rule for steps without a condition. -/
theorem always_of_step (hpres : ∀ s i s', P s → step s i = some s' → P s') (hs : P s) (l : List ι) :
    Always step P s l :=
  always_of_eachStep (C := fun _ _ => True) (fun s i s' hs _ => hpres s i s' hs) hs
    fun _ _ _ _ _ => trivial

/-- What every step keeps is kept by the whole run. -/
theorem run_keeps (hpres : ∀ s i s', P s → step s i = some s' → P s')
    (hrun : run step s l = some s') (hs : P s) : P s' :=
  always_of_step hpres hs l l s' prefix_rfl hrun

/-- An invariant of the run can be used to weaken the condition on its steps. -/
theorem EachStep.imp_of_always {C' : σ → ι → Prop} (hC : EachStep step C s l)
    (hP : Always step P s l) (himp : ∀ s i, P s → C s i → C' s i) : EachStep step C' s l := by
  intro l₁ i s₁ hpre hrun
  have hpre' : l₁ <+: l := (prefix_append l₁ [i]).trans hpre
  exact himp s₁ i (hP l₁ s₁ hpre' hrun) (hC l₁ i s₁ hpre hrun)

/-- **Exact conditions.**  `Q` is kept by the steps of the run.  If under `Q` a
step from a state with `P` leads to a state with `P` exactly when it meets `C`,
then `P` holds throughout a run exactly when it holds at the start and every
step meets `C`. -/
theorem always_iff_eachStep {W : σ → ι → Prop}
    (hkeep : ∀ s i s', Q s → W s i → step s i = some s' → Q s')
    (hstep : ∀ s i, Q s → W s i → P s → ((∀ s', step s i = some s' → P s') ↔ C s i)) (hs : Q s)
    (hW : EachStep step W s l) : Always step P s l ↔ P s ∧ EachStep step C s l := by
  induction l generalizing s with
  | nil =>
    rw [always_nil]
    exact ⟨fun h => ⟨h, eachStep_nil⟩, fun h => h.1⟩
  | cons i l ih =>
    obtain ⟨hok, htail⟩ := eachStep_cons.mp hW
    have hnext : ∀ s', step s i = some s' →
        (Always step P s' l ↔ P s' ∧ EachStep step C s' l) :=
      fun s' hs' => ih (hkeep s i s' hs hok hs') (htail s' hs')
    rw [always_cons, eachStep_cons]
    constructor
    · rintro ⟨hP, h⟩
      refine ⟨hP, (hstep s i hs hok hP).mp fun s' hs' => (h s' hs').start, ?_⟩
      exact fun s' hs' => ((hnext s' hs').mp (h s' hs')).2
    · rintro ⟨hP, hC, h⟩
      refine ⟨hP, fun s' hs' => (hnext s' hs').mpr ⟨?_, h s' hs'⟩⟩
      exact (hstep s i hs hok hP).mpr hC s' hs'

/-- Exact conditions, where nothing else has to be kept. -/
theorem always_iff_of_step (hstep : ∀ s i, P s → ((∀ s', step s i = some s' → P s') ↔ C s i))
    (hs : P s) (l : List ι) : Always step P s l ↔ EachStep step C s l := by
  rw [always_iff_eachStep (Q := fun _ => True) (W := fun _ _ => True)
    (fun _ _ _ _ _ _ => trivial) (fun s i _ _ => hstep s i) trivial fun _ _ _ _ _ => trivial]
  exact and_iff_right hs

/-! ### What a run puts out -/

section Outputs

variable {β : Type*} {out : σ → ι → List β}

/-- What the steps of a run put out, one after the other. -/
def outputs (step : σ → ι → Option σ) (out : σ → ι → List β) : σ → List ι → List β
  | _, [] => []
  | s, i :: l => out s i ++ (step s i).elim [] fun s' => outputs step out s' l

variable {s s' : σ} {l : List ι}

/-- An invariant of the state together with what has been put out so far. -/
theorem outputs_induction {P : σ → List β → Prop}
    (hstep : ∀ s i s' log, P s log → step s i = some s' → P s' (log ++ out s i))
    (hrun : run step s l = some s') {log : List β} (hs : P s log) :
    P s' (log ++ outputs step out s l) := by
  induction l generalizing s log with
  | nil =>
    obtain rfl := some.inj hrun
    rw [outputs, append_nil]
    exact hs
  | cons i l ih =>
    obtain ⟨s₁, hs₁, hrun₁⟩ := bind_eq_some_iff.mp hrun
    rw [outputs, hs₁, ← append_assoc]
    exact ih hrun₁ (hstep s i s₁ log hs hs₁)

end Outputs

/-! ### Concrete runs -/

/-- A check of the last state refutes an invariant. -/
theorem not_always_of_run {check : σ → Bool} (hcheck : ∀ s', check s' = true → ¬ P s')
    (h : (run step s l).any check = true) : ¬ Always step P s l := by
  intro hP
  rcases hrun : run step s l with - | s'
  · rw [hrun] at h
    cases h
  · rw [hrun] at h
    exact hcheck s' h (hP l s' prefix_rfl hrun)

/-- A concrete run: what is decided of the state it ends in, and what follows from that. -/
theorem exists_run_of (P : σ → Prop) [DecidablePred P] {Q : σ → Prop}
    (h : ((run step s l).any fun s => decide (P s)) = true)
    (hP : ∀ s', run step s l = some s' → P s' → Q s') : ∃ s', run step s l = some s' ∧ Q s' := by
  rcases hrun : run step s l with - | s'
  · rw [hrun] at h
    cases h
  · rw [hrun] at h
    exact ⟨s', rfl, hP s' hrun (of_decide_eq_true h)⟩

theorem exists_run_decide {P : σ → Prop} [DecidablePred P]
    (h : ((run step s l).any fun s => decide (P s)) = true) :
    ∃ s', run step s l = some s' ∧ P s' :=
  exists_run_of P h fun _ _ hP => hP

/-- Decide a property of the state after a step. -/
def decidableAfter {P : σ → Prop} (o : Option σ) (dec : ∀ s, Decidable (P s)) :
    Decidable (∀ s, o = some s → P s) :=
  match o with
  | none => isTrue fun _ h => nomatch h
  | some s =>
    match dec s with
    | isTrue h => isTrue fun _ hs => Option.some.inj hs ▸ h
    | isFalse h => isFalse fun hs => h (hs s rfl)

def decidableAlways {P : σ → Prop} [DecidablePred P] :
    ∀ (l : List ι) (s : σ), Decidable (Always step P s l)
  | [], _ => decidable_of_iff _ always_nil.symm
  | i :: l, s =>
    have : Decidable (∀ s', step s i = some s' → Always step P s' l) :=
      decidableAfter (step s i) (decidableAlways l)
    decidable_of_iff _ always_cons.symm

instance {P : σ → Prop} [DecidablePred P] (s : σ) (l : List ι) : Decidable (Always step P s l) :=
  decidableAlways l s

def decidableEachStep {C : σ → ι → Prop} [∀ s i, Decidable (C s i)] :
    ∀ (l : List ι) (s : σ), Decidable (EachStep step C s l)
  | [], _ => isTrue eachStep_nil
  | i :: l, s =>
    have : Decidable (∀ s', step s i = some s' → EachStep step C s' l) :=
      decidableAfter (step s i) (decidableEachStep l)
    decidable_of_iff _ eachStep_cons.symm

instance {C : σ → ι → Prop} [∀ s i, Decidable (C s i)] (s : σ) (l : List ι) :
    Decidable (EachStep step C s l) :=
  decidableEachStep l s

end Run
