/-
DawnChat/Lib/Fallible.lean

Request handlers: computations over a store that can fail.

A handler reads and writes a store `σ` and ends with a value, with an error of
type `ε` that is returned to the caller, or with a panic.  Writes made before
a failure stay: the outcome and the final store are separate results, so
`exec` has type `σ → Except (Fault ε) α × σ`.

Proofs do not unfold the monad.  They take a successful handler apart with
`exec_bind_ok`, one statement at a time, and each basic statement has a lemma
that says when it succeeds and what it leaves behind (`exec_read_ok`), and one for
a handler that begins with it (`exec_read_bind_ok`).
-/
import Mathlib.Init

namespace Fallible

open List Except

/-- How a computation fails. -/
inductive Fault (ε : Type*) where
  | error (e : ε)
  | panic
  deriving DecidableEq, Repr

/-- The outcome is a panic. -/
def isPanic {ε α : Type*} : Except (Fault ε) α → Bool
  | .error .panic => true
  | _ => false

theorem isPanic_iff {ε α : Type*} {r : Except (Fault ε) α} :
    isPanic r = true ↔ r = .error .panic := by
  rcases r with (e | -) | a <;> simp [isPanic]

/-- Computations over the store `σ` with errors `ε`. -/
abbrev Handler (ε σ : Type) := ExceptT (Fault ε) (StateM σ)

variable {ε σ α β : Type}

namespace Handler

/-- Run a handler: its outcome and the store it leaves behind. -/
def exec (x : Handler ε σ α) (s : σ) : Except (Fault ε) α × σ := (ExceptT.run x).run s

/-- Return an error to the caller. -/
def fail (e : ε) : Handler ε σ α := throw (.error e)

/-- A result of pure code: an error is returned to the caller. -/
def ofExcept : Except ε α → Handler ε σ α
  | .ok a => pure a
  | .error e => fail e

/-- A result of pure code that panics on `none`. -/
def ofOption : Option α → Handler ε σ α
  | some a => pure a
  | none => throw .panic

/-- `if condition { return Err(e) }` -/
def throwIf (condition : Prop) [Decidable condition] (e : ε) : Handler ε σ Unit :=
  if condition then fail e else pure ()

/-- Read the store. -/
def read (f : σ → Except ε α) : Handler ε σ α := do ofExcept (f (← get))

/-- Write the store; a failing write leaves it as it was. -/
def write (f : σ → Except ε σ) : Handler ε σ Unit := do set (← read f)

@[simp] theorem exec_pure (a : α) (s : σ) : exec (pure a : Handler ε σ α) s = (.ok a, s) := rfl

@[simp] theorem exec_fail (e : ε) (s : σ) :
    exec (fail e : Handler ε σ α) s = (.error (.error e), s) := rfl

theorem exec_bind (x : Handler ε σ α) (f : α → Handler ε σ β) (s : σ) :
    exec (x >>= f) s =
      match exec x s with
      | (.ok a, s') => exec (f a) s'
      | (.error e, s') => (.error e, s') := by
  simp only [exec, ExceptT.run_bind, StateT.run_bind]
  rcases h : (ExceptT.run x).run s with ⟨r, s'⟩
  cases r <;> rfl

variable {x : Handler ε σ α} {f : α → Handler ε σ β} {s : σ}

/-- **Taking a successful handler apart.** -/
theorem exec_bind_ok {s' : σ} {b : β} :
    exec (x >>= f) s = (.ok b, s') ↔
      ∃ a s₁, exec x s = (.ok a, s₁) ∧ exec (f a) s₁ = (.ok b, s') := by
  rw [exec_bind]
  rcases h : exec x s with ⟨r, s₁⟩
  cases r with
  | ok a =>
    constructor
    · intro hf
      exact ⟨a, s₁, rfl, hf⟩
    · rintro ⟨a', s₁', ha, hf⟩
      cases ha
      exact hf
  | error e => simp

/-- Running the first statement of a handler that goes on. -/
theorem exec_bind_of_ok {s₁ : σ} {a : α} (h : exec x s = (.ok a, s₁)) (f : α → Handler ε σ β) :
    exec (x >>= f) s = exec (f a) s₁ := by
  rw [exec_bind, h]

/-- A failing statement ends the handler. -/
theorem exec_bind_of_error {s₁ : σ} {e : Fault ε} (h : exec x s = (.error e, s₁))
    (f : α → Handler ε σ β) : exec (x >>= f) s = (.error e, s₁) := by
  rw [exec_bind, h]

theorem exec_get_bind (f : σ → Handler ε σ β) (s : σ) : exec (get >>= f) s = exec (f s) s :=
  exec_bind_of_ok rfl f

/-- What holds of the store after a handler: it holds where the first statement fails, and
where the rest ends. -/
theorem store_of_bind {P : σ → Prop} (herror : ∀ e s₁, exec x s = (.error e, s₁) → P s₁)
    (hok : ∀ a s₁, exec x s = (.ok a, s₁) → P (exec (f a) s₁).2) : P (exec (x >>= f) s).2 := by
  rw [exec_bind]
  rcases h : exec x s with ⟨e | a, s₁⟩
  · exact herror e s₁ h
  · exact hok a s₁ h

/-- A concrete run that succeeds. -/
theorem exists_exec_ok (h : (exec x s).1.isOk = true) : ∃ a, exec x s = (.ok a, (exec x s).2) := by
  rcases hx : exec x s with ⟨e | a, s'⟩
  · rw [hx] at h
    exact absurd h Bool.false_ne_true
  · exact ⟨a, rfl⟩

/-- A concrete run that succeeds: what is decided of what it returns and leaves, and what
follows from that. -/
theorem exists_exec_ok_of (P : α → σ → Prop) [∀ a s, Decidable (P a s)] {Q : α → σ → Prop}
    (h : ((exec x s).1.toOption.any fun a => decide (P a (exec x s).2)) = true)
    (hP : ∀ a s', exec x s = (.ok a, s') → P a s' → Q a s') :
    ∃ a s', exec x s = (.ok a, s') ∧ Q a s' := by
  rcases hx : exec x s with ⟨e | a, s'⟩
  · rw [hx] at h
    exact absurd h Bool.false_ne_true
  · rw [hx] at h
    exact ⟨a, s', rfl, hP a s' hx (of_decide_eq_true h)⟩

theorem exists_exec_ok_decide {P : α → σ → Prop} [∀ a s, Decidable (P a s)]
    (h : ((exec x s).1.toOption.any fun a => decide (P a (exec x s).2)) = true) :
    ∃ a s', exec x s = (.ok a, s') ∧ P a s' :=
  exists_exec_ok_of P h fun _ _ _ hP => hP

@[simp] theorem exec_ofExcept (r : Except ε α) (s : σ) :
    exec (ofExcept r : Handler ε σ α) s = (r.mapError .error, s) := by
  cases r <;> rfl

@[simp] theorem exec_ofOption_some (a : α) (s : σ) :
    exec (ofOption (some a) : Handler ε σ α) s = (.ok a, s) := rfl


@[simp] theorem exec_ofOption_none (s : σ) :
    exec (ofOption none : Handler ε σ α) s = (.error .panic, s) := rfl

@[simp] theorem exec_read (f : σ → Except ε α) (s : σ) :
    exec (read f) s = ((f s).mapError .error, s) := by
  simp only [read, exec_bind]
  exact exec_ofExcept (f s) s

@[simp] theorem exec_write (f : σ → Except ε σ) (s : σ) :
    exec (write f) s =
      match f s with
      | .ok s' => (.ok (), s')
      | .error e => (.error (.error e), s) := by
  simp only [write, exec_bind, exec_read]
  cases f s <;> rfl

/-! ### Successful statements -/

section Ok

variable {s s' : σ} {a : α} {r : Except ε α} {b : β} {condition : Prop} {e : ε} {u : Unit}
  {f : σ → Except ε α}
variable {g : α → Handler ε σ β}

theorem exec_pure_ok {b : α} : exec (pure a : Handler ε σ α) s = (.ok b, s') ↔ a = b ∧ s = s' := by
  simp

theorem exec_get_ok {t : σ} : exec (get : Handler ε σ σ) s = (.ok t, s') ↔ s = t ∧ s = s' := by
  show ((ok s : Except (Fault ε) σ), s) = (.ok t, s') ↔ _
  simp

theorem mapError_eq_ok {ε' : Type} {f : ε → ε'} : r.mapError f = .ok a ↔ r = .ok a := by
  cases r with
  | error e =>
    constructor <;> intro h <;> cases h
  | ok b =>
    show ok b = ok a ↔ _
    simp

/-- What a guard lets through. -/
theorem ite_error_eq_ok {condition : Prop} [Decidable condition] {e : ε} {a' : α} :
    (if condition then .error e else .ok a : Except ε α) = .ok a' ↔ ¬ condition ∧ a = a' := by
  split <;> simp [*]

theorem bind_eq_ok {f : α → Except ε β} : r >>= f = .ok b ↔ ∃ a, r = .ok a ∧ f a = .ok b := by
  cases r with
  | error e =>
    constructor
    · intro h
      cases h
    · rintro ⟨a, h, -⟩
      cases h
  | ok a =>
    show f a = .ok b ↔ _
    simp

theorem toOption_eq_some : r.toOption = some a ↔ r = .ok a := by
  cases r with
  | error e =>
    constructor <;> intro h <;> cases h
  | ok b =>
    show some b = some a ↔ _
    simp

theorem exec_ofExcept_ok :
    exec (ofExcept r : Handler ε σ α) s = (.ok a, s') ↔ r = .ok a ∧ s = s' := by
  rw [exec_ofExcept, Prod.mk.injEq, mapError_eq_ok]

theorem exec_ofOption_ok {o : Option α} :
    exec (ofOption o : Handler ε σ α) s = (.ok a, s') ↔ o = some a ∧ s = s' := by
  cases o <;> simp

theorem exec_throwIf_ok [Decidable condition] :
    exec (throwIf condition e : Handler ε σ Unit) s = (.ok u, s') ↔ ¬ condition ∧ s = s' := by
  by_cases h : condition <;> simp [throwIf, h]

theorem exec_throwIf_error [Decidable condition] (e : ε) (h : condition) (s : σ) :
    exec (throwIf condition e : Handler ε σ Unit) s = (.error (.error e), s) := by
  simp [throwIf, h]

theorem exec_ofExcept_error (h : r = .error e) (s : σ) :
    exec (ofExcept r : Handler ε σ α) s = (.error (.error e), s) := by
  rw [h]
  rfl

theorem exec_read_error (h : f s = .error e) : exec (read f) s = (.error (.error e), s) := by
  rw [exec_read, h]
  rfl

theorem exec_read_ok : exec (read f) s = (.ok a, s') ↔ f s = .ok a ∧ s = s' := by
  rw [exec_read, Prod.mk.injEq, mapError_eq_ok]

/-- Reading what cannot fail. -/
theorem exec_read_bind (f : σ → α) (g : α → Handler ε σ β) (s : σ) :
    exec (read (fun s => .ok (f s)) >>= g) s = exec (g (f s)) s := by
  have hread : exec (read fun s => .ok (f s) : Handler ε σ α) s = (.ok (f s), s) :=
    exec_read_ok.mpr ⟨rfl, rfl⟩
  exact exec_bind_of_ok hread g

/-- Taking a handler apart whose first statement succeeds under a condition and leaves the store
alone. -/
theorem bind_ok_of_reads {x : Handler ε σ α} {C : α → Prop}
    (hx : ∀ {a s₁}, exec x s = (.ok a, s₁) ↔ C a ∧ s = s₁) :
    exec (x >>= g) s = (.ok b, s') ↔ ∃ a, C a ∧ exec (g a) s = (.ok b, s') := by
  rw [exec_bind_ok]
  simp only [hx, and_assoc, exists_and_left, exists_eq_left']

theorem exec_ofExcept_bind_ok :
    exec (ofExcept r >>= g) s = (.ok b, s') ↔ ∃ a, r = .ok a ∧ exec (g a) s = (.ok b, s') :=
  bind_ok_of_reads exec_ofExcept_ok

theorem exec_ofOption_bind_ok {o : Option α} :
    exec (ofOption o >>= g) s = (.ok b, s') ↔ ∃ a, o = some a ∧ exec (g a) s = (.ok b, s') :=
  bind_ok_of_reads exec_ofOption_ok

theorem exec_throwIf_bind_ok [Decidable condition] {g : Unit → Handler ε σ β} :
    exec (throwIf condition e >>= g) s = (.ok b, s') ↔
      ∃ u, ¬ condition ∧ exec (g u) s = (.ok b, s') :=
  bind_ok_of_reads exec_throwIf_ok

theorem exec_read_bind_ok :
    exec (read f >>= g) s = (.ok b, s') ↔ ∃ a, f s = .ok a ∧ exec (g a) s = (.ok b, s') :=
  bind_ok_of_reads exec_read_ok

theorem exec_write_ok {f : σ → Except ε σ} : exec (write f) s = (.ok u, s') ↔ f s = .ok s' := by
  rw [exec_write]
  cases f s <;> simp

/-- Writing what cannot fail. -/
theorem exec_write_pure_ok {f : σ → σ} :
    exec (write fun s => .ok (f s) : Handler ε σ Unit) s = (.ok u, s') ↔ f s = s' := by
  rw [exec_write_ok, ok.injEq]

end Ok

end Handler

/-- A traversal that succeeds returns what the elements of the list give. -/
theorem mem_of_mapM {f : α → Except ε β} {l : List α} {r : List β} (h : l.mapM f = .ok r)
    {b : β} : b ∈ r ↔ ∃ a ∈ l, f a = .ok b := by
  induction l generalizing r with
  | nil =>
    obtain rfl := ok.inj h
    simp
  | cons a l ih =>
    rw [mapM_cons] at h
    rcases ha : f a with e | first
    · rw [ha] at h
      cases h
    rcases hl : l.mapM f with e | rest
    · rw [ha, hl] at h
      cases h
    rw [ha, hl] at h
    obtain rfl := ok.inj h
    rw [mem_cons, ih hl]
    simp [ha, eq_comm]

open Handler

namespace Handler

/-! ### A part of the store -/

section Part

variable {τ : Type}

/-- Run a handler on a part of the store. -/
def on (part : τ → σ) (update : σ → τ → τ) (x : Handler ε σ α) : Handler ε τ α :=
  ExceptT.mk fun t => ((exec x (part t)).1, update (exec x (part t)).2 t)

@[simp] theorem exec_on (part : τ → σ) (update : σ → τ → τ) (x : Handler ε σ α) (t : τ) :
    exec (on part update x) t = ((exec x (part t)).1, update (exec x (part t)).2 t) := rfl

end Part

/-! ### Handlers that only read -/

/-- Whatever the outcome, the store is as before.  That a handler only reads is found from its
statements. -/
class ReadOnly (x : Handler ε σ α) : Prop where
  store : ∀ s, (exec x s).2 = s

/-- What the checks reject is rejected, and nothing has happened then. -/
def Rejects (checks : Handler ε σ α) (y : Handler ε σ β) : Prop :=
  ∀ s e, (exec checks s).1 = .error e → exec y s = (.error e, s)

namespace ReadOnly

instance (a : α) : ReadOnly (pure a : Handler ε σ α) := ⟨fun _ => rfl⟩

instance (e : ε) : ReadOnly (fail e : Handler ε σ α) := ⟨fun _ => rfl⟩

instance : ReadOnly (get : Handler ε σ σ) := ⟨fun _ => rfl⟩

instance (r : Except ε α) : ReadOnly (ofExcept r : Handler ε σ α) :=
  ⟨fun s => by rw [exec_ofExcept]⟩

instance (o : Option α) : ReadOnly (ofOption o : Handler ε σ α) := ⟨fun s => by cases o <;> rfl⟩

instance (f : σ → Except ε α) : ReadOnly (read f) := ⟨fun s => by rw [exec_read]⟩

variable {x y : Handler ε σ α} {f : α → Handler ε σ β} {s : σ}

instance (condition : Prop) [Decidable condition] [ReadOnly x] [ReadOnly y] :
    ReadOnly (if condition then x else y) := by
  split <;> infer_instance

instance (condition : Prop) [Decidable condition] (e : ε) :
    ReadOnly (throwIf condition e : Handler ε σ Unit) := by
  unfold throwIf
  infer_instance

theorem of_exec [hx : ReadOnly x] {s' : σ} {r : Except (Fault ε) α} (h : exec x s = (r, s')) :
    s' = s := by
  have hs := hx.store s
  rw [h] at hs
  exact hs

theorem andThen [ReadOnly x] (hf : ∀ a, ReadOnly (f a)) : ReadOnly (x >>= f) where
  store s := by
    rw [exec_bind]
    rcases h : exec x s with ⟨e | a, s'⟩
    · exact of_exec h
    · obtain rfl := of_exec h
      exact (hf a).store s'

instance [ReadOnly x] [∀ a, ReadOnly (f a)] : ReadOnly (x >>= f) := andThen inferInstance

/-- What holds of the store after a handler whose first statement only reads. -/
theorem store_of_bind [ReadOnly x] {P : σ → Prop} (hs : P s)
    (hok : ∀ a, exec x s = (.ok a, s) → P (exec (f a) s).2) : P (exec (x >>= f) s).2 := by
  refine Handler.store_of_bind (fun e s₁ h => ?_) (fun a s₁ h => ?_)
  · rwa [of_exec h]
  · obtain rfl := of_exec h
    exact hok a h

theorem rejects [hx : ReadOnly x] : Rejects x (x >>= f) := by
  intro s e h
  have hs : exec x s = (.error e, s) := Prod.ext h (hx.store s)
  rw [exec_bind, hs]

end ReadOnly

/-! ### What holds of the store afterwards -/

section Store

variable {s : σ} {P : σ → Prop}

theorem store_bind_pure (x : Handler ε σ α) (g : α → β) (s : σ) :
    (exec (x >>= fun a => pure (g a)) s).2 = (exec x s).2 := by
  rw [exec_bind]
  rcases exec x s with ⟨e | a, s'⟩ <;> rfl

theorem store_of_throwIf_bind {condition : Prop} [Decidable condition] {e : ε}
    {g : Unit → Handler ε σ β} (hs : P s) (hok : ¬ condition → P (exec (g ()) s).2) :
    P (exec (throwIf condition e >>= g) s).2 :=
  ReadOnly.store_of_bind hs fun _ h => hok (exec_throwIf_ok.mp h).1

variable {g : α → Handler ε σ β}

theorem store_of_ofExcept_bind {r : Except ε α} (hs : P s)
    (hok : ∀ a, r = .ok a → P (exec (g a) s).2) : P (exec (ofExcept r >>= g) s).2 :=
  ReadOnly.store_of_bind hs fun a h => hok a (exec_ofExcept_ok.mp h).1

theorem store_of_ofOption_bind {o : Option α} (hs : P s)
    (hok : ∀ a, o = some a → P (exec (g a) s).2) : P (exec (ofOption o >>= g) s).2 :=
  ReadOnly.store_of_bind hs fun a h => hok a (exec_ofOption_ok.mp h).1

theorem store_of_read_bind {f : σ → Except ε α} (hs : P s)
    (hok : ∀ a, f s = .ok a → P (exec (g a) s).2) : P (exec (read f >>= g) s).2 :=
  ReadOnly.store_of_bind hs fun a h => hok a (exec_read_ok.mp h).1

theorem store_of_get_bind {g : σ → Handler ε σ β} (h : P (exec (g s) s).2) :
    P (exec ((get : Handler ε σ σ) >>= g) s).2 := h

theorem store_of_write {f : σ → Except ε σ} (hs : P s) (hf : ∀ s', f s = .ok s' → P s') :
    P (exec (write f) s).2 := by
  rw [exec_write]
  rcases h : f s with e | s'
  · exact hs
  · exact hf s' h

theorem store_of_write_bind {f : σ → Except ε σ} {g : Unit → Handler ε σ β} (hs : P s)
    (hf : ∀ s', f s = .ok s' → P (exec (g ()) s').2) : P (exec (write f >>= g) s).2 := by
  rw [exec_bind, exec_write]
  rcases h : f s with e | s'
  · exact hs
  · exact hf s' h

end Store

/-! ### Handlers that move the store in one direction -/

/-- Whatever the outcome, the store afterwards is related to the store before. -/
def Relates (R : σ → σ → Prop) (x : Handler ε σ α) : Prop := ∀ s, R s (exec x s).2

section Relates

variable {R : σ → σ → Prop}

theorem ReadOnly.relates {x : Handler ε σ α} [hx : ReadOnly x] (hrefl : ∀ s, R s s) :
    Relates R x := by
  intro s
  rw [hx.store s]
  exact hrefl s

theorem Relates.bind {x : Handler ε σ α} {f : α → Handler ε σ β} (hx : Relates R x)
    (htrans : ∀ {s s₁ s₂}, R s s₁ → R s₁ s₂ → R s s₂) (hf : ∀ a, Relates R (f a)) :
    Relates R (x >>= f) := by
  intro s
  have hs := hx s
  rw [exec_bind]
  rcases h : exec x s with ⟨e | a, s₁⟩
  · rw [h] at hs
    exact hs
  · rw [h] at hs
    exact htrans hs (hf a s₁)

end Relates

end Handler

/-! ### Handlers that publish -/

/-- A store with the messages that were published, in order. -/
structure Outbox (σ μ : Type) where
  store : σ
  sent : List μ := []

namespace Handler

variable {μ : Type}

/-- Run a handler on the store. -/
def onStore (x : Handler ε σ α) : Handler ε (Outbox σ μ) α := do
  let o ← get
  let outcome := exec x o.store
  set { o with store := outcome.2 }
  match outcome.1 with
  | .ok a => pure a
  | .error e => throw e

/-- Publish a message. -/
def publish (m : μ) : Handler ε (Outbox σ μ) Unit :=
  modify fun o => { o with sent := o.sent ++ [m] }

@[simp] theorem exec_onStore (x : Handler ε σ α) (o : Outbox σ μ) :
    exec (onStore x) o = ((exec x o.store).1, { o with store := (exec x o.store).2 }) := by
  simp only [onStore, exec_bind]
  show exec (match (exec x o.store).1 with | .ok a => pure a | .error e => throw e)
    { o with store := (exec x o.store).2 } = _
  rcases (exec x o.store).1 with e | a
  · rfl
  · rfl

@[simp] theorem exec_publish (m : μ) (o : Outbox σ μ) :
    exec (publish m : Handler ε (Outbox σ μ) Unit) o
      = (.ok (), { o with sent := o.sent ++ [m] }) := rfl

end Handler

end Fallible
