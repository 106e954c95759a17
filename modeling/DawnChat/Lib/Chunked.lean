/-
DawnChat/Lib/Chunked.lean

Reading a generator in chunks.

A generator is asked for one element at a time and may panic.  The loop takes up
to `size` elements, hands them on as one chunk, and stops after the chunk in which
the generator ran out; the last chunk can be empty.

`chunks` lists what the loop hands on.  If handling a chunk always succeeds, the
loop folds over that list (`exec_forEachChunk`).  The loop itself counts its rounds
down; a generator of `l` with chunks of at least one element is read completely in
`l.length + 1` rounds, whatever the size of the chunks (`chunks_of_yields`).
-/
import DawnChat.Lib.Fallible

namespace Chunked

open Fallible Handler List Option

variable {γ α ε σ : Type} (next : γ → Option (Option α × γ))

/-- Take up to so many elements; the flag says that the generator ran out. -/
def takeChunk : Nat → γ → Option (List α × γ × Bool)
  | 0, g => some ([], g, false)
  | n + 1, g =>
    match next g with
    | none => none
    | some (none, g') => some ([], g', true)
    | some (some a, g') => (takeChunk n g').map fun r => (a :: r.1, r.2)

/-- Handle the chunks one after the other, in at most so many rounds. -/
def forEachChunk (size : Nat) (handle : List α → Handler ε σ Unit) : Nat → γ → Handler ε σ Unit
  | 0, _ => ofOption none
  | rounds + 1, g => do
      let (chunk, g', exhausted) ← ofOption (takeChunk next size g)
      handle chunk
      if exhausted then return () else forEachChunk size handle rounds g'

/-- The chunks that the loop hands on, and whether it comes to its end. -/
def chunks (size : Nat) : Nat → γ → List (List α) × Bool
  | 0, _ => ([], false)
  | rounds + 1, g =>
    match takeChunk next size g with
    | none => ([], false)
    | some (chunk, _, true) => ([chunk], true)
    | some (chunk, g', false) => (chunk :: (chunks size rounds g').1, (chunks size rounds g').2)

variable {next}

/-- **The loop is a fold over its chunks**, which ends with a panic if it does not come to its
end. -/
theorem exec_forEachChunk {size : Nat} {handle : List α → Handler ε σ Unit}
    {f : σ → List α → σ} (hhandle : ∀ chunk s, (handle chunk).exec s = (.ok (), f s chunk))
    (rounds : Nat) (g : γ) (s : σ) :
    (forEachChunk next size handle rounds g).exec s
      = (if (chunks next size rounds g).2 then .ok () else .error .panic,
          (chunks next size rounds g).1.foldl f s) := by
  induction rounds generalizing g s with
  | zero => rfl
  | succ rounds ih =>
    rw [forEachChunk, chunks]
    rcases htake : takeChunk next size g with - | ⟨chunk, g', exhausted⟩
    · rfl
    · rw [exec_bind_of_ok (exec_ofOption_some _ s)]
      dsimp only
      rw [exec_bind_of_ok (hhandle chunk s)]
      cases exhausted with
      | true => rfl
      | false => exact ih g' (f s chunk)

/-! ### What is read -/

section Invariant

variable {I : γ → Prop} {P : α → Prop}
  (hnext : ∀ g a g', I g → next g = some (some a, g') → P a ∧ I g')
  (hend : ∀ g g', I g → next g = some (none, g') → I g')

include hnext hend

/-- What holds of everything that the generator can still yield, chunk by chunk. -/
theorem of_mem_takeChunk {n : Nat} {g g' : γ} {chunk : List α} {exhausted : Bool} (hg : I g)
    (h : takeChunk next n g = some (chunk, g', exhausted)) : (∀ a ∈ chunk, P a) ∧ I g' := by
  induction n generalizing g chunk with
  | zero =>
    cases h
    exact ⟨by simp, hg⟩
  | succ n ih =>
    rw [takeChunk] at h
    rcases hask : next g with - | ⟨- | a, g₁⟩
    · rw [hask] at h
      cases h
    · rw [hask] at h
      cases h
      exact ⟨by simp, hend _ _ hg hask⟩
    · rw [hask] at h
      obtain ⟨⟨chunk₁, rest⟩, htake, heq⟩ := map_eq_some_iff.mp h
      cases heq
      obtain ⟨ha, hg₁⟩ := hnext _ _ _ hg hask
      obtain ⟨hchunk, hg'⟩ := ih hg₁ htake
      exact ⟨forall_mem_cons.mpr ⟨ha, hchunk⟩, hg'⟩

/-- What holds of everything that the generator can yield holds in every chunk. -/
theorem of_mem_chunks {size rounds : Nat} {g : γ} (hg : I g) {chunk : List α}
    (hchunk : chunk ∈ (chunks next size rounds g).1) : ∀ a ∈ chunk, P a := by
  induction rounds generalizing g with
  | zero => exact absurd hchunk not_mem_nil
  | succ rounds ih =>
    rw [chunks] at hchunk
    rcases htake : takeChunk next size g with - | ⟨chunk₁, g', exhausted⟩
    · rw [htake] at hchunk
      exact absurd hchunk not_mem_nil
    · obtain ⟨hP, hg'⟩ := of_mem_takeChunk hnext hend hg htake
      rw [htake] at hchunk
      cases exhausted with
      | true =>
        obtain rfl := mem_singleton.mp hchunk
        exact hP
      | false =>
        obtain rfl | hrest := mem_cons.mp hchunk
        · exact hP
        · exact ih hg' hrest

end Invariant

/-- The generator yields these elements and nothing more, without a panic. -/
inductive Yields (next : γ → Option (Option α × γ)) : γ → List α → Prop
  | nil {g g' : γ} (h : next g = some (none, g')) : Yields next g []
  | cons {g g' : γ} {a : α} {l : List α} (h : next g = some (some a, g'))
      (hl : Yields next g' l) : Yields next g (a :: l)

theorem Yields.unique {g : γ} {l l' : List α} (h : Yields next g l) (h' : Yields next g l') :
    l = l' := by
  induction h generalizing l' with
  | nil hask =>
    cases h' with
    | nil => rfl
    | cons hask' => cases hask.symm.trans hask'
  | cons hask _ ih =>
    cases h' with
    | nil hask' => cases hask.symm.trans hask'
    | cons hask' hl' =>
      cases hask.symm.trans hask'
      rw [ih hl']

/-- Taking a chunk splits what the generator yields. -/
theorem takeChunk_of_yields {g : γ} {l : List α} (h : Yields next g l) (n : Nat) :
    (l.length < n ∧ ∃ g', takeChunk next n g = some (l, g', true)) ∨
      (n ≤ l.length ∧ ∃ g', takeChunk next n g = some (l.take n, g', false) ∧
        Yields next g' (l.drop n)) := by
  induction n generalizing g l with
  | zero => exact .inr ⟨Nat.zero_le _, g, rfl, h⟩
  | succ n ih =>
    cases h with
    | @nil _ g' hask =>
      refine .inl ⟨Nat.succ_pos n, g', ?_⟩
      rw [takeChunk, hask]
    | cons hask hl =>
      obtain ⟨hlt, g', htake⟩ | ⟨hle, g', htake, hrest⟩ := ih hl
      · refine .inl ⟨Nat.succ_lt_succ hlt, g', ?_⟩
        rw [takeChunk, hask]
        dsimp only
        rw [htake, map_some]
      · refine .inr ⟨Nat.succ_le_succ hle, g', ?_, hrest⟩
        rw [takeChunk, hask]
        dsimp only
        rw [htake, map_some, take_succ_cons]

/-- **Everything is handed on once**, in chunks of any size but zero. -/
theorem chunks_of_yields {size : Nat} (hsize : 0 < size) {g : γ} {l : List α}
    (h : Yields next g l) {rounds : Nat} (hrounds : l.length < rounds) :
    (chunks next size rounds g).2 = true ∧ (chunks next size rounds g).1.flatten = l := by
  induction rounds generalizing g l with
  | zero => exact absurd hrounds (Nat.not_lt_zero _)
  | succ rounds ih =>
    obtain ⟨-, g', htake⟩ | ⟨hle, g', htake, hrest⟩ := takeChunk_of_yields h size
    · rw [chunks, htake]
      exact ⟨rfl, flatten_singleton⟩
    · have hlength : (l.drop size).length < rounds := by
        rw [length_drop]
        omega
      obtain ⟨hend, hflatten⟩ := ih hrest hlength
      rw [chunks, htake]
      refine ⟨hend, ?_⟩
      dsimp only
      rw [flatten_cons, hflatten, take_append_drop]

end Chunked
