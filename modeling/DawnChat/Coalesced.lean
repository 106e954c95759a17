/-
DawnChat/Coalesced.lean

Calls that share one execution for each id (`CoalescionService`), when they arrive one at a time.

A service that runs as many functions as it may refuses a call as soon as `max_queue` is at least
the length of the queue, so a queue with room is never filled.
-/
import Mathlib.Data.Finset.Card

namespace DawnChat.Coalesced

/-- Config values for the service. -/
structure CoalescionServiceConfig where
  maxConcurrent : Option Nat := some 100
  queueRequests : Bool := true
  maxQueue : Option Nat := some 100

/-- The ids that are running and those that are queued. -/
structure CoalescionService (Id : Type) where
  watchers : Finset Id := ∅
  queue : List Id := []

/-- What becomes of a call.  `waits` is for the result of another one. -/
inductive Arrival where
  | waits
  | runs
  | queued
  | maxConcurrent
  | maxQueue
  deriving DecidableEq

variable {Id : Type} [DecidableEq Id]

/-- A call of `execute` whose value is not cached. -/
def execute (config : CoalescionServiceConfig) (s : CoalescionService Id) (id : Id) :
    Arrival × CoalescionService Id :=
  if id ∈ s.watchers then (.waits, s)
  else if config.maxConcurrent.any (s.watchers.card ≥ ·) then
    if config.queueRequests then
      if id ∈ s.queue then (.waits, s)
      else if config.maxQueue.any (· ≥ s.queue.length) then (.maxQueue, s)
      else (.queued, { s with queue := s.queue ++ [id] })
    else (.maxConcurrent, s)
  else (.runs, { s with watchers := insert id s.watchers })

/-- **A full service** refuses exactly if the queue is not longer than `max_queue`.  So the limit is
right only for a queue of just this length, and a shorter one stays as it is. -/
theorem execute_full_iff {config : CoalescionServiceConfig} {s : CoalescionService Id} {id : Id}
    {m q : Nat} (hconcurrent : config.maxConcurrent = some m) (hfull : m ≤ s.watchers.card)
    (hqueueing : config.queueRequests = true) (hmax : config.maxQueue = some q)
    (hrunning : id ∉ s.watchers) (hqueued : id ∉ s.queue) :
    (execute config s id = if s.queue.length ≤ q then (.maxQueue, s)
      else (.queued, { s with queue := s.queue ++ [id] })) ∧
    (((execute config s id).1 = .maxQueue ↔ q ≤ s.queue.length) ↔ s.queue.length = q) ∧
    (s.queue.length ≤ q →
      ∀ ids : List Id, ids.foldl (fun s id => (execute config s id).2) s = s) := by
  have hstep : execute config s id = if s.queue.length ≤ q then (.maxQueue, s)
      else (.queued, { s with queue := s.queue ++ [id] }) := by
    simp [execute, hconcurrent, hfull, hqueueing, hmax, hrunning, hqueued]
  refine ⟨hstep, ?_, fun hshort ids => ?_⟩
  · rw [hstep]
    split <;> simp <;> omega
  · induction ids with
    | nil => rfl
    | cons id ids ih =>
      have hkept : (execute config s id).2 = s := by
        simp only [execute, hconcurrent, hqueueing, hmax, Option.any_some, decide_eq_true hfull,
          decide_eq_true hshort, if_true]
        split_ifs <;> rfl
      rw [List.foldl_cons, hkept, ih]

/-- Used for a queue that is full. -/
theorem execute_full_iff_used :
    (execute { maxConcurrent := some 1, maxQueue := some 1 } ⟨{0}, [1]⟩ 2).1 = .maxQueue := by
  rw [(execute_full_iff rfl (by decide) rfl rfl (by decide) (by decide)).1]
  rfl

/-- An empty queue takes nobody. -/
theorem empty_queue_refuses :
    (execute { maxConcurrent := some 1, maxQueue := some 1 } ⟨{0}, []⟩ 1).1 = .maxQueue := by
  decide

end DawnChat.Coalesced
