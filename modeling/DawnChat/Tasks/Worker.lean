/-
DawnChat/Tasks/Worker.lean

Background workers (`core/database/src/tasks/mod.rs`).

The debounced workers have the same loop: find the tasks that are due, commit them, take
what is in the queue, sleep.  A task is due when it was told to run right away, when it has
not been touched for five seconds, or when it is older than thirty seconds.  The loop is that
of `Debounce` with those tasks found due, in any order, since they are the keys of a hash map;
so what holds for every pattern of due tasks holds for the workers (`debounce_run`).
-/
import DawnChat.Lib.Debounce

namespace DawnChat

open RustStd Run

/-- A reading of the monotonic clock, in nanoseconds. -/
abbrev Instant := Nat

/-- Whole seconds that have passed since then. -/
def Instant.elapsedSecs (since now : Instant) : Nat := (now - since) / 10 ^ 9

/-- Task with additional information on when it should run. -/
structure DelayedTask (T : Type) where
  data : T
  runNow : Bool := false
  lastUpdated : Instant
  firstSeen : Instant
  deriving DecidableEq, Repr

namespace DelayedTask

variable {T : Type}

/-- Commit to database every 30 seconds if the task is particularly active. -/
def expireConstant : Nat := 30

/-- Otherwise, commit to database after 5 seconds. -/
def saveConstant : Nat := 5

/-- Create a new delayed task; the clock is read twice. -/
def new (data : T) (now : Instant × Instant) : DelayedTask T where
  data := data
  lastUpdated := now.1
  firstSeen := now.2

/-- Push a task further back in time. -/
def delay (task : DelayedTask T) (now : Instant) : DelayedTask T :=
  { task with lastUpdated := now }

/-- Flag the task to run right away, regardless of the time. -/
def runImmediately (task : DelayedTask T) : DelayedTask T := { task with runNow := true }

/-- Check if a task should run yet. -/
def shouldRun (task : DelayedTask T) (now : Instant) : Bool :=
  task.runNow || task.firstSeen.elapsedSecs now > expireConstant ||
    task.lastUpdated.elapsedSecs now > saveConstant

end DelayedTask

/-! ### The loop -/

section Loop

variable {ω α K T S : Type} [DecidableEq ω] [DecidableEq K]

/-- A debounced worker: the clock is read for every item. -/
abbrev DebouncedJob (α K T S : Type) := Debounce.Job α K (DelayedTask T) (Instant × Instant) S

abbrev WorkerState (ω α K T S : Type) := Debounce.State ω α K (DelayedTask T) S

inductive WorkerInput (ω α K : Type) where
  | push (item : α)
  /-- The time at which each task is looked at, and the order in which the map lists them. -/
  | check (w : ω) (now : K → Instant) (due : List K)
  | commit (w : ω)
  | take (w : ω) (now : Instant × Instant)

/-- The tasks that are due. -/
def dueTasks (tasks : HashMap K (DelayedTask T)) (now : K → Instant) : List K :=
  tasks.keys.filter fun k => (tasks.lookup k).any (·.shouldRun (now k))

namespace WorkerInput

def toInput : WorkerInput ω α K → Debounce.Input ω α K (Instant × Instant)
  | push item => .push item
  | check w _ due => .check w due
  | commit w => .commit w
  | take w now => .take w now

/-- What an input queues. -/
def queued : WorkerInput ω α K → List α
  | push item => [item]
  | _ => []

omit [DecidableEq ω] [DecidableEq K] in
theorem pushes_toInput (i : WorkerInput ω α K) : i.toInput.pushes = i.queued := by
  cases i <;> rfl

/-- The tasks that are found are those that are due. -/
def Possible (s : WorkerState ω α K T S) : WorkerInput ω α K → Prop
  | check w now due => due.Perm (dueTasks (s.worker w).tasks now)
  | _ => True

instance (s : WorkerState ω α K T S) : DecidablePred (Possible s)
  | check w now due => inferInstanceAs (Decidable (due.Perm (dueTasks (s.worker w).tasks now)))
  | push _ | commit _ | take _ _ => isTrue trivial

end WorkerInput

/-- One push, or one step of one worker. -/
def workerStep (job : DebouncedJob α K T S) (s : WorkerState ω α K T S)
    (i : WorkerInput ω α K) : Option (WorkerState ω α K T S) :=
  if i.Possible s then Debounce.step job s i.toInput else none

variable {job : DebouncedJob α K T S} {s : WorkerState ω α K T S}
  {inputs : List (WorkerInput ω α K)}

/-- Runs of the workers are runs of workers whose tasks are due at any time. -/
theorem debounce_run {s' : WorkerState ω α K T S} (hrun : run (workerStep job) s inputs = some s') :
    run (Debounce.step job) s (inputs.map WorkerInput.toInput) = some s' := by
  refine run_map (fun {s i s'} h => ?_) hrun
  rw [workerStep] at h
  split at h
  · exact h
  · cases h

/-- If no push was refused, everything that was queued was pushed. -/
theorem pushed_of_run {store : S}
    (hrun : run (workerStep job) { store := store } inputs = some s) (hrefused : s.refused = []) :
    s.pushed = inputs.flatMap WorkerInput.queued := by
  obtain ⟨-, hpushed⟩ := Debounce.pushed_of_run (debounce_run hrun) hrefused
  rw [hpushed, List.flatMap_map]
  exact List.flatMap_congr fun i _ => i.pushes_toInput

end Loop

end DawnChat
