/-
DawnChat/Lib/Debounce.lean

Workers that share a queue and put off their work.

Items are pushed to a bounded queue, and a push to a full queue is refused.  Each worker
repeats three things: it looks which of its tasks are due, commits those one after another,
and takes items from the queue until it is empty.  An item is entered into the task of its
key, which is created if there is none.  Which tasks are due, and in what order they are
committed, is up to the input, as is the order in which the workers and the pushes take
turns; so a run of `step` is any interleaving of any pattern.

The state keeps what happened: the items pushed, refused and taken, and the tasks committed.
`grouped` describes what a worker has done with a key.  The items it took for the key, in
order, are cut into groups, one for each task it committed and one for the task it holds.

`read_of_run` is about tasks that set a value: when nobody holds a task for a key, the value
is that of the last item which the worker that committed last has taken.
-/
import DawnChat.Lib.HashMap
import DawnChat.Lib.Run
import Mathlib.Algebra.Order.Group.Multiset

namespace Debounce

open RustStd Run Function List Option

variable {ω α K T θ S : Type}

/-- What is done with items and tasks. -/
structure Job (α K T θ S : Type) where
  /-- How many items the queue holds. -/
  capacity : Nat
  key : α → K
  /-- Enter an item into the task of its key, or start one; `none` is a panic. -/
  enter : θ → Option T → α → Option T
  /-- Commit the task of a key; `none` is a panic. -/
  commit : K → T → S → Option S

/-- Where a worker is in its loop. -/
inductive Phase (K : Type) where
  | check
  /-- The keys of the tasks that are still to be committed. -/
  | commit (keys : List K)
  | take
  deriving DecidableEq

structure Worker (K T : Type) where
  tasks : HashMap K T := ∅
  phase : Phase K := .check

/-- The queue, the workers and the store, with what happened so far. -/
structure State (ω α K T S : Type) where
  queue : List α := []
  worker : ω → Worker K T := fun _ => {}
  store : S
  pushed : List α := []
  refused : List α := []
  taken : List (ω × α) := []
  commits : List (ω × K × T) := []

inductive Input (ω α K θ : Type) where
  | push (item : α)
  /-- The worker finds these tasks due. -/
  | check (w : ω) (due : List K)
  | commit (w : ω)
  | take (w : ω) (arg : θ)

/-- What an input pushes. -/
def Input.pushes : Input ω α K θ → List α
  | push item => [item]
  | _ => []

variable [DecidableEq ω] [DecidableEq K]

namespace State

/-- Change one worker. -/
def setWorker (s : State ω α K T S) (w : ω) (worker : Worker K T) : State ω α K T S :=
  { s with worker := Function.update s.worker w worker }

end State

/-- One push, or one step of one worker. -/
def step (job : Job α K T θ S) (s : State ω α K T S) :
    Input ω α K θ → Option (State ω α K T S)
  | .push item =>
    if s.queue.length < job.capacity then
      some { s with queue := s.queue ++ [item], pushed := s.pushed ++ [item] }
    else some { s with refused := s.refused ++ [item] }
  | .check w due =>
    match (s.worker w).phase with
    | .check => some (s.setWorker w { s.worker w with phase := .commit due })
    | _ => none
  | .commit w =>
    match (s.worker w).phase with
    | .commit [] => some (s.setWorker w { s.worker w with phase := .take })
    | .commit (k :: keys) =>
      match (s.worker w).tasks.lookup k with
      | some task => do
          let store ← job.commit k task s.store
          some
            { s.setWorker w ⟨(s.worker w).tasks.erase k, .commit keys⟩ with
              store := store
              commits := s.commits ++ [(w, k, task)] }
      | none => some (s.setWorker w { s.worker w with phase := .commit keys })
    | _ => none
  | .take w arg =>
    match (s.worker w).phase, s.queue with
    | .take, item :: queue => do
        let task ← job.enter arg ((s.worker w).tasks.lookup (job.key item)) item
        some
          { s.setWorker w ⟨(s.worker w).tasks.insert (job.key item) task, .take⟩ with
            queue := queue
            taken := s.taken ++ [(w, item)] }
    -- the worker sleeps
    | .take, [] => some (s.setWorker w { s.worker w with phase := .check })
    | _, _ => none

section Steps

variable {job : Job α K T θ S} {s s' : State ω α K T S}

/-- **What a step does.**  It pushes an item or refuses it, moves a worker in its loop,
commits a task or enters an item into one. -/
theorem step_cases {i : Input ω α K θ} (h : step job s i = some s') :
    (∃ item, i.pushes = [item] ∧
      s' = { s with queue := s.queue ++ [item], pushed := s.pushed ++ [item] }) ∨
    (∃ item, s' = { s with refused := s.refused ++ [item] }) ∨
    (∃ w phase, i.pushes = [] ∧ s' = s.setWorker w { s.worker w with phase := phase }) ∨
    (∃ w k keys task store, i.pushes = [] ∧ (s.worker w).tasks.lookup k = some task ∧
      job.commit k task s.store = some store ∧
      s' = { s.setWorker w ⟨(s.worker w).tasks.erase k, .commit keys⟩ with
        store := store
        commits := s.commits ++ [(w, k, task)] }) ∨
    (∃ w arg item queue task, i.pushes = [] ∧ s.queue = item :: queue ∧
      job.enter arg ((s.worker w).tasks.lookup (job.key item)) item = some task ∧
      s' = { s.setWorker w ⟨(s.worker w).tasks.insert (job.key item) task, .take⟩ with
        queue := queue
        taken := s.taken ++ [(w, item)] }) := by
  cases i with
  | push item =>
    simp only [step] at h
    split at h
    · exact .inl ⟨item, rfl, (some.inj h).symm⟩
    · exact .inr (.inl ⟨item, (some.inj h).symm⟩)
  | check w due =>
    simp only [step] at h
    split at h
    · exact .inr (.inr (.inl ⟨w, _, rfl, (some.inj h).symm⟩))
    · cases h
  | commit w =>
    simp only [step] at h
    split at h
    · exact .inr (.inr (.inl ⟨w, _, rfl, (some.inj h).symm⟩))
    · next k keys hphase =>
      split at h
      · next task htask =>
        obtain ⟨store, hstore, hs'⟩ := bind_eq_some_iff.mp h
        exact .inr (.inr (.inr (.inl ⟨w, k, keys, task, store, rfl, htask, hstore,
          (some.inj hs').symm⟩)))
      · exact .inr (.inr (.inl ⟨w, _, rfl, (some.inj h).symm⟩))
    · cases h
  | take w arg =>
    simp only [step] at h
    split at h
    · next item queue hphase hqueue =>
      obtain ⟨task, htask, hs'⟩ := bind_eq_some_iff.mp h
      exact .inr (.inr (.inr (.inr ⟨w, arg, item, queue, task, rfl, hqueue, htask,
        (some.inj hs').symm⟩)))
    · exact .inr (.inr (.inl ⟨w, _, rfl, (some.inj h).symm⟩))
    · cases h

end Steps

/-! ### What a worker did with a key -/

/-- A task for a key, and the items that were entered into it. -/
inductive Built (job : Job α K T θ S) (k : K) : List α → T → Prop where
  | first {arg : θ} {item : α} {task : T} (hkey : job.key item = k)
      (h : job.enter arg none item = some task) : Built job k [item] task
  | more {arg : θ} {items : List α} {item : α} {task task' : T} (hitems : Built job k items task)
      (hkey : job.key item = k) (h : job.enter arg (some task) item = some task') :
      Built job k (items ++ [item]) task'

/-- The items of the task that is held; there are none without a task. -/
def Holds (job : Job α K T θ S) (k : K) (items : List α) : Option T → Prop
  | some task => Built job k items task
  | none => items = []

namespace State

/-- The items that a worker has taken for a key. -/
def takenOf (job : Job α K T θ S) (s : State ω α K T S) (w : ω) (k : K) : List α :=
  (s.taken.filter fun e => e.1 = w ∧ job.key e.2 = k).map (·.2)

/-- The tasks that a worker has committed for a key. -/
def commitsOf (s : State ω α K T S) (w : ω) (k : K) : List T :=
  (s.commits.filter fun e => e.1 = w ∧ e.2.1 = k).map (·.2.2)

/-- The task that a worker holds for a key. -/
def task? (s : State ω α K T S) (w : ω) (k : K) : Option T := (s.worker w).tasks.lookup k

/-- Items are taken in the order in which they were pushed. -/
def Fifo (s : State ω α K T S) : Prop := s.pushed = s.taken.map (·.2) ++ s.queue

/-- What a worker took for a key, cut into the tasks it committed and the one it holds. -/
def Grouped (job : Job α K T θ S) (w : ω) (k : K) (s : State ω α K T S) : Prop :=
  ∃ groups held, List.Forall₂ (Built job k) groups (s.commitsOf w k) ∧
    Holds job k held (s.task? w k) ∧ s.takenOf job w k = groups.flatten ++ held

end State

open State

section Invariants

variable {job : Job α K T θ S} {s s' : State ω α K T S} {i : Input ω α K θ}
  {inputs : List (Input ω α K θ)}

theorem fifo_step (hs : s.Fifo) (h : step job s i = some s') : s'.Fifo := by
  rw [State.Fifo] at hs ⊢
  obtain ⟨item, -, rfl⟩ | ⟨item, rfl⟩ | ⟨w, phase, -, rfl⟩ |
    ⟨w, k, keys, task, store, -, -, -, rfl⟩ |
    ⟨w, arg, item, queue, task, -, hqueue, -, rfl⟩ := step_cases h
  · simp [hs]
  · exact hs
  · exact hs
  · exact hs
  · simp [hs, hqueue, setWorker]

variable {w : ω} {k : K} {w' : ω} {task : T} {store : S}

/-- A step that neither commits nor enters leaves what a worker did with a key. -/
theorem grouped_of_same (hs : s.Grouped job w k) (htaken : s'.takenOf job w k = s.takenOf job w k)
    (hcommits : s'.commitsOf w k = s.commitsOf w k) (htask : s'.task? w k = s.task? w k) :
    s'.Grouped job w k := by
  rw [State.Grouped, htaken, hcommits, htask]
  exact hs

theorem task?_setWorker_ne (hne : w' ≠ w) (worker : Worker K T) (k : K) :
    (s.setWorker w worker).task? w' k = s.task? w' k := by
  rw [task?, setWorker]
  dsimp only
  rw [update_of_ne hne]
  rfl

theorem task?_setWorker (w : ω) (worker : Worker K T) (k : K) :
    (s.setWorker w worker).task? w k = worker.tasks.lookup k := by
  rw [task?, setWorker]
  dsimp only
  rw [update_self]

/-- A worker that moves in its loop keeps its tasks. -/
theorem task?_move (w w' : ω) (phase : Phase K) (k : K) :
    (s.setWorker w { s.worker w with phase := phase }).task? w' k = s.task? w' k := by
  by_cases hw : w' = w
  · subst hw
    exact task?_setWorker w' _ k
  · exact task?_setWorker_ne hw _ k

theorem takenOf_append (job : Job α K T θ S) (s : State ω α K T S) (w w' : ω) (k : K) (item : α) :
    takenOf job { s with taken := s.taken ++ [(w, item)] } w' k
      = s.takenOf job w' k ++ if w = w' ∧ job.key item = k then [item] else [] := by
  rw [takenOf, takenOf, filter_append, map_append]
  by_cases h : w = w' ∧ job.key item = k <;> simp [h]

theorem commitsOf_append (s : State ω α K T S) (w w' : ω) (k k' : K) (task : T) :
    commitsOf { s with commits := s.commits ++ [(w, k, task)] } w' k'
      = s.commitsOf w' k' ++ if w = w' ∧ k = k' then [task] else [] := by
  rw [commitsOf, commitsOf, filter_append, map_append]
  by_cases h : w = w' ∧ k = k' <;> simp [h]

theorem grouped_commit {keys : List K} (htask : (s.worker w).tasks.lookup k = some task) {k' : K}
    (hs : s.Grouped job w' k') :
    State.Grouped job w' k'
      { s.setWorker w ⟨(s.worker w).tasks.erase k, .commit keys⟩ with
        store := store
        commits := s.commits ++ [(w, k, task)] } := by
  obtain ⟨groups, held, hgroups, hheld, htaken⟩ := hs
  have hcommits := commitsOf_append s w w' k k' task
  by_cases hsame : w = w' ∧ k = k'
  · -- the task that was held is committed
    obtain ⟨rfl, rfl⟩ := hsame
    rw [if_pos ⟨rfl, rfl⟩] at hcommits
    rw [task?, htask] at hheld
    refine ⟨groups ++ [held], [], ?_, ?_, ?_⟩
    · show List.Forall₂ _ _ (commitsOf { s with commits := _ } w k)
      rw [hcommits]
      exact rel_append hgroups (.cons hheld .nil)
    · show Holds job k [] ((s.setWorker w _).task? w k)
      rw [task?_setWorker, AList.lookup_erase]
      rfl
    · rw [flatten_append, flatten_singleton, append_nil]
      exact htaken
  · rw [if_neg hsame, append_nil] at hcommits
    refine grouped_of_same ⟨groups, held, hgroups, hheld, htaken⟩ rfl hcommits ?_
    show (s.setWorker w _).task? w' k' = _
    by_cases hw : w' = w
    · subst hw
      rw [task?_setWorker, task?]
      exact AList.lookup_erase_ne fun hk => hsame ⟨rfl, hk.symm⟩
    · exact task?_setWorker_ne hw _ k'

theorem grouped_take {arg : θ} {item : α} {queue : List α}
    (henter : job.enter arg ((s.worker w).tasks.lookup (job.key item)) item = some task) {k' : K}
    (hs : s.Grouped job w' k') :
    State.Grouped job w' k'
      { s.setWorker w ⟨(s.worker w).tasks.insert (job.key item) task, .take⟩ with
        queue := queue
        taken := s.taken ++ [(w, item)] } := by
  obtain ⟨groups, held, hgroups, hheld, htaken⟩ := hs
  have hitems := takenOf_append job s w w' k' item
  by_cases hsame : w = w' ∧ job.key item = k'
  · -- the item joins those that are held
    obtain ⟨rfl, rfl⟩ := hsame
    rw [if_pos ⟨rfl, rfl⟩] at hitems
    refine ⟨groups, held ++ [item], hgroups, ?_, ?_⟩
    · show Holds job _ _ ((s.setWorker w _).task? w (job.key item))
      rw [task?_setWorker, AList.lookup_insert]
      rw [task?] at hheld
      rcases htask : (s.worker w).tasks.lookup (job.key item) with - | before
      · rw [htask] at hheld henter
        obtain rfl : held = [] := hheld
        exact .first rfl henter
      · rw [htask] at hheld henter
        exact .more hheld rfl henter
    · rw [← append_assoc, ← htaken]
      exact hitems
  · rw [if_neg hsame, append_nil] at hitems
    refine grouped_of_same ⟨groups, held, hgroups, hheld, htaken⟩ hitems rfl ?_
    show (s.setWorker w _).task? w' k' = _
    by_cases hw : w' = w
    · subst hw
      rw [task?_setWorker, task?]
      exact AList.lookup_insert_ne fun hk => hsame ⟨rfl, hk.symm⟩
    · exact task?_setWorker_ne hw _ k'

theorem grouped_step (hs : s.Grouped job w k) (h : step job s i = some s') :
    s'.Grouped job w k := by
  obtain ⟨item, -, rfl⟩ | ⟨item, rfl⟩ | ⟨w', phase, -, rfl⟩ |
    ⟨w', k', keys, task, store, -, htask, -, rfl⟩ |
    ⟨w', arg, item, queue, task, -, -, henter, rfl⟩ := step_cases h
  · exact hs
  · exact hs
  · exact grouped_of_same hs rfl rfl (task?_move w' w phase k)
  · exact grouped_commit htask hs
  · exact grouped_take henter hs

theorem grouped_start (store : S) (w : ω) (k : K) : State.Grouped job w k { store := store } :=
  ⟨[], [], .nil, rfl, rfl⟩

/-- **Groups.**  In every run, what a worker took for a key is cut into the tasks it committed
and the one it holds. -/
theorem grouped (hrun : run (step job) { store := store } inputs = some s) (w : ω) (k : K) :
    s.Grouped job w k :=
  run_keeps (fun _ _ _ hs h => grouped_step hs h) hrun (grouped_start store w k)

theorem fifo (hrun : run (step job) { store := store } inputs = some s) : s.Fifo :=
  run_keeps (fun _ _ _ hs h => fifo_step hs h) hrun rfl

/-- The task that is held was built from items of its key. -/
theorem State.Grouped.built (hs : s.Grouped job w k) (h : s.task? w k = some task) :
    ∃ items, Built job k items task := by
  obtain ⟨groups, held, -, hheld, -⟩ := hs
  rw [h] at hheld
  exact ⟨held, hheld⟩

omit [DecidableEq K] in
theorem Built.ne_nil {items : List α} (h : Built job k items task) : items ≠ [] := by
  cases h <;> simp

end Invariants

/-! ### Lists with elements replaced -/

/-- The second list is what is left of the first one after some elements were replaced by
the next one. -/
inductive Thinned : List α → List α → Prop where
  | nil : Thinned [] []
  | keep {a : α} {l l' : List α} (h : Thinned l l') : Thinned (a :: l) (a :: l')
  | replace {a b : α} {l l' : List α} (h : Thinned (b :: l) l') : Thinned (a :: b :: l) l'

namespace Thinned

variable {l₁ l₁' l₂ l₂' : List α}

theorem refl : ∀ l : List α, Thinned l l
  | [] => .nil
  | _ :: l => .keep (refl l)

theorem append (h₁ : Thinned l₁ l₁') (h₂ : Thinned l₂ l₂') : Thinned (l₁ ++ l₂) (l₁' ++ l₂') := by
  induction h₁ with
  | nil => exact h₂
  | keep _ ih => exact .keep ih
  | replace _ ih => exact .replace ih

/-- A list of which only the last element is left. -/
theorem last {a : α} (h : l₁.getLast? = some a) : Thinned l₁ [a] := by
  obtain ⟨l, rfl⟩ := getLast?_eq_some_iff.mp h
  clear h
  induction l with
  | nil => exact .keep .nil
  | cons b l ih =>
    rcases hl : l ++ [a] with - | ⟨c, rest⟩
    · simp at hl
    · rw [hl] at ih
      rw [cons_append, hl]
      exact .replace ih

end Thinned

section Tasks

variable {job : Job α K T θ S} {s : State ω α K T S} {β : Type}

end Tasks

/-! ### One worker -/

section OneWorker

variable {job : Job α K T θ S} {s s' : State Unit α K T S}

variable {β : Type} {content : T → List β} {parts : α → List β}

variable
  (hparts : ∀ {k items task}, Built job k items task → content task = items.flatMap parts)

include hparts

end OneWorker

/-! ### Nothing refused, nothing pending -/

/-- The queue is empty, and nobody holds a task. -/
def State.Idle (s : State ω α K T S) : Prop :=
  s.queue = [] ∧ ∀ w, (s.worker w).tasks.keys = []

section Pending

variable {job : Job α K T θ S} {s s' : State ω α K T S}

omit [DecidableEq ω] in
theorem State.Idle.task?_eq_none (h : s.Idle) (w : ω) (k : K) : s.task? w k = none := by
  rw [task?, AList.lookup_eq_none, AList.mem_keys, h.2 w]
  exact not_mem_nil

theorem pushed_step {i : Input ω α K θ} (h : step job s i = some s') (hrefused : s'.refused = []) :
    s.refused = [] ∧ s'.pushed = s.pushed ++ i.pushes := by
  obtain ⟨item, hi, rfl⟩ | ⟨item, rfl⟩ | ⟨w, phase, hi, rfl⟩ |
    ⟨w, k, keys, task, store, hi, -, -, rfl⟩ | ⟨w, arg, item, queue, task, hi, -, -, rfl⟩ :=
    step_cases h
  · rw [hi]
    exact ⟨hrefused, rfl⟩
  · simp at hrefused
  all_goals
    rw [hi, append_nil]
    exact ⟨hrefused, rfl⟩

/-- If no push was refused, everything was pushed. -/
theorem pushed_of_run {inputs : List (Input ω α K θ)} (hrun : run (step job) s inputs = some s')
    (hrefused : s'.refused = []) :
    s.refused = [] ∧ s'.pushed = s.pushed ++ inputs.flatMap Input.pushes := by
  induction inputs generalizing s with
  | nil =>
    obtain rfl := some.inj hrun
    exact ⟨hrefused, (append_nil _).symm⟩
  | cons i inputs ih =>
    rw [run_cons] at hrun
    obtain ⟨s₁, hstep, hrest⟩ := bind_eq_some_iff.mp hrun
    obtain ⟨hrefused₁, hpushed⟩ := ih hrest
    obtain ⟨hrefused₀, hpushed₀⟩ := pushed_step hstep hrefused₁
    refine ⟨hrefused₀, ?_⟩
    rw [hpushed, hpushed₀, append_assoc, flatMap_cons]

/-- Where nothing is pending, every item was taken by somebody. -/
theorem exists_takenOf (job : Job α K T θ S) (hs : s.Fifo) (hidle : s.Idle) {item : α}
    (hitem : item ∈ s.pushed) : ∃ w, item ∈ s.takenOf job w (job.key item) := by
  rw [hs, hidle.1, append_nil, List.mem_map] at hitem
  obtain ⟨e, he, rfl⟩ := hitem
  refine ⟨e.1, List.mem_map.mpr ⟨e, mem_filter.mpr ⟨he, ?_⟩, rfl⟩⟩
  simp

end Pending

/-! ### Tasks that set a value -/

section Value

variable {job : Job α K T θ S} {s s' : State ω α K T S} {β : Type}

/-- The last commit for a key. -/
def State.lastCommit (s : State ω α K T S) (k : K) : Option (ω × K × T) :=
  (s.commits.filter fun e => e.2.1 = k).getLast?

/-- The worker that committed last for a key. -/
def State.lastCommitter (s : State ω α K T S) (k : K) : Option ω :=
  (s.lastCommit k).map (·.1)

/-- The last element of a list is the last one among those that satisfy what it satisfies. -/
theorem getLast?_filter_of_getLast? {l : List α} {a : α} {p : α → Bool} (h : l.getLast? = some a)
    (ha : p a = true) : (l.filter p).getLast? = some a := by
  obtain ⟨l', rfl⟩ := getLast?_eq_some_iff.mp h
  rw [filter_append, filter_cons_of_pos ha]
  simp

omit [DecidableEq ω] in
theorem State.lastCommit_append (s : State ω α K T S) (w : ω) (k k' : K) (task : T) :
    lastCommit { s with commits := s.commits ++ [(w, k, task)] } k'
      = if k = k' then some (w, k, task) else s.lastCommit k' := by
  rw [lastCommit, lastCommit, filter_append]
  by_cases h : k = k' <;> simp [h]

variable {k : K} {i : Input ω α K θ}

/-- A last commit for a key is the last one of its worker. -/
theorem State.commitsOf_getLast? {e : ω × K × T} (h : s.lastCommit k = some e) :
    (s.commitsOf e.1 k).getLast? = some e.2.2 := by
  have hmem := mem_filter.mp (mem_of_getLast? h)
  have hfilter : (s.commits.filter fun x => x.1 = e.1 ∧ x.2.1 = k)
      = (s.commits.filter fun x => x.2.1 = k).filter fun x => x.1 = e.1 := by
    rw [List.filter_filter]
    exact filter_congr fun x _ => by simp
  rw [commitsOf, hfilter, getLast?_map, getLast?_filter_of_getLast? h (by simp)]
  rfl

/-- Where nothing is held, the last task that a worker committed for a key was built from
items up to the last one it took for it. -/
theorem State.Grouped.last {w : ω} {task : T} (hs : s.Grouped job w k)
    (hidle : s.task? w k = none) (hlast : (s.commitsOf w k).getLast? = some task) :
    ∃ items, Built job k items task ∧ items.getLast? = (s.takenOf job w k).getLast? := by
  obtain ⟨groups, held, hgroups, hheld, htaken⟩ := hs
  rw [hidle] at hheld
  obtain rfl : held = [] := hheld
  obtain ⟨tasks, htasks⟩ := getLast?_eq_some_iff.mp hlast
  -- the last group belongs to the last task
  have hreverse := forall₂_reverse_iff.mpr hgroups
  rw [htasks, reverse_append, reverse_singleton, singleton_append] at hreverse
  rcases hr : groups.reverse with - | ⟨items, rest⟩
  · rw [hr] at hreverse
    cases hreverse
  · rw [hr] at hreverse
    obtain ⟨hbuilt, -⟩ := forall₂_cons.mp hreverse
    refine ⟨items, hbuilt, ?_⟩
    have hsplit : groups = rest.reverse ++ [items] := by
      rw [← reverse_reverse groups, hr, reverse_cons]
    rw [htaken, hsplit, append_nil, flatten_append, flatten_singleton,
      getLast?_append_of_ne_nil _ hbuilt.ne_nil]

/-- Who has taken items for a key and holds none has committed. -/
theorem State.Grouped.exists_commit {w : ω} (hs : s.Grouped job w k)
    (hidle : s.task? w k = none) (htaken : s.takenOf job w k ≠ []) : s.lastCommit k ≠ none := by
  obtain ⟨groups, held, hgroups, hheld, htakenOf⟩ := hs
  rw [hidle] at hheld
  obtain rfl : held = [] := hheld
  intro hnone
  have hcommits : s.commitsOf w k = [] := by
    have hall := getLast?_eq_none_iff.mp hnone
    rw [commitsOf, map_eq_nil_iff, filter_eq_nil_iff]
    intro e he hw
    exact filter_eq_nil_iff.mp hall e he (by simpa using (of_decide_eq_true hw).2)
  rw [hcommits] at hgroups
  cases hgroups
  exact htaken htakenOf

/-- A value in the store that the tasks of a key set: to what belongs to the last item.  The
store may have to be of some kind for that, which no commit changes. -/
structure Sets (job : Job α K T θ S) (k : K) (valid : S → Prop) (read : S → Option β)
    (val : α → Option β) : Prop where
  keep : ∀ {k' task st st'}, valid st → job.commit k' task st = some st' → valid st'
  set : ∀ {items task st st'}, valid st → Built job k items task →
    job.commit k task st = some st' → read st' = items.getLast?.bind val
  other : ∀ {k' items task st st'}, k' ≠ k → Built job k' items task →
    job.commit k' task st = some st' → read st' = read st

/-- The value was set by the last commit, if there was one. -/
def SetByLast (job : Job α K T θ S) (k : K) (valid : S → Prop) (read : S → Option β)
    (v₀ : Option β) (s : State ω α K T S) : Prop :=
  match s.lastCommit k with
  | none => read s.store = v₀
  | some e => ∃ st st', valid st ∧ job.commit k e.2.2 st = some st' ∧ read s.store = read st'

variable {k : K} {valid : S → Prop} {read : S → Option β} {val : α → Option β}
  (hsets : Sets job k valid read val)

include hsets

theorem Sets.valid_step (hs : valid s.store) (h : step job s i = some s') : valid s'.store := by
  obtain ⟨item, -, rfl⟩ | ⟨item, rfl⟩ | ⟨w, phase, -, rfl⟩ |
    ⟨w, k', keys, task, store, -, -, hcommit, rfl⟩ | ⟨w, arg, item, queue, task, -, -, -, rfl⟩ :=
    step_cases h
  · exact hs
  · exact hs
  · exact hs
  · exact hsets.keep hs hcommit
  · exact hs

theorem setByLast_step (hgrouped : ∀ w k, s.Grouped job w k)
    (hvalid : valid s.store) {v₀ : Option β}
    (hs : SetByLast job k valid read v₀ s) (h : step job s i = some s') :
    SetByLast job k valid read v₀ s' := by
  obtain ⟨item, -, rfl⟩ | ⟨item, rfl⟩ | ⟨w, phase, -, rfl⟩ |
    ⟨w, k', keys, task, store, -, htask, hcommit, rfl⟩ |
    ⟨w, arg, item, queue, task, -, -, -, rfl⟩ := step_cases h
  · exact hs
  · exact hs
  · exact hs
  · have hlast := s.lastCommit_append w k' k task
    by_cases hk : k' = k
    · subst hk
      rw [if_pos rfl] at hlast
      rw [SetByLast]
      show (match lastCommit { s with commits := _ } k' with
        | none => _
        | some e => _)
      rw [hlast]
      exact ⟨s.store, store, hvalid, hcommit, rfl⟩
    · rw [if_neg hk] at hlast
      obtain ⟨items, hbuilt⟩ := (hgrouped w k').built htask
      rw [SetByLast] at hs ⊢
      show (match lastCommit { s with commits := _ } k with
        | none => read store = v₀
        | some e => ∃ st st', valid st ∧ job.commit k e.2.2 st = some st' ∧
            read store = read st')
      rw [hlast, hsets.other hk hbuilt hcommit]
      exact hs
  · exact hs

/-- The worker that committed last for a key took an item with this value last. -/
def State.Decided (job : Job α K T θ S) (val : α → Option β) (s : State ω α K T S) (k : K)
    (b : β) : Prop :=
  ∃ w, s.lastCommitter k = some w ∧ (s.takenOf job w k).getLast?.bind val = some b

variable {store : S} {inputs : List (Input ω α K θ)} (hvalid : valid store)
  (hrun : run (step job) { store := store } inputs = some s)

include hvalid hrun

/-- **The last committer decides.**  When nobody holds a task for a key, the value is that of
the last item which the worker that committed last has taken. -/
theorem read_of_run (hidle : ∀ w, s.task? w k = none) :
    read s.store = (s.lastCommitter k).elim (read store)
      fun w => (s.takenOf job w k).getLast?.bind val := by
  obtain ⟨-, -, hset⟩ := run_keeps
    (P := fun s => (∀ w k, s.Grouped job w k) ∧ valid s.store ∧
      SetByLast job k valid read (read store) s)
    (fun s i s' hs h => ⟨fun w k => grouped_step (hs.1 w k) h, hsets.valid_step hs.2.1 h,
      setByLast_step hsets hs.1 hs.2.1 hs.2.2 h⟩)
    hrun ⟨fun w k => grouped_start store w k, hvalid, rfl⟩
  rw [SetByLast] at hset
  rw [lastCommitter]
  rcases hlast : s.lastCommit k with - | e
  · rw [hlast] at hset
    exact hset
  · rw [hlast] at hset
    obtain ⟨st, st', hst, hcommit, hread⟩ := hset
    obtain ⟨items, hbuilt, hitems⟩ := (grouped hrun e.1 k).last (hidle e.1)
      (commitsOf_getLast? hlast)
    rw [hread, hsets.set hst hbuilt hcommit, hitems]
    rfl

/-- **The value that is left**, once nothing is pending. -/
theorem read_eq_some_iff (hidle : s.Idle) {item : α} (hitem : item ∈ s.pushed)
    (hkey : job.key item = k) {b : β} :
    read s.store = some b ↔ s.Decided job val k b := by
  subst hkey
  -- somebody took the item, holds no task for its key, and so has committed one
  obtain ⟨w, hw⟩ := exists_takenOf job (fifo hrun) hidle hitem
  have hcommit := (grouped hrun w (job.key item)).exists_commit (hidle.task?_eq_none w _)
    (ne_nil_of_mem hw)
  obtain ⟨e, he⟩ := ne_none_iff_exists'.mp hcommit
  rw [read_of_run hsets hvalid hrun fun w => hidle.task?_eq_none w _, State.Decided,
    lastCommitter, he]
  simp

end Value

end Debounce
