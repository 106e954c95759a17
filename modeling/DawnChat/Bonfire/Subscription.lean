/-
DawnChat/Bonfire/Subscription.lean

The topics a websocket session listens to (`bonfire/src/events/state.rs`, and
the listener loop of `bonfire/src/websocket.rs`).

The session keeps the set of topics it wants (`subscribed`) and a log of the
changes that the pub/sub client has not seen yet (`state`).  At the top of
every round the listener takes the log with `apply_state` and carries it out on
the client.  Both sides apply the two lists of the log as batches, but in
opposite orders: the session adds and then removes, the listener removes and
then adds.

So a topic that goes on and off between two flushes ends differently on the two
sides.  `flushAgrees_iff` says that this is the only way they come apart.
-/
import DawnChat.Events
import DawnChat.Lib.Run
import DawnChat.Lib.SetLog

namespace DawnChat

open SetLog Run Option

/-- Enumeration representing some change in subscriptions. -/
inductive SubscriptionStateChange where
  /-- No change. -/
  | none
  /-- Clear all subscriptions. -/
  | reset
  /-- Append or remove subscriptions. -/
  | change (add remove : List String)
  deriving DecidableEq, Repr

/-- The subscription part of a session's state. -/
structure Subscriptions where
  state : SubscriptionStateChange
  subscribed : Finset String
  deriving DecidableEq

namespace Subscriptions

/-- Add a new subscription. -/
def insertSubscription (s : Subscriptions) (subscription : String) : Subscriptions :=
  if subscription ∈ s.subscribed then s
  else
    { state :=
        match s.state with
        | .none => .change [subscription] []
        | .change add remove => .change (add ++ [subscription]) remove
        | .reset => .reset
      subscribed := insert subscription s.subscribed }

/-- Remove existing subscription; `none` is the panic "Should not remove during
a reset!". -/
def removeSubscription (s : Subscriptions) (subscription : String) : Option Subscriptions :=
  if subscription ∉ s.subscribed then some s
  else
    match s.state with
    | .none => some ⟨.change [] [subscription], s.subscribed.erase subscription⟩
    | .change add remove =>
      some ⟨.change add (remove ++ [subscription]), s.subscribed.erase subscription⟩
    | .reset => none

/-- A call of one of the two. -/
def call (s : Subscriptions) : Op String → Option Subscriptions
  | .insert subscription => some (s.insertSubscription subscription)
  | .remove subscription => s.removeSubscription subscription

/-- Reset the current state. -/
def resetState : Subscriptions := ⟨.reset, ∅⟩

end Subscriptions

/-- An entry of the cache of recently active servers, as iterating over it
reports it. -/
inductive TimedEntry where
  | valid (server : String)
  | expired (server : String)
  deriving DecidableEq, Repr

/-- The subscription calls that follow from the cache of active servers: users
listen to the member events of servers they were recently active in.  Bots
listen to all of them and skip this. -/
def activeServerChanges (isBot : Bool) (entries : List TimedEntry) : List (Op String) :=
  if isBot then []
  else entries.map fun
    | .valid k => .insert (memberTopic k)
    | .expired k => .remove (memberTopic k)

variable {isBot : Bool} {entries : List TimedEntry} {t : String}

/-- Every entry stands for one call. -/
theorem mem_activeServerChanges {op : Op String} : op ∈ activeServerChanges isBot entries ↔
    isBot = false ∧ ((∃ server, .valid server ∈ entries ∧ op = .insert (memberTopic server)) ∨
      ∃ server, .expired server ∈ entries ∧ op = .remove (memberTopic server)) := by
  rw [activeServerChanges]
  cases isBot with
  | true => simp
  | false =>
    simp only [Bool.false_eq_true, if_false, List.mem_map, true_and]
    constructor
    · rintro ⟨server | server, hentry, rfl⟩
      · exact .inl ⟨server, hentry, rfl⟩
      · exact .inr ⟨server, hentry, rfl⟩
    · rintro (⟨server, hentry, rfl⟩ | ⟨server, hentry, rfl⟩)
      · exact ⟨.valid server, hentry, rfl⟩
      · exact ⟨.expired server, hentry, rfl⟩

theorem insert_mem_activeServerChanges :
    .insert t ∈ activeServerChanges isBot entries ↔
      isBot = false ∧ ∃ server, .valid server ∈ entries ∧ t = memberTopic server := by
  simp [mem_activeServerChanges]

theorem remove_mem_activeServerChanges :
    .remove t ∈ activeServerChanges isBot entries ↔
      isBot = false ∧ ∃ server, .expired server ∈ entries ∧ t = memberTopic server := by
  simp [mem_activeServerChanges]

namespace Subscriptions

/-- Hand out the log and apply its lists to the set once more. -/
def flush (s : Subscriptions) : SubscriptionStateChange × Subscriptions :=
  let subscribed :=
    match s.state with
    | .change add remove => removeAll (insertAll s.subscribed add) remove
    | _ => s.subscribed
  (s.state, ⟨.none, subscribed⟩)

/-- Apply currently queued state. -/
def applyState (s : Subscriptions) (isBot : Bool) (entries : List TimedEntry) :
    Option (SubscriptionStateChange × Subscriptions) :=
  (run call s (activeServerChanges isBot entries)).map flush

end Subscriptions

/-- The listener carries out a change on the pub/sub client, whose topics are
`client`.  A reset drops all of them and subscribes to the session's set. -/
def SubscriptionStateChange.carryOut (change : SubscriptionStateChange)
    (subscribed client : Finset String) : Finset String :=
  match change with
  | .reset => subscribed
  | .change add remove => insertAll (removeAll client remove) add
  | .none => client

/-! ### What the log holds -/

/-- The log lists these additions and removals. -/
def SubscriptionStateChange.Logs (change : SubscriptionStateChange)
    (add remove : List String) : Prop :=
  (change = .none ∧ add = [] ∧ remove = []) ∨ change = .change add remove

namespace Subscriptions

variable {s : Subscriptions} {add remove : List String}

/-- One call outside a reset: it succeeds, does to the set what it says, and
logs what it really changed. -/
theorem call_logs (h : s.state.Logs add remove) (op : Op String) :
    ∃ s', s.call op = some s' ∧ s'.subscribed = op.apply s.subscribed ∧
      s'.state.Logs (add ++ op.gain s.subscribed) (remove ++ op.loss s.subscribed) := by
  rcases op with t | t
  · by_cases ht : t ∈ s.subscribed
    · -- already subscribed: nothing happens
      refine ⟨s, by simp [call, insertSubscription, ht], ?_, ?_⟩
      · simp [Op.apply, ht]
      · simpa [Op.gain, Op.loss, ht] using h
    · refine ⟨_, rfl, ?_, ?_⟩
      · simp [insertSubscription, ht, Op.apply]
      · rcases h with ⟨hs, rfl, rfl⟩ | hs <;>
          simp [insertSubscription, ht, hs, Op.gain, Op.loss, SubscriptionStateChange.Logs]
  · by_cases ht : t ∈ s.subscribed
    · rcases h with ⟨hs, rfl, rfl⟩ | hs <;>
        simp [call, removeSubscription, ht, hs, Op.gain, Op.loss, Op.apply,
          SubscriptionStateChange.Logs]
    · refine ⟨s, by simp [call, removeSubscription, ht], ?_, ?_⟩
      · simp [Op.apply, ht]
      · simpa [Op.gain, Op.loss, ht] using h

/-- Any sequence of calls outside a reset succeeds, replays the calls on the
set, and logs all that they changed. -/
theorem run_call_logs (h : s.state.Logs add remove) (ops : List (Op String)) :
    ∃ s', run call s ops = some s' ∧ s'.subscribed = replay s.subscribed ops ∧
      s'.state.Logs (add ++ added s.subscribed ops) (remove ++ removed s.subscribed ops) := by
  induction ops generalizing s add remove with
  | nil => exact ⟨s, rfl, rfl, by simpa [added, removed] using h⟩
  | cons op ops ih =>
    obtain ⟨s₁, hcall, hsub, hlogs⟩ := call_logs h op
    obtain ⟨s', hrun, hsub', hlogs'⟩ := ih hlogs
    refine ⟨s', by rw [run_cons, hcall]; exact hrun, ?_, ?_⟩
    · rw [hsub', hsub]
      rfl
    · rw [hsub] at hlogs'
      simpa [added, removed] using hlogs'

/-- Outside a reset no sequence of calls panics or enters a reset, and inside
one a sequence without removals does not panic. -/
theorem exists_run_call (h : s.state ≠ .reset) (ops : List (Op String)) :
    ∃ s', run call s ops = some s' ∧ s'.subscribed = replay s.subscribed ops ∧
      s'.state ≠ .reset := by
  obtain ⟨add, remove, hlogs⟩ : ∃ add remove, s.state.Logs add remove := by
    rcases hs : s.state with - | - | ⟨add, remove⟩
    · exact ⟨[], [], .inl ⟨rfl, rfl, rfl⟩⟩
    · exact absurd hs h
    · exact ⟨add, remove, .inr rfl⟩
  obtain ⟨s', hrun, hsub, hlogs'⟩ := run_call_logs hlogs ops
  refine ⟨s', hrun, hsub, ?_⟩
  rcases hlogs' with ⟨hs', -⟩ | hs' <;> simp [hs']

variable {ops : List (Op String)} {s' : Subscriptions}

theorem exists_run_call_insert (h : ∀ t, Op.remove t ∉ ops) : ∃ s', run call s ops = some s' := by
  induction ops generalizing s with
  | nil => exact ⟨s, rfl⟩
  | cons op ops ih =>
    cases op with
    | insert t => exact ih fun t' ht' => h t' (List.mem_cons_of_mem _ ht')
    | remove t => exact absurd List.mem_cons_self (h t)

/-- However the log stands, a call that goes through does to the set what it
says, and does not end a reset. -/
theorem call_ok {op : Op String} (h : s.call op = some s') :
    s'.subscribed = op.apply s.subscribed ∧ (s.state = .reset → s'.state = .reset) := by
  rcases op with t | t
  · obtain rfl := some.inj h
    rw [insertSubscription]
    split
    · rename_i ht
      exact ⟨(Finset.insert_eq_self.mpr ht).symm, id⟩
    · exact ⟨rfl, fun hs => by simp [hs]⟩
  · rw [call, removeSubscription] at h
    split at h
    · rename_i ht
      obtain rfl := some.inj h
      exact ⟨(Finset.erase_eq_of_notMem ht).symm, id⟩
    · rcases hs : s.state with - | - | ⟨add, remove⟩ <;> rw [hs] at h
      · obtain rfl := some.inj h
        exact ⟨rfl, nofun⟩
      · cases h
      · obtain rfl := some.inj h
        exact ⟨rfl, nofun⟩

theorem run_call_ok (h : run call s ops = some s') :
    s'.subscribed = replay s.subscribed ops ∧ (s.state = .reset → s'.state = .reset) := by
  induction ops generalizing s with
  | nil =>
    obtain rfl := some.inj h
    exact ⟨rfl, id⟩
  | cons op ops ih =>
    obtain ⟨s₁, hcall, hrun⟩ := bind_eq_some_iff.mp h
    obtain ⟨hsub, hreset⟩ := call_ok hcall
    obtain ⟨hsub', hreset'⟩ := ih hrun
    rw [hsub] at hsub'
    exact ⟨hsub', fun hs => hreset' (hreset hs)⟩

theorem flush_logs (h : s.state.Logs add remove) :
    s.flush.1.Logs add remove ∧ s.flush.2.state = .none ∧
      s.flush.2.subscribed = removeAll (insertAll s.subscribed add) remove := by
  refine ⟨h, rfl, ?_⟩
  rcases h with ⟨hs, rfl, rfl⟩ | hs <;> simp [flush, hs, insertAll, removeAll]

/-- A flush keeps what is subscribed, except what was removed in between. -/
theorem mem_flush_iff {S : Finset String} (h : run call ⟨.none, S⟩ ops = some s) {t : String} :
    t ∈ s.flush.2.subscribed ↔ t ∈ s.subscribed ∧ t ∉ removed S ops := by
  obtain ⟨s', hrun, hsub, hlogs⟩ := run_call_logs (s := ⟨.none, S⟩) (.inl ⟨rfl, rfl, rfl⟩) ops
  obtain rfl := some.inj (hrun.symm.trans h)
  obtain ⟨-, -, hflush⟩ := flush_logs hlogs
  rw [List.nil_append, List.nil_append] at hflush
  rw [hflush, mem_removeAll, mem_insertAll]
  constructor
  · rintro ⟨ht | ht, hrem⟩
    · exact ⟨ht, hrem⟩
    · rw [hsub]
      exact ⟨(mem_replay_or_removed ht).resolve_right hrem, hrem⟩
  · rintro ⟨ht, hrem⟩
    exact ⟨.inl ht, hrem⟩

/-- The log lists the calls since the last flush, or the session is in a reset. -/
def Logged (s : Subscriptions) : Prop :=
  s.state = .reset ∨ ∃ S ops, run call ⟨.none, S⟩ ops = some s

theorem Logged.run (h : s.Logged) (hrun : Run.run call s ops = some s') : s'.Logged := by
  rcases h with hreset | ⟨S, ops₀, hrun₀⟩
  · exact .inl ((run_call_ok hrun).2 hreset)
  · exact .inr ⟨S, ops₀ ++ ops, by rw [run_append, hrun₀]; exact hrun⟩

/-- A flush adds nothing. -/
theorem Logged.mem_of_flush (h : s.Logged) {t : String} (ht : t ∈ s.flush.2.subscribed) :
    t ∈ s.subscribed := by
  rcases h with hreset | ⟨S, ops, hrun⟩
  · simpa [flush, hreset] using ht
  · exact ((mem_flush_iff hrun).mp ht).1

end Subscriptions

theorem SubscriptionStateChange.Logs.carryOut_eq {change : SubscriptionStateChange}
    {add remove : List String} (h : change.Logs add remove) (subscribed client : Finset String) :
    change.carryOut subscribed client = insertAll (removeAll client remove) add := by
  rcases h with ⟨rfl, rfl, rfl⟩ | rfl
  · rfl
  · rfl

/-! ### The two sides after a flush -/

/-- The session starts with the topics `S` and an empty log, makes the calls,
and flushes; the listener's client starts with `S` too.  The two sides then
agree, and have what replaying the calls one by one gives. -/
def FlushAgrees (isBot : Bool) (entries : List TimedEntry) (S : Finset String)
    (calls : List (Op String)) : Prop :=
  ∃ s change s', run Subscriptions.call ⟨.none, S⟩ calls = some s ∧
    s.applyState isBot entries = some (change, s') ∧
    change.carryOut s'.subscribed S = s'.subscribed ∧
    s'.subscribed = replay S (calls ++ activeServerChanges isBot entries)

open Subscriptions

/-- **The two sides agree exactly when no topic changes twice between flushes.**
The calls are those made since the last flush and those that flushing itself
makes for recently active servers. -/
theorem flushAgrees_iff (isBot : Bool) (entries : List TimedEntry) (S : Finset String)
    (calls : List (Op String)) :
    FlushAgrees isBot entries S calls ↔
      ∀ t, flips t S (calls ++ activeServerChanges isBot entries) ≤ 1 := by
  set active := activeServerChanges isBot entries with hactive
  have hstart : (⟨.none, S⟩ : Subscriptions).state.Logs [] [] := Or.inl ⟨rfl, rfl, rfl⟩
  obtain ⟨s, hcalls, -, hlogs⟩ := run_call_logs hstart calls
  obtain ⟨s₁, hrun, hsub, hlogs₁⟩ := run_call_logs hstart (calls ++ active)
  -- the calls that flushing makes continue the run
  have happly : s.applyState isBot entries = some s₁.flush := by
    rw [run_append, hcalls] at hrun
    have hrest : run call s active = some s₁ := hrun
    rw [applyState, ← hactive, hrest]
    rfl
  obtain ⟨hlogs', -, hflush⟩ := flush_logs hlogs₁
  rw [List.nil_append, List.nil_append] at hlogs' hflush
  rw [← batch_eq_replay_iff, ← hlogs'.carryOut_eq s₁.flush.2.subscribed S, ← hsub, ← hflush]
  constructor
  · rintro ⟨s', change, s'', hs', hflushed, hclient, hreplay⟩
    obtain rfl : s = s' := some.inj (hcalls.symm.trans hs')
    obtain ⟨rfl, rfl⟩ := Prod.mk.inj (some.inj (happly.symm.trans hflushed))
    exact ⟨hclient, hreplay.trans hsub.symm⟩
  · rintro ⟨hclient, hreplay⟩
    exact ⟨s, s₁.flush.1, s₁.flush.2, hcalls, happly, hclient, hreplay.trans hsub⟩

/-- Joining a topic and leaving it again between two flushes: the session has no
topic left, and its client stays subscribed. -/
theorem on_off_leaves_client_subscribed :
    ¬ FlushAgrees false [] ∅ [.insert "general", .remove "general"] ∧
      ((run Subscriptions.call ⟨.none, ∅⟩ [.insert "general", .remove "general"]).bind
          fun s => s.applyState false []).map
        (fun r => (r.2.subscribed, r.1.carryOut r.2.subscribed ∅)) = some (∅, {"general"}) := by
  constructor
  · rintro ⟨s, change, s', hcalls, happly, hclient, -⟩
    obtain rfl := some.inj hcalls
    obtain ⟨rfl, rfl⟩ := Prod.mk.inj (some.inj happly)
    exact absurd hclient (by decide)
  · decide

end DawnChat
