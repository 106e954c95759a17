/-
DawnChat/Bonfire/Listener.lean

A session as a whole (`bonfire/src/websocket.rs`, `client` and `listener`).

A session starts with `State::from`, builds the Ready payload, and then runs
rounds of the listener: flush the subscription log to the pub/sub client, wait
for a message, handle it.  A round may also be woken up without a message.  The
database, the clock and the report of the cache of active servers are inputs of
each round, so statements about runs hold however they change.

`step_effect` says what a round does to the cache and the topics, `step_ok`
what that means for the cached users and memberships, and `exists_step` that a
round returns.  Invariants of whole runs are derived from these and never look
at the handler again.
-/
import DawnChat.Bonfire.Ready

namespace DawnChat

open RustStd Fallible Run SetLog Subscriptions Option

/-- A session's state and the topics its pub/sub client listens to. -/
structure Listener where
  state : State
  client : Finset String

/-- What a round of the listener meets. -/
structure Round where
  db : Database
  clock : Stream' Timestamp
  /-- The report of the cache of active servers. -/
  entries : List TimedEntry
  /-- The message, unless the round was only woken up. -/
  event : Option EventV1

/-- Flush the log and carry the change out on the client. -/
def Listener.flush (l : Listener) (entries : List TimedEntry) : Option Listener := do
  let flushed ← l.state.applyState entries
  some ⟨flushed.2, flushed.1.carryOut flushed.2.subscribed l.client⟩

/-- Handle the message of a round, if there is one. -/
def Listener.receive (l : Listener) (r : Round) : Option Listener :=
  match r.event with
  | none => some l
  | some event =>
    match Handler.exec (State.handleIncomingEventV1 r.db r.clock event) l.state with
    | (.ok _, s) => some { l with state := s }
    | (.error _, _) => none

/-- One round of the listener; `none` is a panic. -/
def Listener.step (l : Listener) (r : Round) : Option Listener := do
  let l ← l.flush r.entries
  l.receive r

/-- A session that has sent its Ready payload; the client has no topics yet. -/
def Listener.start (s : State) : Listener := ⟨s, ∅⟩

/-! ### What a round does to the cache -/

namespace Round

/-- The cached users after the round. -/
def usersAfter (r : Round) (users : HashMap String User) : HashMap String User :=
  r.event.elim users (State.usersAfter users)

/-- The cached memberships after the round. -/
def membersAfter (r : Round) (userId : String) (members : HashMap String Member) :
    HashMap String Member :=
  r.event.elim members (State.membersAfter userId r.clock.head members)

/-- What the round does to a session with the cache `c`; the value is the event
that is sent to the client. -/
def effect (r : Round) (c : Cache) : Effect (Option EventV1) :=
  match r.event with
  | none => { value := none, cache := c }
  | some event =>
    let e := c.effect r.db r.clock.head event
    { e with value := if e.value.1 then some e.value.2 else none }

end Round

open Round

namespace Listener

/-- The cache has a record for the session's user. -/
def HasSelf (l : Listener) : Prop := ∃ user, l.state.cloneUser = some user

variable {l l' : Listener} {entries : List TimedEntry} {r : Round}

/-- What a flush does. -/
theorem flush_eq_some (h : l.flush entries = some l') :
    ∃ s, run Subscriptions.call l.state.toSubscriptions
        (activeServerChanges l.state.cache.isBot entries) = some s ∧
      l'.state = { l.state with toSubscriptions := s.flush.2 } := by
  simp only [flush, State.applyState, applyState, bind_eq_bind,
    bind_eq_some_iff, map_eq_some_iff] at h
  obtain ⟨_, ⟨_, ⟨s, hrun, rfl⟩, hstate⟩, hl'⟩ := h
  obtain rfl := some.inj hstate
  obtain rfl := some.inj hl'
  exact ⟨s, hrun, rfl⟩

/-- Flushing leaves the cache alone and ends a reset. -/
theorem flush_ok (h : l.flush entries = some l') :
    l'.state.cache = l.state.cache ∧ l'.state.state = .none := by
  obtain ⟨s, -, hstate⟩ := flush_eq_some h
  rw [hstate]
  exact ⟨rfl, rfl⟩

/-- Receiving a message returns outside a reset, and has its effect. -/
theorem receive_effect (r : Round) (hself : l.HasSelf) (hstate : l.state.state ≠ .reset) :
    ∃ subs, run Subscriptions.call l.state.toSubscriptions (r.effect l.state.cache).calls
        = some subs ∧
      subs.subscribed = replay l.state.subscribed (r.effect l.state.cache).calls ∧
      subs.state ≠ .reset ∧
      l.receive r = some { l with
        state := { l.state with
          toSubscriptions := subs, cache := (r.effect l.state.cache).cache } } := by
  obtain ⟨subs, hrun, hsub, hne⟩ := exists_run_call hstate
    (r.effect l.state.cache).calls
  refine ⟨subs, hrun, hsub, hne, ?_⟩
  rcases hevent : r.event with - | event
  · rw [effect, hevent] at hrun
    obtain rfl := some.inj hrun
    rw [receive, effect, hevent]
  · obtain ⟨user, huser⟩ := hself
    rw [effect, hevent] at hrun
    have hexec := State.does_handleIncomingEventV1 huser r.db r.clock event l.state subs rfl hrun
    rw [receive, effect, hevent]
    simp only [hexec]

section HasSelf

variable (hself : l.HasSelf)

include hself

theorem hasSelf_flush (h : l.flush entries = some l') : l'.HasSelf := by
  rw [HasSelf, State.cloneUser, (flush_ok h).1]
  exact hself

/-- **A round**, in a session that has its user: it flushes, and then has the
effect of its event on the cache and the topics. -/
theorem step_effect (h : l.step r = some l') :
    ∃ l₁, l.flush r.entries = some l₁ ∧
      run Subscriptions.call ⟨.none, l₁.state.subscribed⟩ (r.effect l.state.cache).calls
        = some l'.state.toSubscriptions ∧
      l'.state.subscribed = replay l₁.state.subscribed (r.effect l.state.cache).calls ∧
      l'.state.state ≠ .reset ∧
      l'.state.cache = (r.effect l.state.cache).cache := by
  obtain ⟨l₁, hflush, hreceive⟩ := bind_eq_some_iff.mp h
  obtain ⟨hcache, hstate⟩ := flush_ok hflush
  obtain ⟨subs, hrun, hsub, hne, hreceive'⟩ :=
    receive_effect r (hasSelf_flush hself hflush) (by rw [hstate]; exact nofun)
  obtain rfl := some.inj (hreceive'.symm.trans hreceive)
  rw [hcache] at hrun hsub
  refine ⟨l₁, hflush, ?_, hsub, hne, by rw [hcache]⟩
  rw [← hrun, ← hstate]

/-- A round that flushes returns, in a session that has its user. -/
theorem exists_step_of_flush {l₁ : Listener} (hflush : l.flush r.entries = some l₁) :
    ∃ l', l.step r = some l' := by
  obtain ⟨_, _, _, _, hreceive⟩ := receive_effect r (hasSelf_flush hself hflush)
    (by rw [(flush_ok hflush).2]; exact nofun)
  rw [step, hflush]
  exact ⟨_, hreceive⟩

/-- What holds of the cache and the topics after a round is what its effect makes
of the flushed session. -/
theorem forall_step_iff (P : Cache → Finset String → Prop) :
    (∀ l', l.step r = some l' → P l'.state.cache l'.state.subscribed) ↔
      ∀ l₁, l.flush r.entries = some l₁ →
        P (r.effect l.state.cache).cache
          (replay l₁.state.subscribed (r.effect l.state.cache).calls) := by
  constructor
  · intro h l₁ hflush
    obtain ⟨l', hstep⟩ := exists_step_of_flush hself hflush
    obtain ⟨l₂, hflush₂, -, hsub, -, hcache⟩ := step_effect hself hstep
    obtain rfl := some.inj (hflush.symm.trans hflush₂)
    rw [← hcache, ← hsub]
    exact h l' hstep
  · intro h l' hstep
    obtain ⟨l₁, hflush, -, hsub, -, hcache⟩ := step_effect hself hstep
    rw [hcache, hsub]
    exact h l₁ hflush

/-- What a round does to users and memberships. -/
theorem step_ok (h : l.step r = some l') :
    State.Frame l.state.cache.userId (r.usersAfter l.state.cache.users)
      (r.membersAfter l.state.cache.userId l.state.cache.members) l'.state := by
  obtain ⟨-, -, -, -, hstate, hcache⟩ := step_effect hself h
  rw [effect] at hcache
  rw [usersAfter, membersAfter]
  rcases hevent : r.event with - | event
  · rw [hevent] at hcache
    exact ⟨hstate, by rw [hcache], by rw [hcache]; rfl, by rw [hcache]; rfl⟩
  · rw [hevent] at hcache
    obtain ⟨channels, heffect⟩ := l.state.cache.effect_frame r.db r.clock.head event
    obtain ⟨hid, -, husers, hmembers⟩ := l.state.cache.matched_frame r.db r.clock.head event
    replace hcache := hcache.trans heffect
    exact ⟨hstate, by rw [hcache]; exact hid, by rw [hcache]; exact husers,
      by rw [hcache]; exact hmembers⟩

/-- The session's user stays in the cache. -/
theorem hasSelf_step (h : l.step r = some l') : l'.HasSelf := by
  have hframe := step_ok hself h
  rw [HasSelf, State.cloneUser, hframe.userId, hframe.users, usersAfter]
  rcases r.event with - | event
  · exact hself
  · exact State.exists_self_usersAfter hself event

/-- The session's user stays in the cache along a run. -/
theorem hasSelf_run {rounds : List Round} (h : run step l rounds = some l') :
    l'.HasSelf :=
  always_of_step (fun _ _ _ hself h => hasSelf_step hself h) hself rounds rounds l'
    List.prefix_rfl h

end HasSelf

/-! ### Runs do not panic -/

/-- Expired entries could only hurt during a reset, and a session starts with
an empty cache of active servers. -/
def NoneExpired (r : Round) : Prop := ∀ server, TimedEntry.expired server ∉ r.entries

theorem exists_flush (h : l.state.state ≠ .reset ∨ NoneExpired r) :
    ∃ l', l.flush r.entries = some l' := by
  obtain ⟨s', hs'⟩ : ∃ s', run call l.state.toSubscriptions
      (activeServerChanges l.state.cache.isBot r.entries) = some s' := by
    rcases h with h | h
    · obtain ⟨s', hs', -⟩ := exists_run_call h _
      exact ⟨s', hs'⟩
    · refine exists_run_call_insert fun t ht => ?_
      obtain ⟨-, server, hentry, -⟩ := remove_mem_activeServerChanges.mp ht
      exact h server hentry
  rw [flush, State.applyState, applyState, hs']
  exact ⟨_, rfl⟩

/-- **A round returns**, in a session that has its user. -/
theorem exists_step (hself : l.HasSelf) (h : l.state.state ≠ .reset ∨ NoneExpired r) :
    ∃ l', l.step r = some l' := by
  obtain ⟨l₁, hflush⟩ := exists_flush h
  exact exists_step_of_flush hself hflush

/-! ### Topics along a run -/

/-- After a round the log lists the calls of that round. -/
theorem logged_step (hself : l.HasSelf) (h : l.step r = some l') :
    l'.state.toSubscriptions.Logged := by
  obtain ⟨l₁, -, hrun, -⟩ := step_effect hself h
  exact .inr ⟨_, _, hrun⟩

/-- Flushing adds no topics but those for member events of active servers. -/
theorem mem_of_flush {l₁ : Listener} (hlogged : l.state.toSubscriptions.Logged)
    (h : l.flush entries = some l₁) {t : String} (ht : t ∈ l₁.state.subscribed) :
    t ∈ l.state.subscribed ∨ ∃ server, .valid server ∈ entries ∧ t = memberTopic server := by
  obtain ⟨s, hrun, hstate⟩ := flush_eq_some h
  rw [hstate] at ht
  have hs := (hlogged.run hrun).mem_of_flush ht
  rw [(run_call_ok hrun).1] at hs
  rcases mem_of_mem_replay hs with hs | hs
  · exact .inl hs
  · exact .inr (insert_mem_activeServerChanges.mp hs).2

end Listener

/-! ### A session -/

/-- Everybody sees the channels of the server. -/
def callServer : Server where
  id := "server"
  owner := "owner"
  channels := ["voice"]
  defaultPermissions := ChannelPermission.viewChannel.value

def callChannel : Channel :=
  .textChannel { id := "voice", server := "server", voice := some {} }

/-- Alice and Bob are members of the server. -/
def callDb : ReferenceDb where
  users := HashMap.collect [("alice", { id := "alice" }), ("bob", { id := "bob" })]
  servers := HashMap.collect [("server", callServer)]
  serverMembers := HashMap.collect
    [(⟨"server", "alice"⟩, { id := ⟨"server", "alice"⟩ }),
      (⟨"server", "bob"⟩, { id := ⟨"server", "bob"⟩ })]
  channels := HashMap.collect [("voice", callChannel)]

/-- Bob is in a call. -/
def callRedis : Redis where
  channelVoiceState _ := .ok (some ⟨"voice", [{ id := "bob" }]⟩)
  filterOnline ids := ids

/-- Alice's session after its Ready payload. -/
def callState : State :=
  (Handler.exec (State.generateReadyPayload callDb.database callRedis .insertion
    (Stream'.const 0) {}) (State.from { id := "alice" } "session")).2

theorem exec_callState :
    ∃ ready, Handler.exec (State.generateReadyPayload callDb.database callRedis .insertion
      (Stream'.const 0) {}) (State.from { id := "alice" } "session") = (.ok ready, callState) :=
  Handler.exists_exec_ok (by decide +kernel)

/-- A text channel of the server is created. -/
def Listener.creation (db : Database) (id : String) : Round :=
  ⟨db, Stream'.const 0, [], some (.channelCreate (.textChannel { id := id, server := "server" }))⟩

/-- A server in which nobody sees anything by default, with Alice as a member. -/
def quietServer : Server := { callServer with channels := [], defaultPermissions := 0 }

def quietDb : ReferenceDb where
  users := HashMap.collect [("alice", { id := "alice" })]
  servers := HashMap.collect [("server", quietServer)]
  serverMembers := HashMap.collect [(⟨"server", "alice"⟩, { id := ⟨"server", "alice"⟩ })]

def quietState : State :=
  (Handler.exec (State.generateReadyPayload quietDb.database callRedis .insertion
    (Stream'.const 0) {}) (State.from { id := "alice" } "session")).2

end DawnChat
