/-
DawnChat/Bonfire/Updates.lean

Updates of users reach a session once for every server it shares with the user, and carry
an id by which the copies are told apart (`UserUpdate` in `bonfire/src/events/impl.rs`).

The session remembers the ids it has passed on, twenty at most.  `userUpdate_sends_iff` says
which updates it drops, after any rounds whatever.  That the cache of ids evicts the
key that was put first is an assumption on the library (`Recency.put`).
-/
import DawnChat.Bonfire.Listener
import DawnChat.Lib.Recency

namespace DawnChat

open RustStd Fallible Run SetLog Recency List Option

/-- Events other than updates of users leave the remembered ids alone. -/
theorem Cache.matched_seenEvents (c : Cache) (db : Database) (now : Timestamp) (event : EventV1) :
    (c.matched db now event).cache.seenEvents
      = match event with
        | .userUpdate _ (some x) =>
          if x ∈ c.seenEvents then c.seenEvents else put seenEventsCapacity x c.seenEvents
        | _ => c.seenEvents := by
  cases event with
  | channelUpdate id data clear =>
    obtain ⟨channels, hchannels⟩ := (c.updateChannel id data clear).fetchMissing_frame db id
    rw [matched, hchannels]
    rfl
  | serverMemberLeave id user | serverMemberUpdate id data clear => rw [matched]; split <;> rfl
  | userUpdate id eventId =>
    rcases eventId with - | x
    · rfl
    · by_cases hx : x ∈ c.seenEvents <;> simp [matched, hx, put]
  | message author user => rcases user with - | user <;> rfl
  | _ => rfl

/-- An update is dropped if its id is remembered, and passed on without its id otherwise. -/
theorem Cache.effect_userUpdate (c : Cache) (db : Database) (now : Timestamp) (id : String)
    (eventId : Option String) :
    (c.effect db now (.userUpdate id eventId)).value
      = if ∃ x ∈ eventId, x ∈ c.seenEvents then (false, .userUpdate id eventId)
        else (true, .userUpdate id none) := by
  rcases eventId with - | x
  · rfl
  · by_cases hx : x ∈ c.seenEvents <;>
      simp [effect, matched, hx, recalculatedQueued]

namespace Listener

variable {l l' l'' : Listener} {r : Round}

/-- What a round sends to the client. -/
def sends (l : Listener) (r : Round) : Option EventV1 := do
  let l ← l.flush r.entries
  let event ← r.event
  match Handler.exec (State.handleIncomingEventV1 r.db r.clock event) l.state with
  | (.ok (true, sent), _) => some sent
  | _ => none

/-- The id of a user update that a round passes on. -/
def forwards (l : Listener) (r : Round) : List String :=
  match r.event with
  | some (.userUpdate _ (some x)) => if (l.sends r).isSome then [x] else []
  | _ => []

section Step

variable (hself : l.HasSelf) (h : l.step r = some l')

include hself h

theorem sends_eq : l.sends r = (r.effect l.state.cache).value := by
  obtain ⟨l₁, hflush, -⟩ := bind_eq_some_iff.mp h
  obtain ⟨hcache, hstate⟩ := flush_ok hflush
  obtain ⟨user, huser⟩ := hself
  rw [State.cloneUser, ← hcache] at huser
  rw [sends, hflush, ← hcache, Round.effect]
  rcases r.event with - | event
  · rfl
  · obtain ⟨subs, hrun, -⟩ := Subscriptions.exists_run_call (s := l₁.state.toSubscriptions)
      (by simp [hstate]) (l₁.state.cache.effect r.db r.clock.head event).calls
    have hexec := State.does_handleIncomingEventV1 huser r.db r.clock event l₁.state subs rfl hrun
    rcases hvalue : (l₁.state.cache.effect r.db r.clock.head event).value with ⟨send, sent⟩
    rw [hvalue] at hexec
    cases send <;> simp [hexec, hvalue]

theorem sends_userUpdate {id : String} {eventId : Option String}
    (hevent : r.event = some (.userUpdate id eventId)) :
    l.sends r = if ∃ x ∈ eventId, x ∈ l.state.cache.seenEvents then none
      else some (.userUpdate id none) := by
  rw [sends_eq hself h, Round.effect, hevent]
  dsimp only
  rw [Cache.effect_userUpdate]
  split <;> rfl

/-- After a round the session remembers what it has passed on. -/
theorem seenEvents_step :
    l'.state.cache.seenEvents
      = (l.forwards r).foldl (fun seen x => put seenEventsCapacity x seen)
          l.state.cache.seenEvents := by
  obtain ⟨-, -, -, -, -, hcache⟩ := step_effect hself h
  rw [hcache, Round.effect, forwards]
  rcases hevent : r.event with - | event
  · rfl
  · obtain ⟨channels, heffect⟩ := l.state.cache.effect_frame r.db r.clock.head event
    dsimp only
    rw [heffect]
    dsimp only
    rw [Cache.matched_seenEvents]
    split
    next id x =>
      rw [sends_userUpdate hself h hevent]
      by_cases hx : x ∈ l.state.cache.seenEvents <;> simp [hx]
    next hother =>
      split
      next id x hupdate => exact absurd (some.inj hupdate) (hother id x)
      next => rfl

/-- A round passes on nothing that is remembered. -/
theorem notMem_seenEvents_of_forwards {x : String} (hx : x ∈ l.forwards r) :
    l.forwards r = [x] ∧ x ∉ l.state.cache.seenEvents := by
  rw [forwards] at hx ⊢
  split at hx
  next id y hevent =>
    rw [sends_userUpdate hself h hevent] at hx ⊢
    by_cases hy : y ∈ l.state.cache.seenEvents
    · simp [hy] at hx
    · obtain rfl : x = y := by simpa [hy] using hx
      simp [hy]
  next => cases hx

end Step

/-- **What a session remembers** are the most recent distinct ids it has passed on. -/
theorem seenEvents_run {rounds : List Round} (hself : l.HasSelf)
    (hseen : l.state.cache.seenEvents = []) (h : run step l rounds = some l') :
    l'.state.cache.seenEvents
      = (distinct (outputs step forwards l rounds).reverse).take seenEventsCapacity := by
  have hstart : l.state.cache.seenEvents = (distinct [].reverse).take seenEventsCapacity := hseen
  have hinv : l'.HasSelf ∧ l'.state.cache.seenEvents
      = (distinct ([] ++ outputs step forwards l rounds).reverse).take seenEventsCapacity := by
    refine outputs_induction (P := fun l log => l.HasSelf ∧
      l.state.cache.seenEvents = (distinct log.reverse).take seenEventsCapacity)
      (fun l r l' log hl hstep => ⟨hasSelf_step hl.1 hstep, ?_⟩) h ⟨hself, hstart⟩
    rw [seenEvents_step hl.1 hstep]
    rcases hforwards : l.forwards r with - | ⟨x, rest⟩
    · rw [append_nil]
      exact hl.2
    · obtain ⟨hsingle, hx⟩ := notMem_seenEvents_of_forwards hl.1 hstep
        (x := x) (by rw [hforwards]; exact mem_cons_self)
      rw [← hforwards, hsingle, reverse_append]
      rw [hl.2] at hx ⊢
      exact put_take_distinct hx
  exact hinv.2

/-- **De-duplication of user updates.**  After any rounds of a session, an update is dropped
exactly if its id is among the twenty most recent distinct ids that were passed on; what is
passed on has no id. -/
theorem userUpdate_sends_iff {rounds : List Round} (hself : l.HasSelf)
    (hseen : l.state.cache.seenEvents = []) (hrun : run step l rounds = some l')
    (hstep : l'.step r = some l'') {id : String} {eventId : Option String}
    (hevent : r.event = some (.userUpdate id eventId)) :
    (l'.sends r = none ↔ ∃ x ∈ eventId,
        x ∈ (distinct (outputs step forwards l rounds).reverse).take 20) ∧
      ∀ sent, l'.sends r = some sent → sent = .userUpdate id none := by
  have hself' := hasSelf_run hself hrun
  rw [sends_userUpdate hself' hstep hevent, seenEvents_run hself hseen hrun, seenEventsCapacity]
  constructor
  · constructor
    · intro hnone
      by_contra hne
      rw [if_neg hne] at hnone
      cases hnone
    · exact fun hseen => if_pos hseen
  · intro sent hsent
    split at hsent
    next => cases hsent
    next => exact (some.inj hsent).symm

/-- A copy of an update of Bob. -/
def bobUpdate : Round :=
  ⟨callDb.database, Stream'.const 0, [], some (.userUpdate "bob" (some "event"))⟩

/-- The second copy of an update is dropped. -/
theorem userUpdate_sends_iff_second : ∃ l' l'',
    run step (start (State.from { id := "alice" } "session")) [bobUpdate] = some l' ∧
      l'.step bobUpdate = some l'' ∧ l'.sends bobUpdate = none := by
  obtain ⟨l', hrun, hsome⟩ : ∃ l',
      run step (start (State.from { id := "alice" } "session")) [bobUpdate] = some l' ∧
        (l'.step bobUpdate).isSome := exists_run_decide (by decide +kernel)
  obtain ⟨l'', hstep⟩ := isSome_iff_exists.mp hsome
  refine ⟨l', l'', hrun, hstep, ?_⟩
  exact (userUpdate_sends_iff ⟨_, rfl⟩ rfl hrun hstep rfl).1.mpr
    ⟨"event", rfl, by decide +kernel⟩

end Listener

end DawnChat
