/-
DawnChat/Unreads/Acknowledge.lean

Counting the mentions that an acknowledgement removes (`handle_ack_event` in
`core/database/src/tasks/ack.rs`).

The worker reads the unread, acknowledges the message, which returns the unread as it is
then, and subtracts the two numbers of mentions.  Between the two steps other workers can
add mentions.  Those that are not newer than the acknowledged message are removed again;
the others are counted only after.  So the difference is negative exactly if more newer
mentions come in than old ones are removed (`mentionsAcked_iff`).  It is a difference of two
`usize`: it wraps, or in a build with overflow checks ends the worker.
-/
import DawnChat.Unreads.Store

namespace DawnChat

open RustStd Fallible Handler Run Interleave MongoDb List Option UnreadDriver

variable {σ : Type}

/-! ### The steps of the handler -/

/-- How far `handle_ack_event` has come with an acknowledgement. -/
inductive AckPhase where
  | fetch
  | acknowledge (before : Option ChannelUnread)
  | done (before after : Option ChannelUnread)
  | failed
  deriving DecidableEq

namespace AckPhase

/-- The next step on the database. -/
def next (D : UnreadDriver σ) (channel user id : String) : AckPhase → Request σ AckPhase
  | .fetch => do
      let before ← read (D.fetchUnread user channel)
      return .acknowledge before
  | .acknowledge before => do
      let after ← D.acknowledgeMessage channel user id
      return .done before after
  | phase => return phase

def advance (D : UnreadDriver σ) (channel user id : String) : AckPhase × σ → AckPhase × σ :=
  Interleave.advance (next D channel user id) fun _ => .failed

/-- What is published once both unreads are there. -/
def published (channel user id : String) : AckPhase → List AmqpEvent
  | .done (some before) (some after) =>
    -- the difference of two `usize` wraps
    if ((before.mentions.getD []).length + 2 ^ 64 - (after.mentions.getD []).length) % 2 ^ 64
        > 0 then
      [.ackMessage user channel id]
    else []
  | _ => []

variable {D : UnreadDriver σ} {channel user id : String} {s s' : σ}
  {before before' after : Option ChannelUnread}

/-- The first step reads what is stored. -/
theorem advance_fetch :
    advance D channel user id (.fetch, s) = (.acknowledge before, s') ↔
      D.fetchUnread user channel s = .ok before ∧ s = s' := by
  rcases hread : D.fetchUnread user channel s with e | found
  · have hnext : advance D channel user id (.fetch, s) = (.failed, s) :=
      advance_of_error (exec_bind_of_error (exec_read_error hread) _)
    simp [hnext]
  · have hnext : advance D channel user id (.fetch, s) = (.acknowledge found, s) :=
      advance_of_ok (exec_bind_of_ok (exec_read_ok.mpr ⟨hread, rfl⟩) _)
    simp [hnext]

/-- The second step acknowledges. -/
theorem advance_acknowledge :
    advance D channel user id (.acknowledge before, s) = (.done before' after, s') ↔
      before = before' ∧ (D.acknowledgeMessage channel user id).exec s = (.ok after, s') := by
  rcases hwrite : (D.acknowledgeMessage channel user id).exec s with ⟨e | updated, s₁⟩
  · have hnext : advance D channel user id (.acknowledge before, s) = (.failed, s₁) :=
      advance_of_error (exec_bind_of_error hwrite _)
    simp [hnext]
  · have hnext : advance D channel user id (.acknowledge before, s) = (.done before updated, s₁) :=
      advance_of_ok (exec_bind_of_ok hwrite _)
    simp [hnext, and_assoc]

/-- A step that does not succeed ends the call. -/
theorem advance_fetch_cases (D : UnreadDriver σ) (channel user id : String) (s : σ) :
    (advance D channel user id (.fetch, s)).1 = .failed ∨
      ∃ before, advance D channel user id (.fetch, s) = (.acknowledge before, s) := by
  rcases hread : D.fetchUnread user channel s with e | before
  · left
    rw [advance, advance_of_error (exec_bind_of_error (exec_read_error hread) _)]
  · exact .inr ⟨before, advance_fetch.mpr ⟨hread, rfl⟩⟩

theorem advance_acknowledge_cases (D : UnreadDriver σ) (channel user id : String)
    (before : Option ChannelUnread) (s : σ) :
    (advance D channel user id (.acknowledge before, s)).1 = .failed ∨
      ∃ after s', advance D channel user id (.acknowledge before, s)
        = (.done before after, s') := by
  rcases hwrite : (D.acknowledgeMessage channel user id).exec s with ⟨e | after, s'⟩
  · left
    rw [advance, advance_of_error (exec_bind_of_error hwrite _)]
  · exact .inr ⟨after, s', advance_acknowledge.mpr ⟨rfl, hwrite⟩⟩

/-- What a call has come to: the events it published, or that it failed. -/
def outcome (channel user id : String) : AckPhase → Option (List AmqpEvent)
  | .failed => none
  | phase => some (published channel user id phase)

/-- **The steps are those of the handler.**  If nothing comes in between, the two steps fail
exactly if `handle_ack_event` does, leave the same store and publish the same events. -/
theorem handleAckEvent_ackMessage (E : MessageDriver σ) (D : UnreadDriver σ)
    (channel user id : String) (s : σ) :
    let result := (handleAckEvent { D, E with } (.ackMessage id) (some user) channel).exec s
    let last := (advance D channel user id)^[2] (.fetch, s)
    result.1.toOption = outcome channel user id last.1 ∧ result.2 = last.2 := by
  intro result last
  change (exec (ofExcept (D.fetchUnread user channel s) >>= _) s).1.toOption = _ ∧
    (exec (ofExcept (D.fetchUnread user channel s) >>= _) s).2 = _
  rw [show last = advance D channel user id (advance D channel user id (.fetch, s)) from rfl]
  rcases hread : D.fetchUnread user channel s with e | before
  · -- the call has failed and the second step does nothing
    have hfailed : advance D channel user id (.fetch, s) = (.failed, s) :=
      advance_of_error (exec_bind_of_error (exec_read_error hread) _)
    rw [hfailed]
    exact ⟨rfl, rfl⟩
  rw [advance_fetch.mpr ⟨hread, rfl⟩,
    exec_bind_of_ok (exec_ofExcept_ok.mpr ⟨rfl, rfl⟩ : exec (.ofExcept _) s = (.ok before, s))]
  rcases hwrite : (D.acknowledgeMessage channel user id).exec s with ⟨e | after, s'⟩
  · rw [advance, advance_of_error (exec_bind_of_error hwrite _), exec_bind_of_error hwrite]
    exact ⟨rfl, rfl⟩
  · rw [advance_acknowledge.mpr ⟨rfl, hwrite⟩, exec_bind_of_ok hwrite]
    rcases before with - | before
    · exact ⟨rfl, rfl⟩
    rcases after with - | after
    · exact ⟨rfl, rfl⟩
    dsimp only [outcome, published]
    split <;> exact ⟨rfl, rfl⟩

end AckPhase

/-! ### Mentions that come in between -/

/-- The handler takes its next step, or somebody adds mentions. -/
inductive AckInput where
  | handle
  | add (messageIds : List String)
  deriving DecidableEq, Repr

/-- How far the handler has come, and the store. -/
structure AckRace (σ : Type) where
  phase : AckPhase := .fetch
  store : σ

namespace AckRace

/-- One step of the handler, or one call of `add_mention_to_unread`. -/
def step (D : UnreadDriver σ) (channel user id : String) (race : AckRace σ) :
    AckInput → Option (AckRace σ)
  | .handle =>
    let next := AckPhase.advance D channel user id (race.phase, race.store)
    some ⟨next.1, next.2⟩
  | .add messageIds =>
    some { race with store := D.exec race.store (.addMentionToUnread channel user messageIds) }

end AckRace

namespace AckInput

/-- The mentions that are added before the next step of the handler. -/
def addedFirst : List AckInput → List String
  | .add messageIds :: inputs => messageIds ++ addedFirst inputs
  | _ => []

/-- The mentions that are added between the two steps of the handler. -/
def addedBetween : List AckInput → List String
  | .handle :: inputs => addedFirst inputs
  | .add _ :: inputs => addedBetween inputs
  | [] => []

end AckInput

open AckPhase

section Race

open AckInput

variable {D : UnreadDriver σ} {channel user id : String}

theorem UnreadDriver.mentions_view {s : σ} {unread : ChannelUnread}
    (h : D.fetchUnread user channel s = .ok (some unread)) :
    (D.view s ⟨channel, user⟩).mentions = unread.mentions.getD [] := by
  rw [view]
  dsimp only
  rw [h]

/-- An acknowledgement returns the unread that is then stored. -/
def UnreadDriver.ReturnsStored (D : UnreadDriver σ) : Prop :=
  ∀ {channel user id s updated s'},
    (D.acknowledgeMessage channel user id).exec s = (.ok updated, s') →
      D.fetchUnread user channel s' = .ok updated

theorem MongoDb.returnsStored (rule : UpsertRule) : (unreadDriver rule).ReturnsStored := by
  intro channel user id s updated s' h
  obtain ⟨_, s₁, -, hread⟩ := exec_bind_ok.mp h
  obtain ⟨hstored, rfl⟩ := exec_read_ok.mp hread
  exact hstored

namespace AckRace

variable {race race' : AckRace σ} {inputs : List AckInput}

/-- What is over stays as it is. -/
theorem phase_of_run
    (hover : race.phase = .failed ∨ ∃ before after, race.phase = .done before after)
    (hrun : run (step D channel user id) race inputs = some race') :
    race'.phase = race.phase := by
  refine run_keeps (P := fun r => r.phase = race.phase) (fun r i r' hr hstep => ?_) hrun rfl
  cases i with
  | add messageIds =>
    obtain rfl := some.inj hstep
    exact hr
  | handle =>
    obtain rfl := some.inj hstep
    show (advance D channel user id (r.phase, r.store)).1 = race.phase
    rw [hr]
    obtain hfailed | ⟨before, after, hdone⟩ := hover
    · rw [hfailed]
      rfl
    · rw [hdone]
      rfl

variable {before after : ChannelUnread} (hreturns : D.ReturnsStored)
  (hadd : ∀ s messageIds, D.Exact s (.addMentionToUnread channel user messageIds))
  (hacknowledge : ∀ s, D.Exact s (.acknowledgeMessage channel user id))

include hreturns hadd hacknowledge

/-- From the second step on: what is left is what is newer, of the mentions that are stored
and of those that come in first. -/
theorem mentions_of_acknowledge {found : Option ChannelUnread}
    (hphase : race.phase = .acknowledge found)
    (hrun : run (step D channel user id) race inputs = some race')
    (hdone : race'.phase = .done (some before) (some after)) :
    found = some before ∧ after.mentions.getD []
      = ((D.view race.store ⟨channel, user⟩).mentions ++ addedFirst inputs).filter (id < ·) := by
  induction inputs generalizing race with
  | nil =>
    obtain rfl := some.inj hrun
    rw [hphase] at hdone
    cases hdone
  | cons i inputs ih =>
    obtain ⟨race₁, hstep, hrun₁⟩ := bind_eq_some_iff.mp hrun
    cases i with
    | add messageIds =>
      have hphase₁ : race₁.phase = .acknowledge found := by
        rw [← some.inj hstep]
        exact hphase
      have hstore₁ : race₁.store
          = D.exec race.store (.addMentionToUnread channel user messageIds) := by
        rw [← some.inj hstep]
      obtain ⟨hfound, hmentions⟩ := ih hphase₁ hrun₁
      have hview := hadd race.store messageIds ⟨channel, user⟩
      rw [Unread.replay, if_pos rfl] at hview
      rw [hstore₁, hview, Unread.add, append_assoc] at hmentions
      exact ⟨hfound, hmentions⟩
    | handle =>
      obtain rfl := some.inj hstep
      rcases advance_acknowledge_cases D channel user id found race.store with
        hnext | ⟨updated, s', hnext⟩
      · -- a failed call does not get done
        rw [← hphase] at hnext
        rw [phase_of_run (.inl hnext) hrun₁, hnext] at hdone
        cases hdone
      · have hdone' := hnext
        rw [← hphase] at hnext
        rw [phase_of_run (.inr ⟨found, updated, by rw [hnext]⟩) hrun₁, hnext] at hdone
        cases hdone
        obtain ⟨-, hexec⟩ := advance_acknowledge.mp hdone'
        have hview := hacknowledge race.store ⟨channel, user⟩
        rw [Unread.replay, if_pos rfl, UnreadDriver.exec, hexec] at hview
        refine ⟨rfl, ?_⟩
        rw [← mentions_view (hreturns hexec), hview, Unread.acknowledge, addedFirst, append_nil]
        simp

/-- From the first step on: what is read before is what is stored then. -/
theorem mentions_of_fetch (hphase : race.phase = .fetch)
    (hrun : run (step D channel user id) race inputs = some race')
    (hdone : race'.phase = .done (some before) (some after)) :
    after.mentions.getD []
      = (before.mentions.getD [] ++ addedBetween inputs).filter (id < ·) := by
  induction inputs generalizing race with
  | nil =>
    obtain rfl := some.inj hrun
    rw [hphase] at hdone
    cases hdone
  | cons i inputs ih =>
    obtain ⟨race₁, hstep, hrun₁⟩ := bind_eq_some_iff.mp hrun
    cases i with
    | add messageIds =>
      have hphase₁ : race₁.phase = .fetch := by
        rw [← some.inj hstep]
        exact hphase
      exact ih hphase₁ hrun₁
    | handle =>
      have hrace₁ : (race₁.phase, race₁.store)
          = advance D channel user id (.fetch, race.store) := by
        rw [← some.inj hstep, ← hphase]
      rcases advance_fetch_cases D channel user id race.store with
        hfailed | ⟨found, hnext⟩
      · have hover : race₁.phase = .failed := (congrArg Prod.fst hrace₁).trans hfailed
        rw [phase_of_run (.inl hover) hrun₁, hover] at hdone
        cases hdone
      · rw [hnext, Prod.mk.injEq] at hrace₁
        obtain ⟨rfl, hmentions⟩ :=
          mentions_of_acknowledge hreturns hadd hacknowledge hrace₁.1 hrun₁ hdone
        obtain ⟨hread, -⟩ := advance_fetch.mp hnext
        rw [hrace₁.2, mentions_view hread] at hmentions
        exact hmentions

end AckRace

/-- Of two lists, the second one longer by what is kept of a third. -/
theorem length_filter_append_le_iff (id : String) (before added : List String) :
    ((before ++ added).filter (id < ·)).length ≤ before.length ↔
      (added.filter (id < ·)).length ≤ (before.filter (· ≤ id)).length := by
  have hsplit := length_eq_length_filter_add (l := before) (id < ·)
  have hold : (fun x : String => !decide (id < x)) = fun x => decide (x ≤ id) := by
    funext x
    rw [← decide_not]
    exact decide_eq_decide.mpr not_lt
  rw [hold] at hsplit
  rw [filter_append, length_append]
  omega

end Race

/-- **The difference is not negative** exactly if the mentions that come in between the two
reads and are newer than the acknowledged message are no more than the mentions that are
read before and acknowledged. -/
theorem mentionsAcked_iff (rule : UpsertRule) (channel user id : String)
    (unreads : UnreadCollection) (inputs : List AckInput) {race : AckRace UnreadCollection}
    (hrun : run (AckRace.step (MongoDb.unreadDriver rule) channel user id) { store := unreads }
      inputs = some race)
    {before after : ChannelUnread} (hdone : race.phase = .done (some before) (some after)) :
    (after.mentions.getD []).length ≤ (before.mentions.getD []).length ↔
      ((AckInput.addedBetween inputs).filter (id < ·)).length
        ≤ ((before.mentions.getD []).filter (· ≤ id)).length := by
  rw [AckRace.mentions_of_fetch (returnsStored rule)
    (fun _ messageIds => view_addMentionToUnread channel user messageIds)
    (fun _ => view_acknowledgeMessage channel user id) rfl hrun hdone]
  exact length_filter_append_le_iff id _ _

/-- A user with one mention. -/
def oneMention : UnreadCollection :=
  (∅ : UnreadCollection).insert { id := ⟨"c", some "u"⟩, mentions := some ["1"] }

/-- A mention that comes in between takes the place of the one that is acknowledged. -/
theorem mentionsAcked_iff_oneEach :
    ∃ race before after, run (AckRace.step (MongoDb.unreadDriver .single) "c" "u" "1")
        { store := oneMention } [.handle, .add ["2"], .handle] = some race ∧
      race.phase = .done (some before) (some after) ∧
      (after.mentions.getD []).length ≤ (before.mentions.getD []).length := by
  obtain ⟨race, hrun, hdone⟩ : ∃ race, run (AckRace.step (unreadDriver .single) "c" "u" "1")
      { store := oneMention } [.handle, .add ["2"], .handle] = some race ∧
        race.phase = .done (some ⟨⟨"c", "u"⟩, none, some ["1"]⟩)
          (some ⟨⟨"c", "u"⟩, some "1", some ["2"]⟩) := exists_run_decide (by decide +kernel)
  refine ⟨race, _, _, hrun, hdone, ?_⟩
  exact (mentionsAcked_iff .single "c" "u" "1" oneMention _ hrun hdone).mpr (by decide)

/-- **The difference can be negative.**  Two newer mentions come in between the two reads,
and only one is acknowledged. -/
theorem mentionsAcked_negative :
    ∃ race before after, run (AckRace.step (MongoDb.unreadDriver .single) "c" "u" "1")
        { store := oneMention } [.handle, .add ["2", "3"], .handle] = some race ∧
      race.phase = .done (some before) (some after) ∧
      (before.mentions.getD []).length < (after.mentions.getD []).length := by
  obtain ⟨race, hrun, hdone⟩ : ∃ race, run (AckRace.step (unreadDriver .single) "c" "u" "1")
      { store := oneMention } [.handle, .add ["2", "3"], .handle] = some race ∧
        race.phase = .done (some ⟨⟨"c", "u"⟩, none, some ["1"]⟩)
          (some ⟨⟨"c", "u"⟩, some "1", some ["2", "3"]⟩) := exists_run_decide (by decide +kernel)
  exact ⟨race, _, _, hrun, hdone, by decide⟩

end DawnChat
