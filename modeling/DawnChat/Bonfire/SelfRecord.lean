/-
DawnChat/Bonfire/SelfRecord.lean

The session's own record.

Every permission check of a session takes its user from the cache, from the
record under the session's own id.  So that record should stay the one of the
session's user (`SelfRecord`), whatever events come in.

It does not.  When a relationship changes, the event on the user's private
topic carries the user's id and the *other* user, and the handler stores the
latter under the former.  From then on the session acts as the other user.
`selfRecord_iff_no_relationship_change` shows that this is the only event that
breaks the invariant, and that it always does.
-/
import DawnChat.Bonfire.Listener

namespace DawnChat

open RustStd Fallible Run Listener List Option

namespace Listener

/-- The record under the session's id is the record of the session's user. -/
def SelfRecord (l : Listener) : Prop :=
  l.state.cloneUser.map (·.id) = some l.state.cache.userId

instance : DecidablePred SelfRecord :=
  fun l => inferInstanceAs (Decidable (l.state.cloneUser.map (·.id) = _))

theorem SelfRecord.hasSelf {l : Listener} (h : l.SelfRecord) : l.HasSelf := by
  obtain ⟨user, huser, -⟩ := map_eq_some_iff.mp h
  exact ⟨user, huser⟩

end Listener

/-- The round brings news of a changed relationship. -/
def Round.ChangesRelationship (r : Round) : Prop :=
  ∃ id other, r.event = some (.userRelationship id other)

/-- Where such news come from: they are published for the user. -/
def Round.RelationshipPublished (r : Round) (userId : String) : Prop :=
  ∀ id other, r.event = some (.userRelationship id other) →
    PublishedTo userId (.userRelationship id other)

theorem Round.usersAfter_eq_self {r : Round} (h : ¬ r.ChangesRelationship)
    (users : HashMap String User) : r.usersAfter users = users := by
  rw [usersAfter]
  rcases hevent : r.event with - | event
  · rfl
  · cases event with
    | userRelationship id other => exact absurd ⟨id, other, hevent⟩ h
    | _ => rfl

namespace Listener

/-- A round keeps the session's own record exactly when it brings no news of a
changed relationship. -/
theorem selfRecord_step_iff {l l' : Listener} {r : Round} (hself : l.SelfRecord)
    (hpub : r.RelationshipPublished l.state.cache.userId) (h : l.step r = some l') :
    l'.SelfRecord ↔ ¬ r.ChangesRelationship := by
  have hframe := step_ok hself.hasSelf h
  rw [SelfRecord, State.cloneUser, hframe.userId, hframe.users]
  by_cases hrel : r.ChangesRelationship
  · obtain ⟨id, other, hevent⟩ := hrel
    obtain ⟨other', heq, hne⟩ := publishedTo_carries_other (hpub id other hevent)
    cases heq
    have hlookup : (r.usersAfter l.state.cache.users).lookup l.state.cache.userId
        = some other.toUser := by
      rw [Round.usersAfter, hevent]
      exact AList.lookup_insert _
    rw [hlookup]
    constructor
    · intro hid
      exact absurd (some.inj hid) hne
    · intro hno
      exact absurd ⟨_, _, hevent⟩ hno
  · rw [Round.usersAfter_eq_self hrel]
    exact ⟨fun _ => hrel, fun _ => hself⟩

/-- Over a whole run. -/
theorem always_selfRecord_iff {l : Listener} {rounds : List Round} (hself : l.SelfRecord)
    (hreset : l.state.state ≠ .reset ∨ ∀ r ∈ rounds.head?, NoneExpired r)
    (hpub : ∀ r ∈ rounds, r.RelationshipPublished l.state.cache.userId) :
    Always step SelfRecord l rounds ↔ ∀ r ∈ rounds, ¬ r.ChangesRelationship := by
  induction rounds generalizing l with
  | nil =>
    rw [always_nil]
    exact ⟨fun _ => nofun, fun _ => hself⟩
  | cons r rounds ih =>
    obtain ⟨l', hstep⟩ := exists_step hself.hasSelf (hreset.imp_right fun h => h r rfl)
    have hframe := step_ok hself.hasSelf hstep
    have hiff := selfRecord_step_iff hself (hpub r mem_cons_self) hstep
    have hpub' : ∀ r' ∈ rounds, r'.RelationshipPublished l'.state.cache.userId := by
      intro r' hr'
      rw [hframe.userId]
      exact hpub r' (mem_cons_of_mem r hr')
    rw [always_cons]
    constructor
    · rintro ⟨-, htail⟩ r' hr'
      have hl' := htail l' hstep
      rcases mem_cons.mp hr' with rfl | hr'
      · exact hiff.mp hl'.start
      · exact (ih hl'.start (.inl hframe.state) hpub').mp hl' r' hr'
    · intro hno
      refine ⟨hself, fun l'' hstep' => ?_⟩
      obtain rfl := some.inj (hstep.symm.trans hstep')
      have hl' := hiff.mpr (hno r mem_cons_self)
      exact (ih hl' (.inl hframe.state) hpub').mpr
        fun r' hr' => hno r' (mem_cons_of_mem r hr')

end Listener

/-! ### Sessions -/

/-- Alice accepts Bob's friend request. -/
def friendRound : Round where
  db := callDb.database
  clock := Stream'.const 0
  entries := []
  event := some (.userRelationship "alice" { id := "bob", relationship := .friend })

theorem friendRound_published : friendRound.RelationshipPublished "alice" := by
  intro id other hevent
  cases hevent
  refine ⟨ReferenceDb, ReferenceDb.driver, fun _ => false, Stream'.const 0, { id := "alice" },
    { id := "bob" }, .friend, .friend, callDb, _, _, by decide, rfl, ?_⟩
  exact mem_cons_of_mem _ mem_cons_self

section Session

variable {db : Database} {redis : Redis} {order : IterOrder} {clock : Stream' Timestamp}
  {fields : ReadyPayloadFields} {user : User} {sessionId : String} {ready : ReadyPayload}
  {s₀ : State}

/-- The payload leaves the session's user in place. -/
theorem cloneUser_generateReadyPayload
    (h : Handler.exec (State.generateReadyPayload db redis order clock fields)
      (State.from user sessionId) = (.ok ready, s₀)) :
    s₀.cache.userId = user.id ∧ s₀.cloneUser = some user := by
  obtain ⟨d, s₁, hgather, hid, husers, -⟩ := State.cache_generateReadyPayload h
  obtain ⟨huser, hid₁, -⟩ := State.gatherReady_ok hgather
  obtain rfl : user = d.user := some.inj ((AList.lookup_insert _).symm.trans huser)
  exact ⟨hid.trans hid₁, husers⟩

/-- **The session's own record is kept exactly as long as no relationship
changes.**  The session starts with the Ready payload and runs any number of
rounds; news of a changed relationship are those published to its private
topic. -/
theorem selfRecord_iff_no_relationship_change
    (hready : Handler.exec (State.generateReadyPayload db redis order clock fields)
      (State.from user sessionId) = (.ok ready, s₀))
    {rounds : List Round} (hfresh : ∀ r ∈ rounds.head?, Listener.NoneExpired r)
    (hpub : ∀ r ∈ rounds, r.RelationshipPublished user.id) :
    Always Listener.step Listener.SelfRecord (Listener.start s₀) rounds ↔
      ∀ r ∈ rounds, ¬ r.ChangesRelationship := by
  obtain ⟨hid, huser⟩ := cloneUser_generateReadyPayload hready
  have hself : (start s₀).SelfRecord := by
    show s₀.cloneUser.map (·.id) = some s₀.cache.userId
    rw [huser, hid]
    rfl
  refine always_selfRecord_iff hself (.inr hfresh) ?_
  rw [show (start s₀).state.cache.userId = user.id from hid]
  exact hpub

end Session

/-- After Alice's session has handled the event, her own record is Bob's. -/
theorem friendRound_replaces_self :
    (∃ ready, Handler.exec (State.generateReadyPayload callDb.database callRedis .insertion
      (Stream'.const 0) {}) (State.from { id := "alice" } "session") = (.ok ready, callState)) ∧
    friendRound.RelationshipPublished "alice" ∧
      ¬ Always Listener.step Listener.SelfRecord (Listener.start callState) [friendRound] := by
  refine ⟨exec_callState, friendRound_published, ?_⟩
  decide +kernel

theorem selfRecord_iff_no_relationship_change_alice :
    Always Listener.step Listener.SelfRecord (Listener.start callState) [friendRound] ↔
      ∀ r ∈ [friendRound], ¬ r.ChangesRelationship := by
  obtain ⟨ready, hready⟩ := exec_callState
  refine selfRecord_iff_no_relationship_change hready ?_ ?_
  · rintro r hr server
    obtain rfl := some.inj hr
    exact not_mem_nil
  · intro r hr
    rw [mem_singleton.mp hr]
    exact friendRound_published

end DawnChat
