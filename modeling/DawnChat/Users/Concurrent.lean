/-
DawnChat/Users/Concurrent.lean

Two relationship requests at the same time.

A request takes four steps on the database: it reads the caller, reads the
target and decides, writes the target's record, and writes the caller's record
(`Phase`).  Each step is atomic and nothing holds the steps of a request
together, so another request can run in between.  One request alone takes the
store where the call of `Users/Friends.lean` takes it (`advance_alone`).

Here one request of each of two users on the other runs, in any interleaving.
What each request finds, and what is stored in the end, follows from the order of
their steps in the schedule (`Race.Inv`):

* one request writes both records before the other writes: what the later one
  decided on is stored, a symmetric pair, but it takes the place of a block that
  it has not seen;
* the writes cross: each party's own record keeps what that party decided on for
  itself, and the two fit together if both block or both remove.

`race_symmetric_of_inOrder` states this about every schedule.
-/
import DawnChat.Lib.Interleave
import DawnChat.Users.Friends

namespace DawnChat

open RustStd Fallible Handler Run Function RelationshipCall Option Except RelationshipStore
open Interleave (Config Before before_concat before_concat_of_le before_concat_self advance_of_ok
  advance_of_error)

variable {σ : Type}

/-! ### One request, step by step -/

/-- What a call decides on: the caller's new status, and the target's. -/
abbrev Decision := RelationshipStatus × RelationshipStatus

/-- How a request ends. -/
abbrev RequestOutcome := Except (Fault ErrorType) Decision

/-- How far a request has come. -/
inductive Phase where
  | readSelf
  | readTarget (self : User)
  | writeTarget (self target : User) (d : Decision)
  | writeSelf (self target : User) (d : Decision)
  | done (outcome : RequestOutcome)
  deriving DecidableEq

namespace Phase

/-- The next step of a call by the user `own` on the user `other`. -/
def next (D : Driver σ) (call : RelationshipCall) (own other : String) : Phase → Request σ Phase
  | .readSelf => do
      let self ← read fun s => (D.database s).fetchUser own
      pure (.readTarget self)
  | .readTarget self => do
      let target ← read fun s => (D.database s).fetchUser other
      let d ← ofExcept (call.decision self target)
      pure (.writeTarget self target d)
  | .writeTarget self target d => do
      D.setRelationship target.id self.id d.2
      pure (.writeSelf self target d)
  | .writeSelf self target d => do
      D.setRelationship self.id target.id d.1
      pure (.done (.ok d))
  | .done outcome => pure (.done outcome)

/-- Take the next step; a failure ends the request. -/
def advance (D : Driver σ) (call : RelationshipCall) (own other : String) :
    Phase × σ → Phase × σ :=
  Interleave.advance (next D call own other) fun e => .done (.error e)

/-- What the request has written to the target's record. -/
def given : Phase → Option RelationshipStatus
  | .writeSelf _ _ d | .done (.ok d) => some d.2
  | _ => none

/-- What the request has written to the caller's record. -/
def kept : Phase → Option RelationshipStatus
  | .done (.ok d) => some d.1
  | _ => none

/-- The phase of a request that has taken `n` steps. -/
def Counted (n : Nat) : Phase → Prop
  | .readSelf => n = 0
  | .readTarget _ => n = 1
  | .writeTarget _ _ _ => n = 2
  | .writeSelf _ _ _ => n = 3
  | .done (.ok _) => 4 ≤ n
  | .done (.error _) => 2 ≤ n

theorem Counted.given_eq_none {phase : Phase} {n : Nat} (h : phase.Counted n) (hn : n < 3) :
    phase.given = none := by
  match phase, h with
  | .readSelf, _ | .readTarget _, _ | .writeTarget _ _ _, _ | .done (.error _), _ => rfl
  | .writeSelf _ _ _, h | .done (.ok _), h =>
    simp only [Counted] at h
    omega

theorem Counted.kept_eq_none {phase : Phase} {n : Nat} (h : phase.Counted n) (hn : n < 4) :
    phase.kept = none := by
  match phase, h with
  | .readSelf, _ | .readTarget _, _ | .writeTarget _ _ _, _ | .writeSelf _ _ _, _
  | .done (.error _), _ => rfl
  | .done (.ok _), h =>
    simp only [Counted] at h
    omega

theorem advance_done (D : Driver σ) (call : RelationshipCall) (own other : String)
    (outcome : RequestOutcome) (s : σ) :
    advance D call own other (.done outcome, s) = (.done outcome, s) := rfl

/-- The request is done after `n` steps of its own, and the store is `s'` then. -/
def DoneIn (D : Driver σ) (r : RelationshipRequest) (n : Nat) (phase : Phase) (s s' : σ) : Prop :=
  ∃ outcome, (advance D r.call r.user r.target)^[n] (phase, s) = (.done outcome, s')

/-- The first step does what the first statement of a handler does. -/
theorem doneIn_bind {D : Driver σ} {r : RelationshipRequest} {α β : Type} {n : Nat}
    {phase : Phase} {s : σ} {y : Request σ β} (x : Request σ α) (f : α → Request σ β)
    (after : α → Phase) (hy : y = x >>= f)
    (hnext : phase.next D r.call r.user r.target = do
      let a ← x
      return after a)
    (hrest : ∀ a s₁, DoneIn D r n (after a) s₁ (exec (f a) s₁).2) :
    DoneIn D r (n + 1) phase s (exec y s).2 := by
  rw [DoneIn, iterate_succ_apply, hy]
  rcases h : exec x s with ⟨e | a, s₁⟩
  · rw [advance, advance_of_error (hnext ▸ exec_bind_of_error h _), exec_bind_of_error h]
    exact ⟨_, iterate_fixed (advance_done ..) n⟩
  · rw [advance, advance_of_ok (hnext ▸ exec_bind_of_ok h _), exec_bind_of_ok h]
    exact hrest a s₁

/-- **The steps are those of the call.**  A request that is not interrupted is
done after four steps and leaves the store that the call leaves. -/
theorem advance_alone (D : Driver σ) (r : RelationshipRequest) (s : σ) :
    ∃ outcome, (advance D r.call r.user r.target)^[4] (.readSelf, s)
      = (.done outcome, (exec (r.perform D) s).2) := by
  refine doneIn_bind _ _ _ rfl rfl fun self _ => ?_
  refine doneIn_bind (do
      let target ← read fun s => (D.database s).fetchUser r.target
      let d ← ofExcept (r.call.decision self target)
      return (target, d))
    (fun x => self.applyRelationship D r.isOnline r.clock x.1 x.2.1 x.2.2)
    (fun x => .writeTarget self x.1 x.2) ?_ ?_ fun x _ => ?_
  · simp only [run_eq, LawfulMonad.bind_assoc, LawfulMonad.pure_bind]
  · simp only [next, LawfulMonad.bind_assoc, LawfulMonad.pure_bind]
  simp only [User.applyRelationship, User.setRelationship, LawfulMonad.bind_assoc,
    LawfulMonad.pure_bind, User.withRelationship_id]
  refine doneIn_bind _ _ _ rfl rfl fun _ _ => doneIn_bind _ _ _ rfl rfl fun _ s' => ⟨.ok x.2, ?_⟩
  -- putting the events together does not touch the store
  exact congrArg (Prod.mk _) (ReadOnly.store s').symm

end Phase

/-! ### Two requests -/

/-- One of the two parties. -/
inductive Side where
  | a
  | b
  deriving DecidableEq, Repr

def Side.other : Side → Side
  | .a => .b
  | .b => .a

@[simp] theorem Side.other_other (side : Side) : side.other.other = side := by
  cases side <;> rfl

theorem Side.other_ne (side : Side) : side.other ≠ side := by
  cases side <;> decide

/-- A party is the one or the other. -/
theorem Side.eq_or_eq_other (side x : Side) : x = side ∨ x = side.other := by
  cases side <;> cases x <;> decide

/-- A symmetric pair is one from either side. -/
theorem SymmetricPair.sides_iff {status : Side → RelationshipStatus} (side : Side) :
    SymmetricPair (status side.other) (status side) ↔ SymmetricPair (status .a) (status .b) := by
  cases side
  · exact ⟨SymmetricPair.symm, SymmetricPair.symm⟩
  · rfl

/-- A request of each of two users on the other. -/
structure Race where
  user : Side → String
  call : Side → RelationshipCall

open Phase

namespace Race

/-- How far the two requests are, and the store. -/
abbrev State (σ : Type) := Config Side (fun _ => Phase) σ

/-- Both requests come in. -/
def start (s : σ) : State σ where
  phase := fun _ => .readSelf
  store := s

/-- One party takes its next step. -/
def step (D : Driver σ) (race : Race) : State σ → Side → Option (State σ) :=
  Config.step fun side => Phase.advance D (race.call side) (race.user side) (race.user side.other)

/-- **What keeps two requests apart**, in terms of the order of their steps: the
first reads the caller, the second reads the target and decides, the third
writes the target's record and the fourth the caller's. -/
structure InOrder (race : Race) (schedule : List Side) : Prop where
  /-- Unless one party has written both records before the other writes, both
  calls block or both remove a friend. -/
  writes : (∀ side, ¬ Before schedule side 4 side.other 3) →
    (∀ side, race.call side = .blockUser) ∨ ∀ side, race.call side = .removeFriend
  /-- A request that writes after a block, and does not lift one, has not read its
  caller before the block was written there. -/
  reads : ∀ side, race.call side = .blockUser → race.call side.other ≠ .unblockUser →
    Before schedule side 4 side.other 3 → Before schedule side 3 side.other 1

variable (D : RelationshipStore σ) (race : Race)

/-- The stored users: under their ids, with the given statuses. -/
def Stored (s : σ) (status : Side → RelationshipStatus) : Prop :=
  ∀ side, ∃ u, D.fetchUser s (race.user side) = .ok u ∧ u.id = race.user side ∧
    u.relationshipWith (race.user side.other) = status side

/-- What the requests must leave: a symmetric pair, and every block that was
accepted, unless the other party asked to lift a block. -/
structure Respected (outcome : Side → RequestOutcome) (s : σ) : Prop where
  symmetric : ∃ own other, D.Holds s (race.user .a) (race.user .b) own ∧
    D.Holds s (race.user .b) (race.user .a) other ∧ SymmetricPair own other
  blocked : ∀ side d, race.call side = .blockUser → outcome side = .ok d →
    race.call side.other ≠ .unblockUser →
    D.Holds s (race.user side) (race.user side.other) .blocked

/-! ### What is stored after a part of the schedule -/

section Inv

variable (initial : Side → RelationshipStatus) (p : List Side) (c : State σ)

/-- The status of a side's user that its request finds when it reads the caller. -/
def seen (side : Side) : RelationshipStatus :=
  if Before p side.other 3 side 1 then (c.phase side.other).given.getD (initial side)
  else initial side

/-- The status that is stored for a side: what was written there last. -/
def current (side : Side) : RelationshipStatus :=
  (if Before p side 4 side.other 3 then (c.phase side.other).given.or (c.phase side).kept
    else (c.phase side).kept.or (c.phase side.other).given).getD (initial side)

/-- What a request has read, and decided on. -/
structure Decided (side : Side) (caller target : User) (d : Decision) : Prop where
  caller_id : caller.id = race.user side
  own : caller.relationshipWith (race.user side.other) = seen initial p c side
  target_id : target.id = race.user side.other
  decision : (race.call side).decision caller target = .ok d

/-- What is known about a request in a phase. -/
def PhaseOk (side : Side) : Phase → Prop
  | .readSelf | .done (.error _) => True
  | .readTarget self => self.id = race.user side ∧
    self.relationshipWith (race.user side.other) = seen initial p c side
  | .writeTarget self target d | .writeSelf self target d =>
    race.Decided initial p c side self target d
  | .done (.ok d) => ∃ self target, race.Decided initial p c side self target d

/-- **What holds in every interleaving**, after the part `p` of the schedule. -/
structure Inv : Prop where
  counted : ∀ side, (c.phase side).Counted (p.count side)
  phases : ∀ side, race.PhaseOk initial p c side (c.phase side)
  stored : race.Stored D c.store (current initial p c)

end Inv

variable {D} {race} {initial : Side → RelationshipStatus} {p : List Side} {c : State σ}

theorem inv_start {s : σ} (h : race.Stored D s initial) : race.Inv D initial [] (start s) where
  counted _ := rfl
  phases _ := trivial
  stored side := by
    obtain ⟨u, hu, hid, hrel⟩ := h side
    refine ⟨u, hu, hid, hrel.trans ?_⟩
    simp [current, start, given, kept]

section Step

variable {side x : Side} {phase : Phase} {c' : State σ}

section Seen

variable (hgiven : 3 ≤ p.count x.other → (c'.phase x.other).given = (c.phase x.other).given)

include hgiven

/-- What a request saw does not change any more. -/
theorem seen_concat (hcount : 1 ≤ p.count x) :
    seen initial (p ++ [side]) c' x = seen initial p c x := by
  rw [seen, seen, if_congr (before_concat_of_le hcount) rfl rfl]
  split
  · next hbefore => rw [hgiven hbefore.le]
  · rfl

theorem Decided.concat {self target : User} {d : Decision}
    (h : race.Decided initial p c x self target d) (hcount : 1 ≤ p.count x) :
    race.Decided initial (p ++ [side]) c' x self target d where
  caller_id := h.caller_id
  own := h.own.trans (seen_concat hgiven hcount).symm
  target_id := h.target_id
  decision := h.decision

theorem PhaseOk.concat (h : race.PhaseOk initial p c x phase)
    (hcount : phase.Counted (p.count x)) :
    race.PhaseOk initial (p ++ [side]) c' x phase := by
  match phase, h, hcount with
  | .readSelf, _, _ | .done (.error _), _, _ => trivial
  | .readTarget self, h, hcount => exact ⟨h.1, h.2.trans (seen_concat hgiven hcount.ge).symm⟩
  | .writeTarget self target d, h, hcount | .writeSelf self target d, h, hcount =>
    exact Decided.concat hgiven h (by simp only [Counted] at hcount; omega)
  | .done (.ok d), ⟨self, target, h⟩, hcount =>
    exact ⟨self, target, h.concat hgiven (by simp only [Counted] at hcount; omega)⟩

end Seen

/-- A status changes only when it is written. -/
theorem current_congr {p' : List Side}
    (hgiven : (c'.phase x.other).given = (c.phase x.other).given)
    (hkept : (c'.phase x).kept = (c.phase x).kept)
    (hbefore : (c.phase x.other).given ≠ none → (c.phase x).kept ≠ none →
      (Before p' x 4 x.other 3 ↔ Before p x 4 x.other 3)) :
    current initial p' c' x = current initial p c x := by
  rw [current, current, hgiven, hkept]
  rcases hg : (c.phase x.other).given with - | g
  · simp only [Option.or_none, Option.none_or, ite_self]
  rcases hk : (c.phase x).kept with - | k
  · simp only [Option.or_none, Option.none_or, ite_self]
  rw [hg, hk] at hbefore
  rw [if_congr (hbefore (some_ne_none _) (some_ne_none _)) rfl rfl]

/-- Writing the record of `x` changes the status of that side only. -/
theorem Stored.write {s s' : σ} {status : Side → RelationshipStatus} (h : race.Stored D s status)
    (hne : race.user .a ≠ race.user .b) {new : RelationshipStatus} (hnew : new ≠ .user)
    (hs' : ∀ u, D.fetchUser s (race.user x) = .ok u → ∀ id, D.fetchUser s' id =
      if id = race.user x then .ok (u.withRelationship (race.user x.other) new)
      else D.fetchUser s id) : race.Stored D s' (Function.update status x new) := by
  have hother : race.user x ≠ race.user x.other := by
    cases x
    · exact hne
    · exact hne.symm
  obtain ⟨u, hu, hid, -⟩ := h x
  intro y
  rcases x.eq_or_eq_other y with rfl | rfl
  · refine ⟨_, by rw [hs' u hu, if_pos rfl], by rw [User.withRelationship_id, hid], ?_⟩
    rw [update_self]
    exact User.relationshipWith_withRelationship_self (by rwa [hid]) hnew
  · rw [hs' u hu, if_neg hother.symm, update_of_ne x.other_ne]
    exact h x.other

variable (h : race.Inv D initial p c)

include h

/-- One party goes on to `phase`: what is left to show. -/
theorem Inv.concat {s' : σ} (hcount : phase.Counted (p.count side + 1))
    (hgiven : 3 ≤ p.count side → phase.given = (c.phase side).given)
    (hphase : race.PhaseOk initial (p ++ [side]) ⟨update c.phase side phase, s'⟩ side phase)
    (hstored : race.Stored D s' (current initial (p ++ [side]) ⟨update c.phase side phase, s'⟩)) :
    race.Inv D initial (p ++ [side]) ⟨update c.phase side phase, s'⟩ where
  counted y := by
    dsimp only
    rcases side.eq_or_eq_other y with rfl | rfl
    · rwa [update_self, List.count_append, List.count_singleton_self]
    · rw [update_of_ne side.other_ne, List.count_append,
        List.count_singleton, if_neg (by simpa using side.other_ne.symm)]
      exact h.counted side.other
  phases y := by
    dsimp only
    rcases side.eq_or_eq_other y with rfl | rfl
    · rwa [update_self]
    · rw [update_of_ne side.other_ne]
      refine PhaseOk.concat (fun hthree => ?_) (h.phases side.other) (h.counted _)
      rw [Side.other_other] at hthree ⊢
      exact (congrArg given (update_self ..)).trans (hgiven hthree)
  stored := hstored

/-- The order in which two records were written is settled once both are. -/
theorem Inv.before_concat_iff (hgiven : (c.phase x.other).given ≠ none) :
    Before (p ++ [side]) x 4 x.other 3 ↔ Before p x 4 x.other 3 := by
  refine before_concat_of_le (not_lt.mp fun hlt => hgiven ?_)
  exact (h.counted x.other).given_eq_none hlt

/-- A step that writes nothing. -/
theorem Inv.read (hcount : phase.Counted (p.count side + 1))
    (hgiven : phase.given = (c.phase side).given) (hkept : phase.kept = (c.phase side).kept)
    (hphase : race.PhaseOk initial (p ++ [side]) ⟨update c.phase side phase, c.store⟩ side phase) :
    race.Inv D initial (p ++ [side]) ⟨update c.phase side phase, c.store⟩ := by
  refine h.concat hcount (fun _ => hgiven) hphase ?_
  have hphases : ∀ y, (update c.phase side phase y).given = (c.phase y).given ∧
      (update c.phase side phase y).kept = (c.phase y).kept := by
    intro y
    rcases side.eq_or_eq_other y with rfl | rfl
    · rw [update_self]
      exact ⟨hgiven, hkept⟩
    · rw [update_of_ne side.other_ne]
      exact ⟨rfl, rfl⟩
  have hcurrent : current initial (p ++ [side]) ⟨update c.phase side phase, c.store⟩
      = current initial p c :=
    funext fun y => current_congr (hphases y.other).1 (hphases y).2
      fun hy _ => h.before_concat_iff hy
  rw [hcurrent]
  exact h.stored

variable {self target : User} {d : Decision}

/-- The third step: it writes the record of the other side. -/
theorem Inv.current_writeTarget (hp : c.phase side = .writeTarget self target d) (s' : σ) :
    current initial (p ++ [side]) ⟨update c.phase side (.writeSelf self target d), s'⟩
      = update (current initial p c) side.other d.2 := by
  have hcount : p.count side = 2 := by
    have := h.counted side
    rwa [hp] at this
  funext y
  rcases side.eq_or_eq_other y with rfl | rfl
  · rw [update_of_ne y.other_ne.symm]
    refine current_congr ?_ ?_ fun _ hkept => absurd (by rw [hp]; rfl) hkept
    · dsimp only
      rw [update_of_ne y.other_ne]
    · dsimp only
      rw [update_self, hp]
      rfl
  · simp only [current, Side.other_other, update_self, update_of_ne side.other_ne, given,
      before_concat_self (congrArg (· + 1) hcount)]
    split
    · rfl
    · next hlt =>
      rw [(h.counted side.other).kept_eq_none (not_le.mp hlt)]
      rfl

/-- The fourth step: it writes the record of its own side. -/
theorem Inv.current_writeSelf (hp : c.phase side = .writeSelf self target d) (s' : σ) :
    current initial (p ++ [side]) ⟨update c.phase side (.done (.ok d)), s'⟩
      = update (current initial p c) side d.1 := by
  have hcount : p.count side = 3 := by
    have := h.counted side
    rwa [hp] at this
  funext y
  rcases side.eq_or_eq_other y with rfl | rfl
  · simp only [current, update_self, update_of_ne y.other_ne, kept]
    split
    · next hbefore =>
      rcases before_concat.mp hbefore with hb | ⟨-, hlt⟩
      · exact absurd hb.le (by omega)
      · rw [List.count_append, List.count_singleton, if_neg (by simpa using y.other_ne.symm)] at hlt
        rw [(h.counted y.other).given_eq_none hlt]
        rfl
    · rfl
  · rw [update_of_ne side.other_ne]
    refine current_congr ?_ ?_ fun hgiven _ => h.before_concat_iff hgiven
    · simp only [Side.other_other, update_self, hp]
      rfl
    · simp only [update_of_ne side.other_ne]

/-- The first step reads what is stored for the caller. -/
theorem Inv.seen_readSelf (hp : c.phase side = .readSelf)
    (hc' : c'.phase side.other = c.phase side.other) :
    seen initial (p ++ [side]) c' side = current initial p c side := by
  have hcount : p.count side = 0 := by
    have := h.counted side
    rwa [hp] at this
  have hfirst : ¬ Before p side 4 side.other 3 := fun hb => absurd hb.le (by omega)
  have hbefore := before_concat_self (i := side.other) (k := 3) (congrArg (· + 1) hcount)
  rw [seen, current, if_neg hfirst, hc', hp, if_congr hbefore rfl rfl]
  split
  · rfl
  · next hlt =>
    rw [(h.counted side.other).given_eq_none (not_le.mp hlt)]
    rfl

/-- **Every step keeps the invariant.** -/
theorem Inv.step (hne : race.user .a ≠ race.user .b)
    (hstep : race.step D.toDriver c side = some c') : race.Inv D initial (p ++ [side]) c' := by
  have hadvance : ∀ {phase s'}, advance D.toDriver (race.call side) (race.user side)
      (race.user side.other) (c.phase side, c.store) = (phase, s') →
      c' = ⟨update c.phase side phase, s'⟩ := by
    intro phase s' heq
    rw [Race.step, Config.step, heq] at hstep
    exact (some.inj hstep).symm
  have hok := h.phases side
  have hcount := h.counted side
  rcases hp : c.phase side with - | self | ⟨self, target, d⟩ | ⟨self, target, d⟩ | outcome <;>
    rw [hp] at hadvance hok hcount
  case readSelf =>
    obtain ⟨u, hu, hid, hrel⟩ := h.stored side
    obtain rfl := hadvance (advance_of_ok (exec_bind_of_ok (exec_readUser_ok hu) _))
    refine h.read (congrArg (· + 1) hcount) (by rw [hp]; rfl) (by rw [hp]; rfl) ⟨hid, ?_⟩
    exact hrel.trans (h.seen_readSelf hp (update_of_ne side.other_ne ..)).symm
  case readTarget =>
    obtain ⟨u, hu, hid, -⟩ := h.stored side.other
    have hread := exec_readUser_ok hu
    -- the decision is made here, on a target that the other party may change later
    rcases hd : (race.call side).decision self u with e | d
    · obtain rfl := hadvance (advance_of_error ((exec_bind_of_ok hread _).trans
        (exec_bind_of_error (exec_ofExcept_error hd _) _)))
      exact h.read (Nat.succ_le_succ hcount.ge) (by rw [hp]; rfl) (by rw [hp]; rfl) trivial
    · obtain rfl := hadvance (advance_of_ok ((exec_bind_of_ok hread _).trans
        (exec_bind_of_ok (exec_ofExcept_ok.mpr ⟨hd, rfl⟩) _)))
      refine h.read (congrArg (· + 1) hcount) (by rw [hp]; rfl) (by rw [hp]; rfl)
        ⟨hok.1, hok.2.trans (seen_concat (fun _ => ?_) hcount.ge).symm, hid, hd⟩
      exact congrArg given (update_of_ne side.other_ne ..)
  case writeTarget =>
    have hsteps : p.count side = 2 := hcount
    have hpair := symmetricPair_of_decision hok.decision
    obtain ⟨u, hu, -⟩ := h.stored side.other
    obtain ⟨s', hexec, hs'⟩ := D.setRelationship_stored self.id hpair.ne_user.2 hu
    rw [← hok.target_id] at hexec
    obtain rfl := hadvance (advance_of_ok (exec_bind_of_ok hexec _))
    refine h.concat (congrArg (· + 1) hcount) (fun hthree => absurd hsteps (by omega))
      (Decided.concat (fun _ => congrArg given (update_of_ne side.other_ne ..)) hok (by omega)) ?_
    rw [h.current_writeTarget hp]
    refine h.stored.write hne hpair.ne_user.2 fun u' hu' => ?_
    obtain rfl := ok.inj (hu.symm.trans hu')
    rw [Side.other_other, ← hok.caller_id]
    exact hs'
  case writeSelf =>
    have hsteps : p.count side = 3 := hcount
    have hpair := symmetricPair_of_decision hok.decision
    obtain ⟨u, hu, -⟩ := h.stored side
    obtain ⟨s', hexec, hs'⟩ := D.setRelationship_stored target.id hpair.ne_user.1 hu
    rw [← hok.caller_id] at hexec
    obtain rfl := hadvance (advance_of_ok (exec_bind_of_ok hexec _))
    refine h.concat (Nat.succ_le_succ hcount.ge) (fun _ => by rw [hp]; rfl)
      ⟨self, target, Decided.concat (fun _ => congrArg given (update_of_ne side.other_ne ..)) hok
        (by omega)⟩ ?_
    rw [h.current_writeSelf hp]
    refine h.stored.write hne hpair.ne_user.1 fun u' hu' => ?_
    obtain rfl := ok.inj (hu.symm.trans hu')
    rw [← hok.target_id]
    exact hs'
  case done =>
    obtain rfl := hadvance (advance_done _ _ _ _ outcome c.store)
    refine h.read ?_ (by rw [hp]) (by rw [hp])
      (PhaseOk.concat (fun _ => congrArg given (update_of_ne side.other_ne ..)) hok hcount)
    rcases outcome with e | d
    · exact Nat.le_succ_of_le hcount
    · exact Nat.le_succ_of_le hcount

end Step

theorem inv_of_run {s : σ} (h : race.Stored D s initial) (hne : race.user .a ≠ race.user .b)
    {schedule : List Side} {final : State σ}
    (hrun : run (race.step D.toDriver) (start s) schedule = some final) :
    race.Inv D initial schedule final :=
  run_history (fun _ _ _ _ hc hstep => hc.step hne hstep) (inv_start h) hrun

/-! ### The outcome -/

/-- What an accepted call found as the caller's status for the target, and decided on. -/
inductive Accepts : RelationshipCall → RelationshipStatus → Decision → Prop
  | accept {limit} : Accepts (.addFriend limit) .incoming (.friend, .friend)
  | request {limit} : Accepts (.addFriend limit) .none (.outgoing, .incoming)
  | remove {own} (h : own = .friend ∨ own = .outgoing ∨ own = .incoming) :
    Accepts .removeFriend own (.none, .none)
  | blockBack : Accepts .blockUser .blockedOther (.blocked, .blocked)
  | block {own} (h : own ≠ .blocked ∧ own ≠ .blockedOther) :
    Accepts .blockUser own (.blocked, .blockedOther)
  | liftOwn : Accepts .unblockUser .blocked (.blockedOther, .blocked)
  | lift : Accepts .unblockUser .blocked (.none, .none)

section Accepts

variable {call : RelationshipCall} {own : RelationshipStatus} {d d' : Decision}

theorem accepts_of_decision {self target : User} (h : call.decision self target = .ok d) :
    Accepts call (self.relationshipWith target.id) d := by
  unfold decision at h
  generalize self.relationshipWith target.id = own at h
  split at h
  case h_7 =>
    split at h <;> cases h
    exact .request
  case h_15 hblocked hother =>
    cases h
    exact .block ⟨hblocked, hother⟩
  case h_16 =>
    split at h <;> cases h
    · exact .liftOwn
    · exact .lift
  all_goals cases h
  case h_8 | h_9 | h_10 => exact .remove (by decide)
  all_goals constructor

theorem Accepts.symmetricPair (h : Accepts call own d) : SymmetricPair d.1 d.2 := by
  cases h <;> decide

theorem Accepts.fst_of_block (h : Accepts .blockUser own d) : d.1 = .blocked := by
  cases h <;> rfl

theorem Accepts.fst_of_remove (h : Accepts .removeFriend own d) : d.1 = .none := by
  cases h
  rfl

/-- A call that has seen a block keeps it, unless it is an unblock. -/
theorem Accepts.snd_of_seen (hblock : Accepts .blockUser own d) (hcall : call ≠ .unblockUser)
    (h : Accepts call d.2 d') : d'.2 = .blocked := by
  cases hblock <;> cases h <;> simp_all

end Accepts

section Finished

variable {final : State σ} {schedule : List Side} {outcome : Side → RequestOutcome} {side : Side}
  {d : Decision}

theorem Stored.holds_iff {s : σ} {status : Side → RelationshipStatus} (h : race.Stored D s status)
    (side : Side) {own : RelationshipStatus} :
    D.Holds s (race.user side) (race.user side.other) own ↔ own = status side := by
  obtain ⟨u, hu, -, hrel⟩ := h side
  rw [RelationshipStore.Holds, hu, ← hrel]
  simp only [ok.injEq, exists_eq_left']
  exact eq_comm

section Done

variable (h : race.Inv D initial schedule final)

include h

/-- What the statuses must be. -/
theorem Inv.respected
    (hpair : SymmetricPair (current initial schedule final .a) (current initial schedule final .b))
    (hblocked : ∀ side d, race.call side = .blockUser → outcome side = .ok d →
      race.call side.other ≠ .unblockUser → current initial schedule final side = .blocked) :
    race.Respected D outcome final.store where
  symmetric := ⟨_, _, (h.stored.holds_iff .a).mpr rfl, (h.stored.holds_iff .b).mpr rfl, hpair⟩
  blocked side d hcall hd hother :=
    (h.stored.holds_iff side).mpr (hblocked side d hcall hd hother).symm

variable (hdone : ∀ side, final.phase side = .done (outcome side))

include hdone

/-- What an accepted request saw and decided on. -/
theorem Inv.accepts (side : Side) (hd : outcome side = .ok d) :
    Accepts (race.call side) (seen initial schedule final side) d := by
  have hok := h.phases side
  rw [hdone side, hd] at hok
  obtain ⟨caller, target, hdecided⟩ := hok
  have haccepts := accepts_of_decision hdecided.decision
  rwa [hdecided.target_id, hdecided.own] at haccepts

/-- **A request that is refused** does no harm. -/
theorem Inv.respected_of_refused (hsym : SymmetricPair (initial .a) (initial .b))
    {e : Fault ErrorType} (he : outcome side = .error e) :
    race.Respected D outcome final.store := by
  have hside : current initial schedule final side
      = (final.phase side.other).given.getD (initial side) := by
    simp only [current, hdone side, he, kept, Option.or_none, Option.none_or, ite_self]
  have hother : current initial schedule final side.other
      = (final.phase side.other).kept.getD (initial side.other) := by
    simp only [current, Side.other_other, hdone side, he, given, Option.or_none, Option.none_or,
      ite_self]
  have hpair : SymmetricPair (current initial schedule final side.other)
      (current initial schedule final side) ∧ ∀ d, race.call side.other = .blockUser →
        outcome side.other = .ok d → current initial schedule final side.other = .blocked := by
    rw [hside, hother, hdone side.other]
    rcases ho : outcome side.other with e' | d'
    · exact ⟨(SymmetricPair.sides_iff side).mpr hsym, fun _ _ hd => by cases hd⟩
    · have haccepts := h.accepts hdone side.other ho
      exact ⟨haccepts.symmetricPair, fun _ hcall _ => (hcall ▸ haccepts).fst_of_block⟩
  refine h.respected ?_ fun x d hcall hd hunblock => ?_
  · exact (SymmetricPair.sides_iff side).mp hpair.1
  · rcases side.eq_or_eq_other x with rfl | rfl
    · cases he.symm.trans hd
    · exact hpair.2 d hcall hd

end Done

section Accepted

variable {d : Side → Decision} (hdone : ∀ side, final.phase side = .done (.ok (d side)))

include hdone

/-- What is stored once both requests have written. -/
theorem current_of_accepted (side : Side) : current initial schedule final side =
    if Before schedule side 4 side.other 3 then (d side.other).2 else (d side).1 := by
  rw [current, hdone, hdone]
  split <;> rfl

theorem seen_of_accepted (side : Side) : seen initial schedule final side =
    if Before schedule side.other 3 side 1 then (d side.other).2 else initial side := by
  rw [seen, hdone]
  rfl

variable (h : race.Inv D initial schedule final) (horder : race.InOrder schedule)

include h horder

/-- The pair is symmetric if the writes do not cross, or do no harm. -/
theorem Inv.symmetric :
    SymmetricPair (current initial schedule final .a) (current initial schedule final .b) := by
  by_cases hcross : ∀ side, ¬ Before schedule side 4 side.other 3
  · -- each party's record keeps what that party decided on for itself
    rw [current_of_accepted hdone, current_of_accepted hdone, if_neg (hcross .a),
      if_neg (hcross .b)]
    have hA := h.accepts hdone .a rfl
    have hB := h.accepts hdone .b rfl
    obtain hcall | hcall := horder.writes hcross <;> rw [hcall] at hA hB
    · rw [hA.fst_of_block, hB.fst_of_block]
      decide
    · rw [hA.fst_of_remove, hB.fst_of_remove]
      decide
  · obtain ⟨side, hb⟩ := not_forall_not.mp hcross
    -- the party that wrote last wrote both records
    have hlast := (hb.mono (by decide : 3 ≤ 4) (by decide : 3 ≤ 4)).asymm
    refine (SymmetricPair.sides_iff side).mp ?_
    rw [current_of_accepted hdone, current_of_accepted hdone, Side.other_other, if_neg hlast,
      if_pos hb]
    exact (h.accepts hdone side.other rfl).symmetricPair

/-- A block is kept if the other party writes before it, or has seen it. -/
theorem Inv.blocked {side : Side} (hcall : race.call side = .blockUser)
    (hother : race.call side.other ≠ .unblockUser) :
    current initial schedule final side = .blocked := by
  have hA := h.accepts hdone side rfl
  rw [hcall] at hA
  rw [current_of_accepted hdone]
  split
  · next hb =>
    have hB := h.accepts hdone side.other rfl
    rw [seen_of_accepted hdone, Side.other_other,
      if_pos (horder.reads side hcall hother hb)] at hB
    exact hA.snd_of_seen hother hB
  · exact hA.fst_of_block

end Accepted

/-- **Two requests at once.**  From a symmetric pair, once both requests are done, the
pair is symmetric again and no accepted block is lost, if the steps were taken in
order (`InOrder`). -/
theorem race_symmetric_of_inOrder (D : RelationshipStore σ) (race : Race)
    (hne : race.user .a ≠ race.user .b) {s : σ} {initial : Side → RelationshipStatus}
    (hstored : race.Stored D s initial) (hsym : SymmetricPair (initial .a) (initial .b))
    {schedule : List Side} (horder : race.InOrder schedule) {final : State σ}
    (hrun : run (race.step D.toDriver) (start s) schedule = some final)
    {outcome : Side → RequestOutcome} (hdone : ∀ side, final.phase side = .done (outcome side)) :
    race.Respected D outcome final.store := by
  have hinv := inv_of_run hstored hne hrun
  by_cases hok : ∀ side, ∃ d, outcome side = .ok d
  · choose d hd using hok
    obtain rfl : outcome = fun side => .ok (d side) := funext hd
    exact hinv.respected (hinv.symmetric hdone horder)
      fun _ _ hcall _ hother => hinv.blocked hdone horder hcall hother
  · obtain ⟨side, hside⟩ := not_forall.mp hok
    rcases ho : outcome side with e | d
    · exact hinv.respected_of_refused hdone hsym ho
    · exact absurd ⟨d, ho⟩ hside

/-- The users `a` and `b` make the same call on each other. -/
def betweenTwoUsers (call : RelationshipCall) : Race where
  user
    | .a => "a"
    | .b => "b"
  call _ := call

/-- Both requests read, then both write the other's record, then both write
their own caller's. -/
def crossing : List Side := [.a, .a, .b, .b, .a, .b, .a, .b]

theorem stored_twoUsers (call : RelationshipCall) :
    (betweenTwoUsers call).Stored MongoDb.relationshipStore twoUsers fun _ => .none := by
  intro side
  cases side
  · exact ⟨{ id := "a" }, rfl, rfl, rfl⟩
  · exact ⟨{ id := "b" }, rfl, rfl, rfl⟩

/-- The state in which two requests that cross end. -/
def afterCrossing (call : RelationshipCall) : State ReferenceDb :=
  (run ((betweenTwoUsers call).step MongoDb.driver) (start RelationshipStore.twoUsers)
    crossing).getD (start RelationshipStore.twoUsers)

theorem run_crossing (call : RelationshipCall) :
    run ((betweenTwoUsers call).step MongoDb.driver) (start twoUsers) crossing
      = some (afterCrossing call) := rfl

/-- Two blocks that cross are both stored. -/
theorem race_symmetric_of_inOrder_blocks :
    (∀ side, (afterCrossing .blockUser).phase side = .done (.ok (.blocked, .blockedOther))) ∧
    (betweenTwoUsers .blockUser).InOrder crossing ∧
    (betweenTwoUsers .blockUser).Respected MongoDb.relationshipStore
      (fun _ => .ok (.blocked, .blockedOther)) (afterCrossing .blockUser).store := by
  have hdone : ∀ side, (afterCrossing .blockUser).phase side
      = .done (.ok (.blocked, .blockedOther)) := by
    intro side
    cases side <;> decide +kernel
  have horder : (betweenTwoUsers .blockUser).InOrder crossing := by
    refine ⟨fun _ => .inl fun _ => rfl, fun side _ _ hbefore => ?_⟩
    cases side <;> exact absurd hbefore (by decide)
  exact ⟨hdone, horder, race_symmetric_of_inOrder MongoDb.relationshipStore
    (betweenTwoUsers .blockUser) (by decide) (stored_twoUsers _) (by decide) horder
    (run_crossing _) hdone⟩

/-- **Two friend requests that cross** leave both users with an outgoing one. -/
theorem race_friendRequests_asymmetric :
    run ((betweenTwoUsers (.addFriend 10)).step MongoDb.driver)
      (start RelationshipStore.twoUsers) crossing = some (afterCrossing (.addFriend 10)) ∧
    (∀ side, (afterCrossing (.addFriend 10)).phase side = .done (.ok (.outgoing, .incoming))) ∧
    MongoDb.relationshipStore.Holds (afterCrossing (.addFriend 10)).store "a" "b" .outgoing ∧
    MongoDb.relationshipStore.Holds (afterCrossing (.addFriend 10)).store "b" "a" .outgoing ∧
    ¬ (betweenTwoUsers (.addFriend 10)).Respected MongoDb.relationshipStore
      (fun _ => .ok (.outgoing, .incoming)) (afterCrossing (.addFriend 10)).store := by
  have hstored : (betweenTwoUsers (.addFriend 10)).Stored MongoDb.relationshipStore
      (afterCrossing (.addFriend 10)).store fun _ => .outgoing := by
    intro side
    cases side
    · exact ⟨{ id := "a", relations := some [⟨"b", .outgoing⟩] }, by decide +kernel⟩
    · exact ⟨{ id := "b", relations := some [⟨"a", .outgoing⟩] }, by decide +kernel⟩
  refine ⟨rfl, ?_, (hstored.holds_iff .a).mpr rfl, (hstored.holds_iff .b).mpr rfl, ?_⟩
  · intro side
    cases side <;> decide +kernel
  · rintro ⟨⟨own, other, hown, hother, hpair⟩, -⟩
    rw [(hstored.holds_iff .a).mp hown, (hstored.holds_iff .b).mp hother] at hpair
    exact absurd hpair (by decide)

end Finished

end Race

end DawnChat
