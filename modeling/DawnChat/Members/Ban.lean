/-
DawnChat/Members/Ban.lean

A ban and joins at the same time (`ban` in `delta/src/routes/servers/ban_create.rs`,
`Member::create` in `core/database/src/models/server_members/model.rs`).

A ban looks the member up, removes them and then inserts the ban; a join looks for a ban, for
a member and for a record that was left behind, and then writes the member.  All of these are
separate steps on the database.  A join that has looked for a ban before the ban is there, and
writes the member after the ban is past the removal, leaves a banned member behind.  If no join
looks for a ban between the removal and the ban, and none is under way during the removal, there
is never one (`noBannedMember_of_apart`): later joins find the ban.
-/
import DawnChat.Lib.Interleave
import DawnChat.Members.Store

namespace DawnChat

open RustStd Fallible Handler Run Interleave MemberDb Config

/-! ### Joining, step by step -/

/-- How far a join has come. -/
inductive JoinPhase where
  | fetchBan
  | fetchMember
  | findDeparted
  | write (existing : Bool)
  | done
  | failed
  deriving DecidableEq, Repr

namespace JoinPhase

/-- The next step on the database. -/
def next (id : MemberCompositeKey) (now : Timestamp) : JoinPhase → Request MemberDb JoinPhase
  | .fetchBan => do
      let db ← get
      throwIf (MemberDb.fetchBan id.server id.user db).isOk .banned
      return .fetchMember
  | .fetchMember => do
      let db ← get
      throwIf (MemberDb.fetchMember id.server id.user db).isOk .alreadyInServer
      return .findDeparted
  | .findDeparted => do
      let db ← get
      return .write (MemberDb.findDeparted id db).isSome
  | .write existing => do
      let _ ← writeMember { id := id, joinedAt := now } existing
      return .done
  | phase => return phase

def advance (id : MemberCompositeKey) (now : Timestamp) :
    JoinPhase × MemberDb → JoinPhase × MemberDb :=
  Interleave.advance (next id now) fun _ => .failed

/-- The join has found no ban, and has not written the member yet. -/
def underWay : JoinPhase → Bool
  | .fetchMember => true
  | .findDeparted => true
  | .write _ => true
  | _ => false

end JoinPhase

/-! ### The ban, step by step -/

/-- What a ban depends on besides the members and the bans. -/
structure BanRequest where
  reason : Option String := none
  /-- The checks that come first. -/
  permitted : Bool
  /-- Whether the member ranks below the moderator. -/
  elevated : Member → Bool
  /-- When the removal looks at the clock. -/
  now : Timestamp
  /-- Whether the voice channel and the messages could be dealt with. -/
  swept : Bool

/-- How far the ban has come. -/
inductive BanPhase where
  /-- `as_member` -/
  | lookup
  /-- The member is fetched again in order to be removed. -/
  | fetch
  | remove (member : Member)
  | sweep
  | create
  | done
  | failed
  deriving DecidableEq, Repr

namespace BanPhase

/-- The next step on the database. -/
def next (id : MemberCompositeKey) (ban : BanRequest) : BanPhase → Request MemberDb BanPhase
  | .lookup => do
      throwIf (ban.permitted = false) (.missingPermission "BanMembers")
      let db ← get
      match fetchMember id.server id.user db with
      | .ok member => do
          throwIf (ban.elevated member = false) .notElevated
          return .fetch
      -- nobody has to be removed
      | .error _ => return .sweep
  | .fetch => do
      let db ← get
      match fetchMember id.server id.user db with
      | .ok member => return .remove member
      | .error _ => fail (.databaseError "fetch_member" "server_members")
  | .remove member => do
      departOrDelete id member ban.now
      return .sweep
  | .sweep => do
      throwIf (ban.swept = false) .internalError
      return .create
  | .create => do
      write (insertBan { id := id, reason := ban.reason })
      return .done
  | phase => return phase

def advance (id : MemberCompositeKey) (ban : BanRequest) :
    BanPhase × MemberDb → BanPhase × MemberDb :=
  Interleave.advance (next id ban) fun _ => .failed

/-- The ban has removed the member, or found that there is none. -/
def pastRemoval : BanPhase → Bool
  | .sweep => true
  | .create => true
  | .done => true
  | _ => false

end BanPhase

namespace MemberDb

variable (id : MemberCompositeKey) (db : MemberDb)

def isBanned : Bool := (fetchBan id.server id.user db).isOk

def isMember : Bool := (fetchMember id.server id.user db).isOk

end MemberDb

/-! ### What a step does -/

section Steps

variable {id : MemberCompositeKey} {now : Timestamp} {ban : BanRequest} {db : MemberDb}

theorem isMember_eq : db.isMember id = (db.members.get? id).any (·.isMember) := isOk_fetchMember

theorem isBanned_eq : db.isBanned id = (db.bans.get? id).isSome := isOk_fetchBan

/-- Only the last step of a join writes. -/
theorem JoinPhase.store_advance (phase : JoinPhase) :
    (advance id now (phase, db)).2 =
      match phase with
      | .write existing => ((writeMember { id := id, joinedAt := now } existing).exec db).2
      | _ => db := by
  rw [advance, advance_snd]
  cases phase with
  | fetchBan | fetchMember => exact (ReadOnly.andThen fun _ => inferInstance).store db
  | findDeparted => rfl
  | write existing => exact store_bind_pure _ _ db
  | done => rfl
  | failed => rfl

theorem store_writeMember (member : Member) (existing : Bool) :
    ((writeMember member existing).exec db).2 =
      if existing then mergeMember member.id member.joinedAt db
      else
        match insertMember member db with
        | .ok db' => db'
        | .error _ => db := by
  rw [writeMember]
  split
  · rw [exec_bind, exec_write]
    exact congrArg Prod.snd (exec_read _ _)
  · rw [exec_bind, exec_write]
    rcases insertMember member db with e | db' <;> rfl

theorem JoinPhase.advance_fetchBan :
    advance id now (.fetchBan, db)
      = if db.isBanned id then (.failed, db) else (.fetchMember, db) := by
  rw [advance, Interleave.advance, next, exec_get_bind, isBanned]
  rcases (MemberDb.fetchBan id.server id.user db).isOk <;> rfl

theorem JoinPhase.advance_fetchMember :
    advance id now (.fetchMember, db)
      = if db.isMember id then (.failed, db) else (.findDeparted, db) := by
  rw [advance, Interleave.advance, next, exec_get_bind, isMember]
  rcases (MemberDb.fetchMember id.server id.user db).isOk <;> rfl

/-- **The steps are those of a join**: one that is not interrupted does what `Member::create`
does. -/
theorem JoinPhase.store_uninterrupted :
    ((advance id now)^[4] (.fetchBan, db)).2
      = ((createMember id.server id.user now).exec db).2 := by
  rw [Function.iterate_succ_apply, advance_fetchBan]
  by_cases hban : db.isBanned id = true
  · rw [if_pos hban, store_createMember_of_turnedAway (.inl (isBanned_eq ▸ hban))]
    rfl
  rw [if_neg hban, Function.iterate_succ_apply, advance_fetchMember]
  by_cases hmember : db.isMember id = true
  · rw [if_pos hmember, store_createMember_of_turnedAway (.inr (isMember_eq ▸ hmember))]
    rfl
  rw [Bool.not_eq_true, isBanned_eq] at hban
  rw [if_neg hmember]
  rw [Bool.not_eq_true, isMember_eq] at hmember
  rw [exec_createMember hban hmember, store_bind_pure]
  exact store_advance (.write (MemberDb.findDeparted id db).isSome)

/-- Joining bans nobody. -/
theorem JoinPhase.isBanned_advance (phase : JoinPhase) :
    (advance id now (phase, db)).2.isBanned id = db.isBanned id := by
  rw [store_advance, isBanned_eq, isBanned_eq]
  cases phase with
  | write existing =>
    dsimp only
    rw [store_writeMember]
    split
    · rfl
    · rw [insertMember]
      rcases db.members.get? id with - | doc <;> rfl
  | _ => rfl

/-- A join that is not under way does nothing while the user is banned. -/
theorem JoinPhase.advance_of_banned {phase : JoinPhase} (now : Timestamp)
    (h : phase.underWay = false)
    (hban : phase = .fetchBan → db.isBanned id = true) :
    (advance id now (phase, db)).1.underWay = false ∧ (advance id now (phase, db)).2 = db := by
  cases phase with
  | fetchBan =>
    rw [advance_fetchBan, if_pos (hban rfl)]
    exact ⟨rfl, rfl⟩
  | done | failed => exact ⟨rfl, rfl⟩
  | _ => cases h

/-- Only two steps of a ban write. -/
theorem BanPhase.store_advance (phase : BanPhase) :
    (advance id ban (phase, db)).2 =
      match phase with
      | .remove member => ((departOrDelete id member ban.now).exec db).2
      | .create =>
        match insertBan { id := id, reason := ban.reason } db with
        | .ok db' => db'
        | .error _ => db
      | _ => db := by
  rw [advance, advance_snd]
  cases phase with
  | lookup =>
    refine (ReadOnly.andThen fun _ => .andThen fun db => ?_).store db
    split <;> infer_instance
  | fetch =>
    refine (ReadOnly.andThen fun db => ?_).store db
    split <;> infer_instance
  | remove member => exact store_bind_pure _ _ db
  | sweep => exact (ReadOnly.andThen fun _ => inferInstance).store db
  | create =>
    refine (store_bind_pure _ _ db).trans ?_
    rw [exec_write]
    dsimp only
    rcases insertBan { id := id, reason := ban.reason } db with e | db' <;> rfl
  | done => rfl
  | failed => rfl

/-- **The steps are those of a removal.** -/
theorem BanPhase.store_uninterrupted :
    ((advance id ban)^[2] (.fetch, db)).2 = ((softDeleteMember id ban.now).exec db).2 := by
  have hnext : advance id ban (.fetch, db)
      = ((fetchMember id.server id.user db).toOption.elim .failed .remove, db) := by
    rw [advance, Interleave.advance, next, exec_get_bind]
    rcases fetchMember id.server id.user db with e | member <;> rfl
  rw [Function.iterate_succ_apply, hnext, softDeleteMember, exec_get_bind]
  rcases fetchMember id.server id.user db with e | member
  · rfl
  · exact store_advance (.remove member)

/-- Nobody is a member right after the removal. -/
theorem isMember_departOrDelete (member : Member) :
    ((departOrDelete id member now).exec db).2.isMember id = false := by
  rw [isMember_eq, get?_departOrDelete, if_pos rfl]
  rcases member.timeout with - | timeout
  · rfl
  · rw [Option.bind_some]
    split
    · rcases db.members.get? id with - | doc <;> rfl
    · rfl

variable {phase : BanPhase}

/-- **What comes next in a ban**, if a step succeeds. -/
theorem BanPhase.next_cases {phase' : BanPhase} {db' : MemberDb}
    (h : (next id ban phase).exec db = (.ok phase', db')) :
    match phase with
    | .lookup => phase' = .fetch ∨ phase' = .sweep ∧ db.isMember id = false
    | .fetch => ∃ member, phase' = .remove member
    | .remove _ => phase' = .sweep
    | .sweep => phase' = .create
    | .create => phase' = .done
    | .done => phase' = .done
    | .failed => phase' = .failed := by
  cases phase with
  | lookup =>
    obtain ⟨_, -, h⟩ := exec_throwIf_bind_ok.mp h
    rw [exec_get_bind] at h
    split at h
    · obtain ⟨_, _, -, h⟩ := exec_bind_ok.mp h
      exact .inl (exec_pure_ok.mp h).1.symm
    · next hfetch =>
      refine .inr ⟨(exec_pure_ok.mp h).1.symm, ?_⟩
      rw [isMember, hfetch]
      rfl
  | fetch =>
    obtain ⟨_, _, -, h⟩ := exec_bind_ok.mp h
    split at h
    · exact ⟨_, (exec_pure_ok.mp h).1.symm⟩
    · cases h
  | remove member | sweep | create =>
    obtain ⟨_, _, -, h⟩ := exec_bind_ok.mp h
    exact (exec_pure_ok.mp h).1.symm
  | done | failed => exact (exec_pure_ok.mp h).1.symm

/-- The next step takes the ban past the removal: it removes the member, or finds none. -/
def BanPhase.Removes (id : MemberCompositeKey) (db : MemberDb) : BanPhase → Prop
  | .lookup => db.isMember id = false
  | .remove _ => True
  | _ => False

instance : Decidable (phase.Removes id db) :=
  match phase with
  | .lookup => inferInstanceAs (Decidable (_ = false))
  | .remove _ => isTrue trivial
  | .fetch | .sweep | .create | .done | .failed => isFalse fun h => h

/-- **Getting past the removal**: nobody is a member then. -/
theorem BanPhase.removes_of_pastRemoval (hbefore : phase.pastRemoval = false)
    (hafter : (advance id ban (phase, db)).1.pastRemoval = true) :
    phase.Removes id db ∧ (advance id ban (phase, db)).2.isMember id = false := by
  rw [store_advance]
  revert hafter
  refine phase_advance (Q := fun phase' : BanPhase => phase'.pastRemoval = true → _)
    (fun _ hfailed => nomatch hfailed) fun phase' db' hexec hafter => ?_
  cases phase with
  | lookup =>
    obtain rfl | ⟨-, hmember⟩ := next_cases hexec
    · cases hafter
    · exact ⟨hmember, hmember⟩
  | fetch =>
    obtain ⟨member, rfl⟩ := next_cases hexec
    cases hafter
  | remove member => exact ⟨trivial, isMember_departOrDelete member⟩
  | failed =>
    obtain rfl : phase' = .failed := next_cases hexec
    cases hafter
  | _ => cases hbefore

/-- What comes after the removal leaves the members alone. -/
theorem BanPhase.isMember_advance (h : phase.pastRemoval = true) :
    (advance id ban (phase, db)).2.isMember id = db.isMember id := by
  rw [store_advance, isMember_eq, isMember_eq]
  cases phase with
  | create =>
    dsimp only
    rw [insertBan]
    rcases db.bans.get? id with - | ban <;> rfl
  | remove member => cases h
  | _ => rfl

/-- A ban is done after it was created. -/
theorem BanPhase.eq_create_of_advance
    (hdone : (advance id ban (phase, db)).1 = .done) : phase = .create ∨ phase = .done := by
  revert hdone
  refine phase_advance (Q := fun phase' : BanPhase => phase' = .done → _)
    (fun _ hfailed => nomatch hfailed) fun phase' db' hexec hdone => ?_
  subst hdone
  have hnext := next_cases hexec
  cases phase with
  | create => exact .inl rfl
  | done => exact .inr rfl
  | lookup | fetch => simp at hnext
  | _ => cases hnext

theorem isBanned_departOrDelete (member : Member) :
    ((departOrDelete id member now).exec db).2.isBanned id = db.isBanned id := by
  rw [departOrDelete]
  split
  · rcases member.timeout with - | timeout <;> rfl
  · rfl

/-- The user is banned when the ban is done, and not before. -/
theorem BanPhase.isBanned_advance (h : db.isBanned id = true ↔ phase = .done) :
    (advance id ban (phase, db)).2.isBanned id = true ↔
      (advance id ban (phase, db)).1 = .done := by
  by_cases hcreate : phase = .create
  · -- the ban is inserted, since there is none yet
    subst hcreate
    have hfree : db.bans.get? id = none := by
      rw [isBanned_eq, Option.isSome_iff_ne_none] at h
      by_contra hne
      cases h.mp hne
    have hinsert : insertBan { id := id, reason := ban.reason } db
        = .ok { db with bans := db.bans.insert { id := id, reason := ban.reason } } := by
      rw [insertBan, hfree]
    have hexec : (next id ban .create).exec db
        = (.ok .done, { db with bans := db.bans.insert { id := id, reason := ban.reason } }) :=
      exec_bind_ok.mpr ⟨(), _, exec_write_ok.mpr hinsert, rfl⟩
    rw [advance, advance_of_ok hexec, isBanned_eq]
    refine iff_of_true ?_ rfl
    refine (congrArg Option.isSome (Collection.get?_insert db.bans _ id)).trans ?_
    rw [if_pos rfl]
    rfl
  · have hsame : (advance id ban (phase, db)).2.isBanned id = db.isBanned id := by
      rw [store_advance]
      cases phase with
      | remove member => exact isBanned_departOrDelete member
      | create => exact absurd rfl hcreate
      | _ => rfl
    rw [hsame, h]
    constructor
    · rintro rfl
      rfl
    · intro hdone
      exact (eq_create_of_advance hdone).resolve_left hcreate

end Steps

/-! ### All requests -/

/-- The phases of the requests: one ban, and any number of joins. -/
def RequestPhase {ι : Type} : Option ι → Type
  | none => BanPhase
  | some _ => JoinPhase

open BanPhase

namespace BanRace

variable {ι : Type}

/-- Nothing has been done yet. -/
def start (db : MemberDb) : Config (Option ι) RequestPhase MemberDb where
  phase
    | none => BanPhase.lookup
    | some _ => JoinPhase.fetchBan
  store := db

def advance (id : MemberCompositeKey) (ban : BanRequest) (now : ι → Timestamp) :
    (i : Option ι) → RequestPhase i × MemberDb → RequestPhase i × MemberDb
  | none => BanPhase.advance id ban
  | some i => JoinPhase.advance id (now i)

/-- How far the ban has come. -/
def banPhase (c : Config (Option ι) RequestPhase MemberDb) : BanPhase := c.phase none

/-- How far a join has come. -/
def joinPhase (c : Config (Option ι) RequestPhase MemberDb) (j : ι) : JoinPhase := c.phase (some j)

/-- **The requests keep apart**: no join is under way when the ban gets past the removal, and no
join looks for a ban between the removal and the insertion of the ban. -/
def Apart (id : MemberCompositeKey) (c : Config (Option ι) RequestPhase MemberDb) :
    Option ι → Prop
  | none => (banPhase c).Removes id c.store → ∀ j, (joinPhase c j).underWay = false
  | some j => joinPhase c j = .fetchBan → banPhase c ≠ .sweep ∧ banPhase c ≠ .create

instance [Fintype ι] (id : MemberCompositeKey) (c : Config (Option ι) RequestPhase MemberDb) :
    (i : Option ι) → Decidable (Apart id c i)
  | none => inferInstanceAs (Decidable (_ → ∀ j, (joinPhase c j).underWay = false))
  | some j => inferInstanceAs (Decidable (joinPhase c j = _ → _ ∧ _))

variable [DecidableEq ι] {id : MemberCompositeKey} {ban : BanRequest} {now : ι → Timestamp}
  {c c' : Config (Option ι) RequestPhase MemberDb} {i : Option ι} {schedule : List (Option ι)}

theorem banPhase_join {j : ι} (h : step (advance id ban now) c (some j) = some c') :
    banPhase c' = banPhase c :=
  phase_of_step_ne h (by simp)

/-- The user is banned when the ban is done. -/
theorem isBanned_step (hc : c.store.isBanned id = true ↔ banPhase c = .done)
    (h : step (advance id ban now) c i = some c') :
    c'.store.isBanned id = true ↔ banPhase c' = .done := by
  rw [store_of_step h]
  cases i with
  | none =>
    have hphase : banPhase c' = (BanPhase.advance id ban (banPhase c, c.store)).1 :=
      phase_of_step h
    rw [hphase]
    exact isBanned_advance hc
  | some j =>
    rw [banPhase_join h, ← hc]
    exact Bool.eq_iff_iff.mp (JoinPhase.isBanned_advance _)

/-- What holds while the requests keep apart. -/
structure Clear (id : MemberCompositeKey) (c : Config (Option ι) RequestPhase MemberDb) : Prop where
  banned : c.store.isBanned id = true ↔ banPhase c = .done
  /-- Once the ban is past the removal, nobody is a member, and no join is under way. -/
  removed : (banPhase c).pastRemoval = true →
    c.store.isMember id = false ∧ ∀ j, (joinPhase c j).underWay = false

/-- A step of the ban. -/
theorem Clear.ban_step (hc : Clear id c) (hapart : Apart id c none)
    (h : step (advance id ban now) c none = some c') : Clear id c' := by
  have hphase : banPhase c' = (BanPhase.advance id ban (banPhase c, c.store)).1 :=
    phase_of_step h
  have hstore : c'.store = (BanPhase.advance id ban (banPhase c, c.store)).2 := store_of_step h
  have hjoins : ∀ j, joinPhase c' j = joinPhase c j := fun j => phase_of_step_ne h (by simp)
  refine ⟨isBanned_step hc.banned h, fun hpast' => ?_⟩
  rw [hphase] at hpast'
  simp only [hstore, hjoins]
  rcases hpast : (banPhase c).pastRemoval with - | -
  · obtain ⟨hremoves, hmember⟩ := removes_of_pastRemoval hpast hpast'
    exact ⟨hmember, hapart hremoves⟩
  · obtain ⟨hmember, hidle⟩ := hc.removed hpast
    exact ⟨(isMember_advance hpast).trans hmember, hidle⟩

/-- A step of a join: once the ban is past the removal, the join finds it in place. -/
theorem Clear.join_step {j : ι} (hc : Clear id c) (hapart : Apart id c (some j))
    (h : step (advance id ban now) c (some j) = some c') : Clear id c' := by
  refine ⟨isBanned_step hc.banned h, fun hpast => ?_⟩
  rw [banPhase_join h] at hpast
  obtain ⟨hmember, hidle⟩ := hc.removed hpast
  have hin : joinPhase c j = .fetchBan → c.store.isBanned id = true := by
    intro hfetch
    obtain ⟨hsweep, hcreate⟩ := hapart hfetch
    refine hc.banned.mpr ?_
    revert hpast hsweep hcreate
    cases banPhase c <;> simp [pastRemoval]
  obtain ⟨hphase, hstore⟩ := JoinPhase.advance_of_banned (now j) (hidle j) hin
  refine ⟨?_, fun k => ?_⟩
  · rw [store_of_step h]
    exact (congrArg (isMember id) hstore).trans hmember
  · by_cases hk : k = j
    · subst hk
      exact (congrArg JoinPhase.underWay (phase_of_step h)).trans hphase
    · exact (congrArg JoinPhase.underWay (phase_of_step_ne h (by simpa using hk))).trans (hidle k)

theorem Clear.step (hc : Clear id c) (hapart : Apart id c i)
    (h : step (advance id ban now) c i = some c') : Clear id c' := by
  cases i with
  | none => exact hc.ban_step hapart h
  | some j => exact hc.join_step hapart h

end BanRace

open BanRace

/-- **No banned member.**  A user who is not banned at first, whatever is stored about them, is
banned and joins at the same time, any number of times.  In every interleaving in which the
requests keep apart, they are at no time both banned and a member. -/
theorem noBannedMember_of_apart {ι : Type} [DecidableEq ι] (id : MemberCompositeKey)
    (ban : BanRequest) (now : ι → Timestamp) {db : MemberDb} (hdb : db.isBanned id = false)
    {schedule : List (Option ι)}
    (hapart : EachStep (Config.step (BanRace.advance id ban now)) (Apart id) (BanRace.start db)
      schedule) :
    Always (Config.step (BanRace.advance id ban now))
      (fun c => ¬ (c.store.isBanned id = true ∧ c.store.isMember id = true)) (BanRace.start db)
      schedule := by
  have hstart : Clear id (start (ι := ι) db) :=
    ⟨iff_of_false (by simp [start, hdb]) nofun, nofun⟩
  have hclear := always_of_eachStep (fun _ _ _ hc hapart h => Clear.step hc hapart h) hstart hapart
  refine hclear.imp fun c hc ⟨hban, hmember⟩ => ?_
  have hpast : (banPhase c).pastRemoval = true := by rw [hc.banned.mp hban]; rfl
  cases (hc.removed hpast).1.symm.trans hmember

/-- A ban that nothing keeps from succeeding. -/
def plainBan : BanRequest where
  permitted := true
  elevated _ := true
  now := 0
  swept := true

/-- A user has joined; they are banned while they try to join once more, and then again. -/
theorem noBannedMember_of_apart_rejoining :
    ∃ c, run (Config.step (BanRace.advance ⟨"s", "u"⟩ plainBan fun _ : Fin 3 => 0))
        (BanRace.start {}) [some 0, some 0, some 0, some 0, none, some 1, none, some 1, none,
          none, none, some 2] = some c ∧
      (∀ j, BanRace.joinPhase c j = .done ∨ BanRace.joinPhase c j = .failed) ∧
      c.store.isBanned ⟨"s", "u"⟩ = true ∧
      ¬ (c.store.isBanned ⟨"s", "u"⟩ = true ∧ c.store.isMember ⟨"s", "u"⟩ = true) :=
  exists_run_of (fun c => (∀ j, joinPhase c j = .done ∨ joinPhase c j = .failed) ∧
      c.store.isBanned ⟨"s", "u"⟩ = true) (by decide +kernel) fun c hrun ⟨hended, hbanned⟩ =>
    ⟨hended, hbanned, noBannedMember_of_apart ⟨"s", "u"⟩ plainBan (fun _ => 0) rfl
      (by decide +kernel) _ c List.prefix_rfl hrun⟩

/-- **A banned member.**  A join has looked for a ban, for a member and for a record.  Then
comes the whole ban, which finds nobody to remove.  Then the join writes the member. -/
theorem bannedMember_joinedDuringBan :
    ∃ c, run (Config.step (BanRace.advance ⟨"s", "u"⟩ plainBan fun _ : Unit => 0))
        (BanRace.start {}) [some (), some (), some (), none, none, none, some ()] = some c ∧
      BanRace.banPhase c = .done ∧ BanRace.joinPhase c () = .done ∧
      c.store.isBanned ⟨"s", "u"⟩ = true ∧ c.store.isMember ⟨"s", "u"⟩ = true :=
  exists_run_decide (by decide +kernel)

end DawnChat
