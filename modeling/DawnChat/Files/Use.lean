/-
DawnChat/Files/Use.lean

Using a file (`find_and_use_attachment` in
`core/database/src/models/files/ops`, `File::use_attachment`).

A file may be used for one object only.  The MongoDB driver looks for the file
among the unused ones and then records the use, in two steps on the database;
the in-memory driver does everything under one lock, but does not ask whether the
file is used.

Any number of calls on the same file run here in any interleaving of their
steps.  With MongoDB the file ends up used once exactly when no call looks the
file up while another one is between its two steps; with the in-memory driver
every call succeeds (`attachment_used_once_iff`).
-/
import DawnChat.Database
import DawnChat.Lib.Interleave

namespace DawnChat

open RustStd Fallible Handler Run Interleave Collection ReferenceDb Config Option

/-! ### The two drivers -/

namespace ReferenceDb

/-- Record the use of a file. -/
def recordUse (id : String) (usedFor : FileUsedFor) (uploaderId : String) (db : ReferenceDb) :
    ReferenceDb :=
  { db with
    files := db.files.updateMany (·.id = id) (·.use usedFor uploaderId) fun file =>
      file.use_id usedFor uploaderId }

/-- Fetch an attachment by its id. -/
def fetchAttachment (tag fileId : String) (db : ReferenceDb) : Result File :=
  match db.files.get? fileId with
  | some file => if file.tag = tag then .ok file else .error .notFound
  | none => .error .notFound

/-- Find an attachment by its details and mark it as used by a given parent. -/
def findAndUseAttachment (id tag : String) (usedFor : FileUsedFor) (uploaderId : String) :
    Request ReferenceDb File := do
  let file ← read (fetchAttachment tag id)
  write fun db => .ok (db.recordUse id usedFor uploaderId)
  pure (file.use usedFor uploaderId)

end ReferenceDb

namespace MongoDb

/-- The unused file with an id and a tag. -/
def findUnused (id tag : String) (db : ReferenceDb) : Result File :=
  ReferenceDb.findOne db.files.documents fun file =>
    file.id = id && file.tag = tag && file.usedFor.isNone

/-- Find an attachment by its details and mark it as used by a given parent.  What
is returned is the file as it was found. -/
def findAndUseAttachment (id tag : String) (usedFor : FileUsedFor) (uploaderId : String) :
    Request ReferenceDb File := do
  let file ← read (findUnused id tag)
  write fun db => .ok (db.recordUse id usedFor uploaderId)
  pure file

end MongoDb

/-! ### One call, step by step -/

/-- What the calls on a file differ in. -/
structure UseCall where
  usedFor : FileUsedFor
  uploaderId : String

/-- How far a call has come. -/
inductive UsePhase where
  | find
  | update (file : File)
  | done (outcome : Except (Fault ErrorType) File)
  deriving DecidableEq

namespace UsePhase

/-- The next step of a call on the MongoDB driver. -/
def nextMongo (id tag : String) (call : UseCall) : UsePhase → Request ReferenceDb UsePhase
  | .find => do
      let file ← read (MongoDb.findUnused id tag)
      pure (.update file)
  | .update file => do
      write fun db => .ok (db.recordUse id call.usedFor call.uploaderId)
      pure (.done (.ok file))
  | .done outcome => pure (.done outcome)

/-- The in-memory driver holds the lock from the first to the last statement. -/
def nextReference (id tag : String) (call : UseCall) : UsePhase → Request ReferenceDb UsePhase
  | .find => do
      let file ← ReferenceDb.findAndUseAttachment id tag call.usedFor call.uploaderId
      pure (.done (.ok file))
  | phase => pure phase

/-- The call has found the file and will succeed, or has. -/
def Holds : UsePhase → Prop
  | .update _ | .done (.ok _) => True
  | _ => False

def Succeeded : UsePhase → Prop
  | .done (.ok _) => True
  | _ => False

def Finished : UsePhase → Prop
  | .done _ => True
  | _ => False

/-- The call is between its look up and its write. -/
def Between : UsePhase → Prop
  | .update _ => True
  | _ => False

instance : DecidablePred Succeeded
  | .done (.ok _) => isTrue trivial
  | .done (.error _) | .find | .update _ => isFalse not_false

instance : DecidablePred Finished
  | .done _ => isTrue trivial
  | .find | .update _ => isFalse not_false

instance : DecidablePred Between
  | .update _ => isTrue trivial
  | .find | .done _ => isFalse not_false

variable {phase : UsePhase}

theorem succeeded_of_holds (hfinished : phase.Finished) (h : phase.Holds) : phase.Succeeded := by
  cases phase with
  | find => exact h
  | update file => exact hfinished.elim
  | done outcome => cases outcome <;> exact h

theorem Holds.between_or_succeeded (h : phase.Holds) : phase.Between ∨ phase.Succeeded := by
  cases phase with
  | find => exact h.elim
  | update file => exact .inl trivial
  | done outcome => cases outcome <;> exact .inr h

theorem Between.not_succeeded (h : phase.Between) : ¬ phase.Succeeded := by
  cases phase with
  | find => exact h.elim
  | update file => exact not_false
  | done outcome => exact h.elim

theorem Between.holds (h : phase.Between) : phase.Holds := by
  cases phase with
  | find => exact h
  | update file => exact trivial
  | done outcome => exact h.elim

theorem Succeeded.holds (h : phase.Succeeded) : phase.Holds := by
  cases phase with
  | find => exact h
  | update file => exact h.elim
  | done outcome => cases outcome <;> exact h

end UsePhase

/-! ### The steps on the database -/

open MongoDb

section Steps

variable {db : ReferenceDb} {id tag : String} {file : File} {call : UseCall}

theorem get?_recordUse (h : db.files.get? id = some file) (usedFor : FileUsedFor)
    (uploaderId : String) :
    (db.recordUse id usedFor uploaderId).files.get? id = some (file.use usedFor uploaderId) := by
  have hid : file.id = id := (get?_eq_some.mp h).2
  have hget := get?_updateMany db.files (·.id = id) (·.use usedFor uploaderId)
    (fun file => file.use_id usedFor uploaderId) id
  rwa [h, map_some, if_pos (decide_eq_true hid)] at hget

/-- Looking for the unused file finds it as long as it is unused. -/
theorem findUnused_of_unused (h : db.files.get? id = some file) (htag : file.tag = tag)
    (hunused : file.usedFor = none) : findUnused id tag db = .ok file := by
  obtain ⟨hmem, hid⟩ := get?_eq_some.mp h
  obtain ⟨found, hfound⟩ := exists_findOne
    (p := fun file => file.id = id && file.tag = tag && file.usedFor.isNone) hmem
    (by simp [hid, htag, hunused])
  obtain ⟨hfoundMem, hfoundId⟩ := findOne_ok hfound
  have hkey : found.id = file.id := by
    simp only [Bool.and_eq_true, decide_eq_true_eq] at hfoundId
    rw [hfoundId.1.1, hid]
  rw [eq_of_key_eq hfoundMem hmem hkey] at hfound
  exact hfound

theorem findUnused_of_used (h : db.files.get? id = some file) (hused : file.usedFor ≠ none)
    (tag : String) : ∃ e, findUnused id tag db = .error e := by
  rcases hfind : findUnused id tag db with e | found
  · exact ⟨e, rfl⟩
  · obtain ⟨hmem, hfound⟩ := findOne_ok hfind
    simp only [Bool.and_eq_true, decide_eq_true_eq, isNone_iff_eq_none] at hfound
    obtain ⟨hfileMem, hid⟩ := get?_eq_some.mp h
    rw [eq_of_key_eq hmem hfileMem (hfound.1.1.trans hid.symm)] at hfound
    exact absurd hfound.2 hused

end Steps

namespace UsePhase

variable {id tag : String} {call : UseCall} {db : ReferenceDb} {file : File}

/-- A step of a call on the MongoDB driver. -/
def advanceMongo (id tag : String) (call : UseCall) :
    UsePhase × ReferenceDb → UsePhase × ReferenceDb :=
  advance (nextMongo id tag call) fun e => .done (.error e)

/-- A step of a call on the in-memory driver. -/
def advanceReference (id tag : String) (call : UseCall) :
    UsePhase × ReferenceDb → UsePhase × ReferenceDb :=
  advance (nextReference id tag call) fun e => .done (.error e)

theorem advanceMongo_find_ok (h : findUnused id tag db = .ok file) :
    advanceMongo id tag call (.find, db) = (.update file, db) :=
  advance_of_ok (exec_bind_of_ok (exec_read_ok.mpr ⟨h, rfl⟩) _)

theorem advanceMongo_find_error {e : ErrorType} (h : findUnused id tag db = .error e) :
    advanceMongo id tag call (.find, db) = (.done (.error (.error e)), db) :=
  advance_of_error (exec_bind_of_error (exec_read_error h) _)

theorem advanceMongo_update :
    advanceMongo id tag call (.update file, db)
      = (.done (.ok file), db.recordUse id call.usedFor call.uploaderId) := rfl

theorem advanceMongo_done (outcome : Except (Fault ErrorType) File) :
    advanceMongo id tag call (.done outcome, db) = (.done outcome, db) := rfl

/-- **The steps are those of the call.**  A call that is not interrupted is done
after two steps, with the outcome and the store of `find_and_use_attachment`. -/
theorem advanceMongo_alone (id tag : String) (call : UseCall) (db : ReferenceDb) :
    (advanceMongo id tag call)^[2] (.find, db)
      = (.done (exec (MongoDb.findAndUseAttachment id tag call.usedFor call.uploaderId)
          db).1,
        (exec (MongoDb.findAndUseAttachment id tag call.usedFor call.uploaderId)
          db).2) := by
  rw [Function.iterate_succ_apply, Function.iterate_one, MongoDb.findAndUseAttachment]
  rcases hfind : MongoDb.findUnused id tag db with e | file
  · rw [advanceMongo_find_error hfind, advanceMongo_done,
      exec_bind_of_error (exec_read_error hfind)]
  · rw [advanceMongo_find_ok hfind, advanceMongo_update,
      exec_bind_of_ok (exec_read_ok.mpr ⟨hfind, rfl⟩)]
    rfl

theorem advanceReference_find (h : db.files.get? id = some file) (htag : file.tag = tag) :
    advanceReference id tag call (.find, db)
      = (.done (.ok (file.use call.usedFor call.uploaderId)),
        db.recordUse id call.usedFor call.uploaderId) := by
  have hfetch : fetchAttachment tag id db = .ok file := by
    rw [fetchAttachment, h]
    exact if_pos htag
  refine advance_of_ok (exec_bind_of_ok (a := file.use call.usedFor call.uploaderId) ?_ _)
  exact exec_bind_of_ok (exec_read_ok.mpr ⟨hfetch, rfl⟩) _

theorem succeeded_advanceMongo {phase : UsePhase} (h : phase.Succeeded) :
    (advanceMongo id tag call (phase, db)).1.Succeeded := by
  cases phase with
  | find => exact h.elim
  | update file => exact h.elim
  | done outcome => exact h

/-- A call that has found the file goes on to succeed. -/
theorem holds_advanceMongo {phase : UsePhase} (h : phase.Holds) :
    (advanceMongo id tag call (phase, db)).1.Holds := by
  cases phase with
  | find => exact h.elim
  | update file => exact trivial
  | done outcome => exact h

end UsePhase

/-! ### Many calls on one file -/

open UsePhase

section Calls

variable {ι : Type}

/-- How far the calls have come, and the store. -/
abbrev UseState (ι : Type) := Config ι (fun _ => UsePhase) ReferenceDb

/-- The system of the calls, all at their beginning. -/
def startUse (db : ReferenceDb) : UseState ι where
  phase _ := .find
  store := db

/-- At most one call succeeded, and its use is the one on record. -/
structure UsedOnce (id : String) (calls : ι → UseCall) (c : UseState ι) :
    Prop where
  once : ∀ i j, (c.phase i).Succeeded → (c.phase j).Succeeded → i = j
  recorded : ∀ i, (c.phase i).Succeeded →
    ∃ file, c.store.files.get? id = some file ∧ file.usedFor = some (calls i).usedFor

/-- A call looks the file up only when no other call is between its two steps. -/
def NoOverlap (c : UseState ι) (i : ι) : Prop :=
  c.phase i = .find → ∀ j, ¬ (c.phase j).Between

/-- The file is there, and a use on record is that of a call that succeeded. -/
def FileStored (id tag : String) (c : UseState ι) : Prop :=
  ∃ file, c.store.files.get? id = some file ∧ file.tag = tag ∧
    (file.usedFor = none ∨ ∃ i, (c.phase i).Succeeded)

/-- At most one call has found the file. -/
def HeldOnce (c : UseState ι) : Prop :=
  ∀ i j, (c.phase i).Holds → (c.phase j).Holds → i = j

variable {id tag : String} {calls : ι → UseCall} {c c' : UseState ι} {i : ι} {file : File}
  {db : ReferenceDb}

/-- An unused file has no call that succeeded, so only calls between their steps
hold it. -/
theorem UsedOnce.not_holds (h : UsedOnce id calls c) (hfile : c.store.files.get? id = some file)
    (hunused : file.usedFor = none) (hoverlap : ∀ j, ¬ (c.phase j).Between) (j : ι) :
    ¬ (c.phase j).Holds := by
  intro hj
  have hsucceeded : (c.phase j).Succeeded := hj.between_or_succeeded.resolve_left (hoverlap j)
  obtain ⟨file', hfile', hused⟩ := h.recorded j hsucceeded
  obtain rfl := some.inj (hfile.symm.trans hfile')
  rw [hunused] at hused
  cases hused

variable [DecidableEq ι]

/-- A step of a call on the MongoDB driver. -/
abbrev stepMongo (id tag : String) (calls : ι → UseCall) :=
  Config.step fun i => UsePhase.advanceMongo id tag (calls i)

/-- A step of a call on the in-memory driver. -/
abbrev stepReference (id tag : String) (calls : ι → UseCall) :=
  Config.step fun i => UsePhase.advanceReference id tag (calls i)

/-- **What a step does**, for a file that is there: the call finds the file, fails
to, records its use, or is over. -/
theorem stepMongo_cases (hstored : FileStored id tag c)
    (h : stepMongo id tag calls c i = some c') :
    (∃ file, c.store.files.get? id = some file ∧ file.usedFor = none ∧ c.phase i = .find ∧
        c'.phase i = .update file ∧ c'.store = c.store) ∨
    (c.phase i = .find ∧ (∃ e, c'.phase i = .done (.error e)) ∧ c'.store = c.store ∧
        ∃ j, (c.phase j).Succeeded) ∨
    (∃ file, c.phase i = .update file ∧ c'.phase i = .done (.ok file) ∧
        c'.store = c.store.recordUse id (calls i).usedFor (calls i).uploaderId) ∨
    (∃ outcome, c.phase i = .done outcome ∧ c'.phase i = .done outcome ∧ c'.store = c.store) := by
  obtain ⟨file, hfile, htag, hused⟩ := hstored
  have hphase := phase_of_step h
  have hstore := store_of_step h
  rcases hi : c.phase i with - | found | outcome
  · rw [hi] at hphase hstore
    rcases hunused : file.usedFor with - | usedFor
    · rw [advanceMongo_find_ok (findUnused_of_unused hfile htag hunused)] at hphase hstore
      exact .inl ⟨file, hfile, hunused, rfl, hphase, hstore⟩
    · obtain ⟨e, he⟩ := findUnused_of_used hfile (by simp [hunused]) tag
      rw [advanceMongo_find_error he] at hphase hstore
      refine .inr (.inl ⟨rfl, ⟨_, hphase⟩, hstore, hused.resolve_left ?_⟩)
      simp [hunused]
  · rw [hi, advanceMongo_update] at hphase hstore
    exact .inr (.inr (.inl ⟨found, rfl, hphase, hstore⟩))
  · rw [hi, advanceMongo_done] at hphase hstore
    exact .inr (.inr (.inr ⟨outcome, rfl, hphase, hstore⟩))

theorem fileStored_step (hstored : FileStored id tag c)
    (h : stepMongo id tag calls c i = some c') : FileStored id tag c' := by
  obtain ⟨file, hfile, htag, hused⟩ := hstored
  have hused' : file.usedFor = none ∨ ∃ j, (c'.phase j).Succeeded := by
    refine hused.imp_right fun ⟨j, hj⟩ => ⟨j, ?_⟩
    exact phase_keeps_step (fun _ _ => succeeded_advanceMongo) h hj
  rcases stepMongo_cases ⟨file, hfile, htag, hused⟩ h with
    ⟨-, -, -, -, -, hstore⟩ | ⟨-, -, hstore, -⟩ | ⟨found, -, hphase, hstore⟩ | ⟨-, -, -, hstore⟩
  case inr.inr.inl =>
    refine ⟨file.use (calls i).usedFor (calls i).uploaderId, ?_, htag, .inr ⟨i, ?_⟩⟩
    · rw [hstore]
      exact get?_recordUse hfile _ _
    · rw [hphase]
      exact trivial
  all_goals exact ⟨file, hstore ▸ hfile, htag, hused'⟩

/-- What holds while the calls do not overlap. -/
structure UsedInTurn (id tag : String) (calls : ι → UseCall)
    (c : UseState ι) : Prop where
  stored : FileStored id tag c
  held : HeldOnce c
  used : UsedOnce id calls c

omit [DecidableEq ι] in
/-- One call has the file for itself. -/
theorem UsedInTurn.of_only (i : ι) (hstored : FileStored id tag c)
    (honly : ∀ j, (c.phase j).Holds → j = i)
    (hrecorded : (c.phase i).Succeeded →
      ∃ file, c.store.files.get? id = some file ∧ file.usedFor = some (calls i).usedFor) :
    UsedInTurn id tag calls c where
  stored := hstored
  held j k hj hk := (honly j hj).trans (honly k hk).symm
  used := by
    refine ⟨fun j k hj hk => (honly j hj.holds).trans (honly k hk.holds).symm, fun j hj => ?_⟩
    obtain rfl := honly j hj.holds
    exact hrecorded hj

omit [DecidableEq ι] in
/-- Nobody has come to hold the file, and nothing was written. -/
theorem UsedInTurn.of_same (hc : UsedInTurn id tag calls c) (hstored : FileStored id tag c')
    (hstore : c'.store = c.store) (hsame : ∀ j, (c'.phase j).Holds → c'.phase j = c.phase j) :
    UsedInTurn id tag calls c' where
  stored := hstored
  held j k hj hk := hc.held j k (hsame j hj ▸ hj) (hsame k hk ▸ hk)
  used := by
    refine ⟨fun j k hj hk => ?_, fun j hj => ?_⟩
    · exact hc.used.once j k (hsame j hj.holds ▸ hj) (hsame k hk.holds ▸ hk)
    · rw [hstore]
      exact hc.used.recorded j (hsame j hj.holds ▸ hj)

theorem usedInTurn_step (hc : UsedInTurn id tag calls c) (hoverlap : NoOverlap c i)
    (h : stepMongo id tag calls c i = some c') : UsedInTurn id tag calls c' := by
  have hother : ∀ {j}, j ≠ i → c'.phase j = c.phase j := phase_of_step_ne h
  have hstored := fileStored_step hc.stored h
  rcases stepMongo_cases hc.stored h with
    ⟨file, hfile, hunused, hfind, hphase, hstore⟩ | ⟨-, ⟨e, hphase⟩, hstore, -⟩ |
    ⟨found, hupdate, hphase, hstore⟩ | ⟨outcome, hdone, hphase, hstore⟩
  · -- the call finds the file, which nobody held
    have hnone := hc.used.not_holds hfile hunused (hoverlap hfind)
    refine .of_only i hstored (fun j hj => ?_) (fun hi => ?_)
    · by_contra hne
      exact hnone j (hother hne ▸ hj)
    · rw [hphase] at hi
      exact hi.elim
  · refine hc.of_same hstored hstore fun j hj => hother ?_
    rintro rfl
    rw [hphase] at hj
    exact hj
  · -- the call held the file alone, and records its use
    have hi : (c.phase i).Holds := by rw [hupdate]; exact trivial
    refine .of_only i hstored (fun j hj => ?_) (fun _ => ?_)
    · by_contra hne
      exact hne (hc.held j i (hother hne ▸ hj) hi)
    · obtain ⟨file, hfile, -⟩ := hc.stored
      rw [hstore]
      exact ⟨_, get?_recordUse hfile _ _, rfl⟩
  · refine hc.of_same hstored hstore fun j _ => ?_
    by_cases hne : j = i
    · rw [hne, hphase, hdone]
    · exact hother hne

omit [DecidableEq ι] in
theorem usedInTurn_start (hfile : db.files.get? id = some file) (htag : file.tag = tag)
    (hunused : file.usedFor = none) (calls : ι → UseCall) :
    UsedInTurn id tag calls (startUse db) where
  stored := ⟨file, hfile, htag, .inl hunused⟩
  held _ _ h := h.elim
  used := ⟨fun _ _ h => h.elim, fun _ h => h.elim⟩

/-- Two calls that overlap both succeed in the end. -/
theorem exists_two_holders (hstored : FileStored id tag c) {j : ι}
    (hfind : c.phase i = .find) (hj : (c.phase j).Between)
    (h : stepMongo id tag calls c i = some c') :
    ∃ j k, j ≠ k ∧ (c'.phase j).Holds ∧ (c'.phase k).Holds := by
  have hji : j ≠ i := by
    rintro rfl
    rw [hfind] at hj
    exact hj
  have hj' : (c'.phase j).Holds := by
    rw [phase_of_step_ne h hji]
    exact hj.holds
  rcases stepMongo_cases hstored h with
    ⟨found, -, -, -, hphase, -⟩ | ⟨-, -, -, k, hk⟩ | ⟨found, hupdate, -⟩ | ⟨outcome, hdone, -⟩
  · refine ⟨j, i, hji, hj', ?_⟩
    rw [hphase]
    exact trivial
  · -- the file is in use already, by a call that succeeded
    refine ⟨j, k, ?_, hj', ?_⟩
    · rintro rfl
      exact hj.not_succeeded hk
    · exact phase_keeps_step (fun _ _ => holds_advanceMongo) h hk.holds
  · rw [hfind] at hupdate
    cases hupdate
  · rw [hfind] at hdone
    cases hdone

/-- With MongoDB the file is used once exactly when the calls do not overlap. -/
theorem usedOnce_mongo_iff (hfile : db.files.get? id = some file) (htag : file.tag = tag)
    (hunused : file.usedFor = none) {schedule : List ι}
    (hrun : run (stepMongo id tag calls) (startUse db) schedule = some c)
    (hfinished : ∀ i, (c.phase i).Finished) :
    UsedOnce id calls c ↔ EachStep (stepMongo id tag calls) NoOverlap (startUse db) schedule := by
  have hstart := usedInTurn_start hfile htag hunused calls
  constructor
  · intro honce l₁ i c₁ hpre hrun₁ hfind j hj
    -- two calls that hold the file from here on both succeed
    have hstored : FileStored id tag c₁ :=
      run_keeps (fun _ _ _ hc h => fileStored_step hc h) hrun₁ hstart.stored
    obtain ⟨c₂, l₂, hstep, hrun₂⟩ := exists_step_of_prefix hpre hrun₁ hrun
    obtain ⟨j, k, hne, hj, hk⟩ := exists_two_holders hstored hfind hj hstep
    have hend : ∀ {j}, (c₂.phase j).Holds → (c.phase j).Succeeded := fun {j} hj =>
      succeeded_of_holds (hfinished j)
        (phase_keeps (fun _ _ => holds_advanceMongo) hrun₂ hj)
    exact hne (honce.once j k (hend hj) (hend hk))
  · intro hsteps
    have halways := always_of_eachStep (P := UsedInTurn id tag calls)
      (fun _ _ _ hc hoverlap h => usedInTurn_step hc hoverlap h) hstart hsteps
    exact (halways schedule c List.prefix_rfl hrun).used

/-- With the in-memory driver every call has succeeded when it has taken its step. -/
theorem stepReference_stored (hfile : c.store.files.get? id = some file) (htag : file.tag = tag)
    (h : stepReference id tag calls c i = some c') :
    ∃ file', c'.store.files.get? id = some file' ∧ file'.tag = tag ∧
      ((c.phase i = .find ∧ (c'.phase i).Succeeded ∧ file'.usedFor = some (calls i).usedFor) ∨
        c'.phase i = c.phase i ∧ file' = file) := by
  have hphase := phase_of_step h
  have hstore := store_of_step h
  rcases hi : c.phase i with - | found | outcome
  · rw [hi, advanceReference_find hfile htag] at hphase hstore
    refine ⟨file.use (calls i).usedFor (calls i).uploaderId, ?_, htag, .inl ⟨rfl, ?_, rfl⟩⟩
    · rw [hstore]
      exact get?_recordUse hfile _ _
    · rw [hphase]
      exact trivial
  all_goals
    rw [hi] at hphase hstore
    exact ⟨file, by rw [hstore]; exact hfile, htag, .inr ⟨hphase, rfl⟩⟩

theorem fileTagged_stepReference
    (hc : ∃ file, c.store.files.get? id = some file ∧ file.tag = tag)
    (h : stepReference id tag calls c i = some c') :
    ∃ file, c'.store.files.get? id = some file ∧ file.tag = tag := by
  obtain ⟨file, hfile, htag⟩ := hc
  obtain ⟨file', hfile', htag', -⟩ := stepReference_stored hfile htag h
  exact ⟨file', hfile', htag'⟩

/-- With the in-memory driver all calls succeed, so the file is used once exactly
when there is one call only. -/
theorem usedOnce_reference_iff (hfile : db.files.get? id = some file) (htag : file.tag = tag)
    {schedule : List ι} (hrun : run (stepReference id tag calls) (startUse db) schedule = some c)
    (hfinished : ∀ i, (c.phase i).Finished) : UsedOnce id calls c ↔ Subsingleton ι := by
  have hkeep : ∀ {P : UseState ι → Prop},
      (∀ c i c', (∃ file, c.store.files.get? id = some file ∧ file.tag = tag) → P c →
        stepReference id tag calls c i = some c' → P c') → P (startUse db) → P c := by
    intro P hP hstart
    exact (run_keeps (P := fun c => (∃ file, c.store.files.get? id = some file ∧
      file.tag = tag) ∧ P c) (fun c i c' hc h => ⟨fileTagged_stepReference hc.1 h,
        hP c i c' hc.1 hc.2 h⟩) hrun ⟨⟨file, hfile, htag⟩, hstart⟩).2
  constructor
  · intro honce
    have hall : ∀ i, c.phase i = .find ∨ (c.phase i).Succeeded := by
      refine hkeep (P := fun c => ∀ i, c.phase i = .find ∨ (c.phase i).Succeeded) ?_
        fun i => .inl rfl
      intro c i c' ⟨file, hfile, htag⟩ hc h j
      by_cases hne : j = i
      · subst hne
        obtain ⟨-, -, -, ⟨-, hsucceeded, -⟩ | ⟨hphase, -⟩⟩ := stepReference_stored hfile htag h
        · exact .inr hsucceeded
        · rw [hphase]
          exact hc j
      · rw [phase_of_step_ne h hne]
        exact hc j
    have hsucceeded : ∀ i, (c.phase i).Succeeded := by
      intro i
      refine (hall i).resolve_left fun hfind => ?_
      have hfin := hfinished i
      rw [hfind] at hfin
      exact hfin
    exact ⟨fun i j => honce.once i j (hsucceeded i) (hsucceeded j)⟩
  · intro hsub
    refine ⟨fun i j _ _ => Subsingleton.elim i j, ?_⟩
    refine hkeep (P := fun c => ∀ i, (c.phase i).Succeeded → ∃ file,
      c.store.files.get? id = some file ∧ file.usedFor = some (calls i).usedFor) ?_
      fun i h => h.elim
    intro c i c' ⟨file, hfile, htag⟩ hc h j hj
    obtain rfl : j = i := Subsingleton.elim j i
    obtain ⟨file', hfile', -, ⟨-, -, hused⟩ | ⟨hphase, rfl⟩⟩ := stepReference_stored hfile htag h
    · exact ⟨file', hfile', hused⟩
    · rw [hphase] at hj
      obtain ⟨file₀, hfile₀, hused⟩ := hc j hj
      obtain rfl := some.inj (hfile.symm.trans hfile₀)
      exact ⟨_, hfile', hused⟩

/-- **A file is used at most once** by calls that have all finished, with MongoDB
exactly when no call looks the file up while another one is between its look up
and its write, and with the in-memory driver exactly when there is at most one
call. -/
theorem attachment_used_once_iff {ι : Type} [DecidableEq ι] (id tag : String)
    (calls : ι → UseCall) {db : ReferenceDb} {file : File}
    (hfile : db.files.get? id = some file) (htag : file.tag = tag)
    (hunused : file.usedFor = none) (schedule : List ι) :
    (∀ c, run (stepMongo id tag calls) (startUse db) schedule = some c →
      (∀ i, (c.phase i).Finished) →
        (UsedOnce id calls c ↔
          EachStep (stepMongo id tag calls) NoOverlap (startUse db) schedule)) ∧
    (∀ c, run (stepReference id tag calls) (startUse db) schedule = some c →
      (∀ i, (c.phase i).Finished) → (UsedOnce id calls c ↔ Subsingleton ι)) :=
  ⟨fun _ hrun hfinished => usedOnce_mongo_iff hfile htag hunused hrun hfinished,
    fun _ hrun hfinished => usedOnce_reference_iff hfile htag hrun hfinished⟩

end Calls

/-! ### Two calls -/

/-- An unused attachment. -/
def unusedFile : ReferenceDb where
  files := (∅ : Collection File.id).insert { id := "f", tag := "attachments" }

/-- Two messages want to use the file. -/
def twoMessages (second : Bool) : UseCall where
  usedFor := ⟨.message, if second then "m2" else "m1"⟩
  uploaderId := "u"

/-- One call after the other: the second one is refused. -/
theorem attachment_used_once_iff_inTurn :
    ∃ c, run (stepMongo "f" "attachments" twoMessages) (startUse unusedFile)
      [false, false, true, true] = some c ∧ UsedOnce "f" twoMessages c := by
  refine exists_run_of (fun c => ∀ i, (c.phase i).Finished) (by decide +kernel)
    fun c hrun hfinished => ((attachment_used_once_iff "f" "attachments" twoMessages rfl rfl rfl
      [false, false, true, true]).1 c hrun hfinished).mpr ?_
  unfold NoOverlap
  decide +kernel

/-- Two calls that look the file up before either writes both succeed with MongoDB,
and with the in-memory driver the second of two calls in turn succeeds as well. -/
theorem attachment_used_twice :
    (∃ c, run (stepMongo "f" "attachments" twoMessages) (startUse unusedFile)
        [false, true, false, true] = some c ∧
      ∀ i, (c.phase i).Succeeded) ∧
    ∃ c, run (stepReference "f" "attachments" twoMessages) (startUse unusedFile)
        [false, true] = some c ∧
      ∀ i, (c.phase i).Succeeded := by
  exact ⟨exists_run_decide (by decide +kernel), exists_run_decide (by decide +kernel)⟩

end DawnChat
