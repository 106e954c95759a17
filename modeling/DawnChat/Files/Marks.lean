/-
DawnChat/Files/Marks.lean

Marking files as deleted in the in-memory driver
(`core/database/src/models/files/ops/reference.rs`).

`mark_attachments_as_deleted` sets the mark of a report instead of the mark of a deletion, so
that the files are neither found as deleted nor left out of the dangling ones.
`markAttachmentsAsDeleted_iff` says for which files this makes no difference.
-/
import DawnChat.Database

namespace DawnChat

open RustStd Collection List Option

namespace ReferenceDb

/-- Fetch all deleted attachments. -/
def fetchDeletedAttachments (db : ReferenceDb) : List File :=
  db.files.documents.filter fun file => file.deleted = some true && file.reported ≠ some true

/-- Fetch all dangling attachments. -/
def fetchDanglingFiles (db : ReferenceDb) : List File :=
  db.files.documents.filter fun file => file.usedFor.isNone && file.deleted ≠ some true

/-- Mark a file as reported. -/
def report (files : Collection File.id) (id : String) : Collection File.id :=
  files.updateMany (·.id = id) (fun file => { file with reported := some true }) fun _ => rfl

/-- Mark multiple attachments as having been deleted. -/
def markAttachmentsAsDeleted (ids : List String) (db : ReferenceDb) : Result ReferenceDb :=
  if ids.any fun id => (db.files.get? id).isNone then .error .notFound
  else .ok { db with files := ids.foldl report db.files }

/-- The listed files are marked as deleted, and nothing else has changed. -/
structure MarkedDeleted (ids : List String) (db db' : ReferenceDb) : Prop where
  deleted : ∀ id ∈ ids, ∀ file, db.files.get? id = some file → file.reported ≠ some true →
    ∃ file' ∈ fetchDeletedAttachments db', file'.id = id
  dangling : ∀ file ∈ fetchDanglingFiles db', file.id ∉ ids
  reported : ∀ id, (db'.files.get? id).map (·.reported) = (db.files.get? id).map (·.reported)
  others : ∀ id ∉ ids, db'.files.get? id = db.files.get? id

theorem get?_foldl_report (ids : List String) (files : Collection File.id) (id : String) :
    (ids.foldl report files).get? id
      = (files.get? id).map fun file =>
          if id ∈ ids then { file with reported := some true } else file := by
  induction ids generalizing files with
  | nil => simp
  | cons head ids ih =>
    rw [foldl_cons, ih, report, get?_updateMany_key]
    by_cases hhead : id = head <;> simp [hhead, Function.comp_def]

/-- **Marking files as deleted** works exactly if all files are reported already, and each is
used or deleted already. -/
theorem markAttachmentsAsDeleted_iff (ids : List String) (db : ReferenceDb)
    (h : ∀ id ∈ ids, ∃ file, db.files.get? id = some file) :
    ∃ db', markAttachmentsAsDeleted ids db = .ok db' ∧
      (MarkedDeleted ids db db' ↔ ∀ id ∈ ids, ∀ file, db.files.get? id = some file →
        file.reported = some true ∧ (file.usedFor.isSome ∨ file.deleted = some true)) := by
  refine ⟨{ db with files := ids.foldl report db.files }, if_neg ?_, ?_⟩
  · simpa using fun id hid => ne_none_iff_exists'.mpr (h id hid)
  have hget := get?_foldl_report ids db.files
  constructor
  · intro hmarked id hid file hfile
    have hreported := hmarked.reported id
    rw [hget, hfile, map_some, if_pos hid] at hreported
    have hstored : { file with reported := some true } ∈ ids.foldl report db.files :=
      (get?_eq_some (k := id)).mp (by rw [hget, hfile, map_some, if_pos hid]) |>.1
    refine ⟨(some.inj hreported).symm, ?_⟩
    by_contra hnot
    obtain ⟨-, hid'⟩ := get?_eq_some.mp hfile
    refine hmarked.dangling _ (mem_filter.mpr ⟨hstored, ?_⟩) (hid' ▸ hid)
    simpa using hnot
  · intro hall
    -- the files that are marked had the mark already
    have hsame : ∀ id, (ids.foldl report db.files).get? id = db.files.get? id := by
      intro id
      rw [hget]
      rcases hfile : db.files.get? id with - | file
      · rfl
      · rw [map_some]
        split
        · next hid => rw [← (hall id hid file hfile).1]
        · rfl
    refine ⟨fun id hid file hfile hnot => absurd (hall id hid file hfile).1 hnot, ?_, ?_, ?_⟩
    · intro file hfile hid
      obtain ⟨hmem, hdangling⟩ := mem_filter.mp hfile
      have hkept := (hall _ hid file ((hsame _).symm.trans (get?_key hmem))).2
      obtain ⟨hunused, hlive⟩ : file.usedFor = none ∧ file.deleted ≠ some true := by
        simpa using hdangling
      rcases hkept with hused | hdeleted
      · rw [hunused] at hused
        cases hused
      · exact hlive hdeleted
    · exact fun id => congrArg _ (hsame id)
    · exact fun id _ => hsame id

theorem markAttachmentsAsDeleted_iff_used :
    let file : File := { id := "f", usedFor := some ⟨.message, "m"⟩, reported := some true }
    let db : ReferenceDb := { files := (∅ : Collection File.id).insert file }
    ∃ db', markAttachmentsAsDeleted ["f"] db = .ok db' ∧ MarkedDeleted ["f"] db db' := by
  intro file db
  have hfile : ∀ id ∈ ["f"], db.files.get? id = some file := by simp [db, file, get?_insert]
  obtain ⟨db', hdb', hiff⟩ := markAttachmentsAsDeleted_iff ["f"] db fun id hid => ⟨_, hfile id hid⟩
  refine ⟨db', hdb', hiff.mpr fun id hid file' hfile' => ?_⟩
  obtain rfl := some.inj ((hfile id hid).symm.trans hfile')
  exact ⟨rfl, .inl rfl⟩

/-- **A file that is not marked as deleted**, but as reported. -/
theorem marked_file_reported :
    let db : ReferenceDb := { files := (∅ : Collection File.id).insert { id := "f" } }
    ∃ db', markAttachmentsAsDeleted ["f"] db = .ok db' ∧
      fetchDeletedAttachments db' = [] ∧
      fetchDanglingFiles db' = [{ id := "f", reported := some true }] := by
  exact ⟨_, rfl, by decide, by decide⟩

end ReferenceDb

end DawnChat
