/-
DawnChat/Files/Storage.lean

Uploads and the deletion task (`services/autumn/src/api.rs`,
`daemons/crond/src/tasks/file_deletion.rs`).

The blob of a file lies in S3, the hash entry of the file says where, and files with
the same content share the entry.  An upload looks for an entry with its hash; if the
entry is complete it only adds a file, otherwise it adds the entry, uploads the blob,
completes the entry and adds the file.  The deletion task goes through the files that
are marked as deleted; when no other file refers to the same hash it deletes the blob
and the entry, and in any case the file.  Every query and every S3 request is one
atomic step, and nothing holds the steps of an upload or of the task together.

The task decides to delete when it counts, and an upload decides to reuse when it looks for
an entry.  If no upload holds on to a hash when the task counts its references, and none looks
for it until the entry is gone, then the count is right and no file loses its blob
(`noBlobLost_of_orderly`).  The lookup also matches the processed hashes of other entries, so
these must not stand in the way either.
-/
import DawnChat.Files.Use
import Mathlib.Data.Finset.Insert

namespace DawnChat

open RustStd Fallible Handler Run Interleave Option Except

/-- Place of a blob: bucket and path. -/
abbrev BlobPlace := String × String

def FileHash.place (hash : FileHash) : BlobPlace := (hash.bucketId, hash.path)

/-- The database and the objects in S3. -/
structure BlobStorage where
  db : ReferenceDb
  objects : Finset BlobPlace := ∅

/-! ### Queries of the MongoDB driver -/

namespace MongoDb

/-- Insert attachment into database. -/
def insertAttachment (attachment : File) (db : ReferenceDb) : Result ReferenceDb :=
  match db.files.get? attachment.id with
  | some _ => .error (.databaseError "insert_one" "attachments")
  | none => .ok { db with files := db.files.insert attachment }

/-- Fetch all deleted attachments. -/
def fetchDeletedAttachments (db : ReferenceDb) : List File :=
  db.files.documents.filter fun file => file.deleted = some true && file.reported ≠ some true

/-- Count references to a given hash. -/
def countFileHashReferences (hash : String) (db : ReferenceDb) : Nat :=
  (db.files.documents.filter (·.hash = some hash)).length

/-- Delete the attachment entry. -/
def deleteAttachment (id : String) (db : ReferenceDb) : ReferenceDb :=
  { db with files := db.files.retain (·.id ≠ id) }

/-- Insert a new attachment hash into the database. -/
def insertAttachmentHash (hash : FileHash) (db : ReferenceDb) : Result ReferenceDb :=
  match db.fileHashes.get? hash.id with
  | some _ => .error (.databaseError "insert_one" "attachment_hashes")
  | none => .ok { db with fileHashes := db.fileHashes.insert hash }

/-- Fetch an attachment hash entry by sha256 hash: that of the file, or that of the
file after it has been processed. -/
def fetchAttachmentHash (hash : String) (db : ReferenceDb) : Result FileHash :=
  ReferenceDb.findOne db.fileHashes.documents fun entry =>
    entry.id = hash || entry.processedHash = hash

/-- Update an attachment hash nonce value. -/
def setAttachmentHashNonce (hash nonce : String) (db : ReferenceDb) : ReferenceDb :=
  { db with
    fileHashes := db.fileHashes.updateMany (·.id = hash) ({ · with iv := nonce }) fun _ => rfl }

/-- Delete attachment hash by id. -/
def deleteAttachmentHash (id : String) (db : ReferenceDb) : ReferenceDb :=
  { db with fileHashes := db.fileHashes.retain (·.id ≠ id) }

end MongoDb

namespace BlobStorage

/-- Run a write on the database. -/
def onDb (f : ReferenceDb → Result ReferenceDb) : Request BlobStorage Unit :=
  write fun s => (f s.db).map fun db => { s with db := db }

/-- Upload a blob. -/
def uploadToS3 (place : BlobPlace) : Request BlobStorage Unit :=
  write fun s => .ok { s with objects := insert place s.objects }

/-- Delete a blob; deleting what is not there is no error. -/
def deleteFromS3 (place : BlobPlace) : Request BlobStorage Unit :=
  write fun s => .ok { s with objects := s.objects.erase place }

end BlobStorage

/-! ### An upload, step by step -/

/-- An upload after its first checks.  Sha256 hashes and the file id are given. -/
structure UploadCall where
  /-- The generated id of the file. -/
  id : String
  tag : String := "attachments"
  filename : String := "unnamed-file"
  userId : String
  originalHash : String
  processedHash : String
  /-- Stripping the metadata and scanning for malware. -/
  processed : Result Unit := .ok ()
  defaultBucket : String
  /-- The nonce that the blob is encrypted with. -/
  nonce : String

namespace UploadCall

/-- The hash entry that the upload creates. -/
def fileHash (call : UploadCall) : FileHash where
  id := call.originalHash
  processedHash := call.processedHash
  bucketId := call.defaultBucket
  path := call.originalHash
  iv := ""

/-- The file that the upload creates for a hash entry. -/
def file (call : UploadCall) (hash : FileHash) : File :=
  hash.intoFile call.id call.tag call.filename call.userId

end UploadCall

/-- How far an upload has come. -/
inductive UploadPhase where
  /-- Find an existing hash and use that if possible. -/
  | lookup
  /-- Create the file for a complete entry. -/
  | reuse (hash : FileHash)
  | insertHash
  | uploadBlob
  | setNonce
  | insertFile
  | done (outcome : Except (Fault ErrorType) String)
  deriving DecidableEq

open MongoDb BlobStorage

/-- The next step of an upload. -/
def UploadPhase.next (call : UploadCall) : UploadPhase → Request BlobStorage UploadPhase
  | .lookup => do
      let s ← get
      match fetchAttachmentHash call.originalHash s.db with
      | .ok hash =>
        if hash.iv ≠ "" then pure (.reuse hash)
        else do
          ofExcept call.processed
          pure .uploadBlob
      | .error _ => do
          ofExcept call.processed
          pure .insertHash
  | .reuse hash => do
      onDb (insertAttachment (call.file hash))
      pure (.done (.ok call.id))
  | .insertHash => do
      onDb (insertAttachmentHash call.fileHash)
      pure .uploadBlob
  | .uploadBlob => do
      uploadToS3 call.fileHash.place
      pure .setNonce
  | .setNonce => do
      onDb fun db => .ok (setAttachmentHashNonce call.fileHash.id call.nonce db)
      pure .insertFile
  | .insertFile => do
      onDb (insertAttachment (call.file call.fileHash))
      pure (.done (.ok call.id))
  | .done outcome => pure (.done outcome)

/-! ### The deletion task, step by step -/

/-- How far the task has come: with one file and the files after it. -/
inductive TaskPhase where
  | fetchDeleted
  | count (file : File) (rest : List File)
  | fetchHash (file : File) (rest : List File)
  | deleteBlob (file : File) (rest : List File) (hash : FileHash)
  | deleteHash (file : File) (rest : List File) (hash : FileHash)
  | deleteFile (file : File) (rest : List File)
  /-- The task has ended with an error or a panic. -/
  | ended (fault : Fault ErrorType)
  deriving DecidableEq

namespace TaskPhase

/-- Go on with the next file, or with the next round. -/
def nextFile : List File → TaskPhase
  | [] => .fetchDeleted
  | file :: rest => .count file rest

/-- The next step of the task. -/
def next : TaskPhase → Request BlobStorage TaskPhase
  | .fetchDeleted => do
      let s ← get
      pure (nextFile (fetchDeletedAttachments s.db))
  | .count file rest => do
      let hash ← ofOption file.hash
      let s ← get
      -- no other files reference this file on disk anymore
      if countFileHashReferences hash s.db ≤ 1 then pure (.fetchHash file rest)
      else pure (.deleteFile file rest)
  | .fetchHash file rest => do
      let hash ← ofOption file.hash
      let fileHash ← read fun s => fetchAttachmentHash hash s.db
      pure (.deleteBlob file rest fileHash)
  | .deleteBlob file rest fileHash => do
      deleteFromS3 fileHash.place
      pure (.deleteHash file rest fileHash)
  | .deleteHash file rest fileHash => do
      onDb fun db => .ok (deleteAttachmentHash fileHash.id db)
      pure (.deleteFile file rest)
  | .deleteFile file rest => do
      onDb fun db => .ok (deleteAttachment file.id db)
      pure (nextFile rest)
  | .ended fault => pure (.ended fault)

end TaskPhase

/-! ### Any number of uploads and the task -/

/-- The task or one of the uploads. -/
inductive Actor (ι : Type) where
  | task
  | upload (i : ι)
  deriving DecidableEq

abbrev Actor.Phase {ι : Type} : Actor ι → Type
  | .task => TaskPhase
  | .upload _ => UploadPhase

section System

variable {ι : Type}

/-- How far the task and the uploads have come, and the storage. -/
abbrev StorageState (ι : Type) := Config (Actor ι) Actor.Phase BlobStorage

/-- A step of the task or of an upload. -/
def Actor.advance (calls : ι → UploadCall) :
    (actor : Actor ι) → actor.Phase × BlobStorage → actor.Phase × BlobStorage
  | .task => Interleave.advance TaskPhase.next .ended
  | .upload i => Interleave.advance (UploadPhase.next (calls i)) fun e => .done (.error e)

variable [DecidableEq ι]

abbrev stepStorage (calls : ι → UploadCall) := Config.step (Actor.advance calls)

/-- The task is between two rounds and the uploads are about to begin. -/
def startStorage (s : BlobStorage) : StorageState ι where
  phase
    | .task => .fetchDeleted
    | .upload _ => .lookup
  store := s

end System

/-! ### What a step does -/

/-- A step of an upload. -/
inductive UploadPhase.Step (call : UploadCall) (s : BlobStorage) :
    UploadPhase → UploadPhase → BlobStorage → Prop
  | complete {hash : FileHash} (hfetch : fetchAttachmentHash call.originalHash s.db = .ok hash)
      (hiv : hash.iv ≠ "") : Step call s .lookup (.reuse hash) s
  | incomplete {hash : FileHash} (hfetch : fetchAttachmentHash call.originalHash s.db = .ok hash)
      (hiv : hash.iv = "") : Step call s .lookup .uploadBlob s
  | unknown : Step call s .lookup .insertHash s
  | insertFile {phase : UploadPhase} {hash : FileHash}
      (hphase : phase = .reuse hash ∨ phase = .insertFile ∧ hash = call.fileHash)
      (hnew : s.db.files.get? call.id = none) :
      Step call s phase (.done (.ok call.id))
        { s with db := { s.db with files := s.db.files.insert (call.file hash) } }
  | insertHash (hnew : s.db.fileHashes.get? call.originalHash = none) :
      Step call s .insertHash .uploadBlob
        { s with db := { s.db with fileHashes := s.db.fileHashes.insert call.fileHash } }
  | uploadBlob :
      Step call s .uploadBlob .setNonce
        { s with objects := insert call.fileHash.place s.objects }
  | setNonce :
      Step call s .setNonce .insertFile
        { s with db := setAttachmentHashNonce call.originalHash call.nonce s.db }
  | ends {phase : UploadPhase} (outcome : Except (Fault ErrorType) String) :
      Step call s phase (.done outcome) s

/-- The hash whose blob the task has deleted, but not the entry yet. -/
def TaskPhase.blobGone : TaskPhase → Option String
  | .deleteHash _ _ hash => some hash.id
  | _ => none

/-- A step of the task. -/
inductive TaskPhase.Step (s : BlobStorage) : TaskPhase → TaskPhase → BlobStorage → Prop
  | fetchDeleted : Step s .fetchDeleted (nextFile (fetchDeletedAttachments s.db)) s
  | unreferenced {file : File} {rest : List File} {k : String} (hk : file.hash = some k)
      (hcount : countFileHashReferences k s.db ≤ 1) :
      Step s (.count file rest) (.fetchHash file rest) s
  | referenced {file : File} {rest : List File} :
      Step s (.count file rest) (.deleteFile file rest) s
  | fetchHash {file : File} {rest : List File} {k : String} {hash : FileHash}
      (hk : file.hash = some k) (hfetch : fetchAttachmentHash k s.db = .ok hash) :
      Step s (.fetchHash file rest) (.deleteBlob file rest hash) s
  | deleteBlob {file : File} {rest : List File} {hash : FileHash} :
      Step s (.deleteBlob file rest hash) (.deleteHash file rest hash)
        { s with objects := s.objects.erase hash.place }
  | deleteHash {file : File} {rest : List File} {hash : FileHash} :
      Step s (.deleteHash file rest hash) (.deleteFile file rest)
        { s with db := deleteAttachmentHash hash.id s.db }
  | deleteFile {file : File} {rest : List File} :
      Step s (.deleteFile file rest) (nextFile rest)
        { s with db := deleteAttachment file.id s.db }
  | ends {phase : TaskPhase} (hphase : phase.blobGone = none) (fault : Fault ErrorType) :
      Step s phase (.ended fault) s

section Steps

variable {s : BlobStorage} {call : UploadCall}

theorem insertAttachment_ok {s' : BlobStorage} {file : File}
    (h : ((insertAttachment file s.db).map fun db => { s with db := db }) = .ok s') :
    s.db.files.get? file.id = none ∧
      s' = { s with db := { s.db with files := s.db.files.insert file } } := by
  rw [insertAttachment] at h
  split at h
  · cases h
  · next hnew => exact ⟨hnew, (ok.inj h).symm⟩

theorem UploadPhase.step_advance (phase : UploadPhase) :
    Step call s phase (advance (next call) (fun e => .done (.error e)) (phase, s)).1
      (advance (next call) (fun e => .done (.error e)) (phase, s)).2 := by
  have hends : ∀ {phase} (e : Fault ErrorType), Step call s phase (.done (.error e)) s :=
    fun e => .ends _
  cases phase with
  | lookup =>
    have : ReadOnly (next call .lookup) := .andThen fun s => by split <;> infer_instance
    refine of_advance_read hends fun phase' hexec => ?_
    rw [next, exec_get_bind] at hexec
    split at hexec
    · next hash hfetch =>
      split at hexec
      · next hiv =>
        obtain rfl := (exec_pure_ok.mp hexec).1
        exact .complete hfetch hiv
      · next hiv =>
        obtain ⟨_, -, hexec⟩ := exec_ofExcept_bind_ok.mp hexec
        obtain rfl := (exec_pure_ok.mp hexec).1
        exact .incomplete hfetch (not_not.mp hiv)
    · obtain ⟨_, -, hexec⟩ := exec_ofExcept_bind_ok.mp hexec
      obtain rfl := (exec_pure_ok.mp hexec).1
      exact .unknown
  | reuse hash =>
    refine of_advance_write rfl hends fun s' h => ?_
    obtain ⟨hnew, rfl⟩ := insertAttachment_ok h
    exact .insertFile (.inl rfl) hnew
  | insertHash =>
    refine of_advance_write rfl hends fun s' h => ?_
    rw [insertAttachmentHash] at h
    split at h
    · cases h
    · next hnew =>
      obtain rfl := ok.inj h
      exact .insertHash hnew
  | uploadBlob => exact .uploadBlob
  | setNonce => exact .setNonce
  | insertFile =>
    refine of_advance_write rfl hends fun s' h => ?_
    obtain ⟨hnew, rfl⟩ := insertAttachment_ok h
    exact .insertFile (.inr ⟨rfl, rfl⟩) hnew
  | done outcome => exact .ends outcome

theorem TaskPhase.step_advance (phase : TaskPhase) :
    Step s phase (advance next .ended (phase, s)).1 (advance next .ended (phase, s)).2 := by
  cases phase with
  | fetchDeleted => exact .fetchDeleted
  | count file rest =>
    have : ReadOnly (next (.count file rest)) := by
      unfold next
      infer_instance
    refine of_advance_read (.ends rfl) fun phase' hexec => ?_
    obtain ⟨k, hk, hexec⟩ := exec_ofOption_bind_ok.mp hexec
    rw [exec_get_bind] at hexec
    split at hexec
    · next hcount =>
      obtain rfl := (exec_pure_ok.mp hexec).1
      exact .unreferenced hk hcount
    · obtain rfl := (exec_pure_ok.mp hexec).1
      exact .referenced
  | fetchHash file rest =>
    have : ReadOnly (next (.fetchHash file rest)) := by
      unfold next
      infer_instance
    refine of_advance_read (.ends rfl) fun phase' hexec => ?_
    obtain ⟨k, hk, hexec⟩ := exec_ofOption_bind_ok.mp hexec
    obtain ⟨hash, hfetch, hexec⟩ := exec_read_bind_ok.mp hexec
    obtain rfl := (exec_pure_ok.mp hexec).1
    exact .fetchHash hk hfetch
  | deleteBlob file rest hash => exact .deleteBlob
  | deleteHash file rest hash => exact .deleteHash
  | deleteFile file rest => exact .deleteFile
  | ended fault => exact .ends rfl fault

end Steps

/-! ### Keeping the uploads and the task apart -/

/-- The hash that an upload has looked up and has not referred to yet. -/
def UploadPhase.holds (call : UploadCall) : UploadPhase → Option String
  | .lookup => none
  | .reuse hash => some hash.id
  | .done _ => none
  | _ => some call.originalHash

/-- The hash whose entry the task has decided to delete. -/
def TaskPhase.removing : TaskPhase → Option String
  | .fetchHash file _ => file.hash
  | .deleteBlob _ _ hash => some hash.id
  | .deleteHash _ _ hash => some hash.id
  | _ => none

/-- The entry that the task has fetched lies under its own hash. -/
def TaskPhase.CopyOk : TaskPhase → Prop
  | .deleteBlob _ _ hash => hash.path = hash.id
  | _ => True

/-- The files that the task has fetched and not deleted yet. -/
def TaskPhase.pending : TaskPhase → List File
  | .fetchDeleted | .ended _ => []
  | .count file rest | .fetchHash file rest | .deleteFile file rest
  | .deleteBlob file rest _ | .deleteHash file rest _ => file :: rest

/-- What the lookup of an upload can find while the task has decided to delete an entry: not
that entry, and an incomplete one only if the upload would create it in the same way. -/
def UploadCall.Free (call : UploadCall) (removing : Option String) (db : ReferenceDb) : Prop :=
  removing ≠ some call.originalHash ∧ ∀ entry ∈ db.fileHashes.documents,
    entry.id = call.originalHash ∨ entry.processedHash = call.originalHash →
    removing ≠ some entry.id ∧ (entry.iv = "" →
      entry.id = call.originalHash ∧ entry.place = call.fileHash.place)

section Apart

variable {ι : Type}

/-- What a task that decides must not meet, with the hashes that the uploads hold. -/
def TaskPhase.Undisturbed (held : ι → Option String) (db : ReferenceDb) : TaskPhase → Prop
  -- no upload is about to refer to the hash whose references are counted
  | .count file _ => ∀ i, ∀ k ∈ file.hash, held i ≠ some k
  -- no other content has been processed to this one
  | .fetchHash file _ => ∀ k ∈ file.hash, ∀ entry ∈ db.fileHashes.documents,
      entry.processedHash = k → entry.id = k
  | _ => True

def taskPhase (c : StorageState ι) : TaskPhase := c.phase .task

def uploadPhase (c : StorageState ι) (i : ι) : UploadPhase := c.phase (.upload i)

/-- The hash that an upload has looked up and has not referred to yet. -/
def held (calls : ι → UploadCall) (c : StorageState ι) (i : ι) : Option String :=
  (uploadPhase c i).holds (calls i)

/-- **The steps that decide do not get in each other's way.** -/
def Orderly (calls : ι → UploadCall) (c : StorageState ι) : Actor ι → Prop
  | .task => (taskPhase c).Undisturbed (held calls c) c.store.db
  | .upload i => uploadPhase c i = .lookup → (calls i).Free (taskPhase c).removing c.store.db

end Apart

/-! ### What the steps keep -/

/-- A hash has its entry and its blob. -/
def Backed (s : BlobStorage) (k : String) : Prop :=
  ∃ hash ∈ s.db.fileHashes.get? k, hash.place ∈ s.objects

/-- The file has its hash entry and its blob. -/
def HasBlob (s : BlobStorage) (file : File) : Prop := ∃ k ∈ file.hash, Backed s k

instance (s : BlobStorage) (file : File) : Decidable (HasBlob s file) :=
  inferInstanceAs (Decidable (∃ k ∈ file.hash, ∃ hash ∈ s.db.fileHashes.get? k, _))

/-- Every file that is not marked as deleted has its hash entry and its blob. -/
def NoBlobLost (s : BlobStorage) : Prop :=
  ∀ file ∈ s.db.files, file.deleted ≠ some true → HasBlob s file

instance : DecidablePred NoBlobLost := fun s =>
  inferInstanceAs (Decidable (∀ file ∈ s.db.files.documents, file.deleted ≠ some true →
    HasBlob s file))

/-- The entries lie under their own hash, and those that are complete have their blob, except
for one. -/
def Entries (gone : Option String) (s : BlobStorage) : Prop :=
  ∀ k entry, s.db.fileHashes.get? k = some entry →
    entry.path = k ∧ (entry.iv ≠ "" → entry.place ∈ s.objects ∨ gone = some k)

/-- The entry of a hash says that the blob lies at a place. -/
def LiesAt (s : BlobStorage) (k : String) (place : BlobPlace) : Prop :=
  ∃ entry, s.db.fileHashes.get? k = some entry ∧ entry.place = place

/-- What an upload relies on until it has inserted its file. -/
def UploadPhase.Relies (call : UploadCall) (s : BlobStorage) : UploadPhase → Prop
  | .reuse hash => Backed s hash.id
  | .uploadBlob => LiesAt s call.originalHash call.fileHash.place
  | .setNonce => Backed s call.originalHash
  | .insertFile => Backed s call.originalHash
  | _ => True

/-- The entries and the blobs of all hashes but one are still there. -/
structure Keeps (removed : Option String) (s s' : BlobStorage) : Prop where
  entry : ∀ {k place}, removed ≠ some k → LiesAt s k place → LiesAt s' k place
  blob : ∀ {place : BlobPlace}, removed ≠ some place.2 → place ∈ s.objects → place ∈ s'.objects

section Keeps

variable {s s' : BlobStorage} {removed gone : Option String} {call : UploadCall}
  {phase phase' : UploadPhase} {file : File} {task task' : TaskPhase}

theorem TaskPhase.blobGone_nextFile (files : List File) : (nextFile files).blobGone = none := by
  cases files <;> rfl

theorem TaskPhase.removing_nextFile (files : List File) : (nextFile files).removing = none := by
  cases files <;> rfl

theorem TaskPhase.copyOk_nextFile (files : List File) : (nextFile files).CopyOk := by
  cases files <;> trivial

theorem TaskPhase.pending_nextFile (files : List File) : (nextFile files).pending = files := by
  cases files <;> rfl

theorem TaskPhase.removing_of_blobGone {k : String} (h : task.blobGone = some k) :
    task.removing = some k := by
  cases task with
  | deleteHash => exact h
  | _ => cases h

theorem get?_setAttachmentHashNonce (hash nonce : String) (db : ReferenceDb) (k : String) :
    (setAttachmentHashNonce hash nonce db).fileHashes.get? k
      = if k = hash then (db.fileHashes.get? k).map ({ · with iv := nonce })
        else db.fileHashes.get? k :=
  Collection.get?_updateMany_key db.fileHashes hash ({ · with iv := nonce }) (fun _ => rfl) k

theorem Keeps.refl (removed : Option String) (s : BlobStorage) : Keeps removed s s :=
  ⟨fun _ h => h, fun _ h => h⟩

theorem Keeps.backed (hkeeps : Keeps removed s s') (hs : Entries gone s) {k : String}
    (hne : removed ≠ some k) (h : Backed s k) : Backed s' k := by
  obtain ⟨entry, hentry, hplace⟩ := h
  obtain ⟨entry', hentry', hsame⟩ := hkeeps.entry hne ⟨entry, hentry, rfl⟩
  refine ⟨entry', hentry', hsame ▸ hkeeps.blob ?_ hplace⟩
  have hpath : entry.place.2 = k := (hs k entry hentry).1
  rwa [hpath]

theorem Keeps.relies (hkeeps : Keeps removed s s') (hs : Entries gone s)
    (hne : ∀ k, removed = some k → phase.holds call ≠ some k) (h : phase.Relies call s) :
    phase.Relies call s' := by
  have hheld : ∀ {k}, phase.holds call = some k → removed ≠ some k :=
    fun hk hremoved => hne _ hremoved hk
  cases phase with
  | uploadBlob => exact hkeeps.entry (hheld rfl) h
  | reuse | setNonce | insertFile => exact hkeeps.backed hs (hheld rfl) h
  | _ => trivial

theorem Keeps.hasBlob (hkeeps : Keeps removed s s') (hs : Entries gone s)
    (hne : ∀ k, removed = some k → file.hash ≠ some k) (h : HasBlob s file) : HasBlob s' file := by
  obtain ⟨k, hk, hbacked⟩ := h
  exact ⟨k, hk, hkeeps.backed hs (fun hremoved => hne k hremoved hk) hbacked⟩

/-- An upload takes nothing away. -/
theorem UploadPhase.Step.keeps (h : Step call s phase phase' s') : Keeps none s s' := by
  cases h with
  | insertHash hnew =>
    refine ⟨fun _ hlies => ?_, fun _ h => h⟩
    obtain ⟨entry, hentry, hplace⟩ := hlies
    refine ⟨entry, ?_, hplace⟩
    rw [Collection.get?_insert, if_neg, hentry]
    rintro rfl
    cases hnew.symm.trans hentry
  | uploadBlob => exact ⟨fun _ h => h, fun _ h => Finset.mem_insert_of_mem h⟩
  | setNonce =>
    refine ⟨fun _ hlies => ?_, fun _ h => h⟩
    obtain ⟨entry, hentry, hplace⟩ := hlies
    rw [LiesAt, get?_setAttachmentHashNonce]
    split
    · exact ⟨_, congrArg (Option.map _) hentry, hplace⟩
    · exact ⟨entry, hentry, hplace⟩
  | insertFile => exact ⟨fun _ h => h, fun _ h => h⟩
  | _ => exact .refl _ _

/-- The task takes away what it has decided to delete. -/
theorem TaskPhase.Step.keeps (h : Step s task task' s') (hcopy : task.CopyOk) :
    Keeps task.removing s s' := by
  cases h with
  | deleteBlob =>
    refine ⟨fun _ h => h, fun hne h => Finset.mem_erase.mpr ⟨?_, h⟩⟩
    rintro rfl
    exact hne (congrArg some hcopy.symm)
  | deleteHash =>
    refine ⟨fun hne hlies => ?_, fun _ h => h⟩
    obtain ⟨entry, hentry, hplace⟩ := hlies
    refine ⟨entry, ?_, hplace⟩
    rw [deleteAttachmentHash, Collection.get?_retain_key, if_neg, hentry]
    exact fun hk => hne (congrArg some hk.symm)
  | deleteFile => exact ⟨fun _ h => h, fun _ h => h⟩
  | _ => exact .refl _ _

/-- The entries after a step of an upload. -/
theorem Entries.upload_step (hs : Entries gone s) (hrelies : phase.Relies call s)
    (h : UploadPhase.Step call s phase phase' s') : Entries gone s' := by
  cases h with
  | insertHash hnew =>
    intro k entry hentry
    rw [Collection.get?_insert] at hentry
    split at hentry
    · next hk =>
      obtain rfl := some.inj hentry
      exact ⟨hk.symm, absurd rfl⟩
    · exact hs k entry hentry
  | uploadBlob =>
    refine fun k entry hentry => (hs k entry hentry).imp_right fun h hiv => ?_
    exact (h hiv).imp_left Finset.mem_insert_of_mem
  | setNonce =>
    obtain ⟨stored, hstored, hplace⟩ := hrelies
    intro k entry hentry
    rw [get?_setAttachmentHashNonce] at hentry
    split at hentry
    · next hk =>
      rw [hk, hstored] at hentry
      obtain rfl := some.inj hentry
      exact ⟨hk ▸ (hs _ stored hstored).1, fun _ => .inl hplace⟩
    · exact hs k entry hentry
  | _ => exact hs

/-- The entries after a step of the task. -/
theorem Entries.task_step (hs : Entries task.blobGone s) (h : TaskPhase.Step s task task' s')
    (hcopy : task.CopyOk) : Entries task'.blobGone s' := by
  cases h with
  | @deleteBlob file rest hash =>
    intro k entry hentry
    obtain ⟨hpath, hcomplete⟩ := hs k entry hentry
    refine ⟨hpath, fun hiv => ?_⟩
    by_cases hk : hash.id = k
    · exact .inr (congrArg some hk)
    · have hplace := (hcomplete hiv).resolve_right nofun
      refine .inl (Finset.mem_erase.mpr ⟨fun hsame => hk ?_, hplace⟩)
      rw [← hcopy, ← hpath]
      exact (congrArg Prod.snd hsame).symm
  | deleteHash =>
    intro k entry hentry
    rw [deleteAttachmentHash, Collection.get?_retain_key] at hentry
    split at hentry
    · cases hentry
    · next hk =>
      refine (hs k entry hentry).imp_right fun h hiv => (h hiv).imp_right fun hgone => ?_
      exact absurd (some.inj hgone).symm hk
  | fetchDeleted | deleteFile =>
    rw [TaskPhase.blobGone_nextFile]
    exact hs
  | ends hphase fault => rwa [hphase] at hs
  | _ => exact hs

/-- The files after a step of an upload: one of them may be new, and refers to the hash that the
upload holds. -/
theorem UploadPhase.Step.mem_files (h : Step call s phase phase' s') (hfile : file ∈ s'.db.files) :
    file ∈ s.db.files ∨
      file.hash = phase.holds call ∧ (phase.Relies call s → HasBlob s' file) := by
  cases h with
  | insertFile hphase hnew =>
    have hget := Collection.get?_key hfile
    rw [Collection.get?_insert] at hget
    split at hget
    · obtain rfl := some.inj hget
      obtain rfl | ⟨rfl, rfl⟩ := hphase <;> exact .inr ⟨rfl, fun hbacked => ⟨_, rfl, hbacked⟩⟩
    · exact .inl (Collection.get?_eq_some.mp hget).1
  | _ => exact .inl hfile

/-- An upload deletes no file. -/
theorem UploadPhase.Step.files_subset (h : Step call s phase phase' s')
    (hfile : file ∈ s.db.files) : file ∈ s'.db.files := by
  cases h with
  | insertFile hphase hnew =>
    refine (Collection.get?_eq_some (k := file.id)).mp ?_ |>.1
    rw [Collection.get?_insert, if_neg, Collection.get?_key hfile]
    intro (hid : file.id = call.id)
    have hget : s.db.files.get? call.id = some file := hid ▸ Collection.get?_key hfile
    cases hnew.symm.trans hget
  | _ => exact hfile

/-- The task adds no file. -/
theorem TaskPhase.Step.mem_files (h : Step s task task' s') (hfile : file ∈ s'.db.files) :
    file ∈ s.db.files := by
  cases h with
  | deleteFile => exact (Collection.mem_retain.mp hfile).1
  | _ => exact hfile

theorem TaskPhase.Step.copyOk (h : Step s task task' s') (hs : Entries gone s)
    (hcopy : task.CopyOk) : task'.CopyOk := by
  cases h with
  | fetchHash hk hfetch =>
    exact (hs _ _ (Collection.get?_key (ReferenceDb.findOne_ok hfetch).1)).1
  | fetchDeleted | deleteFile => exact copyOk_nextFile _
  | _ => trivial

end Keeps

/-! ### Runs -/

section Decisions

variable {ι : Type} {s s' : BlobStorage} {call : UploadCall} {phase phase' : UploadPhase}
  {task task' : TaskPhase} {held : ι → Option String} {file other : File} {k : String}

/-- An upload finds what it relies on, and nobody is about to delete it. -/
theorem UploadPhase.Step.settled (h : Step call s phase phase' s') (hs : Entries task.blobGone s)
    (hfree : phase = .lookup → call.Free task.removing s.db) (hrelies : phase.Relies call s)
    (hheld : ∀ k, task.removing = some k → phase.holds call ≠ some k) :
    phase'.Relies call s' ∧ ∀ k, task.removing = some k → phase'.holds call ≠ some k := by
  have hkeeps := h.keeps
  have hnew : phase'.holds call = some call.originalHash → phase = .lookup →
      ∀ k, task.removing = some k → phase'.holds call ≠ some k := fun hholds hlookup k hk h =>
    (hfree hlookup).1 (hk.trans (h.symm.trans hholds))
  cases h with
  | @complete hash hfetch hiv =>
    obtain ⟨hmem, hmatch⟩ := ReferenceDb.findOne_ok hfetch
    have hentry := Collection.get?_key hmem
    have hfound := ((hfree rfl).2 hash hmem (by simpa using hmatch)).1
    refine ⟨⟨hash, hentry, ?_⟩, fun k hk h => hfound (hk.trans h.symm)⟩
    refine ((hs _ hash hentry).2 hiv).resolve_right fun hgone => hfound ?_
    exact TaskPhase.removing_of_blobGone hgone
  | @incomplete hash hfetch hiv =>
    obtain ⟨hmem, hmatch⟩ := ReferenceDb.findOne_ok hfetch
    obtain ⟨hid, hplace⟩ := ((hfree rfl).2 hash hmem (by simpa using hmatch)).2 hiv
    exact ⟨⟨hash, hid ▸ Collection.get?_key hmem, hplace⟩, hnew rfl rfl⟩
  | unknown => exact ⟨trivial, hnew rfl rfl⟩
  | insertFile | ends => exact ⟨trivial, nofun⟩
  | insertHash => exact ⟨⟨_, (Collection.get?_insert ..).trans (if_pos rfl), rfl⟩, hheld⟩
  | uploadBlob =>
    obtain ⟨entry, hentry, hplace⟩ := hrelies
    exact ⟨⟨entry, hentry, hplace ▸ Finset.mem_insert_self ..⟩, hheld⟩
  | setNonce => exact ⟨hkeeps.backed hs nofun hrelies, hheld⟩

/-- Nobody refers to what is going to be deleted, or is about to. -/
def TaskPhase.Unused (held : ι → Option String) (db : ReferenceDb) (task : TaskPhase) : Prop :=
  ∀ k, task.removing = some k →
    (∀ file ∈ db.files, file.deleted ≠ some true → file.hash ≠ some k) ∧ ∀ i, held i ≠ some k

/-- **The count**: if there is only one reference, it is that of the file itself. -/
theorem eq_of_countFileHashReferences {db : ReferenceDb}
    (hcount : countFileHashReferences k db ≤ 1) (hfile : file ∈ db.files)
    (hk : file.hash = some k) (hother : other ∈ db.files) (hotherk : other.hash = some k) :
    other = file := by
  have hmem : ∀ {file}, file ∈ db.files → file.hash = some k →
      file ∈ db.files.documents.filter (·.hash = some k) := fun hfile hk =>
    List.mem_filter.mpr ⟨hfile, decide_eq_true hk⟩
  have h₁ := hmem hfile hk
  have h₂ := hmem hother hotherk
  rw [countFileHashReferences] at hcount
  generalize db.files.documents.filter (·.hash = some k) = references at hcount h₁ h₂
  match references with
  | [] => cases h₁
  | [_] => rw [List.mem_singleton.mp h₁, List.mem_singleton.mp h₂]
  | _ :: _ :: _ => simp at hcount

theorem TaskPhase.Step.unused (h : Step s task task' s') (hs : task.Undisturbed held s.db)
    (hpending : ∀ file ∈ task.pending, file ∈ s.db.files ∧ file.deleted = some true)
    (hunused : task.Unused held s.db) : task'.Unused held s'.db := by
  cases h with
  | @unreferenced file rest k hk hcount =>
    obtain ⟨hfile, hdeleted⟩ := hpending file List.mem_cons_self
    intro k' hk'
    obtain rfl : k = k' := some.inj (hk.symm.trans hk')
    refine ⟨fun other hother hunmarked hsame => hunmarked ?_, fun i => hs i k hk⟩
    rwa [eq_of_countFileHashReferences hcount hfile hk hother hsame]
  | @fetchHash file rest k hash hk hfetch =>
    obtain ⟨hmem, hmatch⟩ := ReferenceDb.findOne_ok hfetch
    have hid : hash.id = k := by
      simp only [Bool.or_eq_true, decide_eq_true_eq] at hmatch
      exact hmatch.elim (fun h => h) (hs k hk hash hmem)
    intro k' hk'
    exact hunused k' (hk.trans ((congrArg some hid.symm).trans hk'))
  | deleteBlob => exact hunused
  | fetchDeleted | deleteFile =>
    intro k hk
    rw [removing_nextFile] at hk
    cases hk
  | referenced | deleteHash | ends => nofun

/-- What the task has fetched is still there and marked, until it deletes it. -/
theorem TaskPhase.Step.pending (h : Step s task task' s')
    (hpending : ∀ file ∈ task.pending, file ∈ s.db.files ∧ file.deleted = some true)
    (hnodup : (task.pending.map File.id).Nodup) :
    (∀ file ∈ task'.pending, file ∈ s'.db.files ∧ file.deleted = some true) ∧
      (task'.pending.map File.id).Nodup := by
  cases h with
  | fetchDeleted =>
    rw [pending_nextFile]
    refine ⟨fun file hfile => ?_, ?_⟩
    · obtain ⟨hmem, hdeleted⟩ := List.mem_filter.mp hfile
      exact ⟨hmem, of_decide_eq_true (Bool.and_eq_true_iff.mp hdeleted).1⟩
    · exact s.db.files.nodup_map_key.sublist (List.filter_sublist.map _)
  | deleteFile =>
    rw [pending_nextFile]
    obtain ⟨hnot, hnodup⟩ := List.nodup_cons.mp hnodup
    refine ⟨fun file hfile => ?_, hnodup⟩
    obtain ⟨hmem, hdeleted⟩ := hpending file (List.mem_cons_of_mem _ hfile)
    refine ⟨Collection.mem_retain.mpr ⟨hmem, decide_eq_true fun hid => hnot ?_⟩, hdeleted⟩
    exact hid ▸ List.mem_map_of_mem hfile
  | ends => exact ⟨fun _ hfile => absurd hfile List.not_mem_nil, List.nodup_nil⟩
  | _ => exact ⟨hpending, hnodup⟩

end Decisions

section Runs

variable {ι : Type} {calls : ι → UploadCall} {c c' : StorageState ι}

/-- What holds while the deciding steps keep apart. -/
structure StorageState.Inv (calls : ι → UploadCall) (c : StorageState ι) : Prop where
  entries : Entries (taskPhase c).blobGone c.store
  files : NoBlobLost c.store
  relies : ∀ i, (uploadPhase c i).Relies (calls i) c.store
  unused : (taskPhase c).Unused (held calls c) c.store.db
  copyOk : (taskPhase c).CopyOk
  pending : ∀ file ∈ (taskPhase c).pending, file ∈ c.store.db.files ∧ file.deleted = some true
  nodup : ((taskPhase c).pending.map File.id).Nodup

namespace StorageState.Inv

variable [DecidableEq ι]

theorem upload_step {i : ι} (hc : Inv calls c) (horderly : Orderly calls c (.upload i))
    (h : stepStorage calls c (.upload i) = some c') : Inv calls c' := by
  have hstep : UploadPhase.Step (calls i) c.store (uploadPhase c i) (uploadPhase c' i)
      c'.store := by
    rw [Config.store_of_step h, uploadPhase, uploadPhase, Config.phase_of_step h]
    exact UploadPhase.step_advance _
  have htask : taskPhase c' = taskPhase c := Config.phase_of_step_ne h nofun
  have hothers : ∀ j ≠ i, uploadPhase c' j = uploadPhase c j := fun j hj =>
    Config.phase_of_step_ne h fun hsame => hj (Actor.upload.inj hsame)
  obtain ⟨hrelies, hheld⟩ := hstep.settled hc.entries horderly (hc.relies i)
    fun k hk => (hc.unused k hk).2 i
  refine ⟨?_, fun file hfile hdeleted => ?_, fun j => ?_, fun k hk => ⟨?_, fun j => ?_⟩, ?_, ?_, ?_⟩
  · rw [htask]
    exact hc.entries.upload_step (hc.relies i) hstep
  · obtain hold | ⟨-, hblob⟩ := hstep.mem_files hfile
    · exact hstep.keeps.hasBlob hc.entries nofun (hc.files file hold hdeleted)
    · exact hblob (hc.relies i)
  · by_cases hj : j = i
    · exact hj ▸ hrelies
    · rw [hothers j hj]
      exact hstep.keeps.relies hc.entries nofun (hc.relies j)
  · rw [htask] at hk
    intro file hfile hdeleted
    obtain hold | ⟨hhash, -⟩ := hstep.mem_files hfile
    · exact (hc.unused k hk).1 file hold hdeleted
    · exact hhash ▸ (hc.unused k hk).2 i
  · rw [htask] at hk
    by_cases hj : j = i
    · exact hj ▸ hheld k hk
    · rw [held, hothers j hj]
      exact (hc.unused k hk).2 j
  · rw [htask]
    exact hc.copyOk
  · rw [htask]
    exact fun file hfile => (hc.pending file hfile).imp_left hstep.files_subset
  · rw [htask]
    exact hc.nodup

theorem task_step (hc : Inv calls c) (horderly : Orderly calls c .task)
    (h : stepStorage calls c .task = some c') : Inv calls c' := by
  have hstep : TaskPhase.Step c.store (taskPhase c) (taskPhase c') c'.store := by
    rw [Config.store_of_step h, taskPhase, taskPhase, Config.phase_of_step h]
    exact TaskPhase.step_advance _
  have huploads : ∀ i, uploadPhase c' i = uploadPhase c i := fun i =>
    Config.phase_of_step_ne h nofun
  have hheld : held calls c' = held calls c := funext fun i =>
    congrArg (UploadPhase.holds (calls i)) (huploads i)
  have hkeeps := hstep.keeps hc.copyOk
  obtain ⟨hpending, hnodup⟩ := hstep.pending hc.pending hc.nodup
  refine ⟨hc.entries.task_step hstep hc.copyOk, fun file hfile hdeleted => ?_, fun i => ?_, ?_,
    hstep.copyOk hc.entries hc.copyOk, hpending, hnodup⟩
  · have hold := hstep.mem_files hfile
    exact hkeeps.hasBlob hc.entries (fun k hk => (hc.unused k hk).1 file hold hdeleted)
      (hc.files file hold hdeleted)
  · rw [huploads i]
    exact hkeeps.relies hc.entries (fun k hk => (hc.unused k hk).2 i) (hc.relies i)
  · rw [hheld]
    exact hstep.unused horderly hc.pending hc.unused

end StorageState.Inv

/-- **No stored file loses its blob.**  At the start every file that is not marked has its hash
entry and its blob, the entries lie under their own hash, and those that are complete have their
blob.  In every interleaving in which the deciding steps keep apart, every file that is not marked
has its hash entry and its blob all the time. -/
theorem noBlobLost_of_orderly [DecidableEq ι] (calls : ι → UploadCall) {s : BlobStorage}
    (hstart : NoBlobLost s) (hpath : ∀ entry ∈ s.db.fileHashes, entry.path = entry.id)
    (hcomplete : ∀ entry ∈ s.db.fileHashes, entry.iv ≠ "" → entry.place ∈ s.objects)
    {schedule : List (Actor ι)}
    (horderly : EachStep (stepStorage calls) (Orderly calls) (startStorage s) schedule) :
    Always (stepStorage calls) (fun c => NoBlobLost c.store) (startStorage s) schedule := by
  have hinv : StorageState.Inv calls (startStorage s) := by
    refine ⟨fun k entry hentry => ?_, hstart, fun _ => trivial,
      fun _ hk => absurd hk.symm (some_ne_none _), trivial,
      fun _ hfile => absurd hfile List.not_mem_nil, List.nodup_nil⟩
    obtain ⟨hmem, rfl⟩ := Collection.get?_eq_some.mp hentry
    exact ⟨hpath entry hmem, fun hiv => .inl (hcomplete entry hmem hiv)⟩
  refine (always_of_eachStep (fun c actor c' hc horderly h => ?_) hinv horderly).imp
    fun c hc => hc.files
  cases actor with
  | task => exact hc.task_step horderly h
  | upload i => exact hc.upload_step horderly h

end Runs

/-! ### A deletion and two uploads -/

instance (call : UploadCall) (removing : Option String) (db : ReferenceDb) :
    Decidable (call.Free removing db) := inferInstanceAs (Decidable (_ ∧ ∀ _ ∈ _, _ → _))

instance (held : Bool → Option String) (db : ReferenceDb) (task : TaskPhase) :
    Decidable (task.Undisturbed held db) := by
  unfold TaskPhase.Undisturbed
  split <;> infer_instance

instance (calls : Bool → UploadCall) (c : StorageState Bool) (actor : Actor Bool) :
    Decidable (Orderly calls c actor) := by
  unfold Orderly
  split <;> infer_instance

/-- A file that is marked as deleted, with its hash entry and its blob. -/
def oneDeletedFile : BlobStorage where
  db :=
    { files := (∅ : Collection File.id).insert
        { id := "old", tag := "attachments", hash := some "h", deleted := some true }
      fileHashes := (∅ : Collection FileHash.id).insert
        { id := "h", processedHash := "p", bucketId := "b", path := "h", iv := "n" } }
  objects := {("b", "h")}

/-- An upload of the same content. -/
def sameContent : UploadCall where
  id := "new"
  userId := "u"
  originalHash := "h"
  processedHash := "p"
  defaultBucket := "b"
  nonce := "n"

/-- An upload of the same content, and one of another content. -/
def twoUploads : Bool → UploadCall
  | true => sameContent
  | false => { sameContent with id := "other", originalHash := "k", processedHash := "q" }

/-- Another content is uploaded while the task deletes the blob, and the same content right after
the entry is gone. -/
theorem noBlobLost_of_orderly_meanwhile :
    ∃ c, run (stepStorage twoUploads) (startStorage oneDeletedFile)
        [.task, .upload false, .task, .upload false, .task, .task, .upload false, .task,
          .upload true, .upload false, .upload true, .task, .upload false, .upload true,
          .upload true, .upload true] = some c ∧
      (∀ i, uploadPhase c i = .done (.ok (twoUploads i).id)) ∧
      c.store.db.files.documents.length = 2 ∧ NoBlobLost c.store :=
  exists_run_of (fun c => (∀ i, uploadPhase c i = .done (.ok (twoUploads i).id)) ∧
      c.store.db.files.documents.length = 2) (by decide +kernel)
    fun c hrun ⟨hdone, hfiles⟩ => ⟨hdone, hfiles, noBlobLost_of_orderly twoUploads
      (by decide +kernel)
      (show ∀ entry ∈ oneDeletedFile.db.fileHashes.documents, _ by decide +kernel)
      (show ∀ entry ∈ oneDeletedFile.db.fileHashes.documents, _ by decide +kernel)
      (by decide +kernel) _ c List.prefix_rfl hrun⟩

/-- The task counts one reference, the upload finds the complete entry, the task deletes
blob and entry, and the upload adds a file that has neither. -/
theorem noBlobLost_fails :
    NoBlobLost oneDeletedFile ∧
    ∃ c, run (stepStorage fun _ : Unit => sameContent) (startStorage oneDeletedFile)
        [.task, .task, .upload (), .task, .task, .task, .task, .upload ()] = some c ∧
      c.phase (.upload ()) = UploadPhase.done (.ok "new") ∧ ¬ NoBlobLost c.store := by
  exact ⟨by decide +kernel, exists_run_decide (by decide +kernel)⟩

end DawnChat
