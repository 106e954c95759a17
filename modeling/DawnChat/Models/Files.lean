/-
DawnChat/Models/Files.lean

Uploaded files and the blobs behind them (`core/database/src/models/files`,
`core/database/src/models/file_hashes`).

A file is a document that refers to a hash entry; the hash entry says where the
blob lies in S3.  Files with the same content share an entry.  What a file is
used for is recorded in `usedFor`; `messageId` is the older way of recording it,
and new files no longer set it.

Upload times, sizes, media metadata and the other superseded ids are left out:
no modelled function reads them.
-/
import DawnChat.Lib.Collection

namespace DawnChat

/-- Type of object file was used for. -/
inductive FileUsedForType where
  | message
  | serverBanner
  | emoji
  | userAvatar
  | webhookAvatar
  | userProfileBackground
  | legacyGroupIcon
  | channelIcon
  | serverIcon
  deriving DecidableEq, Repr, Inhabited

/-- Information about what the file was used for. -/
structure FileUsedFor where
  objectType : FileUsedForType
  id : String
  deriving DecidableEq, Repr, Inhabited

/-- File. -/
structure File where
  id : String
  /-- Tag / bucket this file was uploaded to. -/
  tag : String := ""
  filename : String := ""
  /-- Hash of this file. -/
  hash : Option String := none
  uploaderId : Option String := none
  usedFor : Option FileUsedFor := none
  deleted : Option Bool := none
  reported : Option Bool := none
  /-- Superseded by `usedFor`. -/
  messageId : Option String := none
  deriving DecidableEq, Repr, Inhabited

/-- File hash. -/
structure FileHash where
  /-- Sha256 hash of the file. -/
  id : String
  /-- Sha256 hash of file after it has been processed. -/
  processedHash : String
  bucketId : String
  path : String
  /-- Nonce used to encrypt this file; empty until the file is uploaded. -/
  iv : String := ""
  deriving DecidableEq, Repr, Inhabited

/-- Create a file from a file hash. -/
def FileHash.intoFile (hash : FileHash) (id tag filename uploaderId : String) : File where
  id := id
  tag := tag
  filename := filename
  hash := some hash.id
  uploaderId := some uploaderId

/-- Mark a file as deleted. -/
def File.markDeleted (file : File) : File := { file with deleted := some true }

/-- Record what a file is used for and by whom. -/
def File.use (file : File) (usedFor : FileUsedFor) (uploaderId : String) : File :=
  { file with usedFor := some usedFor, uploaderId := some uploaderId }

@[simp] theorem File.markDeleted_id (file : File) : file.markDeleted.id = file.id := rfl

@[simp] theorem File.use_id (file : File) (usedFor : FileUsedFor) (uploaderId : String) :
    (file.use usedFor uploaderId).id = file.id := rfl

end DawnChat
