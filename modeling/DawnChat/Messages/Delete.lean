/-
DawnChat/Messages/Delete.lean

Ways of removing messages, and the files of the removed messages, on the MongoDB
driver (`Message::delete`, `bulk_delete`, `bulk_delete_by_author_since`,
`Channel::delete`, `Server::delete`).

A message that is sent binds its files: `File::use_attachment` records the message
in `used_for`, for attachments and for the media of embeds.  A file whose message
goes away should be marked as deleted, so that its blob is collected.  The ways of
removing messages select the files to mark differently:

* by the ids of the attachments — media of embeds are missed;
* not at all, for a bulk deletion by ids;
* by the superseded field `message_id`, for channels and servers — it is no longer
  set when a file is used.

Each operation has a closed form: which messages it removes and which files it
marks (`MessageRemoval.perform_spec`).  `filesReleased_iff` compares the two.
-/
import DawnChat.Messages.Store

namespace DawnChat

open RustStd Fallible Handler Collection List Option

/-! ### The operations -/

namespace MongoDb

/-- Mark the attachments that a query selects as deleted. -/
def deleteManyAttachments (p : File → Bool) (db : ReferenceDb) : ReferenceDb :=
  { db with files := db.files.updateMany p File.markDeleted File.markDeleted_id }

/-- Mark multiple attachments as having been deleted. -/
def markAttachmentsAsDeleted (ids : List String) : ReferenceDb → ReferenceDb :=
  deleteManyAttachments fun file => ids.contains file.id

/-- Remove the messages that a query selects. -/
def deleteManyMessages (p : Message → Bool) (db : ReferenceDb) : ReferenceDb :=
  { db with messages := db.messages.retain fun m => !p m }

/-- Delete a message from the database by its id. -/
def deleteMessage (id : String) : ReferenceDb → ReferenceDb :=
  deleteManyMessages fun m => m.id = id

/-- Messages of an author in a list of channels from a certain ULID onwards. -/
def authorSince (channels : List String) (author threshold : String) (m : Message) : Bool :=
  m.author = author && channels.contains m.channel && threshold ≤ m.id

/-- Ids of the attachments of several messages. -/
def attachmentIdsOf (messages : List Message) : List String := messages.flatMap (·.attachmentIds)

/-- Delete all messages from a specific author in a server from a certain ULID
onwards.  Returns the ids of the deleted messages by channel. -/
def deleteMessagesByAuthorSince (channels : List String) (author threshold : String)
    (db : ReferenceDb) : List (String × List String) × ReferenceDb :=
  let matched := db.messages.documents.filter (authorSince channels author threshold)
  let attachmentIds := attachmentIdsOf matched
  let deletedMessages := (matched.map (·.channel)).dedup.map fun channel =>
    (channel, (matched.filter (·.channel = channel)).map (·.id))
  -- mark attachments as deleted before deleting messages
  let db := if attachmentIds.isEmpty then db else markAttachmentsAsDeleted attachmentIds db
  (deletedMessages, deleteManyMessages (authorSince channels author threshold) db)

/-- Ids of the selected messages that have attachments. -/
def messageIdsWithAttachments (p : Message → Bool) (db : ReferenceDb) : List String :=
  (db.messages.documents.filter fun m => p m && m.attachments.isSome).map (·.id)

/-- Delete the messages that a query selects.  Files are looked for under the message
id that older versions stored with them. -/
def deleteBulkMessages (p : Message → Bool) (db : ReferenceDb) : ReferenceDb :=
  let ids := messageIdsWithAttachments p db
  let db := if ids.isEmpty then db
    else deleteManyAttachments (fun file => file.messageId.any ids.contains) db
  deleteManyMessages p db

/-- Delete the unreads of channels.  Invites and webhooks are not modelled. -/
def deleteAssociatedChannelObjects (p : String → Bool) (db : ReferenceDb) : ReferenceDb :=
  { db with channelUnreads := db.channelUnreads.retain fun key _ => !p key.channel }

/-- Take a channel out of the server's list and its system message channels. -/
def withoutChannel (id : String) (server : Server) : Server :=
  let unset (assigned : Option String) := if assigned = some id then none else assigned
  { server with
    channels := server.channels.filter (· ≠ id)
    systemMessages := server.systemMessages.map fun sys =>
      { userJoined := unset sys.userJoined
        userLeft := unset sys.userLeft
        userKicked := unset sys.userKicked
        userBanned := unset sys.userBanned } }

/-- Remove a channel from the server it belongs to. -/
def pullChannel (channel : Channel) : Request ReferenceDb Unit :=
  match channel.server with
  | some serverId => do
      let server ← read fun db => db.fetchServer serverId
      write fun db => .ok
        { db with servers := db.servers.modify server.id (withoutChannel channel.id) }
  | none => pure ()

/-- Delete a channel. -/
def deleteChannel (channel : Channel) : Request ReferenceDb Unit := do
  write fun db => .ok (deleteAssociatedChannelObjects (· = channel.id) db)
  write fun db => .ok (deleteBulkMessages (·.channel = channel.id) db)
  pullChannel channel
  -- delete associated attachments
  write fun db => .ok (deleteManyAttachments (·.usedFor.any (·.id = channel.id)) db)
  write fun db => .ok { db with channels := db.channels.erase channel.id }

/-- Ids of the channels of a server. -/
def channelsOfServer (serverId : String) (db : ReferenceDb) : List String :=
  (db.channels.values.filter (·.server = some serverId)).map (·.id)

/-- Detach the emojis of a server, and delete its channels with their unreads, its
members and its bans. -/
def deleteServerRecords (serverId : String) (channels : List String) (db : ReferenceDb) :
    ReferenceDb :=
  deleteAssociatedChannelObjects channels.contains
    { db with
      emojis := db.emojis.mapValues fun _ (emoji : Emoji) =>
        if emoji.parent = EmojiParent.server serverId then { emoji with parent := .detached }
        else emoji
      channels := db.channels.retain fun _ channel => channel.server ≠ some serverId
      serverMembers := db.serverMembers.retain fun key _ => key.server ≠ serverId
      serverBans := db.serverBans.retain fun key _ => key.server ≠ serverId }

def deleteAssociatedServerObjects (serverId : String) (db : ReferenceDb) : ReferenceDb :=
  let channels := channelsOfServer serverId db
  let db := deleteBulkMessages (fun m => channels.contains m.channel) db
  let db := deleteServerRecords serverId channels db
  -- update many attachments with parent id
  deleteManyAttachments (·.usedFor.any (·.id = serverId)) db

/-- Delete a server by its id. -/
def deleteServer (id : String) (db : ReferenceDb) : ReferenceDb :=
  let db := deleteAssociatedServerObjects id db
  { db with servers := db.servers.erase id }

/-- What is neither a message nor a file is as before. -/
structure RecordsKept (db db' : ReferenceDb) : Prop where
  channels : db'.channels = db.channels
  servers : db'.servers = db.servers
  channelUnreads : db'.channelUnreads = db.channelUnreads

theorem deleteBulkMessages_keeps (p : Message → Bool) (db : ReferenceDb) :
    RecordsKept db (deleteBulkMessages p db) := by
  rw [deleteBulkMessages]
  split <;> exact ⟨rfl, rfl, rfl⟩

end MongoDb

open MongoDb

/-- Delete a message. -/
def Message.delete (self : Message) : Request ReferenceDb Unit := do
  let fileIds := self.attachmentIds
  if fileIds.isEmpty then pure ()
  else write fun db => .ok (markAttachmentsAsDeleted fileIds db)
  write fun db => .ok (deleteMessage self.id db)

/-- Bulk delete messages by an author since a given time, given as the least ULID of
that time.  The deleted ids only go into events. -/
def Message.bulkDeleteByAuthorSince (channels : List String) (author threshold : String) :
    Request ReferenceDb Unit :=
  write fun db => .ok (deleteMessagesByAuthorSince channels author threshold db).2

/-- Ways of removing messages. -/
inductive MessageRemoval where
  | delete (self : Message)
  | bulkDelete (channel : String) (ids : List String)
  | bulkDeleteByAuthorSince (channels : List String) (author threshold : String)
  | deleteChannel (channel : Channel)
  | deleteServer (id : String)

namespace MessageRemoval

def perform : MessageRemoval → Request ReferenceDb Unit
  | delete self => self.delete
  | bulkDelete channel ids => write (Message.bulkDelete messageOps channel ids)
  | bulkDeleteByAuthorSince channels author threshold =>
    Message.bulkDeleteByAuthorSince channels author threshold
  | deleteChannel channel => MongoDb.deleteChannel channel
  | deleteServer id => write fun db => .ok (MongoDb.deleteServer id db)

/-- The messages that the operation removes. -/
def removes (op : MessageRemoval) (db : ReferenceDb) (m : Message) : Bool :=
  match op with
  | delete self => m.id = self.id
  | bulkDelete channel ids => m.channel = channel && ids.contains m.id
  | bulkDeleteByAuthorSince channels author threshold => authorSince channels author threshold m
  | deleteChannel channel => m.channel = channel.id
  | deleteServer id => (channelsOfServer id db).contains m.channel

/-- The files that the operation marks as deleted. -/
def marks (op : MessageRemoval) (db : ReferenceDb) (file : File) : Bool :=
  match op with
  | delete self => self.attachmentIds.contains file.id
  | bulkDelete _ _ => false
  | bulkDeleteByAuthorSince channels author threshold =>
    db.messages.documents.any fun m =>
      authorSince channels author threshold m && m.attachmentIds.contains file.id
  | deleteChannel channel =>
    file.messageId.any (messageIdsWithAttachments (·.channel = channel.id) db).contains ||
      file.usedFor.any (·.id = channel.id)
  | deleteServer id =>
    file.messageId.any
      (messageIdsWithAttachments (fun m => (channelsOfServer id db).contains m.channel)
        db).contains ||
      file.usedFor.any (·.id = id)

end MessageRemoval

/-! ### What an operation does to messages and files -/

/-- The messages selected by `r` are gone, the files selected by `p` are marked. -/
structure RemovalEffect (r : Message → Bool) (p : File → Bool) (db db' : ReferenceDb) : Prop where
  messages : ∀ m, m ∈ db'.messages ↔ m ∈ db.messages ∧ r m = false
  files : ∀ id, db'.files.get? id
    = (db.files.get? id).map fun file => if p file then file.markDeleted else file

namespace RemovalEffect

variable {r : Message → Bool} {p q : File → Bool} {db db₁ db₂ : ReferenceDb}

/-- What is done before or after to other collections does not matter. -/
theorem of_eq {db' db₁' : ReferenceDb} (h : RemovalEffect r p db db₁)
    (hstart : db'.messages = db.messages ∧ db'.files = db.files)
    (hend : db₁'.messages = db₁.messages ∧ db₁'.files = db₁.files) :
    RemovalEffect r p db' db₁' where
  messages m := by rw [hstart.1, hend.1, h.messages]
  files id := by rw [hstart.2, hend.2, h.files]

theorem refl (db : ReferenceDb) : RemovalEffect (fun _ => false) (fun _ => false) db db where
  messages m := by simp
  files id := by simp

theorem deleteManyMessages (r : Message → Bool) (db : ReferenceDb) :
    RemovalEffect r (fun _ => false) db (MongoDb.deleteManyMessages r db) where
  messages m := by
    rw [MongoDb.deleteManyMessages, mem_retain]
    simp
  files id := by simp [MongoDb.deleteManyMessages]

theorem deleteManyAttachments (p : File → Bool) (db : ReferenceDb) :
    RemovalEffect (fun _ => false) p db (MongoDb.deleteManyAttachments p db) where
  messages m := by simp [MongoDb.deleteManyAttachments]
  files id := get?_updateMany _ _ _ File.markDeleted_id id

/-- Marking nothing can be skipped. -/
theorem marked_of_isEmpty (ids : List String) (hp : ids = [] → ∀ file, p file = false)
    (db : ReferenceDb) : RemovalEffect (fun _ => false) p db
      (if ids.isEmpty then db else MongoDb.deleteManyAttachments p db) := by
  split
  · next hempty =>
    have hfalse : p = fun _ => false := funext (hp (isEmpty_iff.mp hempty))
    rw [hfalse]
    exact refl db
  · exact deleteManyAttachments p db

/-- One effect after another; a file that is marked already stays marked. -/
theorem trans {r₁ r₂ : Message → Bool} (h₁ : RemovalEffect r₁ p db db₁)
    (h₂ : RemovalEffect r₂ q db₁ db₂) :
    RemovalEffect (fun m => r₁ m || r₂ m) (fun file => p file || q file) db db₂ where
  messages m := by
    rw [h₂.messages, h₁.messages, Bool.or_eq_false_iff, and_assoc]
  files id := by
    rw [h₂.files, h₁.files, Option.map_map]
    refine congrArg (fun f => (db.files.get? id).map f) (funext fun file => ?_)
    by_cases hp : p file = true <;> by_cases hq : q file = true <;>
      simp [hp, hq, File.markDeleted]

/-- The same effect, described in another way. -/
theorem congr {r' : Message → Bool} {p' : File → Bool} (h : RemovalEffect r p db db₁)
    (hr : ∀ m ∈ db.messages, r m = r' m) (hp : ∀ file, p file = p' file) :
    RemovalEffect r' p' db db₁ where
  messages m := by
    rw [h.messages]
    exact and_congr_right fun hm => by rw [hr m hm]
  files id := by
    rw [h.files, funext hp]

end RemovalEffect

open RemovalEffect

namespace MessageRemoval

variable {db db' : ReferenceDb}

theorem effect_deleteBulkMessages (r : Message → Bool) (db : ReferenceDb) :
    RemovalEffect r (fun file => file.messageId.any (messageIdsWithAttachments r db).contains) db
      (deleteBulkMessages r db) := by
  have hmark : RemovalEffect (fun _ => false)
      (fun file => file.messageId.any (messageIdsWithAttachments r db).contains) db _ :=
    marked_of_isEmpty (messageIdsWithAttachments r db)
      (fun hempty file => by cases file.messageId <;> simp [hempty]) db
  exact (hmark.trans (deleteManyMessages r _)).congr (fun m _ => by simp)
    fun file => by simp

theorem effect_delete {self : Message} (h : exec self.delete db = (.ok (), db')) :
    RemovalEffect (removes (.delete self) db) (marks (.delete self) db) db db' := by
  have hdb' : db' = deleteMessage self.id (if self.attachmentIds.isEmpty then db
      else markAttachmentsAsDeleted self.attachmentIds db) := by
    rw [Message.delete] at h
    by_cases hempty : self.attachmentIds.isEmpty
    · simp only [if_pos hempty] at h ⊢
      exact (Prod.mk.inj h).2.symm
    · simp only [if_neg hempty] at h ⊢
      exact (Prod.mk.inj h).2.symm
  have hmark : RemovalEffect (fun _ => false) (fun file => self.attachmentIds.contains file.id)
      db _ :=
    marked_of_isEmpty self.attachmentIds (fun hempty file => by simp [hempty]) db
  rw [hdb']
  exact (hmark.trans (deleteManyMessages _ _)).congr (fun m _ => by simp [removes])
    fun file => by simp [marks]

theorem effect_bulkDelete {channel : String} {ids : List String}
    (h : Message.bulkDelete messageOps channel ids db = .ok db') :
    RemovalEffect (removes (.bulkDelete channel ids) db) (marks (.bulkDelete channel ids) db)
      db db' := by
  obtain rfl := Except.ok.inj h
  refine (RemovalEffect.deleteManyMessages _ db).congr (fun m hm => ?_) fun file => rfl
  -- a stored message of the channel is passed on exactly when it is listed
  rw [Bool.eq_iff_iff]
  simp only [removes, Bool.and_eq_true, decide_eq_true_eq, contains_iff_mem]
  refine and_congr_right fun hchannel => ⟨fun hvalid => ?_, fun hlisted => ?_⟩
  · obtain ⟨m', hm', hid⟩ := mem_map.mp hvalid
    have hlisted := (mem_filter.mp (mem_filter.mp hm').1).2
    rwa [contains_iff_mem, hid] at hlisted
  · refine mem_map.mpr ⟨m, mem_filter.mpr ⟨mem_filter.mpr ⟨hm, ?_⟩, ?_⟩, rfl⟩
    · rwa [contains_iff_mem]
    · exact decide_eq_true hchannel

theorem effect_bulkDeleteByAuthorSince (channels : List String) (author threshold : String)
    (db : ReferenceDb) :
    RemovalEffect (removes (.bulkDeleteByAuthorSince channels author threshold) db)
      (marks (.bulkDeleteByAuthorSince channels author threshold) db) db
      (deleteMessagesByAuthorSince channels author threshold db).2 := by
  have hmark : RemovalEffect (fun _ => false) (fun file => (attachmentIdsOf
      (db.messages.documents.filter (authorSince channels author threshold))).contains file.id)
      db _ :=
    marked_of_isEmpty (attachmentIdsOf
      (db.messages.documents.filter (authorSince channels author threshold)))
      (fun hempty file => by rw [hempty]; rfl) db
  refine (hmark.trans (deleteManyMessages _ _)).congr
    (fun m _ => by simp [removes]) ?_
  intro file
  rw [Bool.or_false, Bool.eq_iff_iff]
  simp [marks, attachmentIdsOf, and_assoc]

theorem pullChannel_keeps {channel : Channel} (h : exec (pullChannel channel) db = (.ok (), db')) :
    db'.messages = db.messages ∧ db'.files = db.files := by
  rw [pullChannel] at h
  split at h
  · obtain ⟨server, -, hwrite⟩ := exec_read_bind_ok.mp h
    obtain rfl := exec_write_pure_ok.mp hwrite
    exact ⟨rfl, rfl⟩
  · obtain ⟨-, rfl⟩ := exec_pure_ok.mp h
    exact ⟨rfl, rfl⟩

theorem effect_deleteChannel {channel : Channel}
    (h : exec (MongoDb.deleteChannel channel) db = (.ok (), db')) :
    RemovalEffect (removes (.deleteChannel channel) db) (marks (.deleteChannel channel) db)
      db db' := by
  rw [MongoDb.deleteChannel] at h
  obtain ⟨_, db₁, hobjects, h⟩ := exec_bind_ok.mp h
  obtain ⟨_, db₂, hmessages, h⟩ := exec_bind_ok.mp h
  obtain ⟨_, db₃, hpull, h⟩ := exec_bind_ok.mp h
  obtain ⟨_, db₄, hfiles, hchannel⟩ := exec_bind_ok.mp h
  obtain rfl := exec_write_pure_ok.mp hobjects
  obtain rfl := exec_write_pure_ok.mp hmessages
  obtain rfl := exec_write_pure_ok.mp hfiles
  obtain rfl := exec_write_pure_ok.mp hchannel
  have hbulk := effect_deleteBulkMessages (·.channel = channel.id)
    (deleteAssociatedChannelObjects (· = channel.id) db)
  have hmark := RemovalEffect.deleteManyAttachments (·.usedFor.any (·.id = channel.id)) db₃
  have hboth := (RemovalEffect.of_eq hbulk ⟨rfl, rfl⟩ (pullChannel_keeps hpull)).trans hmark
  exact of_eq (hboth.congr (fun m _ => Bool.or_false _) fun file => rfl)
    ⟨rfl, rfl⟩ ⟨rfl, rfl⟩

theorem effect_deleteServer (id : String) (db : ReferenceDb) :
    RemovalEffect (removes (.deleteServer id) db) (marks (.deleteServer id) db) db
      (MongoDb.deleteServer id db) := by
  have hbulk := effect_deleteBulkMessages
    (fun m => (channelsOfServer id db).contains m.channel) db
  have hrecords : RemovalEffect _ _ db (deleteServerRecords id (channelsOfServer id db)
      (deleteBulkMessages (fun m => (channelsOfServer id db).contains m.channel) db)) :=
    of_eq hbulk ⟨rfl, rfl⟩ ⟨rfl, rfl⟩
  have hboth := hrecords.trans (deleteManyAttachments (·.usedFor.any (·.id = id)) _)
  exact of_eq (hboth.congr (fun m _ => Bool.or_false _) fun file => rfl)
    ⟨rfl, rfl⟩ ⟨rfl, rfl⟩

/-- **What an operation does**, in closed form. -/
theorem perform_spec {op : MessageRemoval} (h : exec op.perform db = (.ok (), db')) :
    RemovalEffect (op.removes db) (op.marks db) db db' := by
  cases op with
  | delete self => exact effect_delete h
  | bulkDelete channel ids => exact effect_bulkDelete (exec_write_ok.mp h)
  | bulkDeleteByAuthorSince channels author threshold =>
    obtain rfl := exec_write_pure_ok.mp h
    exact effect_bulkDeleteByAuthorSince channels author threshold db
  | deleteChannel channel => exact effect_deleteChannel h
  | deleteServer id =>
    obtain rfl := exec_write_pure_ok.mp h
    exact effect_deleteServer id db

end MessageRemoval

/-! ### Files of removed messages -/

/-- The attachments of every message were bound to it when it was sent. -/
def FilesBound (db : ReferenceDb) : Prop :=
  ∀ m ∈ db.messages, ∀ id ∈ m.attachmentIds,
    ∃ file ∈ db.files, file.id = id ∧ file.usedFor = some ⟨.message, m.id⟩

/-- The files of messages that went away are marked, and the files of the messages
that stayed are not marked anew. -/
structure FilesReleased (db db' : ReferenceDb) : Prop where
  removed : ∀ file ∈ db.files, ∀ m ∈ db.messages, file.usedFor = some ⟨.message, m.id⟩ →
    m ∉ db'.messages →
      ∃ file', db'.files.get? file.id = some file' ∧ file'.deleted = some true
  remaining : ∀ file ∈ db.files, file.deleted ≠ some true → ∀ m ∈ db.messages,
    file.usedFor = some ⟨.message, m.id⟩ → m ∈ db'.messages →
      ∀ file', db'.files.get? file.id = some file' → file'.deleted ≠ some true

/-- An operation releases the files exactly when it marks the files of the messages
that it removes. -/
theorem RemovalEffect.released_iff_agree {r : Message → Bool} {p : File → Bool}
    {db db' : ReferenceDb} (h : RemovalEffect r p db db') :
    FilesReleased db db' ↔ ∀ file ∈ db.files, file.deleted ≠ some true → ∀ m ∈ db.messages,
      file.usedFor = some ⟨.message, m.id⟩ → (r m = true ↔ p file = true) := by
  have hafter : ∀ file ∈ db.files, db'.files.get? file.id
      = some (if p file then file.markDeleted else file) := by
    intro file hfile
    rw [h.files, get?_key hfile]
    rfl
  constructor
  · intro hreleased file hfile hdeleted m hm hused
    constructor
    · intro hr
      have hgone : m ∉ db'.messages := fun hmem => by
        rw [((h.messages m).mp hmem).2] at hr
        cases hr
      obtain ⟨file', hfile', hmarked⟩ := hreleased.removed file hfile m hm hused hgone
      by_contra hp
      obtain rfl := some.inj ((hafter file hfile).symm.trans hfile')
      rw [if_neg hp] at hmarked
      exact hdeleted hmarked
    · intro hp
      by_contra hr
      have hstays : m ∈ db'.messages := (h.messages m).mpr ⟨hm, Bool.not_eq_true _ ▸ hr⟩
      refine hreleased.remaining file hfile hdeleted m hm hused hstays _ (hafter file hfile) ?_
      rw [if_pos hp]
      rfl
  · intro hagree
    refine ⟨fun file hfile m hm hused hgone => ⟨_, hafter file hfile, ?_⟩,
      fun file hfile hdeleted m hm hused hstays file' hfile' => ?_⟩
    · by_cases hdeleted : file.deleted = some true
      · split
        · rfl
        · exact hdeleted
      · have hr : r m = true := by
          by_contra hr
          exact hgone ((h.messages m).mpr ⟨hm, Bool.not_eq_true _ ▸ hr⟩)
        rw [if_pos ((hagree file hfile hdeleted m hm hused).mp hr)]
        rfl
    · obtain rfl := some.inj ((hafter file hfile).symm.trans hfile')
      have hp : ¬ p file = true := by
        rw [← hagree file hfile hdeleted m hm hused, ((h.messages m).mp hstays).2]
        exact Bool.false_ne_true
      rwa [if_neg hp]

namespace FilesBound

variable {db : ReferenceDb} {file : File} {m m' : Message}

/-- A file that is bound to a message is not an attachment of another one. -/
theorem eq_of_mem_attachmentIds (h : FilesBound db) (hfile : file ∈ db.files)
    (hm : m ∈ db.messages) (hused : file.usedFor = some ⟨.message, m.id⟩)
    (hm' : m' ∈ db.messages) (hattached : file.id ∈ m'.attachmentIds) : m' = m := by
  obtain ⟨file', hfile', hid, hused'⟩ := h m' hm' file.id hattached
  obtain rfl := eq_of_key_eq hfile' hfile hid
  rw [hused] at hused'
  exact eq_of_key_eq hm' hm (FileUsedFor.mk.inj (some.inj hused')).2.symm

end FilesBound

namespace MessageRemoval

/-- Messages are deleted as they are stored. -/
def Applicable (db : ReferenceDb) : MessageRemoval → Prop
  | delete self => self ∈ db.messages
  | _ => True

/-- The superseded field of the file names a message that is removed and has
attachments. -/
def FoundByMessageId (r : Message → Prop) (db : ReferenceDb) (file : File) : Prop :=
  ∃ m ∈ db.messages, r m ∧ m.attachments ≠ none ∧ file.messageId = some m.id

/-- What it takes for the operation to treat a file that is bound to `m` and not yet
marked as it should. -/
def Covers (op : MessageRemoval) (db : ReferenceDb) (file : File) (m : Message) : Prop :=
  match op with
  | delete self => m = self → file.id ∈ self.attachmentIds
  | bulkDelete channel ids => ¬ (m.channel = channel ∧ m.id ∈ ids)
  | bulkDeleteByAuthorSince channels author threshold =>
    authorSince channels author threshold m = true → file.id ∈ m.attachmentIds
  | deleteChannel channel => m.channel = channel.id ↔
      FoundByMessageId (·.channel = channel.id) db file ∨ m.id = channel.id
  | deleteServer id => m.channel ∈ channelsOfServer id db ↔
      FoundByMessageId (·.channel ∈ channelsOfServer id db) db file ∨ m.id = id

theorem any_messageIdsWithAttachments {db : ReferenceDb} {file : File} {r : Message → Bool} :
    file.messageId.any (messageIdsWithAttachments r db).contains = true ↔
      FoundByMessageId (r · = true) db file := by
  rw [Option.any_eq_true]
  constructor
  · rintro ⟨id, hid, hlisted⟩
    obtain ⟨m, hm, rfl⟩ := mem_map.mp (contains_iff_mem.mp hlisted)
    obtain ⟨hmem, hr⟩ := mem_filter.mp hm
    rw [Bool.and_eq_true, isSome_iff_ne_none] at hr
    exact ⟨m, hmem, hr.1, hr.2, hid⟩
  · rintro ⟨m, hmem, hr, hattachments, hid⟩
    refine ⟨m.id, hid, contains_iff_mem.mpr (mem_map.mpr ⟨m, ?_, rfl⟩)⟩
    refine mem_filter.mpr ⟨hmem, ?_⟩
    rw [Bool.and_eq_true, isSome_iff_ne_none]
    exact ⟨hr, hattachments⟩

/-- What the operation removes and marks agrees on a bound file exactly when it covers
the file. -/
theorem removes_iff_marks {op : MessageRemoval} {db : ReferenceDb} (hbound : FilesBound db)
    (happlicable : op.Applicable db) {file : File} (hfile : file ∈ db.files) {m : Message}
    (hm : m ∈ db.messages) (hused : file.usedFor = some ⟨.message, m.id⟩) :
    (op.removes db m = true ↔ op.marks db file = true) ↔ op.Covers db file m := by
  have honly : ∀ {m'}, m' ∈ db.messages → file.id ∈ m'.attachmentIds → m' = m :=
    hbound.eq_of_mem_attachmentIds hfile hm hused
  cases op with
  | delete self =>
    simp only [removes, marks, Covers, decide_eq_true_eq, contains_iff_mem]
    have hself : m.id = self.id ↔ m = self :=
      ⟨eq_of_key_eq hm happlicable, fun h => h ▸ rfl⟩
    rw [hself]
    exact ⟨fun h => h.mp, fun h => ⟨h, fun hattached => (honly happlicable hattached).symm⟩⟩
  | bulkDelete channel ids =>
    simp [removes, marks, Covers]
  | bulkDeleteByAuthorSince channels author threshold =>
    simp only [removes, marks, Covers, List.any_eq_true, Bool.and_eq_true, contains_iff_mem]
    constructor
    · intro h hr
      obtain ⟨m', hm', -, hattached⟩ := h.mp hr
      exact honly hm' hattached ▸ hattached
    · intro h
      refine ⟨fun hr => ⟨m, hm, hr, h hr⟩, ?_⟩
      rintro ⟨m', hm', hr, hattached⟩
      exact honly hm' hattached ▸ hr
  | deleteChannel channel =>
    simp only [removes, marks, Covers, Bool.or_eq_true, any_messageIdsWithAttachments, hused,
      any_some, decide_eq_true_eq]
  | deleteServer id =>
    simp only [removes, marks, Covers, Bool.or_eq_true, any_messageIdsWithAttachments, hused,
      any_some, decide_eq_true_eq, contains_iff_mem]

end MessageRemoval

/-- **Deleting messages releases their files** exactly when the operation covers every
file that is bound to a message and not marked yet: an attachment for the deletion
of one message and by author, no file at all for a bulk deletion by ids, and a file
that still has the superseded `message_id` for channels and servers. -/
theorem filesReleased_iff (op : MessageRemoval) {db db' : ReferenceDb} (hbound : FilesBound db)
    (happlicable : op.Applicable db) (h : exec op.perform db = (.ok (), db')) :
    FilesReleased db db' ↔ ∀ file ∈ db.files, file.deleted ≠ some true → ∀ m ∈ db.messages,
      file.usedFor = some ⟨.message, m.id⟩ → op.Covers db file m := by
  rw [(MessageRemoval.perform_spec h).released_iff_agree]
  constructor
  · intro hagree file hfile hdeleted m hm hused
    exact (MessageRemoval.removes_iff_marks hbound happlicable hfile hm hused).mp
      (hagree file hfile hdeleted m hm hused)
  · intro hcovers file hfile hdeleted m hm hused
    exact (MessageRemoval.removes_iff_marks hbound happlicable hfile hm hused).mpr
      (hcovers file hfile hdeleted m hm hused)

/-- A message of the channel `c` with the attachment `a` and an embed that shows `e`. -/
def sentMessage : Message where
  id := "m"
  channel := "c"
  author := "u"
  attachments := some [{ id := "a" }]
  embeds := some [.text { media := some { id := "e" } }]

/-- The message and its two files, in a text channel of the server `s`. -/
def sentStore : ReferenceDb where
  servers := HashMap.collect [("s", { id := "s", owner := "u", channels := ["c"] })]
  channels := HashMap.collect [("c", .textChannel { id := "c", server := "s" })]
  messages := (∅ : Collection Message.id).insert sentMessage
  files := ((∅ : Collection File.id).insert
      { id := "a", tag := "attachments", usedFor := some ⟨.message, "m"⟩ }).insert
    { id := "e", tag := "attachments", usedFor := some ⟨.message, "m"⟩ }

/-- The message without its embed, and its file. -/
def sentAttachment : ReferenceDb where
  messages := (∅ : Collection Message.id).insert { sentMessage with embeds := none }
  files := (∅ : Collection File.id).insert
    { id := "a", tag := "attachments", usedFor := some ⟨.message, "m"⟩ }

/-- Deleting a message that has attachments only releases its files. -/
theorem filesReleased_iff_attachment :
    FilesReleased sentAttachment
      (exec (Message.delete { sentMessage with embeds := none }) sentAttachment).2 := by
  have hbound : FilesBound sentAttachment := by
    intro m hm id hid
    obtain rfl := mem_singleton.mp hm
    obtain rfl := mem_singleton.mp hid
    exact ⟨_, mem_singleton.mpr rfl, rfl, rfl⟩
  refine (filesReleased_iff (.delete { sentMessage with embeds := none }) hbound
    (mem_singleton.mpr rfl) rfl).mpr ?_
  intro file hfile _ m _ _ _
  obtain rfl := mem_singleton.mp hfile
  exact mem_singleton.mpr rfl

/-- What an operation that succeeds leaves: the messages, and for each file whether it
is marked. -/
def leftAfter (op : MessageRemoval) (db : ReferenceDb) :
    Except (Fault ErrorType) (List String × List (String × Option Bool)) :=
  (exec op.perform db).1.map fun _ =>
    let db' := (exec op.perform db).2
    (db'.messages.documents.map (·.id), db'.files.documents.map fun file => (file.id, file.deleted))

/-- A file of a message that went away is not released if it is left without a mark. -/
theorem not_released_of_leftAfter {op : MessageRemoval} {db : ReferenceDb} {file : File}
    {m : Message} {files : List (String × Option Bool)} (h : leftAfter op db = .ok ([], files))
    (hfile : file ∈ db.files) (hm : m ∈ db.messages) (hused : file.usedFor = some ⟨.message, m.id⟩)
    (hunmarked : (file.id, some true) ∉ files) :
    ∃ db', exec op.perform db = (.ok (), db') ∧ ¬ FilesReleased db db' := by
  rcases hexec : exec op.perform db with ⟨e | ⟨⟩, db'⟩
  · rw [leftAfter, hexec] at h
    cases h
  rw [leftAfter, hexec] at h
  obtain ⟨hmessages, rfl⟩ := Prod.mk.inj (Except.ok.inj h)
  refine ⟨db', rfl, fun hreleased => hunmarked ?_⟩
  have hgone : m ∉ db'.messages := fun hmem => by
    have hid := mem_map_of_mem (f := (·.id)) hmem
    rw [hmessages] at hid
    cases hid
  obtain ⟨file', hget, hmarked⟩ := hreleased.removed file hfile m hm hused hgone
  obtain ⟨hfile', hid⟩ := Collection.get?_eq_some.mp hget
  exact mem_map.mpr ⟨file', hfile', by rw [hid, hmarked]⟩

/-- All five operations remove the message.  Deleting it, or the messages of its author,
misses the file of the embed; the other operations miss both files. -/
theorem filesReleased_fails : ([
      (.delete sentMessage, some true),
      (.bulkDeleteByAuthorSince ["c"] "u" "0", some true),
      (.bulkDelete "c" ["m"], none),
      (.deleteChannel (.textChannel { id := "c", server := "s" }), none),
      (.deleteServer "s", none)] : List (MessageRemoval × Option Bool)).Forall fun o =>
    leftAfter o.1 sentStore = .ok ([], [("e", none), ("a", o.2)]) ∧
      ∃ db', exec o.1.perform sentStore = (.ok (), db') ∧
        ¬ FilesReleased sentStore db' := by
  refine forall_iff_forall_mem.mpr fun o ho => ?_
  have hleft : leftAfter o.1 sentStore = .ok ([], [("e", none), ("a", o.2)]) := by
    revert o
    decide +kernel
  have hfile : ({ id := "e", tag := "attachments", usedFor := some ⟨.message, "m"⟩ } : File)
      ∈ sentStore.files := mem_cons_self
  have hm : sentMessage ∈ sentStore.messages := mem_cons_self
  refine ⟨hleft, not_released_of_leftAfter hleft hfile hm rfl ?_⟩
  simp

end DawnChat
