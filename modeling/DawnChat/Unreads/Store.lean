/-
DawnChat/Unreads/Store.lean

Unread mentions in the two drivers (`core/database/src/models/channel_unreads/ops`).

For each user and channel the store keeps the messages that mention the user and the
last message that the user has read.  What the calls are for is said by replaying them
on an empty list (`Unread.replay`): adding appends, acknowledging removes what is not
newer than the message.

The MongoDB driver does that for one user.  For many users it asks for one `update_many`
with `upsert`, which inserts one document, and only if nothing matches; a user without a
document is lost as soon as another user has one, or as soon as there are two of them.
The in-memory driver replaces the mentions when it should append, and drops all of them on
an acknowledgement.  `unreadStore_refines_iff` says along which sequences of calls the
stores nevertheless hold what the replay holds.
-/
import DawnChat.Messages.Ack

namespace DawnChat

open RustStd Fallible Handler Run Collection MongoDb List Option

variable {σ : Type}

/-! ### What the calls are for -/

/-- What is stored for a user and a channel. -/
structure Unread where
  mentions : List String := []
  lastId : Option String := none
  deriving DecidableEq, Repr

/-- The calls that change unreads. -/
inductive UnreadCall where
  | addMentionToUnread (channelId userId : String) (messageIds : List String)
  | addMentionToManyUnreads (channelId : String) (userIds messageIds : List String)
  | acknowledgeMessage (channelId userId messageId : String)
  deriving DecidableEq, Repr

open Unread

namespace Unread

/-- Mentions are added at the end. -/
def add (unread : Unread) (messageIds : List String) : Unread :=
  { unread with mentions := unread.mentions ++ messageIds }

/-- What is not newer than the message is read. -/
def acknowledge (unread : Unread) (messageId : String) : Unread where
  mentions := unread.mentions.filter (messageId < ·)
  lastId := some messageId

/-- What a call does to the unread of one user and channel. -/
def replay (key : ChannelCompositeKey) (unread : Unread) : UnreadCall → Unread
  | .addMentionToUnread channelId userId messageIds =>
    if key = ⟨channelId, userId⟩ then unread.add messageIds else unread
  | .addMentionToManyUnreads channelId userIds messageIds =>
    if key.channel = channelId ∧ key.user ∈ userIds then unread.add messageIds else unread
  | .acknowledgeMessage channelId userId messageId =>
    if key = ⟨channelId, userId⟩ then unread.acknowledge messageId else unread

variable {unread : Unread} {messageIds : List String}

theorem add_eq_self : unread.add messageIds = unread ↔ messageIds = [] := by
  constructor
  · intro h
    simpa [add] using congrArg mentions h
  · rintro rfl
    simp [add]

theorem add_add (unread : Unread) (messageIds messageIds' : List String) :
    (unread.add messageIds).add messageIds' = unread.add (messageIds ++ messageIds') :=
  congrArg (mk · unread.lastId) (append_assoc ..)

theorem add_inj {messageIds' : List String} :
    unread.add messageIds = unread.add messageIds' ↔ messageIds = messageIds' := by
  rw [add, add, mk.injEq, append_cancel_left_eq, and_iff_left rfl]

end Unread

/-! ### Drivers -/

/-- The calls of a driver on unreads. -/
structure UnreadDriver (σ : Type) where
  /-- User and channel. -/
  fetchUnread : String → String → σ → Result (Option ChannelUnread)
  /-- Channel, user and message. -/
  acknowledgeMessage : String → String → String → Request σ (Option ChannelUnread)
  /-- Channel, user and messages. -/
  addMentionToUnread : String → String → List String → Request σ Unit
  /-- Channel, users and messages. -/
  addMentionToManyUnreads : String → List String → List String → Request σ Unit

namespace ReferenceDb

/-- Add a mention to multiple users. -/
def addMentionToManyUnreads (channelId : String) (userIds messageIds : List String) :
    Request ReferenceDb Unit :=
  write fun db => .ok (userIds.foldl (fun db userId =>
    db.upsertUnread ⟨channelId, userId⟩ fun unread =>
      { unread with mentions := some messageIds }) db)

def unreadDriver : UnreadDriver ReferenceDb where
  fetchUnread := fetchUnread
  acknowledgeMessage := acknowledgeMessage
  addMentionToUnread := addMentionToUnread
  addMentionToManyUnreads := addMentionToManyUnreads

end ReferenceDb

/-- The key of a document; one that an upsert made can lack the user. -/
structure UnreadId where
  channel : String
  user : Option String
  deriving DecidableEq, Repr, Inhabited

/-- A document of the collection. -/
structure UnreadDocument where
  id : UnreadId
  lastId : Option String := none
  mentions : Option (List String) := none
  deriving DecidableEq, Repr, Inhabited

abbrev UnreadCollection := Collection UnreadDocument.id

/-- The user that an upsert with `$in` writes into the document it inserts.  It takes the
fields of the document from the equalities of the filter, and whether a list with one user
counts as an equality is left open; a user that is not listed is never written. -/
structure UpsertRule where
  user : List String → Option String
  named : ∀ {userIds userId}, user userIds = some userId → userId ∈ userIds

/-- A list with one user is an equality. -/
def UpsertRule.single : UpsertRule where
  user
    | [userId] => some userId
    | _ => none
  named := by
    intro userIds userId h
    split at h
    · obtain rfl := Option.some.inj h
      exact List.mem_singleton_self _
    · cases h

namespace UnreadDocument

/-- `$push` with `$each` -/
def push (doc : UnreadDocument) (messageIds : List String) : UnreadDocument :=
  { doc with mentions := some (doc.mentions.getD [] ++ messageIds) }

/-- `$pull` what is at most the message, and `$set` the last message. -/
def acknowledge (doc : UnreadDocument) (messageId : String) : UnreadDocument :=
  { doc with
    mentions := doc.mentions.map fun mentions => mentions.filter fun id => !decide (id ≤ messageId)
    lastId := some messageId }

/-- The document as it is decoded. -/
def toUnread (doc : UnreadDocument) (key : ChannelCompositeKey) : ChannelUnread where
  id := key
  lastId := doc.lastId
  mentions := doc.mentions

/-- One of the users in the channel. -/
def isFor (channelId : String) (userIds : List String) (doc : UnreadDocument) : Bool :=
  doc.id.channel = channelId && doc.id.user.any fun userId => userIds.contains userId

theorem isFor_of_id {channelId userId : String} {userIds : List String} {doc : UnreadDocument}
    (h : doc.id = ⟨channelId, some userId⟩) :
    doc.isFor channelId userIds = userIds.contains userId := by
  simp [isFor, h]

end UnreadDocument

namespace MongoDb

/-- Fetch unread for a specific user in a channel. -/
def fetchUnread (userId channelId : String) (unreads : UnreadCollection) :
    Result (Option ChannelUnread) :=
  .ok ((unreads.get? ⟨channelId, some userId⟩).map (·.toUnread ⟨channelId, userId⟩))

/-- The outcome of an upsert. -/
def upserted (operation : String) : Option UnreadCollection → Result UnreadCollection
  | some unreads => .ok unreads
  | none => .error (.databaseError operation "channel_unreads")

/-- Acknowledge a message, and returns updated channel unread. -/
def acknowledgeMessage (channelId userId messageId : String) :
    Request UnreadCollection (Option ChannelUnread) := do
  write fun unreads => upserted "update_one"
    (unreads.upsertMany (·.id = ⟨channelId, some userId⟩) (·.acknowledge messageId) (fun _ => rfl)
      (UnreadDocument.acknowledge { id := ⟨channelId, some userId⟩ } messageId))
  read (fetchUnread userId channelId)

/-- Add a mention. -/
def addMentionToUnread (channelId userId : String) (messageIds : List String) :
    Request UnreadCollection Unit :=
  write fun unreads => upserted "update_one"
    (unreads.upsertMany (·.id = ⟨channelId, some userId⟩) (·.push messageIds) (fun _ => rfl)
      (UnreadDocument.push { id := ⟨channelId, some userId⟩ } messageIds))

/-- Add a mention to multiple users. -/
def addMentionToManyUnreads (rule : UpsertRule) (channelId : String)
    (userIds messageIds : List String) : Request UnreadCollection Unit :=
  write fun unreads => upserted "update_many"
    (unreads.upsertMany (·.isFor channelId userIds) (·.push messageIds) (fun _ => rfl)
      (UnreadDocument.push { id := ⟨channelId, rule.user userIds⟩ } messageIds))

def unreadDriver (rule : UpsertRule) : UnreadDriver UnreadCollection where
  fetchUnread := fetchUnread
  acknowledgeMessage := acknowledgeMessage
  addMentionToUnread := addMentionToUnread
  addMentionToManyUnreads := addMentionToManyUnreads rule

end MongoDb

/-! ### Sequences of calls -/

namespace UnreadDriver

/-- What the driver says about a user and a channel. -/
def view (D : UnreadDriver σ) (s : σ) (key : ChannelCompositeKey) : Unread :=
  match D.fetchUnread key.user key.channel s with
  | .ok (some unread) => { mentions := unread.mentions.getD [], lastId := unread.lastId }
  | _ => {}

/-- Make a call.  A call that fails leaves what it has written. -/
def exec (D : UnreadDriver σ) (s : σ) : UnreadCall → σ
  | .addMentionToUnread channelId userId messageIds =>
    ((D.addMentionToUnread channelId userId messageIds).exec s).2
  | .addMentionToManyUnreads channelId userIds messageIds =>
    ((D.addMentionToManyUnreads channelId userIds messageIds).exec s).2
  | .acknowledgeMessage channelId userId messageId =>
    ((D.acknowledgeMessage channelId userId messageId).exec s).2

/-- A store, next to the replay of the calls that were made on it. -/
structure Replayed (σ : Type) where
  store : σ
  replay : ChannelCompositeKey → Unread

/-- Nothing has been stored yet. -/
def Replayed.start (s : σ) : Replayed σ where
  store := s
  replay _ := {}

/-- Make a call, and replay it. -/
def step (D : UnreadDriver σ) (x : Replayed σ) (call : UnreadCall) : Option (Replayed σ) :=
  some
    { store := D.exec x.store call
      replay := fun key => (x.replay key).replay key call }

/-- The driver holds what the replay holds, for every user and channel. -/
def Agrees (D : UnreadDriver σ) (x : Replayed σ) : Prop :=
  ∀ key, D.view x.store key = x.replay key

/-- A call does to every user and channel what the replay does. -/
def Exact (D : UnreadDriver σ) (s : σ) (call : UnreadCall) : Prop :=
  ∀ key, D.view (D.exec s call) key = (D.view s key).replay key call

/-- **Refinement along a sequence of calls**, from the exactness of its steps. -/
theorem always_agrees_iff {D : UnreadDriver σ} {C : σ → UnreadCall → Prop}
    (hexact : ∀ s call, D.Exact s call ↔ C s call) {x : Replayed σ} (hx : D.Agrees x)
    (calls : List UnreadCall) :
    Always D.step D.Agrees x calls ↔
      EachStep D.step (fun x call => C x.store call) x calls := by
  refine always_iff_of_step (fun x call hagrees => ?_) hx calls
  rw [← hexact]
  constructor
  · intro h key
    rw [hagrees key]
    exact h _ rfl key
  · intro h x' hx' key
    obtain rfl := some.inj hx'
    have hkey := h key
    rw [hagrees key] at hkey
    exact hkey

end UnreadDriver

/-! ### The MongoDB driver -/

open UnreadDocument

namespace MongoDb

variable {rule : UpsertRule} {unreads : UnreadCollection}

/-- What is stored for a user and a channel. -/
def stored (unreads : UnreadCollection) (key : ChannelCompositeKey) : Option UnreadDocument :=
  unreads.get? ⟨key.channel, some key.user⟩

theorem view_eq (unreads : UnreadCollection) (key : ChannelCompositeKey) :
    (unreadDriver rule).view unreads key
      = (stored unreads key).elim {} fun doc => ⟨doc.mentions.getD [], doc.lastId⟩ := by
  show (match fetchUnread key.user key.channel unreads with
    | .ok (some unread) => _
    | _ => _) = _
  rw [fetchUnread, stored]
  cases unreads.get? ⟨key.channel, some key.user⟩ <;> rfl

variable {channelId : String} {userIds messageIds : List String}

theorem key_eq_iff {key : ChannelCompositeKey} {userId : String} :
    (⟨key.channel, some key.user⟩ : UnreadId) = ⟨channelId, some userId⟩ ↔
      key = ⟨channelId, userId⟩ := by
  rcases key with ⟨channel, user⟩
  simp

/-- Reading an acknowledged document. -/
theorem acknowledge_mentions (mentions : Option (List String)) (messageId : String) :
    (mentions.map fun mentions => mentions.filter fun id => !decide (id ≤ messageId)).getD []
      = (mentions.getD []).filter (messageId < ·) := by
  have hfilter : (fun id : String => !decide (id ≤ messageId))
      = fun id => decide (messageId < id) := by
    funext id
    rw [← decide_not]
    exact decide_eq_decide.mpr not_le
  rw [hfilter]
  cases mentions <;> rfl

/-- The two calls for one user write one document. -/
theorem view_upserted {operation : String} {f : UnreadDocument → UnreadDocument}
    {hf : ∀ doc, (f doc).id = doc.id} {g : Unread → Unread}
    (hg : ∀ doc, (⟨(f doc).mentions.getD [], (f doc).lastId⟩ : Unread)
      = g ⟨doc.mentions.getD [], doc.lastId⟩)
    (channelId userId : String) (key : ChannelCompositeKey) :
    (unreadDriver rule).view ((write fun unreads => upserted operation
        (unreads.upsertMany (·.id = ⟨channelId, some userId⟩) f hf
          (f { id := ⟨channelId, some userId⟩ })) :
        Request UnreadCollection Unit).exec unreads).2 key
      = if key = ⟨channelId, userId⟩ then g ((unreadDriver rule).view unreads key)
        else (unreadDriver rule).view unreads key := by
  have hid : (f { id := ⟨channelId, some userId⟩ }).id = ⟨channelId, some userId⟩ := hf _
  obtain ⟨unreads', hupsert, hget⟩ := exists_upsertMany_key unreads f hf
    (f { id := ⟨channelId, some userId⟩ })
  rw [hid] at hupsert hget
  have hwrite : (write fun unreads => upserted operation
      (unreads.upsertMany (·.id = ⟨channelId, some userId⟩) f hf
        (f { id := ⟨channelId, some userId⟩ })) : Request UnreadCollection Unit).exec unreads
      = (.ok (), unreads') := by
    rw [exec_write_ok, hupsert]
    rfl
  rw [hwrite, view_eq, view_eq, stored, stored, hget]
  by_cases hkey : key = ⟨channelId, userId⟩
  · rw [if_pos (key_eq_iff.mpr hkey), if_pos hkey]
    rcases unreads.get? ⟨key.channel, some key.user⟩ with - | doc
    · exact hg _
    · exact hg doc
  · rw [if_neg (mt key_eq_iff.mp hkey), if_neg hkey]

theorem view_addMentionToUnread (channelId userId : String) (messageIds : List String) :
    (unreadDriver rule).Exact unreads (.addMentionToUnread channelId userId messageIds) :=
  fun key => view_upserted (g := (·.add messageIds)) (fun _ => rfl) channelId userId key

theorem view_acknowledgeMessage (channelId userId messageId : String) :
    (unreadDriver rule).Exact unreads (.acknowledgeMessage channelId userId messageId) := by
  intro key
  have hread : ((acknowledgeMessage channelId userId messageId).exec unreads).2
      = ((write fun unreads => upserted "update_one"
          (unreads.upsertMany (·.id = ⟨channelId, some userId⟩) (·.acknowledge messageId)
            (fun _ => rfl)
            (acknowledge { id := ⟨channelId, some userId⟩ } messageId)) :
          Request UnreadCollection Unit).exec unreads).2 := by
    rw [acknowledgeMessage, exec_bind]
    rcases (write _ : Request UnreadCollection Unit).exec unreads with ⟨e | u, s⟩ <;> rfl
  show (unreadDriver rule).view ((acknowledgeMessage channelId userId messageId).exec unreads).2
    key = _
  rw [hread]
  refine view_upserted (g := (·.acknowledge messageId)) (fun doc => ?_) channelId userId key
  exact congrArg (Unread.mk · (some messageId)) (acknowledge_mentions doc.mentions messageId)

/-- The update for many users writes to this one: there is a document, or the one that is
inserted is for this user. -/
def Reached (rule : UpsertRule) (unreads : UnreadCollection) (channelId : String)
    (userIds : List String) (userId : String) : Prop :=
  stored unreads ⟨channelId, userId⟩ ≠ none ∨
    (∀ other ∈ userIds, stored unreads ⟨channelId, other⟩ = none) ∧
      rule.user userIds = some userId

instance (rule : UpsertRule) (unreads : UnreadCollection) (channelId : String)
    (userIds : List String) (userId : String) :
    Decidable (Reached rule unreads channelId userIds userId) :=
  inferInstanceAs (Decidable (_ ∨ _))

/-- A document matches exactly if one of the users has one. -/
theorem any_isFor_iff :
    (unreads.documents.any fun doc => doc.isFor channelId userIds) = true ↔
      ∃ userId ∈ userIds, stored unreads ⟨channelId, userId⟩ ≠ none := by
  rw [List.any_eq_true]
  constructor
  · rintro ⟨doc, hdoc, hfor⟩
    simp only [isFor, Bool.and_eq_true, decide_eq_true_eq, Option.any_eq_true,
      contains_iff_mem] at hfor
    obtain ⟨hchannel, userId, huser, hmem⟩ := hfor
    refine ⟨userId, hmem, ?_⟩
    have hid : doc.id = ⟨channelId, some userId⟩ := by
      rw [← hchannel, ← huser]
    rw [stored, ← hid, get?_key hdoc]
    simp
  · rintro ⟨userId, hmem, hne⟩
    obtain ⟨doc, hdoc⟩ := ne_none_iff_exists'.mp hne
    obtain ⟨hmemDoc, hid⟩ := get?_eq_some.mp hdoc
    refine ⟨doc, hmemDoc, ?_⟩
    rw [isFor_of_id hid]
    simpa using hmem

/-- Some of the users have documents: those are updated. -/
theorem stored_updated {unreads' : UnreadCollection} {new : UnreadDocument}
    (hany : (unreads.documents.any fun doc => doc.isFor channelId userIds) = true)
    (h : unreads.upsertMany (·.isFor channelId userIds) (·.push messageIds) (fun _ => rfl) new
      = some unreads') (key : ChannelCompositeKey) :
    stored unreads' key
      = if key.channel = channelId ∧ key.user ∈ userIds then
          (stored unreads key).map (·.push messageIds)
        else stored unreads key := by
  rw [stored, stored, get?_upsertMany_of_any hany h]
  rcases hdoc : unreads.get? ⟨key.channel, some key.user⟩ with - | doc
  · simp
  · have hfor : doc.isFor channelId userIds = true ↔
        key.channel = channelId ∧ key.user ∈ userIds := by
      rw [isFor, (get?_eq_some.mp hdoc).2]
      simp
    by_cases hkey : key.channel = channelId ∧ key.user ∈ userIds
    · rw [if_pos hkey, map_some, if_pos (hfor.mpr hkey)]
      rfl
    · rw [if_neg hkey, map_some, if_neg (mt hfor.mp hkey)]

/-- Nobody has a document: one is inserted, if its key is free. -/
theorem stored_inserted {unreads' : UnreadCollection}
    (hany : (unreads.documents.any fun doc => doc.isFor channelId userIds) = false)
    (h : unreads.upsertMany (·.isFor channelId userIds) (·.push messageIds) (fun _ => rfl)
      (push { id := ⟨channelId, rule.user userIds⟩ } messageIds) = some unreads')
    (key : ChannelCompositeKey) :
    stored unreads' key
      = if key.channel = channelId ∧ rule.user userIds = some key.user then
          some (push { id := ⟨channelId, rule.user userIds⟩ } messageIds)
        else stored unreads key := by
  have hkey : (⟨key.channel, some key.user⟩ : UnreadId) = ⟨channelId, rule.user userIds⟩ ↔
      key.channel = channelId ∧ rule.user userIds = some key.user := by
    rw [UnreadId.mk.injEq]
    exact and_congr_right fun _ => eq_comm
  rw [stored, stored, get?_upsertMany_of_not_any hany h]
  exact if_congr hkey rfl rfl

/-- The insertion fails only if the document it would insert has no user. -/
theorem user_eq_none_of_upsertMany
    (hnone : ∀ other ∈ userIds, stored unreads ⟨channelId, other⟩ = none)
    (h : unreads.upsertMany (·.isFor channelId userIds) (·.push messageIds) (fun _ => rfl)
      (push { id := ⟨channelId, rule.user userIds⟩ } messageIds) = none) :
    rule.user userIds = none := by
  unfold upsertMany at h
  split at h
  · cases h
  · split at h
    · next doc hdoc =>
      rcases huser : rule.user userIds with - | userId
      · rfl
      · have hfree : unreads.get? ⟨channelId, some userId⟩ = none := hnone userId (rule.named huser)
        change unreads.get? ⟨channelId, rule.user userIds⟩ = some doc at hdoc
        rw [huser, hfree] at hdoc
        cases hdoc
    · cases h

/-- **What the update for many users does**: the users it reaches get the mentions, and
nobody else does. -/
theorem view_addMentionToManyUnreads (channelId : String) (userIds messageIds : List String)
    (key : ChannelCompositeKey) :
    (unreadDriver rule).view ((unreadDriver rule).exec unreads
        (.addMentionToManyUnreads channelId userIds messageIds)) key
      = if key.channel = channelId ∧ key.user ∈ userIds ∧
            Reached rule unreads channelId userIds key.user then
          ((unreadDriver rule).view unreads key).add messageIds
        else (unreadDriver rule).view unreads key := by
  obtain ⟨result, hupsert⟩ : ∃ result, unreads.upsertMany (·.isFor channelId userIds)
    (·.push messageIds) (fun _ => rfl)
    (push { id := ⟨channelId, rule.user userIds⟩ } messageIds) = result := ⟨_, rfl⟩
  have hexec : (unreadDriver rule).exec unreads
      (.addMentionToManyUnreads channelId userIds messageIds) = result.getD unreads := by
    show ((addMentionToManyUnreads rule channelId userIds messageIds).exec unreads).2 = _
    rw [addMentionToManyUnreads, exec_write, hupsert]
    cases result <;> rfl
  rw [hexec]
  rcases hany : unreads.documents.any fun doc => doc.isFor channelId userIds with - | -
  · have hnone : ∀ other ∈ userIds, stored unreads ⟨channelId, other⟩ = none := by
      intro other hother
      by_contra hne
      rw [any_isFor_iff.mpr ⟨other, hother, hne⟩] at hany
      cases hany
    rcases result with - | unreads'
    · -- the key is taken, nothing is written
      rw [getD_none, if_neg]
      rintro ⟨rfl, hmem, hreached | ⟨-, huser⟩⟩
      · exact hreached (hnone _ hmem)
      · rw [user_eq_none_of_upsertMany hnone hupsert] at huser
        cases huser
    · rw [getD_some, view_eq, view_eq, stored_inserted hany hupsert]
      by_cases hkey : key.channel = channelId ∧ rule.user userIds = some key.user
      · obtain ⟨rfl, huser⟩ := hkey
        have hmem : key.user ∈ userIds := rule.named huser
        rw [if_pos ⟨rfl, huser⟩, if_pos ⟨rfl, hmem, .inr ⟨hnone, huser⟩⟩]
        have hfree : stored unreads key = none := hnone key.user hmem
        rw [hfree]
        rfl
      · rw [if_neg hkey, if_neg]
        rintro ⟨rfl, hmem, hreached | ⟨-, huser⟩⟩
        · exact hreached (hnone _ hmem)
        · exact hkey ⟨rfl, huser⟩
  · obtain rfl := (if_pos hany).symm.trans hupsert
    rw [getD_some, view_eq, view_eq, stored_updated hany hupsert]
    by_cases hkey : key.channel = channelId ∧ key.user ∈ userIds
    · obtain ⟨rfl, hmem⟩ := hkey
      rw [if_pos ⟨rfl, hmem⟩]
      rcases hdoc : stored unreads key with - | doc
      · -- somebody else has a document, so none is inserted for this user
        rw [if_neg]
        · rfl
        · rintro ⟨-, -, hreached | ⟨hnone, -⟩⟩
          · exact hreached hdoc
          · obtain ⟨other, hother, hne⟩ := any_isFor_iff.mp hany
            exact hne (hnone other hother)
      · rw [if_pos ⟨rfl, hmem, .inl (by rw [hdoc]; simp)⟩]
        rfl
    · rw [if_neg hkey, if_neg fun h => hkey ⟨h.1, h.2.1⟩]

/-- A call reaches every user it names. -/
def ReachesAll (rule : UpsertRule) (unreads : UnreadCollection) : UnreadCall → Prop
  | .addMentionToManyUnreads channelId userIds messageIds =>
    messageIds = [] ∨ ∀ userId ∈ userIds, Reached rule unreads channelId userIds userId
  | _ => True

theorem exact_iff (rule : UpsertRule) (unreads : UnreadCollection) (call : UnreadCall) :
    (unreadDriver rule).Exact unreads call ↔ ReachesAll rule unreads call := by
  cases call with
  | addMentionToUnread channelId userId messageIds =>
    exact iff_of_true (view_addMentionToUnread channelId userId messageIds) trivial
  | acknowledgeMessage channelId userId messageId =>
    exact iff_of_true (view_acknowledgeMessage channelId userId messageId) trivial
  | addMentionToManyUnreads channelId userIds messageIds =>
    constructor
    · intro h
      refine or_iff_not_imp_left.mpr fun hids userId hmem => ?_
      by_contra hreached
      have hkey := h ⟨channelId, userId⟩
      rw [view_addMentionToManyUnreads, if_neg fun h => hreached h.2.2, replay,
        if_pos ⟨rfl, hmem⟩] at hkey
      exact hids (add_eq_self.mp hkey.symm)
    · intro h key
      rw [view_addMentionToManyUnreads, replay]
      by_cases hkey : key.channel = channelId ∧ key.user ∈ userIds
      · rw [if_pos hkey]
        rcases h with rfl | hreached
        · rw [add_eq_self.mpr rfl, ite_self]
        · exact if_pos ⟨hkey.1, hkey.2, hreached _ hkey.2⟩
      · rw [if_neg hkey, if_neg fun h => hkey ⟨h.1, h.2.1⟩]

end MongoDb

/-! ### The in-memory driver -/

namespace ReferenceDb

variable {db : ReferenceDb}

theorem view_eq (db : ReferenceDb) (key : ChannelCompositeKey) :
    unreadDriver.view db key
      = (db.channelUnreads.lookup key).elim {} fun unread =>
          ⟨unread.mentions.getD [], unread.lastId⟩ := by
  rcases key with ⟨channel, user⟩
  show (match fetchUnread user channel db with
    | .ok (some unread) => _
    | _ => _) = _
  rw [fetchUnread]
  cases db.channelUnreads.lookup ⟨channel, user⟩ <;> rfl

/-- An upsert changes what is stored for one key. -/
theorem view_upsertUnread {f : ChannelUnread → ChannelUnread} {g : Unread → Unread}
    (hg : ∀ unread, (⟨(f unread).mentions.getD [], (f unread).lastId⟩ : Unread)
      = g ⟨unread.mentions.getD [], unread.lastId⟩) (key key' : ChannelCompositeKey) :
    unreadDriver.view (db.upsertUnread key' f) key
      = if key = key' then g (unreadDriver.view db key) else unreadDriver.view db key := by
  rw [view_eq, view_eq, upsertUnread]
  dsimp only
  by_cases hkey : key = key'
  · subst hkey
    rw [if_pos rfl, AList.lookup_insert]
    rcases db.channelUnreads.lookup key with - | unread
    · exact hg _
    · exact hg unread
  · rw [if_neg hkey, AList.lookup_insert_ne hkey]

/-- The mentions that were there are gone. -/
def replaceMentions (messageIds : List String) (unread : Unread) : Unread :=
  { unread with mentions := messageIds }

theorem view_addMentionToUnread (channelId userId : String) (messageIds : List String)
    (key : ChannelCompositeKey) :
    unreadDriver.view (unreadDriver.exec db (.addMentionToUnread channelId userId messageIds)) key
      = if key = ⟨channelId, userId⟩ then replaceMentions messageIds (unreadDriver.view db key)
        else unreadDriver.view db key :=
  view_upsertUnread (f := fun unread => { unread with mentions := some messageIds })
    (fun _ => rfl) key ⟨channelId, userId⟩

theorem view_acknowledgeMessage (channelId userId messageId : String) (key : ChannelCompositeKey) :
    unreadDriver.view (unreadDriver.exec db (.acknowledgeMessage channelId userId messageId)) key
      = if key = ⟨channelId, userId⟩ then ⟨[], some messageId⟩ else unreadDriver.view db key :=
  view_upsertUnread (f := fun unread => { unread with mentions := none, lastId := some messageId })
    (g := fun _ => ⟨[], some messageId⟩) (fun _ => rfl) key ⟨channelId, userId⟩

theorem view_addMentionToManyUnreads (channelId : String) (userIds messageIds : List String)
    (key : ChannelCompositeKey) :
    unreadDriver.view (unreadDriver.exec db
        (.addMentionToManyUnreads channelId userIds messageIds)) key
      = if key.channel = channelId ∧ key.user ∈ userIds then
          replaceMentions messageIds (unreadDriver.view db key)
        else unreadDriver.view db key := by
  show unreadDriver.view (userIds.foldl _ db) key = _
  induction userIds generalizing db with
  | nil => simp
  | cons userId userIds ih =>
    rw [foldl_cons, ih, view_upsertUnread (g := replaceMentions messageIds) fun _ => rfl]
    rcases key with ⟨channel, user⟩
    -- replacing twice is replacing once
    by_cases hchannel : channel = channelId
    · by_cases huser : user = userId
      · simp [hchannel, huser, replaceMentions]
      · simp [hchannel, huser]
    · simp [hchannel]

/-- No mention is lost: where mentions are added there are none, and what is acknowledged is
not older than a mention. -/
def NothingLost (db : ReferenceDb) : UnreadCall → Prop
  | .addMentionToUnread channelId userId _ =>
    (unreadDriver.view db ⟨channelId, userId⟩).mentions = []
  | .addMentionToManyUnreads channelId userIds _ =>
    ∀ userId ∈ userIds, (unreadDriver.view db ⟨channelId, userId⟩).mentions = []
  | .acknowledgeMessage channelId userId messageId =>
    ∀ id ∈ (unreadDriver.view db ⟨channelId, userId⟩).mentions, id ≤ messageId

theorem replaceMentions_eq_add {unread : Unread} {messageIds : List String} :
    replaceMentions messageIds unread = unread.add messageIds ↔ unread.mentions = [] := by
  rw [replaceMentions, Unread.add, Unread.mk.injEq, and_iff_left rfl]
  exact self_eq_append_left

/-- Two updates of the same keys do the same if they agree on those keys. -/
theorem forall_ite_eq_ite_iff {K V : Type} {p : K → Prop} [DecidablePred p] {f g v : K → V} :
    (∀ k, (if p k then f k else v k) = if p k then g k else v k) ↔ ∀ k, p k → f k = g k := by
  refine forall_congr' fun k => ?_
  by_cases h : p k
  · rw [if_pos h, if_pos h, forall_prop_of_true h]
  · rw [if_neg h, if_neg h]
    exact iff_of_true rfl fun hp => absurd hp h

theorem acknowledge_eq {unread : Unread} {messageId : String} :
    (⟨[], some messageId⟩ : Unread) = unread.acknowledge messageId ↔
      ∀ id ∈ unread.mentions, id ≤ messageId := by
  rw [Unread.acknowledge, Unread.mk.injEq, and_iff_left rfl, eq_comm, filter_eq_nil_iff]
  simp only [decide_eq_true_eq, not_lt]

theorem exact_iff (db : ReferenceDb) (call : UnreadCall) :
    unreadDriver.Exact db call ↔ NothingLost db call := by
  cases call with
  | addMentionToUnread channelId userId messageIds =>
    simp only [UnreadDriver.Exact, view_addMentionToUnread, replay]
    rw [forall_ite_eq_ite_iff, forall_eq]
    exact replaceMentions_eq_add
  | addMentionToManyUnreads channelId userIds messageIds =>
    simp only [UnreadDriver.Exact, view_addMentionToManyUnreads, replay]
    rw [forall_ite_eq_ite_iff]
    constructor
    · intro h userId hmem
      exact replaceMentions_eq_add.mp (h ⟨channelId, userId⟩ ⟨rfl, hmem⟩)
    · rintro h ⟨_, userId⟩ ⟨rfl, hmem⟩
      exact replaceMentions_eq_add.mpr (h userId hmem)
  | acknowledgeMessage channelId userId messageId =>
    simp only [UnreadDriver.Exact, view_acknowledgeMessage, replay]
    rw [forall_ite_eq_ite_iff, forall_eq]
    exact acknowledge_eq

end ReferenceDb

/-! ### Both drivers -/

/-- **Unreads are what the calls make them** along a sequence of calls from a store without
unreads, for every user and channel and after every call: with MongoDB exactly if every
update for many users reaches all of them, and with the in-memory driver exactly if mentions
are only added where there are none and nothing newer is dropped. -/
theorem unreadStore_refines_iff (rule : UpsertRule) (db : ReferenceDb)
    (calls : List UnreadCall) :
    (Always (MongoDb.unreadDriver rule).step (MongoDb.unreadDriver rule).Agrees (.start ∅) calls ↔
      EachStep (MongoDb.unreadDriver rule).step
        (fun x call => MongoDb.ReachesAll rule x.store call) (.start ∅) calls) ∧
    (Always ReferenceDb.unreadDriver.step ReferenceDb.unreadDriver.Agrees
        (.start { db with channelUnreads := ∅ }) calls ↔
      EachStep ReferenceDb.unreadDriver.step
        (fun x call => ReferenceDb.NothingLost x.store call)
        (.start { db with channelUnreads := ∅ }) calls) := by
  refine ⟨UnreadDriver.always_agrees_iff (exact_iff rule) (fun key => ?_) calls,
    UnreadDriver.always_agrees_iff ReferenceDb.exact_iff (fun key => ?_) calls⟩
  · exact view_eq ∅ key
  · exact ReferenceDb.view_eq _ key

/-- **Mentions get lost.**  With MongoDB, of two users without a document who are mentioned
together at most one gets the mention.  With the in-memory driver a second mention replaces the
first one, and an acknowledgement drops a newer mention. -/
theorem unreadStore_loses :
    (∀ rule, ¬ Always (MongoDb.unreadDriver rule).step (MongoDb.unreadDriver rule).Agrees
      (.start ∅) [.addMentionToManyUnreads "c" ["a", "b"] ["1"]]) ∧
    ¬ Always ReferenceDb.unreadDriver.step ReferenceDb.unreadDriver.Agrees (.start {})
      [.addMentionToUnread "c" "a" ["1"], .addMentionToUnread "c" "a" ["2"]] ∧
    ¬ Always ReferenceDb.unreadDriver.step ReferenceDb.unreadDriver.Agrees (.start {})
      [.addMentionToUnread "c" "a" ["2"], .acknowledgeMessage "c" "a" "1"] := by
  refine ⟨fun rule h => ?_, fun h => ?_, fun h => ?_⟩
  · have hexact : (unreadDriver rule).Exact ∅
        (.addMentionToManyUnreads "c" ["a", "b"] ["1"]) := by
      intro key
      rw [view_eq ∅]
      exact h [_] _ prefix_rfl rfl key
    -- an inserted document is for one user only
    have hreached := ((exact_iff rule ∅ _).mp hexact).resolve_left (by simp)
    have hinserted : ∀ userId ∈ ["a", "b"], rule.user ["a", "b"] = some userId :=
      fun userId hmem => ((hreached userId hmem).resolve_left fun hne => hne rfl).2
    have hsame := (hinserted "a" (by simp)).symm.trans (hinserted "b" (by simp))
    exact absurd hsame (by decide)
  · have hboth := h [_, _] _ prefix_rfl rfl ⟨"c", "a"⟩
    revert hboth
    decide
  · have hnewer := h [_, _] _ prefix_rfl rfl ⟨"c", "a"⟩
    revert hnewer
    decide

end DawnChat
