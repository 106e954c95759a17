/-
DawnChat/Messages/Ack.lean

The ack worker (`core/database/src/tasks/ack.rs`).

Messages that notify somebody are queued.  A worker takes them from the queue, merges those
of one channel into a batch, and hands the batch to `handle_ack_event`, which stores unread
mentions and publishes pushes.  If the batch holds a mass mention the channel is fetched,
and the worker panics unless it is a text channel.

So a message must not carry a mass mention anywhere else.  `create_from_api` does not see to
that: it checks the permission of the author, not the kind of the channel, and it clears the
roles of a message in a direct message or a group only if a user is mentioned as well.
`ackWorker_survives_iff` says which messages bring the worker down.

When a task is due is left out: a batch can be handled at any time.
-/
import DawnChat.Messages.Flags

namespace DawnChat

open RustStd Fallible Handler ReferenceDb MessageSend MessageFlagsValue List AList

variable {σ : Type}

/-! ### Events -/

inductive AckEvent where
  /-- Add mentions for a channel. -/
  | processMessage (messages : List AckEntry)
  /-- Acknowledge message in a channel for a user. -/
  | ackMessage (id : String)

def AckEvent.messages : AckEvent → List AckEntry
  | processMessage messages => messages
  | ackMessage _ => []

/-- What is published to the message broker. -/
inductive AmqpEvent where
  | messageSent (recipients : List String) (push : PushNotification)
  | massMentionMessageSent (server : String) (pushes : List PushNotification)
  | ackMessage (user channel id : String)

/-! ### The database -/

/-- A database with unread mentions. -/
structure AckDriver (σ : Type) extends MessageDriver σ where
  /-- User and channel. -/
  fetchUnread : String → String → σ → Result (Option ChannelUnread)
  /-- Channel, user and message. -/
  acknowledgeMessage : String → String → String → Request σ (Option ChannelUnread)
  /-- Channel, user and messages. -/
  addMentionToUnread : String → String → List String → Request σ Unit

namespace ReferenceDb

/-- Fetch unread for a specific user in a channel. -/
def fetchUnread (userId channelId : String) (db : ReferenceDb) :
    Result (Option ChannelUnread) :=
  .ok (db.channelUnreads.lookup ⟨channelId, userId⟩)

/-- Change the unread of a user in a channel, which is created if there is none. -/
def upsertUnread (key : ChannelCompositeKey) (f : ChannelUnread → ChannelUnread)
    (db : ReferenceDb) : ReferenceDb :=
  let unread := (db.channelUnreads.lookup key).getD { id := key }
  { db with channelUnreads := db.channelUnreads.insert key (f unread) }

/-- Acknowledge a message. -/
def acknowledgeMessage (channelId userId messageId : String) :
    Request ReferenceDb (Option ChannelUnread) := do
  write fun db => .ok (db.upsertUnread ⟨channelId, userId⟩ fun unread =>
    { unread with mentions := none, lastId := some messageId })
  read (fetchUnread userId channelId)

/-- Add a mention. -/
def addMentionToUnread (channelId userId : String) (messageIds : List String) :
    Request ReferenceDb Unit :=
  write fun db => .ok (db.upsertUnread ⟨channelId, userId⟩ fun unread =>
    { unread with mentions := some messageIds })

def ackDriver : AckDriver ReferenceDb where
  toMessageDriver := messageDriver
  fetchUnread := fetchUnread
  acknowledgeMessage := acknowledgeMessage
  addMentionToUnread := addMentionToUnread

end ReferenceDb

/-! ### Handling a batch -/

namespace AckEntry

/-- No push is sent for the message. -/
def rejected (entry : AckEntry) : Bool :=
  entry.silenced || entry.push.isNone ||
    (entry.recipients.isEmpty && !entry.message.containsMassPushMention)

/-- The push of a message. -/
def messageSent (entry : AckEntry) : Option AmqpEvent :=
  if entry.rejected then none else entry.push.map (.messageSent entry.recipients)

/-- The push of a message, if it is a mass mention. -/
def massMention (entry : AckEntry) : Option PushNotification :=
  if entry.rejected then none
  else if entry.message.containsMassPushMention then entry.push else none

/-- A mass mention is the push of its entry. -/
theorem push_of_massMention {entry : AckEntry} {push : PushNotification}
    (h : entry.massMention = some push) : entry.push = some push := by
  rw [massMention] at h
  split at h
  · cases h
  · split at h
    · exact h
    · cases h

end AckEntry

/-- The messages of a batch that a user is notified of. -/
def mentionIds (messages : List AckEntry) (user : String) : List String :=
  messages.filterMap fun entry =>
    if user ∈ entry.recipients then some entry.message.id else none

/-- Add the mentions of the users; the source goes through them in any order. -/
def addMentions (D : AckDriver σ) (channel : String) (messages : List AckEntry) :
    List String → Request σ Unit
  | [] => return ()
  | user :: users => do
      if mentionIds messages user ≠ [] then
        D.addMentionToUnread channel user (mentionIds messages user)
      addMentions D channel messages users

def handleAckEvent (D : AckDriver σ) (event : AckEvent) (user : Option String)
    (channel : String) : Request σ (List AmqpEvent) :=
  match event with
  | .ackMessage id => do
      let user ← ofOption user
      let s ← get
      let unread ← ofExcept (D.fetchUnread user channel s)
      let updated ← D.acknowledgeMessage channel user id
      match unread, updated with
      | some before, some after =>
        let beforeMentions := (before.mentions.getD []).length
        let afterMentions := (after.mentions.getD []).length
        -- the difference of two `usize` wraps
        if (beforeMentions + 2 ^ 64 - afterMentions) % 2 ^ 64 > 0 then
          return [.ackMessage user channel id]
        else return []
      | _, _ => return []
  | .processMessage messages => do
      -- the first message is logged
      let _ ← ofOption messages.head?
      -- find all the users we'll be notifying
      addMentions D channel messages (messages.flatMap (·.recipients)).dedup
      let sent := messages.filterMap AckEntry.messageSent
      match messages.filterMap AckEntry.massMention with
      | [] => return sent
      | first :: rest => do
          let s ← get
          let channel ← ofOption
            ((D.database s).fetchChannel first.message.channel).toOption
          match channel with
          | .textChannel c => return sent ++ [.massMentionMessageSent c.server (first :: rest)]
          -- unknown channel type when sending mass mention event
          | _ => ofOption none

/-! ### The worker -/

/-- User and channel of a task, and the kind of its event. -/
structure TaskKey where
  user : Option String
  channel : String
  kind : Nat
  deriving DecidableEq, Repr

/-- Task information. -/
structure AckData where
  /-- Channel to ack. -/
  channel : String
  /-- User to ack for. -/
  user : Option String
  event : AckEvent

/-- Queue a new task for a worker: one message per event. -/
def queueMessage (channel : String) (entry : AckEntry) : AckData where
  channel := channel
  user := none
  event := .processMessage [entry]

def AckData.key (data : AckData) : TaskKey where
  user := data.user
  channel := data.channel
  kind := match data.event with
    | .ackMessage _ => 0
    | .processMessage _ => 1

/-- The tasks of a worker that are not due yet. -/
abbrev AckTasks := HashMap TaskKey AckEvent

namespace AckTasks

/-- Take one entry from the queue; `none` is a panic. -/
def take (tasks : AckTasks) (data : AckData) : Option AckTasks :=
  match tasks.lookup data.key with
  | some task =>
    match data.event, task with
    | .processMessage new, .processMessage existing =>
      match new.getLast? with
      | some entry =>
        some (tasks.insert data.key (.processMessage (existing ++ [entry])))
      -- zero-length message event
      | none => some tasks
    | .processMessage _, .ackMessage _ => none
    -- replace the last acked message with the new acked message
    | .ackMessage id, _ => some (tasks.insert data.key (.ackMessage id))
  | none => some (tasks.insert data.key data.event)

/-- Take entries from the queue, one after another. -/
def takeAll (tasks : AckTasks) (queue : List AckData) : Option AckTasks := queue.foldlM take tasks

end AckTasks

/-! ### When a batch is fatal -/

/-- Adding mentions succeeds and leaves the channels alone. -/
def AckDriver.UnreadsWritable (D : AckDriver σ) : Prop :=
  ∀ channel user ids s, ∃ s', (D.addMentionToUnread channel user ids).exec s = (.ok (), s') ∧
    (D.database s').fetchChannel = (D.database s).fetchChannel

theorem ReferenceDb.unreadsWritable : ReferenceDb.ackDriver.UnreadsWritable :=
  fun _ _ _ _ => ⟨_, exec_write_ok.mpr rfl, rfl⟩

/-- Whether the channel belongs to a server. -/
def Channel.isText : Channel → Bool
  | textChannel _ => true
  | _ => false

section Batch

variable {D : AckDriver σ} {channel : String} {messages : List AckEntry} {s : σ}

theorem addMentions_ok (hwrites : D.UnreadsWritable) (channel : String)
    (messages : List AckEntry) (users : List String) (s : σ) :
    ∃ s', (addMentions D channel messages users).exec s = (.ok (), s') ∧
      (D.database s').fetchChannel = (D.database s).fetchChannel := by
  induction users generalizing s with
  | nil => exact ⟨s, rfl, rfl⟩
  | cons user users ih =>
    rw [addMentions]
    split
    · obtain ⟨s₁, hwrite, hchannels₁⟩ := hwrites channel user (mentionIds messages user) s
      obtain ⟨s₂, hrest, hchannels₂⟩ := ih s₁
      refine ⟨s₂, ?_, hchannels₂.trans hchannels₁⟩
      rw [exec_bind_of_ok hwrite]
      exact hrest
    · exact ih s

/-- **When the worker panics.**  In a channel that is stored, exactly if the batch holds a
mass mention and the channel is not a text channel. -/
theorem handleAckEvent_panic_iff (hwrites : D.UnreadsWritable) (hne : messages ≠ [])
    (hpush : ∀ entry ∈ messages, ∀ push, entry.push = some push →
      push.message.channel = channel)
    {stored : Channel} (hstored : (D.database s).fetchChannel channel = .ok stored)
    (user : Option String) :
    ((handleAckEvent D (.processMessage messages) user channel).exec s).1 = .error .panic ↔
      stored.isText = false ∧ ∃ entry ∈ messages, entry.massMention.isSome = true := by
  obtain ⟨first, rest, rfl⟩ := exists_cons_of_ne_nil hne
  obtain ⟨s', hmentions, hchannels⟩ := addMentions_ok hwrites channel (first :: rest)
    ((first :: rest).flatMap (·.recipients)).dedup s
  have hhead : (ofOption (first :: rest).head? : Request σ AckEntry).exec s
      = (.ok first, s) := rfl
  rw [handleAckEvent, exec_bind_of_ok hhead, exec_bind_of_ok hmentions]
  dsimp only
  rcases hmass : (first :: rest).filterMap AckEntry.massMention with - | ⟨push, pushes⟩
  · -- no mass mention, the channel is not fetched
    have hnone : ¬ ∃ entry ∈ first :: rest, entry.massMention.isSome = true := by
      rintro ⟨entry, hentry, hsome⟩
      rw [filterMap_eq_nil_iff.mp hmass entry hentry] at hsome
      cases hsome
    constructor
    · intro h
      cases h
    · rintro ⟨-, hexists⟩
      exact absurd hexists hnone
  · have hmem : push ∈ (first :: rest).filterMap AckEntry.massMention := by
      rw [hmass]
      exact mem_cons_self
    obtain ⟨entry, hentry, hentryMass⟩ := mem_filterMap.mp hmem
    have hfetch : (D.database s').fetchChannel push.message.channel = .ok stored := by
      rw [hpush entry hentry push (AckEntry.push_of_massMention hentryMass), hchannels]
      exact hstored
    have hexists : ∃ entry ∈ first :: rest, entry.massMention.isSome = true :=
      ⟨entry, hentry, by rw [hentryMass]; rfl⟩
    dsimp only
    rw [exec_get_bind, hfetch]
    have hsome : (ofOption (Except.ok stored : Result Channel).toOption :
        Request σ Channel).exec s' = (.ok stored, s') := rfl
    rw [exec_bind_of_ok hsome, and_iff_left hexists]
    rcases stored with c | c | c | c <;> simp [Channel.isText]

end Batch

/-! ### What a batch holds -/

/-- A call of `create_from_api` that succeeds. -/
structure Creation (D : AckDriver σ) (channel : Channel) where
  call : MessageSend
  before : σ
  after : σ
  sent : SentMessage
  created : (Message.createFromApi D.toMessageDriver call channel).exec before
    = (.ok sent, after)

/-- The key under which the messages of a channel are merged. -/
def Channel.messagesKey (channel : Channel) : TaskKey := ⟨none, channel.id, 1⟩

/-- The message of something that happened in a channel; what it was is left out. -/
def SystemMessage.intoMessage (id channel : String) : Message where
  id := id
  channel := channel
  author := "00000000000000000000000000"

/-- Where the entries of the queue come from, seen from one channel. -/
inductive AckSource (D : AckDriver σ) (channel : Channel) where
  /-- A message that is created in the channel. -/
  | created (creation : Creation D channel)
  /-- A message of the channel that is sent without notifications. -/
  | withoutNotifications (message : Message)
  /-- A system message that is sent to the channel. -/
  | system (id : String) (author : MessageAuthor)
  /-- An acknowledgement, or a message of another channel. -/
  | other (data : AckData) (h : data.key ≠ channel.messagesKey)

namespace AckSource

variable {D : AckDriver σ} {channel : Channel}

/-- The entry that is added to the channel's batch. -/
def entry : AckSource D channel → Option AckEntry
  | created creation => creation.sent.queued
  | withoutNotifications message =>
    message.mentions.map fun mentions =>
      { push := none
        message := message
        recipients := mentions
        silenced := message.hasSuppressedNotifications }
  | system id author => (SystemMessage.intoMessage id channel.id).ackEntry author channel
  | other _ _ => none

/-- What is queued. -/
def data : AckSource D channel → Option AckData
  | other data _ => some data
  | source => source.entry.map (queueMessage channel.id)

/-- What is queued goes into the batch of the channel, as its one message, or elsewhere. -/
theorem data_cases (source : AckSource D channel) :
    (source.data = none ∧ source.entry = none) ∨
      (∃ data, source.data = some data ∧ source.entry = none ∧
        data.key ≠ channel.messagesKey) ∨
      ∃ data entry, source.data = some data ∧ source.entry = some entry ∧
        data.key = channel.messagesKey ∧ data.event = .processMessage [entry] := by
  have hqueued : (∃ data h, source = .other data h) ∨
      source.data = source.entry.map (queueMessage channel.id) := by
    cases source with
    | other data h => exact .inl ⟨data, h, rfl⟩
    | created _ | withoutNotifications _ | system _ _ => exact .inr rfl
  rcases hqueued with ⟨data, h, rfl⟩ | hdata
  · exact .inr (.inl ⟨data, rfl, rfl, h⟩)
  · rcases hentry : source.entry with - | entry <;> rw [hentry] at hdata
    · exact .inl ⟨hdata, rfl⟩
    · exact .inr (.inr ⟨_, entry, hdata, rfl, rfl, rfl⟩)

end AckSource

namespace AckTasks

/-- The task of a key is to process these messages; there is none without messages. -/
def Pending (tasks : AckTasks) (key : TaskKey) (messages : List AckEntry) : Prop :=
  tasks.lookup key = if messages = [] then none else some (.processMessage messages)

variable {tasks tasks' : AckTasks} {data : AckData} {key : TaskKey} {messages : List AckEntry}

theorem Pending.take_other (h : tasks.Pending key messages) (hkey : data.key ≠ key)
    (htake : tasks.take data = some tasks') : tasks'.Pending key messages := by
  have hlookup : tasks'.lookup key = tasks.lookup key := by
    have hinsert (event : AckEvent) :
        (tasks.insert data.key event).lookup key = tasks.lookup key :=
      lookup_insert_ne hkey.symm
    unfold take at htake
    split at htake
    · split at htake
      · split at htake
        · obtain rfl := Option.some.inj htake
          exact hinsert _
        · obtain rfl := Option.some.inj htake
          rfl
      · cases htake
      · obtain rfl := Option.some.inj htake
        exact hinsert _
    · obtain rfl := Option.some.inj htake
      exact hinsert _
  exact hlookup.trans h

theorem Pending.take_message (h : tasks.Pending key messages) (hkey : data.key = key)
    {entry : AckEntry} (hevent : data.event = .processMessage [entry])
    (htake : tasks.take data = some tasks') : tasks'.Pending key (messages ++ [entry]) := by
  subst hkey
  have hinsert : tasks'.lookup data.key = some (.processMessage (messages ++ [entry])) := by
    rw [take, h, hevent] at htake
    by_cases hnil : messages = []
    · rw [if_pos hnil] at htake
      obtain rfl := Option.some.inj htake
      rw [hnil]
      exact lookup_insert _
    · rw [if_neg hnil] at htake
      obtain rfl := Option.some.inj htake
      exact lookup_insert _
  rw [Pending, if_neg (by simp)]
  exact hinsert

/-- **The batch of a channel** after any part of the queue: the messages of the channel, in
order, whatever else is queued in between. -/
theorem Pending.takeAll {D : AckDriver σ} {channel : Channel}
    (sources : List (AckSource D channel)) (h : tasks.Pending channel.messagesKey messages)
    (htake : tasks.takeAll (sources.filterMap AckSource.data) = some tasks') :
    tasks'.Pending channel.messagesKey (messages ++ sources.filterMap AckSource.entry) := by
  induction sources generalizing tasks messages with
  | nil =>
    obtain rfl := Option.some.inj htake
    simpa using h
  | cons source sources ih =>
    obtain ⟨hdata, hentry⟩ | ⟨data, hdata, hentry, hkey⟩ |
      ⟨data, entry, hdata, hentry, hkey, hevent⟩ := source.data_cases
    · rw [filterMap_cons_none hdata] at htake
      rw [filterMap_cons_none hentry]
      exact ih h htake
    · rw [filterMap_cons_some hdata] at htake
      rw [filterMap_cons_none hentry]
      obtain ⟨tasks₁, hfirst, hrest⟩ := Option.bind_eq_some_iff.mp htake
      exact ih (h.take_other hkey hfirst) hrest
    · rw [filterMap_cons_some hdata] at htake
      rw [filterMap_cons_some hentry]
      obtain ⟨tasks₁, hfirst, hrest⟩ := Option.bind_eq_some_iff.mp htake
      have hnext := ih (h.take_message hkey hevent hfirst) hrest
      rwa [append_assoc] at hnext

end AckTasks

/-! ### Messages with mass mentions -/

namespace MessageSend

/-- The request sets the flag that mentions everyone. -/
def requestsEveryone (call : MessageSend) : Bool :=
  call.allowMentions &&
    call.data.flags.any fun raw => MessageFlagsValue.has raw .mentionsEveryone

/-- The request is for a mass mention that neither the configuration nor a filter removes,
outside of a server. -/
def PushesMassMention (D : MessageDriver σ) (call : MessageSend) (channel : Channel) (s : σ) :
    Prop :=
  call.massMentionsEnabled = true ∧
    (call.parsed.mentionsEveryone = true ∨ call.requestsEveryone = true ∨
      call.parsed.roleMentions ≠ [] ∧
        ¬ (call.mentionedUsers D s ≠ [] ∧ channel.isDmOrGroup = true))

instance (D : MessageDriver σ) (call : MessageSend) (channel : Channel) (s : σ) :
    Decidable (call.PushesMassMention D channel s) :=
  inferInstanceAs (Decidable (_ ∧ (_ ∨ _ ∨ _ ∧ ¬ (_ ∧ _))))

theorem keptRoles_of_not_isText {D : MessageDriver σ} {call : MessageSend} {channel : Channel}
    (hkind : channel.isText = false) (s : σ) : call.keptRoles D channel s
      = if call.massMentionsEnabled = true then call.parsed.roleMentions else [] := by
  rcases channel with c | c | c | c
  case textChannel => cases hkind
  all_goals rfl

end MessageSend

namespace Creation

variable {D : AckDriver σ} {channel : Channel} (creation : Creation D channel)

theorem message_channel : creation.sent.message.channel = channel.id := by
  obtain ⟨checked, resolved, files, embeds, -, -, hmessage, -, -⟩ :=
    Message.createFromApi_ok creation.created
  rw [hmessage]
  rfl

theorem queued_eq : creation.sent.queued
    = creation.sent.message.ackEntry creation.call.author channel := by
  obtain ⟨checked, resolved, files, embeds, -, -, -, hqueued, -⟩ :=
    Message.createFromApi_ok creation.created
  exact hqueued

/-- A message with a mass mention is queued, and it is one in the batch as well. -/
theorem massMention_iff : (∃ entry, creation.sent.queued = some entry ∧
      entry.massMention.isSome = true) ↔
    creation.sent.message.containsMassPushMention = true := by
  rw [queued_eq, Message.ackEntry, Message.hasSuppressedNotifications_eq creation.created]
  rcases hmass : creation.sent.message.containsMassPushMention with - | -
  · -- the entry, if there is one, is for the message itself
    simp only [Bool.false_eq_true, iff_false, not_exists, not_and]
    intro entry hentry
    split at hentry
    · obtain rfl := Option.some.inj hentry
      simp [AckEntry.massMention, hmass]
    · cases hentry
  · simp [AckEntry.massMention, AckEntry.rejected, hmass]

/-- Outside of a server a message carries a mass mention exactly if the request asks for it. -/
theorem containsMassPushMention_iff (hkind : channel.isText = false) :
    creation.sent.message.containsMassPushMention = true ↔
      creation.call.PushesMassMention D.toMessageDriver channel creation.before := by
  obtain ⟨checked, resolved, files, embeds, hchecked, hresolved, hmessage, -, -⟩ :=
    Message.createFromApi_ok creation.created
  have hrequested : checked.1.mentionsEveryone = creation.call.requestsEveryone :=
    (requestedFlags_ok (requestedFlags_of_checkData hchecked)).2.1
  have heveryone := hresolved.everyone
  rw [hrequested] at heveryone
  have hroles := (confineMentions_ok hresolved.confined).2
  dsimp only at hroles
  rw [keptRoles_of_not_isText hkind] at hroles
  have hcontains : creation.sent.message.containsMassPushMention
      = (resolved.mass.everyone || (nonempty resolved.mass.roles).isSome) := by
    rw [hmessage]
    show (has (build _ _ _) _ || _) = _
    rw [has_build]
    rfl
  have hsome : (nonempty resolved.mass.roles).isSome = true ↔
      resolved.mass.roles ≠ [] := by
    cases resolved.mass.roles <;> simp [nonempty]
  rw [hcontains, Bool.or_eq_true, hsome, heveryone, hroles, MessageSend.PushesMassMention]
  by_cases henabled : creation.call.massMentionsEnabled = true
  · by_cases hcleared : creation.call.mentionedUsers D.toMessageDriver creation.before ≠ [] ∧
        channel.isDmOrGroup = true
    · simp [henabled, hcleared]
    · rw [if_neg hcleared, if_pos henabled]
      simp only [henabled, Bool.true_and, Bool.or_eq_true, true_and, hcleared,
        not_false_eq_true, and_true, or_assoc]
  · simp [henabled]

end Creation

section Worker

variable {D : AckDriver σ} {channel : Channel} {sources : List (AckSource D channel)}

/-- A push in the batch is for a message of the channel. -/
theorem AckSource.push_channel {source : AckSource D channel} {entry : AckEntry}
    (hentry : source.entry = some entry) {push : PushNotification}
    (hpush : entry.push = some push) : push.message.channel = channel.id := by
  cases source with
  | created creation =>
    rw [AckSource.entry, creation.queued_eq, Message.ackEntry] at hentry
    split at hentry
    · obtain rfl := Option.some.inj hentry
      obtain rfl := Option.some.inj hpush
      exact creation.message_channel
    · cases hentry
  | withoutNotifications message =>
    obtain ⟨mentions, -, rfl⟩ := Option.map_eq_some_iff.mp hentry
    cases hpush
  | system id author =>
    rw [AckSource.entry, Message.ackEntry] at hentry
    split at hentry
    · obtain rfl := Option.some.inj hentry
      obtain rfl := Option.some.inj hpush
      rfl
    · cases hentry
  | other data h => cases hentry

/-- A batch holds a mass mention exactly if one of the created messages does. -/
theorem exists_massMention_iff :
    (∃ entry ∈ sources.filterMap AckSource.entry, entry.massMention.isSome = true) ↔
      ∃ creation, .created creation ∈ sources ∧
        creation.sent.message.containsMassPushMention = true := by
  constructor
  · rintro ⟨entry, hmem, hmass⟩
    obtain ⟨source, hsource, hentry⟩ := mem_filterMap.mp hmem
    cases source with
    | created creation =>
      exact ⟨creation, hsource, creation.massMention_iff.mp ⟨entry, hentry, hmass⟩⟩
    | withoutNotifications message =>
      -- without a push the message is rejected
      obtain ⟨mentions, -, rfl⟩ := Option.map_eq_some_iff.mp hentry
      simp [AckEntry.massMention, AckEntry.rejected] at hmass
    | system id author =>
      -- it has no flags and mentions no roles
      rw [AckSource.entry, Message.ackEntry] at hentry
      split at hentry
      · obtain rfl := Option.some.inj hentry
        simp [AckEntry.massMention, Message.containsMassPushMention, SystemMessage.intoMessage]
          at hmass
      · cases hentry
    | other data h => cases hentry
  · rintro ⟨creation, hsource, hmass⟩
    obtain ⟨entry, hqueued, hentry⟩ := creation.massMention_iff.mpr hmass
    exact ⟨entry, mem_filterMap.mpr ⟨.created creation, hsource, hqueued⟩, hentry⟩

/-- **When messages bring the worker down.**  Take any messages created in a channel, queued
among others and merged into a batch.  Handling the batch does not panic, and outside of a
server no message carries a mass mention, exactly if the channel is a text channel or none
of the requests gets a mass mention past the filters. -/
theorem ackWorker_survives_iff (hwrites : D.UnreadsWritable) {tasks tasks' : AckTasks}
    (hfree : tasks.lookup channel.messagesKey = none)
    (htake : tasks.takeAll (sources.filterMap AckSource.data) = some tasks')
    {event : AckEvent} (htask : tasks'.lookup channel.messagesKey = some event)
    {t : σ} {stored : Channel} (hstored : (D.database t).fetchChannel channel.id = .ok stored)
    (hkind : stored.isText = channel.isText) :
    (((handleAckEvent D event none channel.id).exec t).1 ≠ .error .panic ∧
        (channel.isText = false → ∀ creation, .created creation ∈ sources →
          creation.sent.message.containsMassPushMention = false)) ↔
      (channel.isText = true ∨ ∀ creation, .created creation ∈ sources →
        ¬ creation.call.PushesMassMention D.toMessageDriver channel creation.before) := by
  have hpending : tasks.Pending channel.messagesKey [] := hfree
  have hbatch := hpending.takeAll sources htake
  rw [nil_append, AckTasks.Pending, htask] at hbatch
  have hne : sources.filterMap AckSource.entry ≠ [] := by
    intro hnil
    rw [if_pos hnil] at hbatch
    cases hbatch
  rw [if_neg hne] at hbatch
  obtain rfl := Option.some.inj hbatch
  have hpush : ∀ entry ∈ sources.filterMap AckSource.entry, ∀ push, entry.push = some push →
      push.message.channel = channel.id := by
    intro entry hentry push hpush
    obtain ⟨source, -, hsource⟩ := mem_filterMap.mp hentry
    exact AckSource.push_channel hsource hpush
  rw [Ne, handleAckEvent_panic_iff hwrites hne hpush hstored, hkind, exists_massMention_iff]
  rcases htext : channel.isText with - | -
  · -- each message is judged by its request
    have hcall : ∀ creation : Creation D channel,
        creation.sent.message.containsMassPushMention = false ↔
          ¬ creation.call.PushesMassMention D.toMessageDriver channel creation.before := by
      intro creation
      rw [← creation.containsMassPushMention_iff htext, Bool.not_eq_true]
    simp only [true_and, forall_const, Bool.false_eq_true, false_or, hcall, not_exists, not_and,
      Bool.not_eq_true, and_self]
  · simp

end Worker

/-- The saved messages of the user. -/
def savedNotes : Channel := .savedMessages { id := "notes", user := "user" }

/-- A direct message between the user and a friend. -/
def privateChat : Channel :=
  .directMessage { id := "chat", recipients := ["user", mentionUser.id] }

def notesDb : ReferenceDb where
  channels := HashMap.collect [("notes", savedNotes), ("chat", privateChat)]

/-- A request that succeeds. -/
def Creation.ofOk {D : AckDriver σ} {channel : Channel} (call : MessageSend) (before : σ)
    (h : ((Message.createFromApi D.toMessageDriver call channel).exec
      before).1.toOption.isSome = true) : Creation D channel where
  call := call
  before := before
  after := ((Message.createFromApi D.toMessageDriver call channel).exec before).2
  sent := ((Message.createFromApi D.toMessageDriver call channel).exec before).1.toOption.get h
  created := Prod.ext (toOption_eq_some.mp (Option.some_get h).symm) rfl

/-- A greeting of the friend. -/
def greeting : Creation ReferenceDb.ackDriver privateChat :=
  .ofOk (.ofText "user" "hello") notesDb (by decide +kernel)

/-- A mention of the friend. -/
def friendMention : Creation ReferenceDb.ackDriver privateChat :=
  .ofOk (.ofText "user" "<@01FD58YK5W7QRV5H3D64KTQYX3>") notesDb (by decide +kernel)

/-- A note for everyone. -/
def everyoneNote : Creation ReferenceDb.ackDriver savedNotes :=
  .ofOk (.ofText "user" "@everyone") notesDb (by decide +kernel)


/-- A greeting, a pin and a mention of the friend become one batch, and the worker goes on. -/
theorem ackWorker_survives_iff_chat :
    ∃ tasks event, (∅ : AckTasks).takeAll ([.created greeting,
        .system "pinned" (.system "user" none), .created friendMention].filterMap AckSource.data)
          = some tasks ∧
      tasks.lookup privateChat.messagesKey = some event ∧
      friendMention.sent.message.mentions = some [mentionUser.id] ∧ event.messages.length = 3 ∧
      ((handleAckEvent ReferenceDb.ackDriver event none privateChat.id).exec notesDb).1
        ≠ .error .panic := by
  have hrun : (((∅ : AckTasks).takeAll ([.created greeting,
      .system "pinned" (.system "user" none), .created friendMention].filterMap
        AckSource.data)).any fun tasks => (tasks.lookup privateChat.messagesKey).any
          fun event => event.messages.length = 3) = true := by decide +kernel
  obtain ⟨tasks, htake, hany⟩ := (Option.any_eq_true _ _).mp hrun
  obtain ⟨event, hevent, hlength⟩ := (Option.any_eq_true _ _).mp hany
  have hstored : (ackDriver.database notesDb).fetchChannel privateChat.id = .ok privateChat := rfl
  refine ⟨tasks, event, htake, hevent, by decide +kernel, of_decide_eq_true hlength,
    ((ackWorker_survives_iff unreadsWritable rfl htake hevent hstored rfl).mpr
      (.inr fun creation hcreation => ?_)).1⟩
  simp only [mem_cons, AckSource.created.injEq, reduceCtorEq, false_or, not_mem_nil,
    or_false] at hcreation
  obtain rfl | rfl := hcreation <;> decide +kernel

/-- **A note to oneself brings the worker down.**  The owner of saved messages has every
permission there, so `@everyone` is kept; the message is stored and queued, and the worker
panics on the batch. -/
theorem ackWorker_panics :
    ∃ (creation : Creation ReferenceDb.ackDriver savedNotes) (tasks : AckTasks)
      (event : AckEvent),
      creation.call = .ofText "user" "@everyone" ∧ creation.before = notesDb ∧
      creation.sent.message.containsMassPushMention = true ∧
      (∅ : AckTasks).takeAll ([AckSource.created creation].filterMap AckSource.data)
        = some tasks ∧
      tasks.lookup savedNotes.messagesKey = some event ∧
      ((handleAckEvent ReferenceDb.ackDriver event none savedNotes.id).exec creation.after).1
        = .error .panic := by
  have hrun : (((∅ : AckTasks).takeAll ([AckSource.created everyoneNote].filterMap
      AckSource.data)).any fun tasks => (tasks.lookup savedNotes.messagesKey).any fun event =>
        isPanic ((handleAckEvent ackDriver event none savedNotes.id).exec
          everyoneNote.after).1) = true := by decide +kernel
  obtain ⟨tasks, htake, hany⟩ := (Option.any_eq_true _ _).mp hrun
  obtain ⟨event, hevent, hpanic⟩ := (Option.any_eq_true _ _).mp hany
  exact ⟨everyoneNote, tasks, event, rfl, rfl, by decide +kernel, htake, hevent,
    isPanic_iff.mp hpanic⟩

end DawnChat
