/-
DawnChat/Messages/Create.lean

Creating a message (`Message::create_from_api` and `Message::send` in
`core/database/src/models/messages/model.rs`).

Mentions come from three places: the text, the authors of the messages that are replied
to, and the flags of the request.  They go through two filters.  The first is about roles
and mass mentions: roles that the server does not have are dropped, mass mentions can be
switched off, and the author needs a permission for them.  The second is about users and
is only run if a user is mentioned; in a direct message or a group it also clears the
roles.  Nothing is written before both have run.

The queries are those of any driver (`MessageDriver`).  `createFromApi_ok` says which
mentions a message that was sent ends up with; later modules use it and never unfold the
handler.  Events, link previews and the last message id are left out.
-/
import DawnChat.Config
import DawnChat.Files.Use
import DawnChat.Messages.Store
import DawnChat.Parser
import DawnChat.Permissions.Bulk

namespace DawnChat

open RustStd Fallible Handler List

variable {σ : Type}

/-! ### What is sent -/

/-- Representation of a text embed before it is sent. -/
structure SendableEmbed where
  iconUrl : Option String := none
  url : Option String := none
  title : Option String := none
  description : Option String := none
  /-- Id of an uploaded file. -/
  media : Option String := none
  colour : Option String := none
  deriving DecidableEq, Repr

/-- What this message should reply to and how. -/
structure ReplyIntent where
  id : String
  /-- Whether this reply should mention the message's author. -/
  mention : Bool := false
  /-- Whether to error if the referenced message doesn't exist; the default is true. -/
  failIfNotExists : Option Bool := none
  deriving DecidableEq, Repr

/-- Message to send. -/
structure DataMessageSend where
  /-- Unique token to prevent duplicate message sending. -/
  nonce : Option String := none
  content : Option String := none
  attachments : Option (List String) := none
  replies : Option (List ReplyIntent) := none
  embeds : Option (List SendableEmbed) := none
  masquerade : Option Masquerade := none
  interactions : Option Interactions := none
  /-- Bitfield of message flags. -/
  flags : Option Nat := none
  deriving DecidableEq, Repr

structure Webhook where
  id : String
  name : String := ""
  avatar : Option String := none
  deriving DecidableEq, Repr

/-- Message Author Abstraction. -/
inductive MessageAuthor where
  | user (user : V0User)
  | webhook (webhook : Webhook)
  | system (username : String) (avatar : Option String)

namespace MessageAuthor

def id : MessageAuthor → String
  | user u => u.id
  | webhook w => w.id
  | system _ _ => "00000000000000000000000000"

/-- What the message says about the webhook it comes from. -/
def messageWebhook : MessageAuthor → Option MessageWebhook
  | webhook w => some { name := w.name, avatar := w.avatar }
  | _ => none

end MessageAuthor

structure IdempotencyKey where
  key : String := ""
  deriving DecidableEq, Repr

/-- Take the nonce of a request as key, unless the cache of tokens knows it. -/
def IdempotencyKey.consumeNonce (cache : List String) (idempotency : IdempotencyKey) :
    Option String → Result IdempotencyKey
  | some v => if v ∈ cache then .error .duplicateNonce else .ok { key := v }
  | none => .ok idempotency

/-- Everything about a call but the database and the channel. -/
structure MessageSend where
  settings : Settings
  data : DataMessageSend
  author : MessageAuthor
  /-- The user that the message is sent for. -/
  user : Option V0User := none
  /-- Limits of the author. -/
  limits : FeaturesLimits
  allowMentions : Bool := true
  idempotency : IdempotencyKey := {}
  /-- Tokens used before. -/
  tokenCache : List String := []
  /-- The generated id of the message. -/
  messageId : String
  /-- Readings of the clock by the two permission calculations. -/
  clock : Stream' Timestamp := fun _ => 0
  bulkClock : Stream' Timestamp := fun _ => 0

/-- A user sends a text. -/
def MessageSend.ofText (author content : String) : MessageSend where
  settings := .shipped
  data := { content := some content }
  author := .user { id := author }
  user := some { id := author }
  limits := Settings.shipped.limitsOf author
  messageId := "message"

/-! ### The database -/

/-- A database with messages and files. -/
structure MessageDriver (σ : Type) extends Driver σ where
  fetchMessage : String → σ → Result Message
  /-- Id, tag, use and uploader. -/
  findAndUseAttachment : String → String → FileUsedFor → String → Request σ File
  insertMessage : Message → Request σ Unit

namespace ReferenceDb

/-- Insert a new message into the database. -/
def insertMessage (message : Message) (db : ReferenceDb) : Result ReferenceDb :=
  match db.messages.get? message.id with
  | some _ => .error (.databaseError "insert" "message")
  | none => .ok { db with messages := db.messages.insert message }

def messageDriver : MessageDriver ReferenceDb where
  toDriver := driver
  fetchMessage := fetchMessage
  findAndUseAttachment := findAndUseAttachment
  insertMessage message := write (insertMessage message)

end ReferenceDb

/-- Use a file for a message attachment. -/
def File.useAttachment (D : MessageDriver σ) (id parent uploaderId : String) : Request σ File :=
  D.findAndUseAttachment id "attachments" { id := parent, objectType := .message } uploaderId

/-! ### Checks that need no database -/

/-- Validate the sum of content of a message is under threshold. -/
def Message.validateSum (content : Option String) (embeds : List SendableEmbed)
    (maxLength : Nat) : Result Unit :=
  let total := (content.elim 0 String.utf8ByteSize) +
    (embeds.map fun embed => embed.description.elim 0 String.utf8ByteSize).sum
  if total ≤ maxLength then .ok () else .error .payloadTooLarge

/-- The flags that a request asks for. -/
structure RequestedFlags where
  suppressNotifications : Bool := false
  mentionsEveryone : Bool := false
  mentionsOnline : Bool := false

namespace MessageSend

variable (call : MessageSend)

/-- First step of mass mention resolution. -/
def requestedFlags : Result RequestedFlags :=
  match call.data.flags with
  | none => .ok {}
  | some raw =>
    -- bigger than all the bits combined
    if raw > 7 then .error .invalidProperty
    else
      let flags : RequestedFlags :=
        { suppressNotifications := MessageFlagsValue.has raw .suppressNotifications
          mentionsEveryone := call.allowMentions && MessageFlagsValue.has raw .mentionsEveryone
          mentionsOnline := call.allowMentions && MessageFlagsValue.has raw .mentionsOnline }
      -- not a bot, and attempting to set mention flags
      if (call.user.any fun u => u.bot.isNone) ∧
          (flags.mentionsEveryone = true ∨ flags.mentionsOnline = true) then .error .isNotBot
      else if flags.mentionsEveryone = true ∧ flags.mentionsOnline = true then
        .error .invalidFlagValue
      else .ok flags

/-- The message has no content, no attachments and no embeds. -/
def isEmpty : Bool :=
  (call.data.content.all (·.isEmpty)) && (call.data.attachments.all (·.isEmpty)) &&
    call.data.embeds.all (·.isEmpty)

/-- The checks before the message is constructed. -/
def checkData : Result (RequestedFlags × IdempotencyKey) := do
  Message.validateSum call.data.content (call.data.embeds.getD []) call.limits.messageLength
  let idempotency ← (call.idempotency.consumeNonce call.tokenCache call.data.nonce).mapError
    fun _ => .invalidOperation
  if call.isEmpty then .error .emptyMessage
  else
    let flags ← call.requestedFlags
    -- ensure restrict_reactions is not specified without reactions list
    if call.data.interactions.any fun i => i.restrictReactions && i.reactions.all (·.isEmpty) then
      .error .invalidProperty
    else .ok (flags, idempotency)

/-- Parse mentions in message. -/
def parsed : MessageResults := (call.data.content.map parseMessage).getD {}

/-! ### Mentions -/

/-- Whether mass mentions are switched on. -/
def massMentionsEnabled : Bool := call.settings.features.massMentionsEnabled

end MessageSend

/-- Mentions of roles and of everybody. -/
structure MassMentions where
  roles : List String
  everyone : Bool
  online : Bool

namespace MassMentions

/-- Something is mentioned. -/
def Present (mass : MassMentions) : Prop :=
  mass.everyone = true ∨ mass.online = true ∨ mass.roles ≠ []

instance (mass : MassMentions) : Decidable mass.Present := inferInstanceAs (Decidable (_ ∨ _))

def none : MassMentions := ⟨[], false, false⟩

end MassMentions

namespace MessageSend

variable (D : MessageDriver σ) (call : MessageSend) (channel : Channel)

/-- In a server, keep the roles that the server has. -/
def retainRoles (roles : List String) : Request σ (List String) :=
  match channel with
  | .textChannel c =>
    if call.allowMentions = true ∧ call.massMentionsEnabled = true ∧ roles ≠ [] then do
      let s ← get
      let server ← ofOption ((D.database s).fetchServer c.server).toOption
      return roles.filter (· ∈ server.roles)
    else return roles
  | _ => return roles

/-- Validate the user can perform a mass mention. -/
def validateMassMentions (mass : MassMentions) : Request σ MassMentions :=
  if call.massMentionsEnabled = false then return MassMentions.none
  else if mass.Present then
    match call.author with
    | .webhook _ => return mass
    | .system _ _ => fail .invalidProperty
    | .user u => do
        let s ← get
        let permissions ← ofOption (calculateChannelPermissions.run
          ((DatabasePermissionQuery.new (D.database s) u.toUser call.clock).withChannel channel))
        throwIf ((mass.everyone = true ∨ mass.online = true) ∧
            permissions.1.hasChannelPermission .mentionEveryone = false)
          (.missingPermission ChannelPermission.mentionEveryone.toString)
        throwIf (mass.roles ≠ [] ∧
            permissions.1.hasChannelPermission .mentionRoles = false)
          (.missingPermission ChannelPermission.mentionRoles.toString)
        return mass
  else return mass

/-- Verify replies are valid: users mentioned so far, ids of the messages replied to. -/
def resolveReplies : List ReplyIntent → List String → List String →
    Request σ (List String × List String)
  | [], users, replies => return (users, replies)
  | intent :: entries, users, replies => do
      let s ← get
      match D.fetchMessage intent.id s with
      | .ok message =>
        let users :=
          if intent.mention && call.allowMentions then users.insert message.author else users
        let replies :=
          if message.id ∈ replies then replies else replies ++ [message.id]
        resolveReplies entries users replies
      | .error e =>
        -- without the message the reply is left out, if the request says so
        if e ≠ .notFound ∨ intent.failIfNotExists.getD true = true then fail e
        else resolveReplies entries users replies

/-- Validate the mentions go to users in the channel/server. -/
def confineMentions (users roles : List String) : Request σ (List String × List String) :=
  if users = [] then return (users, roles)
  else
    match channel with
    | .directMessage c => return (users.filter (· ∈ c.recipients), [])
    | .group c => return (users.filter (· ∈ c.recipients), [])
    | .textChannel c => do
        let s ← get
        let db := D.database s
        let validMembers ← Handler.ofExcept
          ((db.fetchMembers c.server users).mapError fun _ => .internalError)
        -- quick pass, validate mentions are in the server
        let users := users.filter (· ∈ validMembers.map (·.id.user))
        if users = [] then return (users, roles)
        else
          -- if there are still mentions, drill down to a channel-level
          let server ← ofOption (db.fetchServer c.server).toOption
          let query := ((BulkDatabasePermissionQuery.new db server).withChannel channel).withMembers
            validMembers
          let canSee ← ofOption (query.membersCanSeeChannel call.bulkClock)
          return (users.filter fun m => (canSee.1.lookup m).getD false, roles)
    | .savedMessages _ => return ([], roles)

end MessageSend

/-- What the message mentions in the end. -/
structure ResolvedMentions where
  users : List String
  mass : MassMentions
  replies : List String

namespace MessageSend

variable (D : MessageDriver σ) (call : MessageSend) (channel : Channel)

/-- Resolve all mentions and replies of a message. -/
def resolveMentions (flags : RequestedFlags) : Request σ ResolvedMentions := do
  let roles ← call.retainRoles D channel call.parsed.roleMentions
  let mass ← call.validateMassMentions D channel
    { roles := roles
      everyone := call.parsed.mentionsEveryone || flags.mentionsEveryone
      online := call.parsed.mentionsOnline || flags.mentionsOnline }
  let entries := call.data.replies.getD []
  let max := call.settings.features.limits.global.messageReplies
  throwIf (entries.length > max) (.tooManyReplies max)
  let replied ← call.resolveReplies D entries call.parsed.userMentions []
  let confined ← call.confineMentions D channel replied.1 mass.roles
  return { users := confined.1, mass := { mass with roles := confined.2 }, replies := replied.2 }

/-! ### Sending -/

end MessageSend

/-- Convert sendable embed to text embed and attach to message. -/
def Message.attachSendableEmbed (D : MessageDriver σ) (message : Message)
    (embed : SendableEmbed) : Request σ Message := do
  let media ← embed.media.mapM fun id => File.useAttachment D id message.id message.author
  let text : TextEmbed :=
    { iconUrl := embed.iconUrl
      url := embed.url
      title := embed.title
      description := embed.description
      media := media
      colour := embed.colour }
  return { message with embeds := some (message.embeds.getD [] ++ [.text text]) }

namespace MessageSend

variable (D : MessageDriver σ) (call : MessageSend) (channel : Channel)

/-- A list, unless it is empty. -/
def nonempty {α : Type} (l : List α) : Option (List α) := if l.isEmpty then none else some l

/-- The message without attachments and embeds. -/
def message (flags : RequestedFlags) (idempotency : IdempotencyKey)
    (resolved : ResolvedMentions) : Message where
  id := call.messageId
  nonce := some idempotency.key
  channel := channel.id
  author := call.author.id
  webhook := call.author.messageWebhook
  content := call.data.content
  mentions := nonempty resolved.users
  roleMentions := nonempty resolved.mass.roles
  replies := nonempty resolved.replies
  interactions := call.data.interactions.getD {}
  masquerade := call.data.masquerade
  flags := some (MessageFlagsValue.build flags.suppressNotifications resolved.mass.everyone
    resolved.mass.online)

/-- Add attachments and embeds to the message. -/
def attach (message : Message) : Request σ Message := do
  let attachments := call.data.attachments.getD []
  let maxAttachments := call.limits.messageAttachments
  throwIf (attachments.length > maxAttachments) (.tooManyAttachments maxAttachments)
  let embeds := call.data.embeds.getD []
  let maxEmbeds := call.settings.features.limits.global.messageEmbeds
  throwIf (embeds.length > maxEmbeds) (.tooManyEmbeds maxEmbeds)
  let files ← attachments.mapM fun id =>
    File.useAttachment D id call.messageId call.author.id
  embeds.foldlM (Message.attachSendableEmbed D) { message with attachments := nonempty files }

end MessageSend

/-- A push notification; of its contents only the message matters here. -/
structure PushNotification where
  message : Message

/-- A message to process in the background: push notification, message, recipients,
whether the push is silenced. -/
structure AckEntry where
  push : Option PushNotification
  message : Message
  recipients : List String
  silenced : Bool

/-- A message that was sent, and what was queued for it. -/
structure SentMessage where
  message : Message
  queued : Option AckEntry

/-- Whether the channel is a direct message or a group. -/
def Channel.isDmOrGroup : Channel → Bool
  | directMessage _ | group _ => true
  | _ => false

/-- The users who are notified of a message. -/
def Message.notified (message : Message) (author : MessageAuthor) : Channel → List String
  | .directMessage c => c.recipients.filter (· ≠ author.id)
  | .group c => c.recipients.filter (· ≠ author.id)
  | .textChannel _ => message.mentions.getD []
  | .savedMessages _ => []

/-- What is queued for a message that is sent. -/
def Message.ackEntry (message : Message) (author : MessageAuthor) (channel : Channel) :
    Option AckEntry :=
  if !message.hasSuppressedNotifications &&
      (channel.isDmOrGroup || message.mentions.isSome || message.containsMassPushMention) then
    some
      { push := some { message := message }
        message := message
        recipients := message.notified author channel
        silenced := false }
  else none

/-- Send a message. -/
def Message.send (D : MessageDriver σ) (message : Message) (author : MessageAuthor)
    (channel : Channel) : Request σ SentMessage := do
  D.insertMessage message
  return { message := message, queued := message.ackEntry author channel }

/-- Create message from API data. -/
def Message.createFromApi (D : MessageDriver σ) (call : MessageSend) (channel : Channel) :
    Request σ SentMessage := do
  let checked ← ofExcept call.checkData
  let resolved ← call.resolveMentions D channel checked.1
  let message ← call.attach D (call.message channel checked.1 checked.2 resolved)
  message.send D call.author channel

/-! ### Which mentions remain -/

namespace MessageSend

variable {D : MessageDriver σ} {call : MessageSend} {channel : Channel} {s s' : σ}

/-- The users mentioned after some replies have been looked at. -/
def repliedUsers (D : MessageDriver σ) (call : MessageSend) (s : σ) (entries : List ReplyIntent)
    (users : List String) : List String :=
  entries.foldl
    (fun users intent =>
      match D.fetchMessage intent.id s with
      | .ok message =>
        if intent.mention && call.allowMentions then users.insert message.author else users
      | .error _ => users)
    users

/-- The users mentioned by the text or through a reply. -/
def mentionedUsers (D : MessageDriver σ) (call : MessageSend) (s : σ) : List String :=
  call.repliedUsers D s (call.data.replies.getD []) call.parsed.userMentions

variable {users : List String} {r : List String × List String} {roles : List String}

theorem resolveReplies_ok {entries : List ReplyIntent} {replies : List String}
    (h : (call.resolveReplies D entries users replies).exec s = (.ok r, s')) :
    r.1 = call.repliedUsers D s entries users ∧ s = s' := by
  induction entries generalizing users replies with
  | nil =>
    obtain ⟨rfl, rfl⟩ := exec_pure_ok.mp h
    exact ⟨rfl, rfl⟩
  | cons intent entries ih =>
    rw [resolveReplies, exec_get_bind] at h
    rw [repliedUsers, foldl_cons]
    rcases hfetch : D.fetchMessage intent.id s with e | message
    · -- the reply is left out, or the request fails
      simp only [hfetch] at h
      split at h
      · simp at h
      · exact ih h
    · simp only [hfetch] at h
      exact ih h

/-- Whether the server of a text channel has a role. -/
def serverHasRole (db : Database) (c : TextChannel) (role : String) : Bool :=
  (db.fetchServer c.server).toOption.any fun server => decide (role ∈ server.roles)

/-- The roles that remain after the first filter.  Without mentions being allowed the roles
of the text are not looked up. -/
def keptRoles (D : MessageDriver σ) (call : MessageSend) (channel : Channel) (s : σ) :
    List String :=
  if call.massMentionsEnabled = true then
    match channel with
    | .textChannel c =>
      if call.allowMentions = true then
        call.parsed.roleMentions.filter (serverHasRole (D.database s) c)
      else call.parsed.roleMentions
    | _ => call.parsed.roleMentions
  else []

theorem retainRoles_ok
    (h : (call.retainRoles D channel call.parsed.roleMentions).exec s = (.ok roles, s')) :
    s = s' ∧ (call.massMentionsEnabled = true → roles = call.keptRoles D channel s) := by
  rcases channel with c | c | c | c
  case textChannel =>
    rw [retainRoles] at h
    split at h
    next hlookup =>
      rw [exec_get_bind] at h
      obtain ⟨server, hserver, h⟩ := exec_ofOption_bind_ok.mp h
      obtain ⟨rfl, rfl⟩ := exec_pure_ok.mp h
      refine ⟨rfl, fun henabled => ?_⟩
      simp only [keptRoles, henabled, hlookup.1, if_true]
      refine filter_congr fun role _ => ?_
      rw [serverHasRole, hserver]
      rfl
    next hlookup =>
      obtain ⟨rfl, rfl⟩ := exec_pure_ok.mp h
      refine ⟨rfl, fun henabled => ?_⟩
      simp only [keptRoles, henabled, if_true]
      split
      next hallow =>
        -- nothing was looked up, so there was nothing to look up
        have hnil : call.parsed.roleMentions = [] := by
          by_contra hne
          exact hlookup ⟨hallow, henabled, hne⟩
        rw [hnil]
        rfl
      next => rfl
  all_goals
    obtain ⟨rfl, rfl⟩ := exec_pure_ok.mp h
    refine ⟨rfl, fun henabled => ?_⟩
    simp only [keptRoles, henabled, if_true]

theorem validateMassMentions_ok {mass mass' : MassMentions}
    (h : (call.validateMassMentions D channel mass).exec s = (.ok mass', s')) :
    s = s' ∧ mass' = if call.massMentionsEnabled = true then mass else MassMentions.none := by
  rw [validateMassMentions] at h
  split at h
  next hdisabled =>
    obtain ⟨rfl, rfl⟩ := exec_pure_ok.mp h
    simp [hdisabled]
  next henabled =>
    rw [if_pos (by simpa using henabled)]
    split at h
    next =>
      rcases hauthor : call.author with u | w | ⟨username, avatar⟩ <;> rw [hauthor] at h
      · rw [exec_get_bind] at h
        obtain ⟨permissions, -, h⟩ := exec_ofOption_bind_ok.mp h
        obtain ⟨_, -, h⟩ := exec_throwIf_bind_ok.mp h
        obtain ⟨_, -, h⟩ := exec_throwIf_bind_ok.mp h
        obtain ⟨rfl, rfl⟩ := exec_pure_ok.mp h
        exact ⟨rfl, rfl⟩
      · obtain ⟨rfl, rfl⟩ := exec_pure_ok.mp h
        exact ⟨rfl, rfl⟩
      · simp at h
    next =>
      obtain ⟨rfl, rfl⟩ := exec_pure_ok.mp h
      exact ⟨rfl, rfl⟩

/-- **The second filter in a text channel.**  It only reads and leaves the roles alone; the
users that remain were found to be members and to see the channel. -/
theorem confineMentions_textChannel {c : TextChannel}
    (h : (call.confineMentions D (.textChannel c) users roles).exec s = (.ok r, s')) :
    s = s' ∧ r.2 = roles ∧
      (users = [] ∧ r.1 = [] ∨ ∃ members,
        (D.database s).fetchMembers c.server users = .ok members ∧
        ((∀ user ∈ users, user ∉ members.map (·.id.user)) ∧ r.1 = [] ∨ ∃ server canSee,
          (D.database s).fetchServer c.server = .ok server ∧
          (((BulkDatabasePermissionQuery.new (D.database s) server).withChannel
            (.textChannel c)).withMembers members).membersCanSeeChannel call.bulkClock
              = some canSee ∧
          ∀ user, user ∈ r.1 ↔ (user ∈ users ∧ user ∈ members.map (·.id.user)) ∧
            canSee.1.lookup user = some true)) := by
  unfold confineMentions at h
  split at h
  next hnil =>
    obtain ⟨rfl, rfl⟩ := exec_pure_ok.mp h
    exact ⟨rfl, rfl, .inl ⟨hnil, hnil⟩⟩
  next =>
    rw [exec_get_bind] at h
    obtain ⟨members, hmembers, h⟩ := exec_ofExcept_bind_ok.mp h
    have hfetched := mapError_eq_ok.mp hmembers
    dsimp only at h
    split at h
    next hnil =>
      obtain ⟨rfl, rfl⟩ := exec_pure_ok.mp h
      refine ⟨rfl, rfl, .inr ⟨members, hfetched, .inl ⟨fun user huser hmem => ?_, hnil⟩⟩⟩
      exact filter_eq_nil_iff.mp hnil user huser (decide_eq_true hmem)
    next =>
      obtain ⟨server, hserver, h⟩ := exec_ofOption_bind_ok.mp h
      obtain ⟨canSee, hsee, h⟩ := exec_ofOption_bind_ok.mp h
      obtain ⟨rfl, rfl⟩ := exec_pure_ok.mp h
      refine ⟨rfl, rfl, .inr ⟨members, hfetched, .inr ⟨server, canSee,
        toOption_eq_some.mp hserver, hsee, fun user => ?_⟩⟩⟩
      rw [mem_filter, mem_filter, decide_eq_true_eq]
      cases canSee.1.lookup user <;> simp

/-- The second filter reads; roles are cleared only in direct messages and groups, and only
if a user is mentioned. -/
theorem confineMentions_ok (h : (call.confineMentions D channel users roles).exec s = (.ok r, s')) :
    s = s' ∧ r.2 = if users ≠ [] ∧ channel.isDmOrGroup = true then [] else roles := by
  rcases channel with c | c | c | c
  case textChannel =>
    obtain ⟨hstore, hroles, -⟩ := confineMentions_textChannel h
    exact ⟨hstore, by simpa [Channel.isDmOrGroup] using hroles⟩
  all_goals
    unfold confineMentions at h
    by_cases hnil : users = []
    · rw [if_pos hnil] at h
      obtain ⟨rfl, rfl⟩ := exec_pure_ok.mp h
      simp [hnil]
    · rw [if_neg hnil] at h
      obtain ⟨rfl, rfl⟩ := exec_pure_ok.mp h
      simp [Channel.isDmOrGroup, hnil]

/-- What the mentions of a request are resolved to. -/
structure ResolvesTo (D : MessageDriver σ) (call : MessageSend) (channel : Channel) (s : σ)
    (flags : RequestedFlags) (resolved : ResolvedMentions) : Prop where
  everyone : resolved.mass.everyone
    = (call.massMentionsEnabled && (call.parsed.mentionsEveryone || flags.mentionsEveryone))
  online : resolved.mass.online
    = (call.massMentionsEnabled && (call.parsed.mentionsOnline || flags.mentionsOnline))
  confined : (call.confineMentions D channel (call.mentionedUsers D s)
    (call.keptRoles D channel s)).exec s = (.ok (resolved.users, resolved.mass.roles), s)

theorem resolveMentions_ok {flags : RequestedFlags} {resolved : ResolvedMentions}
    (h : (call.resolveMentions D channel flags).exec s = (.ok resolved, s')) :
    s = s' ∧ ResolvesTo D call channel s flags resolved := by
  obtain ⟨roles, t, hretain, h⟩ := exec_bind_ok.mp h
  obtain ⟨rfl, hroles⟩ := retainRoles_ok hretain
  obtain ⟨mass, t, hvalidate, h⟩ := exec_bind_ok.mp h
  obtain ⟨rfl, hmass⟩ := validateMassMentions_ok hvalidate
  obtain ⟨_, -, h⟩ := exec_throwIf_bind_ok.mp h
  obtain ⟨replied, t, hreplied, h⟩ := exec_bind_ok.mp h
  obtain ⟨husers, rfl⟩ := resolveReplies_ok hreplied
  obtain ⟨confined, t, hconfined, h⟩ := exec_bind_ok.mp h
  obtain rfl := (confineMentions_ok hconfined).1
  obtain ⟨rfl, rfl⟩ := exec_pure_ok.mp h
  have hkept : mass.roles = call.keptRoles D channel s := by
    rw [hmass]
    rcases henabled : call.massMentionsEnabled with - | -
    · simp [keptRoles, henabled, MassMentions.none]
    · exact hroles henabled
  refine ⟨rfl, ?_, ?_, ?_⟩
  · rw [hmass]
    rcases call.massMentionsEnabled with - | - <;> rfl
  · rw [hmass]
    rcases call.massMentionsEnabled with - | - <;> rfl
  · rw [husers, hkept] at hconfined
    exact hconfined

end MessageSend

/-! ### The message that is sent -/

variable {message message' : Message} {D : MessageDriver σ} {s s' : σ} {call : MessageSend}

theorem Message.attachSendableEmbed_ok {embed : SendableEmbed}
    (h : (message.attachSendableEmbed D embed).exec s = (.ok message', s')) :
    ∃ embeds, message' = { message with embeds := embeds } := by
  obtain ⟨media, t, -, h⟩ := exec_bind_ok.mp h
  obtain ⟨rfl, -⟩ := exec_pure_ok.mp h
  exact ⟨_, rfl⟩

theorem Message.foldlM_attachSendableEmbed_ok {embeds : List SendableEmbed}
    (h : (embeds.foldlM (Message.attachSendableEmbed D) message).exec s = (.ok message', s')) :
    ∃ embeds, message' = { message with embeds := embeds } := by
  induction embeds generalizing message s with
  | nil =>
    obtain ⟨rfl, -⟩ := exec_pure_ok.mp h
    exact ⟨_, rfl⟩
  | cons embed embeds ih =>
    rw [foldlM_cons] at h
    obtain ⟨message₁, t, hembed, h⟩ := exec_bind_ok.mp h
    obtain ⟨embeds₁, rfl⟩ := Message.attachSendableEmbed_ok hembed
    obtain ⟨embeds₂, rfl⟩ := ih h
    exact ⟨embeds₂, rfl⟩

/-- Attaching changes attachments and embeds. -/
theorem MessageSend.attach_ok (h : (call.attach D message).exec s = (.ok message', s')) :
    ∃ files embeds, message' = { message with attachments := files, embeds := embeds } := by
  obtain ⟨_, t, -, h⟩ := exec_bind_ok.mp h
  obtain ⟨_, t, -, h⟩ := exec_bind_ok.mp h
  obtain ⟨files, t, -, h⟩ := exec_bind_ok.mp h
  obtain ⟨embeds, rfl⟩ := Message.foldlM_attachSendableEmbed_ok h
  exact ⟨_, embeds, rfl⟩

/-- **A message that was created.**  Its mentions are resolved on the store before the call,
it is the message that is inserted, and it decides what is queued. -/
theorem Message.createFromApi_ok {channel : Channel} {sent : SentMessage}
    (h : (Message.createFromApi D call channel).exec s = (.ok sent, s')) :
    ∃ checked resolved files embeds, call.checkData = .ok checked ∧
      call.ResolvesTo D channel s checked.1 resolved ∧
      sent.message = { call.message channel checked.1 checked.2 resolved with
        attachments := files, embeds := embeds } ∧
      sent.queued = sent.message.ackEntry call.author channel ∧
      ∃ s₁, (D.insertMessage sent.message).exec s₁ = (.ok (), s') := by
  obtain ⟨checked, hchecked, h⟩ := exec_ofExcept_bind_ok.mp h
  obtain ⟨resolved, t, hresolve, h⟩ := exec_bind_ok.mp h
  obtain ⟨rfl, hresolved⟩ := MessageSend.resolveMentions_ok hresolve
  obtain ⟨message, t₁, hattach, h⟩ := exec_bind_ok.mp h
  obtain ⟨files, embeds, hmessage⟩ := MessageSend.attach_ok hattach
  obtain ⟨_, t₂, hinsert, h⟩ := exec_bind_ok.mp h
  obtain ⟨rfl, rfl⟩ := exec_pure_ok.mp h
  exact ⟨checked, resolved, files, embeds, hchecked, hresolved, hmessage, rfl, t₁, hinsert⟩

end DawnChat
