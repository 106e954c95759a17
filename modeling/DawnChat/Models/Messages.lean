/-
DawnChat/Models/Messages.lean

Messages and message queries (`core/database/src/models/messages`).

Message flags are numbered 1, 2 and 3 and are read as *bit positions* by
`MessageFlagsValue`, so the three bits have the values 2, 4 and 8; the value 1
belongs to no flag.

System messages, edit times and reactions are left out: no modelled function
reads them.  Of the embeds that are generated from links only the kind is kept.
-/
import DawnChat.Models.Files

namespace DawnChat

/-- Name and avatar of the webhook that sent a message. -/
structure MessageWebhook where
  name : String
  avatar : Option String := none
  deriving DecidableEq, Repr, Inhabited

/-- Text embed. -/
structure TextEmbed where
  iconUrl : Option String := none
  url : Option String := none
  title : Option String := none
  description : Option String := none
  /-- Uploaded autumn file. -/
  media : Option File := none
  colour : Option String := none
  deriving DecidableEq, Repr, Inhabited

/-- Embed. -/
inductive Embed where
  | website
  | image
  | video
  | text (t : TextEmbed)
  | none
  deriving DecidableEq, Repr, Inhabited

/-- Name and / or avatar override information. -/
structure Masquerade where
  name : Option String := none
  avatar : Option String := none
  colour : Option String := none
  deriving DecidableEq, Repr, Inhabited

/-- Information to guide interactions on this message. -/
structure Interactions where
  reactions : Option (List String) := none
  restrictReactions : Bool := false
  deriving DecidableEq, Repr, Inhabited

/-- Message. -/
structure Message where
  id : String
  nonce : Option String := none
  channel : String := ""
  author : String := ""
  webhook : Option MessageWebhook := none
  content : Option String := none
  attachments : Option (List File) := none
  embeds : Option (List Embed) := none
  mentions : Option (List String) := none
  roleMentions : Option (List String) := none
  replies : Option (List String) := none
  interactions : Interactions := {}
  masquerade : Option Masquerade := none
  pinned : Option Bool := none
  flags : Option Nat := none
  deriving DecidableEq, Repr, Inhabited

/-! ### Flags -/

inductive MessageFlags where
  /-- Message will not send push / desktop notifications. -/
  | suppressNotifications
  /-- Message will mention all users who can see the channel. -/
  | mentionsEveryone
  /-- Message will mention all users who are online and can see the channel. -/
  | mentionsOnline
  deriving DecidableEq, Repr

/-- The number of a flag. -/
def MessageFlags.toNat : MessageFlags → Nat
  | .suppressNotifications => 1
  | .mentionsEveryone => 2
  | .mentionsOnline => 3

/-- Bitfield of message flags, a `u32`. -/
abbrev MessageFlagsValue := Nat

namespace MessageFlagsValue

def hasValue (value : MessageFlagsValue) (bit : Nat) : Bool :=
  let mask := 1 <<< bit
  value &&& mask == mask

def has (value : MessageFlagsValue) (flag : MessageFlags) : Bool := hasValue value flag.toNat

def setValue (value : MessageFlagsValue) (bit : Nat) (toggle : Bool) : MessageFlagsValue :=
  if toggle then value ||| 1 <<< bit else value &&& (0xFFFFFFFF ^^^ 1 <<< bit)

def set (value : MessageFlagsValue) (flag : MessageFlags) (toggle : Bool) : MessageFlagsValue :=
  setValue value flag.toNat toggle

/-- The flags of a message that is sent. -/
def build (suppressNotifications mentionsEveryone mentionsOnline : Bool) : MessageFlagsValue :=
  set (set (set 0 .suppressNotifications suppressNotifications)
    .mentionsEveryone mentionsEveryone) .mentionsOnline mentionsOnline

theorem has_build (suppressNotifications mentionsEveryone mentionsOnline : Bool) :
    has (build suppressNotifications mentionsEveryone mentionsOnline) .mentionsEveryone
      = mentionsEveryone := by
  revert suppressNotifications mentionsEveryone mentionsOnline
  decide

end MessageFlagsValue

namespace Message

/-- Whether this message has suppressed notifications.  The number of the flag is
compared as a bit mask here. -/
def hasSuppressedNotifications (m : Message) : Bool :=
  match m.flags with
  | some flags =>
    flags &&& MessageFlags.suppressNotifications.toNat
      == MessageFlags.suppressNotifications.toNat
  | none => false

def containsMassPushMention (m : Message) : Bool :=
  let ping :=
    match m.flags with
    | some flags => MessageFlagsValue.has flags .mentionsEveryone
    | none => false
  ping || m.roleMentions.isSome

/-- Ids of the attachments. -/
def attachmentIds (m : Message) : List String := (m.attachments.getD []).map (·.id)

end Message

/-- No combination of flags that a message is sent with suppresses notifications. -/
theorem MessageFlagsValue.build_land_one (suppressNotifications mentionsEveryone
    mentionsOnline : Bool) :
    build suppressNotifications mentionsEveryone mentionsOnline &&& 1 = 0 := by
  revert suppressNotifications mentionsEveryone mentionsOnline
  decide

/-! ### Queries -/

inductive MessageSort where
  | relevance
  | latest
  | oldest
  deriving DecidableEq, Repr, Inhabited

/-- Message Time Period. -/
inductive MessageTimePeriod where
  /-- Message id to search around. -/
  | relative (nearby : String)
  | absolute (before after : Option String) (sort : Option MessageSort)
  deriving DecidableEq, Repr, Inhabited

/-- Message Filter. -/
structure MessageFilter where
  channel : Option String := none
  author : Option String := none
  /-- Search query. -/
  query : Option String := none
  pinned : Option Bool := none
  deriving DecidableEq, Repr, Inhabited

/-- Message Query. -/
structure MessageQuery where
  /-- Maximum number of messages to fetch, an `i64`. -/
  limit : Option Int := none
  filter : MessageFilter := {}
  timePeriod : MessageTimePeriod
  deriving DecidableEq, Repr, Inhabited

end DawnChat
