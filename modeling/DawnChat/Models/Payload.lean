/-
DawnChat/Models/Payload.lean

Documents that the events server fetches and hands on to its clients: policy
changes, emojis, settings, unreads and voice states
(`core/database/src/models/{policy_changes,emojis,user_settings,channel_unreads}`,
`core/models/src/v0`).
-/
import DawnChat.Lib.HashMap
import DawnChat.Models.Users

namespace DawnChat

open RustStd

/-- Platform policy change. -/
structure PolicyChange where
  id : String
  createdTime : Timestamp
  effectiveTime : Timestamp
  description : String
  url : String
  deriving DecidableEq, Repr, Inhabited

/-- Parent Id of the emoji. -/
inductive EmojiParent where
  | server (id : String)
  | detached
  deriving DecidableEq, Repr, Inhabited

/-- Emoji. -/
structure Emoji where
  id : String
  parent : EmojiParent
  creatorId : String
  name : String
  animated : Bool := false
  nsfw : Bool := false
  deriving DecidableEq, Repr, Inhabited

/-- Settings of a user: for each key the time of the last change and the value. -/
abbrev UserSettings := HashMap String (Int × String)

/-- Composite primary key consisting of channel and user id. -/
structure ChannelCompositeKey where
  channel : String
  user : String
  deriving DecidableEq, Repr, Inhabited

/-- Channel Unread. -/
structure ChannelUnread where
  id : ChannelCompositeKey
  lastId : Option String := none
  mentions : Option (List String) := none
  deriving DecidableEq, Repr, Inhabited

/-- Voice State information for a user. -/
structure UserVoiceState where
  id : String
  joinedAt : Timestamp := 0
  isReceiving : Bool := true
  isPublishing : Bool := true
  screensharing : Bool := false
  camera : Bool := false
  deriving DecidableEq, Repr, Inhabited

/-- The users who are connected to a channel. -/
structure ChannelVoiceState where
  id : String
  participants : List UserVoiceState
  deriving DecidableEq, Repr, Inhabited

end DawnChat
