/-
DawnChat/Events.lean

Events of the protocol (`core/database/src/events/client.rs`).

The constructors are the events that the events server looks into.  All others
are passed on to the client as they are and stand together as `other`.  Fields
that the server only passes on (the contents of a message, the changed fields
of a user) are left out.

An event is published to a topic.  Topics are plain ids, except that `id!` is
the private topic of a user and `idu` the topic for member events of a server.
-/
import DawnChat.Models.Channels
import DawnChat.Models.Payload

namespace DawnChat

/-- Fields provided in Ready payload. -/
structure ReadyPayloadFields where
  users : Bool := true
  servers : Bool := true
  channels : Bool := true
  members : Bool := true
  emojis : Bool := true
  voiceStates : Bool := true
  userSettings : List String := []
  channelUnreads : Bool := false
  policyChanges : Bool := true
  deriving DecidableEq, Repr, Inhabited

/-- Basic data to cache. -/
structure ReadyPayload where
  users : Option (List V0User)
  servers : Option (List Server)
  channels : Option (List Channel)
  members : Option (List Member)
  emojis : Option (List Emoji)
  voiceStates : Option (List ChannelVoiceState)
  userSettings : Option UserSettings
  channelUnreads : Option (List ChannelUnread)
  policyChanges : Option (List PolicyChange)

/-- Protocol Events. -/
inductive EventV1 where
  /-- Multiple events -/
  | bulk (v : List EventV1)
  | ready (payload : ReadyPayload)
  /-- New message; `user` is the author as the publisher sees them. -/
  | message (author : String) (user : Option V0User)
  | serverCreate (id : String) (server : Server) (channels : List Channel)
  | serverUpdate (id : String) (data : PartialServer) (clear : List FieldsServer)
  | serverDelete (id : String)
  | serverMemberUpdate (id : MemberCompositeKey) (data : PartialMember)
      (clear : List FieldsMember)
  | serverMemberJoin (id : String) (member : Member)
  | serverMemberLeave (id user : String)
  | serverRoleUpdate (id roleId : String) (data : PartialRole) (clear : List FieldsRole)
  | serverRoleDelete (id roleId : String)
  | userUpdate (id : String) (eventId : Option String)
  /-- Relationship with another user changed -/
  | userRelationship (id : String) (user : V0User)
  | channelCreate (channel : Channel)
  | channelUpdate (id : String) (data : PartialChannel) (clear : List FieldsChannel)
  | channelDelete (id : String)
  | channelGroupJoin (id user : String)
  | channelGroupLeave (id user : String)
  | other
  deriving Inhabited

/-- The topic of private events of a user. -/
def privateTopic (id : String) : String := id ++ "!"

/-- The topic of member events of a server. -/
def memberTopic (id : String) : String := id ++ "u"

theorem privateTopic_injective {id id' : String} (h : privateTopic id = privateTopic id') :
    id = id' :=
  String.append_left_inj _ |>.mp h

theorem memberTopic_injective {id id' : String} (h : memberTopic id = memberTopic id') : id = id' :=
  String.append_left_inj _ |>.mp h

/-- An event and the topic it is published to. -/
structure Publication where
  topic : String
  event : EventV1

/-- Publish private event. -/
def EventV1.private (event : EventV1) (id : String) : Publication := ⟨privateTopic id, event⟩

end DawnChat
