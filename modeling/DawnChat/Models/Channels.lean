/-
DawnChat/Models/Channels.lean

Channels (`core/database/src/models/channels`).

A channel is one of four kinds.  Only text channels belong to a server; they
carry a default override and one override per role.  Groups carry a plain
permission value.  Partial updates are applied by kind, and a field that a
kind does not list in `apply_options` is ignored for it: the slowmode and the
last message id of a text channel are never changed this way.
-/
import DawnChat.Models.Servers

namespace DawnChat

open RustStd

/-- Voice information for when a channel is also a voice channel. -/
structure VoiceInformation where
  maxUsers : Option Nat := none
  deriving DecidableEq, Repr, Inhabited

/-- Personal "Saved Notes" channel. -/
structure SavedMessages where
  id : String
  user : String
  deriving DecidableEq, Repr, Inhabited

/-- Direct message channel between two users. -/
structure DirectMessage where
  id : String
  active : Bool := true
  recipients : List String := []
  lastMessageId : Option String := none
  deriving DecidableEq, Repr, Inhabited

/-- Group channel between 1 or more participants. -/
structure Group where
  id : String
  name : String := ""
  owner : String
  description : Option String := none
  recipients : List String := []
  icon : Option File := none
  lastMessageId : Option String := none
  /-- Permissions assigned to members of this group. -/
  permissions : Option U64 := none
  nsfw : Bool := false
  deriving DecidableEq, Repr, Inhabited

/-- Text channel belonging to a server. -/
structure TextChannel where
  id : String
  server : String
  name : String := ""
  description : Option String := none
  icon : Option File := none
  lastMessageId : Option String := none
  /-- Default permissions assigned to users in this channel. -/
  defaultPermissions : Option OverrideField := none
  /-- Permissions assigned based on role to this channel. -/
  rolePermissions : HashMap String OverrideField := ∅
  nsfw : Bool := false
  voice : Option VoiceInformation := none
  slowmode : Option Nat := none
  deriving Inhabited

inductive Channel where
  | savedMessages (c : SavedMessages)
  | directMessage (c : DirectMessage)
  | group (c : Group)
  | textChannel (c : TextChannel)
  deriving Inhabited

structure PartialChannel where
  name : Option String := none
  owner : Option String := none
  description : Option String := none
  icon : Option File := none
  nsfw : Option Bool := none
  active : Option Bool := none
  permissions : Option U64 := none
  rolePermissions : Option (HashMap String OverrideField) := none
  defaultPermissions : Option OverrideField := none
  lastMessageId : Option String := none
  voice : Option VoiceInformation := none
  slowmode : Option Nat := none
  deriving Inhabited

/-- Optional fields on channel object. -/
inductive FieldsChannel where
  | description
  | icon
  | defaultPermissions
  | voice
  deriving DecidableEq, Repr

namespace Channel

/-- Clone this channel's id. -/
def id : Channel → String
  | savedMessages c => c.id
  | directMessage c => c.id
  | group c => c.id
  | textChannel c => c.id

/-- Clone this channel's server id. -/
def server : Channel → Option String
  | textChannel c => some c.server
  | _ => none

/-- Check whether has a user as a recipient. -/
def containsUser : Channel → String → Bool
  | group c, userId => c.recipients.contains userId
  | _, _ => false

/-- The recipients of a private channel. -/
def recipients : Channel → List String
  | directMessage c => c.recipients
  | group c => c.recipients
  | _ => []

/-- Remove a field from Channel object. -/
def removeField (channel : Channel) (field : FieldsChannel) : Channel :=
  match field, channel with
  | .description, group c => group { c with description := none }
  | .description, textChannel c => textChannel { c with description := none }
  | .icon, group c => group { c with icon := none }
  | .icon, textChannel c => textChannel { c with icon := none }
  | .defaultPermissions, textChannel c => textChannel { c with defaultPermissions := none }
  | .voice, textChannel c => textChannel { c with voice := none }
  | _, channel => channel

/-- Apply partial channel to channel. -/
def applyOptions (channel : Channel) (p : PartialChannel) : Channel :=
  match channel with
  | savedMessages c => savedMessages c
  | directMessage c => directMessage { c with active := p.active.getD c.active }
  | group c =>
    group { c with
      name := p.name.getD c.name
      owner := p.owner.getD c.owner
      description := p.description.or c.description
      icon := p.icon.or c.icon
      nsfw := p.nsfw.getD c.nsfw
      permissions := p.permissions.or c.permissions }
  | textChannel c =>
    textChannel { c with
      name := p.name.getD c.name
      description := p.description.or c.description
      icon := p.icon.or c.icon
      nsfw := p.nsfw.getD c.nsfw
      rolePermissions := p.rolePermissions.getD c.rolePermissions
      defaultPermissions := p.defaultPermissions.or c.defaultPermissions
      voice := p.voice.or c.voice }

/-- An update keeps a channel's id and its server. -/
theorem update_keeps (channel : Channel) (data : PartialChannel) (clear : List FieldsChannel) :
    ((clear.foldl removeField channel).applyOptions data).id = channel.id ∧
      ((clear.foldl removeField channel).applyOptions data).server = channel.server := by
  have hclear : (clear.foldl removeField channel).id = channel.id ∧
      (clear.foldl removeField channel).server = channel.server := by
    induction clear generalizing channel with
    | nil => exact ⟨rfl, rfl⟩
    | cons field clear ih =>
      rw [List.foldl_cons, (ih _).1, (ih _).2]
      cases field <;> cases channel <;> exact ⟨rfl, rfl⟩
  rw [← hclear.1, ← hclear.2]
  cases clear.foldl removeField channel <;> exact ⟨rfl, rfl⟩

/-- The channels of servers are the text channels. -/
theorem server_eq_some {channel : Channel} {id : String} :
    channel.server = some id ↔ ∃ c, channel = textChannel c ∧ c.server = id := by
  cases channel <;> simp [server]

end Channel

end DawnChat
