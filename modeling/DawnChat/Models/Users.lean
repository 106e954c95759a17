/-
DawnChat/Models/Users.lean

Users and their relationships (`core/database/src/models/users`).

Two shapes of a user exist.  `User` is the stored document.  `V0User` is what
is sent to clients and carried by events: it has no policy information, shows
relations only to the user themselves, and adds how the addressee relates to
the user.  Converting an event's user back into a stored one
(`V0User.toUser`) drops the relations.

Profile texts, badges, flags, avatars and suspension data are left out: no
modelled function reads them.
-/
import Mathlib.Init

namespace DawnChat

/-- A point in time. -/
abbrev Timestamp := Int

/-- User's relationship with another user (or themselves). -/
inductive RelationshipStatus where
  | none
  | user
  | friend
  | outgoing
  | incoming
  | blocked
  | blockedOther
  deriving DecidableEq, Repr, Inhabited

/-- Relationship entry indicating current status with other user. -/
structure Relationship where
  id : String
  status : RelationshipStatus
  deriving DecidableEq, Repr, Inhabited

/-- Presence status. -/
inductive Presence where
  | online
  | idle
  | focus
  | busy
  | invisible
  deriving DecidableEq, Repr, Inhabited

/-- User's active status. -/
structure UserStatus where
  text : Option String := none
  presence : Option Presence := none
  deriving DecidableEq, Repr, Inhabited

/-- Bot information for if the user is a bot. -/
structure BotInformation where
  owner : String
  deriving DecidableEq, Repr, Inhabited

/-- A stored user. -/
structure User where
  id : String
  username : String := ""
  discriminator : String := ""
  relations : Option (List Relationship) := none
  status : Option UserStatus := none
  privileged : Bool := false
  bot : Option BotInformation := none
  lastAcknowledgedPolicyChange : Timestamp := 0
  deriving DecidableEq, Repr, Inhabited

/-- Optional fields on user object. -/
inductive FieldsUser where
  | avatar
  | statusText
  | statusPresence
  | profileContent
  | profileBackground
  | displayName
  -- internal fields
  | suspension
  | none
  deriving DecidableEq, Repr, Inhabited

/-- A change to a user. -/
structure PartialUser where
  id : Option String := none
  username : Option String := none
  discriminator : Option String := none
  relations : Option (List Relationship) := none
  status : Option UserStatus := none
  privileged : Option Bool := none
  bot : Option BotInformation := none
  lastAcknowledgedPolicyChange : Option Timestamp := none
  deriving DecidableEq, Repr, Inhabited

/-- Type of a rate limit event. -/
inductive RatelimitEventType where
  | discriminatorChange
  deriving DecidableEq, Repr, Inhabited

/-- Ratelimit Event. -/
structure RatelimitEvent where
  id : String
  /-- Relevant Object Id. -/
  targetId : String
  eventType : RatelimitEventType
  deriving DecidableEq, Repr, Inhabited

/-- A user as clients and events see it. -/
structure V0User where
  id : String
  username : String := ""
  discriminator : String := ""
  relations : List Relationship := []
  status : Option UserStatus := none
  privileged : Bool := false
  bot : Option BotInformation := none
  relationship : RelationshipStatus := .none
  online : Bool := false
  deriving DecidableEq, Repr, Inhabited

/-- `From<v0::User> for User`: relations are dropped. -/
def V0User.toUser (value : V0User) : User where
  id := value.id
  username := value.username
  discriminator := value.discriminator
  relations := none
  status := value.status
  privileged := value.privileged
  bot := value.bot
  lastAcknowledgedPolicyChange := 0

namespace User

/-- Remove a field from User object. -/
def removeField (u : User) : FieldsUser → User
  | .statusText => { u with status := u.status.map ({ · with text := none }) }
  | .statusPresence => { u with status := u.status.map ({ · with presence := none }) }
  -- the other fields are left out
  | .avatar | .profileContent | .profileBackground | .displayName | .suspension | .none => u

def applyOptions (u : User) (p : PartialUser) : User where
  id := p.id.getD u.id
  username := p.username.getD u.username
  discriminator := p.discriminator.getD u.discriminator
  relations := p.relations.or u.relations
  status := p.status.or u.status
  privileged := p.privileged.getD u.privileged
  bot := p.bot.or u.bot
  lastAcknowledgedPolicyChange :=
    p.lastAcknowledgedPolicyChange.getD u.lastAcknowledgedPolicyChange

/-- Get the relationship with another user. -/
def relationshipWith (u : User) (userB : String) : RelationshipStatus :=
  if u.id = userB then .user
  else
    match u.relations with
    | some relations =>
      match relations.find? (·.id = userB) with
      | some relationship => relationship.status
      | none => .none
    | none => .none

/-- Replace the entry for another user in the relations list; the statuses
`None` and `User` are not stored, so they only remove it. -/
def withRelationship (u : User) (userB : String) (status : RelationshipStatus) : User :=
  match status with
  | .none | .user =>
    { u with relations := u.relations.map fun relations => relations.filter (·.id ≠ userB) }
  | status =>
    { u with
      relations := some ((u.relations.getD []).filter (·.id ≠ userB) ++ [⟨userB, status⟩]) }

@[simp] theorem withRelationship_id (u : User) (userB : String) (status : RelationshipStatus) :
    (u.withRelationship userB status).id = u.id := by
  cases status <;> rfl

/-- Whether the user hides their presence. -/
def isInvisible (u : User) : Bool :=
  match u.status with
  | some status => status.presence = some .invisible
  | none => false

end User

end DawnChat
