/-
DawnChat/Config.lean

The part of the configuration that the modelled code reads (`core/config`).

Two sets of limits depend on the age of an account: the ids of users carry their
creation time, and a user whose account is at most `new_user_hours` old has the limits
of new users.  Whether that is so is given as `isNewUser`.
-/
import DawnChat.Models.Users

namespace DawnChat

structure GlobalLimits where
  groupSize : Nat
  messageEmbeds : Nat := 5
  messageReplies : Nat := 5
  serverRoles : Nat
  serverChannels : Nat
  /-- If any user ids are entered here, only those users will be able to create servers. -/
  restrictServerCreation : List String := []

structure FeaturesLimits where
  messageLength : Nat := 2000
  messageAttachments : Nat := 5
  servers : Nat

structure FeaturesLimitsCollection where
  global : GlobalLimits
  newUser : FeaturesLimits
  default : FeaturesLimits

structure Features where
  limits : FeaturesLimitsCollection
  massMentionsEnabled : Bool := true

structure Settings where
  features : Features
  /-- Whether the account of a user is at most `new_user_hours` old. -/
  isNewUser : String → Bool := fun _ => false

/-- The limits of a user, by id. -/
def Settings.limitsOf (settings : Settings) (userId : String) : FeaturesLimits :=
  if settings.isNewUser userId then settings.features.limits.newUser
  else settings.features.limits.default

/-- Get limits for this user. -/
def User.limits (settings : Settings) (user : User) : FeaturesLimits := settings.limitsOf user.id

/-- The configuration that the repository ships (`core/config/Revolt.toml`). -/
def Settings.shipped : Settings where
  features.limits :=
    { global := { groupSize := 100, serverRoles := 200, serverChannels := 200 }
      newUser := { servers := 50 }
      default := { servers := 100 } }

end DawnChat
