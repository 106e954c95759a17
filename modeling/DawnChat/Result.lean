/-
DawnChat/Result.lean

Error values of the API (`core/result`).

An `Error` of the source is an error type and the source location at which it
was created; the location is a debugging aid that no function reads, so only
the type is kept.  Listed are the error types that the modelled functions can
return.
-/
import DawnChat.Lib.Fallible

namespace DawnChat

/-- Possible error types. -/
inductive ErrorType where
  | notFound
  -- user related errors
  | usernameTaken
  | invalidUsername
  | discriminatorChangeRatelimited
  | alreadyFriends
  | notFriends
  | alreadySentRequest
  | blocked
  | blockedByOther
  | tooManyPendingFriendRequests (max : Nat)
  -- channel and server related errors
  | unknownChannel
  | tooManyAttachments (max : Nat)
  | tooManyEmbeds (max : Nat)
  | tooManyReplies (max : Nat)
  | tooManyChannels (max : Nat)
  | emptyMessage
  | payloadTooLarge
  | cannotRemoveYourself
  | groupTooLarge (max : Nat)
  | alreadyInGroup
  | notInGroup
  | inSlowmode (retryAfter : Nat)
  | cantCreateServers
  | banned
  | tooManyServers (max : Nat)
  | tooManyRoles (max : Nat)
  | alreadyInServer
  | cannotTimeoutYourself
  | notOwner
  | notPrivileged
  | isElevated
  | invalidRole
  -- bot related errors
  | isBot
  | isNotBot
  -- general errors
  | invalidOperation
  | duplicateNonce
  | notElevated
  | missingPermission (permission : String)
  | cannotGiveMissingPermissions
  | databaseError (operation collection : String)
  | internalError
  | invalidProperty
  | invalidFlagValue
  | noEffect
  /-- The text that describes the error is left out. -/
  | failedValidation
  | invalidCredentials
  | featureDisabled (feature : String)
  -- voice errors
  | liveKitUnavailable
  | alreadyConnected
  | notConnected
  | unknownNode
  deriving DecidableEq, Repr

/-- Result type with the API's errors. -/
abbrev Result := Except ErrorType

/-- A request handler over the store `σ`. -/
abbrev Request := Fallible.Handler ErrorType

end DawnChat
