/-
DawnChat/Permissions/Calculate.lean

The permission calculators (`core/permissions/src/trait.rs`, `impl.rs`).

The calculators are generic in a query object, which answers questions about
the perspective user and may fetch and remember data while doing so.  The
trait becomes a class whose methods are state transformers on the query; they
return `none` when the query panics.

The three calculators are written with the branches and in the order of the
source.  A loop that applies a vector of overrides is a fold of `apply`.
-/
import DawnChat.Models.Users
import DawnChat.Permissions.Value

namespace DawnChat

/-- Computations on a query object `P`; `none` is a panic. -/
abbrev Query (P : Type) := StateT P Option

/-- The questions the calculators ask. -/
class PermissionQuery (P : Type) where
  /-- Is our perspective user privileged? -/
  areWePrivileged : Query P Bool
  /-- Is our perspective user a bot? -/
  areWeABot : Query P Bool
  /-- Is our perspective user and the currently selected user the same? -/
  areTheUsersSame : Query P Bool
  /-- Get the relationship we have with the currently selected user -/
  userRelationship : Query P RelationshipStatus
  /-- Whether the currently selected user is a bot -/
  userIsBot : Query P Bool
  /-- Do we have a mutual connection with the currently selected user? -/
  haveMutualConnection : Query P Bool
  /-- Is our perspective user the server's owner? -/
  areWeServerOwner : Query P Bool
  /-- Is our perspective user a member of the server? -/
  areWeAMember : Query P Bool
  /-- Get default server permission -/
  getDefaultServerPermissions : Query P U64
  /-- Get the ordered role overrides (from lowest to highest) for this member in this server -/
  getOurServerRoleOverrides : Query P (List Override)
  /-- Is our perspective user timed out on this server? -/
  areWeTimedOut : Query P Bool
  /-- Is the member muted? -/
  doWeHavePublishOverwrites : Query P Bool
  /-- Is the member deafened? -/
  doWeHaveReceiveOverwrites : Query P Bool
  /-- Get the type of the channel -/
  getChannelType : Query P ChannelType
  /-- Get the default channel permissions -/
  getDefaultChannelPermissions : Query P Override
  /-- Get the ordered role overrides (from lowest to highest) for this member in this channel -/
  getOurChannelRoleOverrides : Query P (List Override)
  /-- Do we own this group or saved messages channel if it is one of those? -/
  doWeOwnTheChannel : Query P Bool
  /-- Are we a recipient of this channel? -/
  areWePartOfTheChannel : Query P Bool
  /-- Set the current user as the recipient of this channel -/
  setRecipientAsUser : Query P Unit
  /-- Set the current server as the server owning this channel -/
  setServerFromChannel : Query P Unit

open PermissionQuery

variable {P : Type} [PermissionQuery P]

/-- Permissions against a user once the relationship has been looked at. -/
def calculateMutualPermissions (permissions : U64) : Query P PermissionValue := do
  if ← haveMutualConnection then
    let permissions := UserPermission.access.value + UserPermission.viewProfile.value
    if ← userIsBot then pure (permissions + UserPermission.sendMessage.value)
    else if ← areWeABot then pure (permissions + UserPermission.sendMessage.value)
    else pure permissions
  else pure permissions

/-- Calculate permissions against a user. -/
def calculateUserPermissions : Query P PermissionValue := do
  if ← areWePrivileged then pure (.allOnes 64)
  else if ← areTheUsersSame then pure (.allOnes 64)
  else
    match ← userRelationship with
    | .friend => pure (.allOnes 64)
    | .blocked | .blockedOther => pure UserPermission.access.value
    | .incoming | .outgoing => calculateMutualPermissions UserPermission.access.value
    | _ => calculateMutualPermissions 0

/-- The part of the server calculation that comes after the roles: voice
flags, then timeout. -/
def applyMemberFlags (permissions : PermissionValue) : Query P PermissionValue := do
  let permissions ←
    if ← doWeHavePublishOverwrites then pure permissions
    else
      pure ((permissions.revoke ChannelPermission.speak.value).revoke
        ChannelPermission.video.value)
  let permissions ←
    if ← doWeHaveReceiveOverwrites then pure permissions
    else pure (permissions.revoke ChannelPermission.listen.value)
  if ← areWeTimedOut then pure (permissions.restrict allowInTimeout) else pure permissions

/-- Calculate permissions against a server. -/
def calculateServerPermissions : Query P PermissionValue := do
  if ← areWePrivileged then pure ChannelPermission.grantAllSafe.value
  else if ← areWeServerOwner then pure ChannelPermission.grantAllSafe.value
  else if ← areWeAMember then
    let permissions ← getDefaultServerPermissions
    let overrides ← getOurServerRoleOverrides
    applyMemberFlags (overrides.foldl PermissionValue.apply permissions)
  else pure 0

/-- Calculate permissions against a channel. -/
def calculateChannelPermissions : Query P PermissionValue := do
  if ← areWePrivileged then pure ChannelPermission.grantAllSafe.value
  else
    match ← getChannelType with
    | .savedMessages =>
      if ← doWeOwnTheChannel then pure defaultPermissionSavedMessages else pure 0
    | .directMessage =>
      if ← areWePartOfTheChannel then
        setRecipientAsUser
        let permissions ← calculateUserPermissions
        if permissions.hasUserPermission .sendMessage then pure defaultPermissionDirectMessage
        else pure defaultPermissionViewOnly
      else pure 0
    | .group =>
      if ← doWeOwnTheChannel then pure ChannelPermission.grantAllSafe.value
      else if ← areWePartOfTheChannel then
        pure (defaultPermissionViewOnly ||| (← getDefaultChannelPermissions).allow)
      else pure 0
    | .serverChannel =>
      setServerFromChannel
      if ← areWeServerOwner then pure ChannelPermission.grantAllSafe.value
      else if ← areWeAMember then
        let permissions ← calculateServerPermissions
        let permissions := permissions.apply (← getDefaultChannelPermissions)
        let overrides ← getOurChannelRoleOverrides
        let permissions := overrides.foldl PermissionValue.apply permissions
        let permissions ←
          if ← areWeTimedOut then pure (permissions.restrict allowInTimeout)
          else pure permissions
        if permissions.hasChannelPermission .viewChannel then pure permissions
        else pure permissions.revokeAll
      else pure 0
    | .unknown => pure 0

end DawnChat
