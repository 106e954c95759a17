/-
DawnChat/Bonfire/State.lean

The state of a websocket session (`bonfire/src/events/state.rs`) and the
questions asked of its cache (`bonfire/src/events/impl.rs`, `Cache`).

The cache holds what the session knows: users, channels, servers, and the
memberships of the session's own user, keyed by server.  The session's user is
the record stored under the session's own id; every permission check takes it
from there.

The cache of recently active servers is shared with the task that reads from
the socket.  What it reports is an argument of `applyState`.
-/
import DawnChat.Bonfire.Subscription
import DawnChat.Permissions.Bits

namespace DawnChat

open RustStd Fallible SetLog Run

/-- Dumb per-state cache implementation. -/
structure Cache where
  userId : String
  isBot : Bool := false
  users : HashMap String User := ∅
  channels : HashMap String Channel := ∅
  members : HashMap String Member := ∅
  servers : HashMap String Server := ∅
  /-- Ids of events seen before, latest first. -/
  seenEvents : List String := []

/-- Capacity of `seen_events`. -/
def seenEventsCapacity : Nat := 20

/-- Client state. -/
structure State extends Subscriptions where
  cache : Cache
  sessionId : String
  privateTopic : String

/-- The cache of a session that knows only its own user. -/
def Cache.ofUser (user : User) : Cache where
  userId := user.id
  users := AList.insert user.id user ∅

/-- Create state from User. -/
def State.from (user : User) (sessionId : String) : State where
  state := .reset
  subscribed := {DawnChat.privateTopic user.id, user.id}
  cache := .ofUser user
  sessionId := sessionId
  privateTopic := DawnChat.privateTopic user.id

/-! ### The cache -/

namespace Cache

/-- The permission query for a channel, from what the cache knows. -/
def channelQuery (c : Cache) (db : Database) (clock : Stream' Timestamp) (user : User)
    (channel : TextChannel) : DatabasePermissionQuery :=
  { DatabasePermissionQuery.new db user clock with
    channel := some (.textChannel channel)
    member := c.members.lookup channel.server
    server := c.servers.lookup channel.server }

/-- Check whether the current user can view a channel; panics when the cache
has lost the current user. -/
def canViewChannel (c : Cache) (db : Database) (clock : Stream' Timestamp) :
    Channel → Option Bool
  | .textChannel channel => do
      let user ← c.users.lookup c.userId
      let permissions ← calculateChannelPermissions.run (c.channelQuery db clock user channel)
      some (permissions.1.hasChannelPermission .viewChannel)
  | _ => some true

/-- Filter a given vector of channels to only include the ones we can access. -/
def filterAccessibleChannels (c : Cache) (db : Database) (clock : Stream' Timestamp) :
    List Channel → Option (List Channel)
  | [] => some []
  | channel :: channels => do
      let viewable ← c.canViewChannel db clock channel
      let rest ← c.filterAccessibleChannels db clock channels
      some (if viewable then channel :: rest else rest)

/-- Check whether we can subscribe to another user. -/
def canSubscribeToUser (c : Cache) (userId : String) : Bool :=
  match c.users.lookup c.userId with
  | some user =>
    match user.relationshipWith userId with
    | .friend | .incoming | .outgoing | .user => true
    | _ =>
      c.channels.values.any fun
        | .directMessage channel => channel.recipients.contains userId
        | .group channel => channel.recipients.contains userId
        | _ => false
  | none => false

section CanView

variable {c : Cache} {user : User} (huser : c.users.lookup c.userId = some user)

include huser

/-- While the cache has the current user, the check ends, and the clock plays
no role in it. -/
theorem canViewChannel_textChannel (db : Database) (clock clock' : Stream' Timestamp)
    (channel : TextChannel) :
    c.canViewChannel db clock (.textChannel channel)
      = some ((c.channelQuery db clock' user channel).seesChannel channel) := by
  obtain ⟨v, q', hrun, hv⟩ := run_calculateChannelPermissions_viewChannel
    (q := c.channelQuery db clock user channel) rfl
  simp only [canViewChannel, huser, Option.bind_eq_bind, Option.bind_some]
  rw [hrun]
  exact congrArg some hv

theorem exists_canViewChannel (db : Database) (clock : Stream' Timestamp) (channel : Channel) :
    ∃ viewable, c.canViewChannel db clock channel = some viewable := by
  cases channel with
  | textChannel channel => exact ⟨_, canViewChannel_textChannel huser db clock clock channel⟩
  | savedMessages _ | directMessage _ | group _ => exact ⟨true, rfl⟩

/-- The clock plays no role, so one reading may stand for all. -/
theorem canViewChannel_clock (db : Database) (clock clock' : Stream' Timestamp)
    (channel : Channel) :
    c.canViewChannel db clock channel = c.canViewChannel db clock' channel := by
  cases channel with
  | textChannel channel =>
    rw [canViewChannel_textChannel huser db clock clock,
      canViewChannel_textChannel huser db clock' clock]
  | savedMessages _ => rfl
  | directMessage _ => rfl
  | group _ => rfl

end CanView

end Cache

/-! ### The state -/

namespace State

/-- Apply currently queued state. -/
def applyState (s : State) (entries : List TimedEntry) :
    Option (SubscriptionStateChange × State) := do
  let (change, subscriptions) ← s.toSubscriptions.applyState s.cache.isBot entries
  some (change, { s with toSubscriptions := subscriptions })

/-- Clone the active user. -/
def cloneUser (s : State) : Option User := s.cache.users.lookup s.cache.userId

/-- Reset the current state. -/
def resetState : Request State Unit :=
  modify fun s => { s with toSubscriptions := Subscriptions.resetState }

/-- Add a new subscription. -/
def insertSubscription (subscription : String) : Request State Unit :=
  modify fun s =>
    { s with toSubscriptions := s.toSubscriptions.insertSubscription subscription }

/-- Remove existing subscription. -/
def removeSubscription (subscription : String) : Request State Unit := do
  let s ← get
  let subscriptions ← Handler.ofOption (s.toSubscriptions.removeSubscription subscription)
  modify fun s => { s with toSubscriptions := subscriptions }

/-- Change the cache. -/
def modifyCache (f : Cache → Cache) : Request State Unit :=
  modify fun s => { s with cache := f s.cache }

end State

end DawnChat
