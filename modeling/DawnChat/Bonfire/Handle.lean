/-
DawnChat/Bonfire/Handle.lean

Incoming events (`bonfire/src/events/impl.rs`, `State`).

`handle_incoming_event_v1` brings the cache and the subscriptions up to date
and may replace the event by another one before it goes to the client.  It is
one long match; the larger branches are definitions of their own here.  A
branch leaves behind what is still to be done after the match: a server whose
channels must be recalculated, a topic to add, a topic to remove (`Handled`).

`usersAfter` and `membersAfter` say what an event does to the cached users and
memberships.
-/
import DawnChat.Bonfire.State

namespace DawnChat

open RustStd Fallible

namespace State

variable (db : Database) (clock : Stream' Timestamp)

/-! ### Recalculating a server -/

/-- The cached channels of a server, each with whether it can be viewed. -/
def visibleChannels (c : Cache) (id : String) : Option (List (String × Bool)) :=
  (c.channels.toList.filter fun e => e.2.server = some id).mapM fun e =>
    (c.canViewChannel db clock e.2).map fun viewable => (e.1, viewable)

/-- Stop listening to a channel and forget it. -/
def dropChannel (id : String) : Request State Unit := do
  removeSubscription id
  modifyCache fun c => { c with channels := c.channels.erase id }

/-- Start listening to a channel and remember it. -/
def addChannel (channel : Channel) : Request State Unit := do
  modifyCache fun c => { c with channels := c.channels.insert channel.id channel }
  insertSubscription channel.id

/-- Load those of the server's channels that are not cached yet. -/
def loadChannels (unknowns : List String) : Request State (List EventV1) := do
  if unknowns.isEmpty then pure []
  else
    match db.fetchChannels unknowns with
    | .ok channels => do
        let s ← get
        let viewable ← Handler.ofOption (s.cache.filterAccessibleChannels db clock channels)
        viewable.forM addChannel
        pure (viewable.map .channelCreate)
    | .error _ => pure []

/-- Re-determine the currently accessible server channels.  Returns the event
to send. -/
def recalculateServer (id : String) (event : EventV1) : Request State EventV1 := do
  let s ← get
  match s.cache.servers.lookup id with
  | none => pure event
  | some server => do
      let visible ← Handler.ofOption (visibleChannels db clock s.cache id)
      let addedChannels := (visible.filter (·.2)).map (·.1)
      let removedChannels := (visible.filter (!·.2)).map (·.1)
      addedChannels.forM insertSubscription
      removedChannels.forM dropChannel
      let unknowns := server.channels.dedup.filter fun id => !(visible.map (·.1)).contains id
      let created ← loadChannels db clock unknowns
      let bulkEvents := removedChannels.map .channelDelete ++ created
      pure (if bulkEvents.isEmpty then event else .bulk (bulkEvents ++ [event]))

/-! ### The branches -/

/-- What is left to do after an event has been looked at. -/
structure Handled where
  event : EventV1
  queueServer : Option String := none
  queueAdd : Option String := none
  queueRemove : Option String := none

/-- Whether a channel is cached and can be viewed. -/
def canViewCached (id : String) : Request State Bool := do
  let s ← get
  match s.cache.channels.lookup id with
  | some channel => Handler.ofOption (s.cache.canViewChannel db clock channel)
  | none => pure false

/-- Fetch a channel that is not cached. -/
def cacheChannel (id : String) : Request State Unit := do
  let s ← get
  if id ∈ s.cache.channels then pure ()
  else
    match db.fetchChannel id with
    | .ok channel => modifyCache fun c => { c with channels := c.channels.insert id channel }
    | .error _ => pure ()

/-- The event for the client once a channel has been updated: the channel has
come into view, has gone out of view, or neither. -/
def channelUpdateOutcome (id : String) (couldView : Bool) (event : EventV1) :
    Request State Handled := do
  let s ← get
  match s.cache.channels.lookup id with
  | none => pure { event := event }
  | some channel => do
      let canView ← Handler.ofOption (s.cache.canViewChannel db clock channel)
      pure (
        if couldView = canView then { event := event }
        else if canView then { event := .channelCreate channel, queueAdd := some id }
        else { event := .channelDelete id, queueRemove := some id })

def handleChannelUpdate (id : String) (data : PartialChannel) (clear : List FieldsChannel) :
    Request State Handled := do
  let couldView ← canViewCached db clock id
  modifyCache fun c =>
    { c with
      channels := c.channels.modify id fun channel =>
        (clear.foldl Channel.removeField channel).applyOptions data }
  cacheChannel db id
  channelUpdateOutcome db clock id couldView (.channelUpdate id data clear)

def handleChannelGroupLeave (id user : String) : Request State Unit := do
  let s ← get
  if user = s.cache.userId then removeSubscription id
  else if s.cache.canSubscribeToUser user then pure ()
  else removeSubscription user

/-- Bots listen to the member events of all their servers. -/
def subscribeToMembers (id : String) : Request State Unit := do
  let s ← get
  if s.cache.isBot then insertSubscription (memberTopic id) else pure ()

/-- Remember a server that was created or joined, with a fresh membership. -/
def cacheServer (id : String) (server : Server) (channels : List Channel) :
    Request State Unit :=
  modifyCache fun c =>
    { c with
      servers := c.servers.insert id server
      members := c.members.insert id
        { id := ⟨server.id, c.userId⟩, joinedAt := clock.head }
      channels := channels.foldl (fun cs channel => cs.insert channel.id channel) c.channels }

/-- Forget a server and its channels. -/
def forgetServer (id : String) : Request State Unit := do
  let s ← get
  match s.cache.servers.lookup id with
  | none => pure ()
  | some server => do
      modifyCache fun c => { c with servers := c.servers.erase id }
      server.channels.forM dropChannel

/-- We are not in a server any more. -/
def leaveServer (id : String) : Request State Unit := do
  removeSubscription id
  forgetServer id
  modifyCache fun c => { c with members := c.members.erase id }

/-- Update our own membership; the roles decide whether the server has to be
recalculated. -/
def handleServerMemberUpdate (id : MemberCompositeKey) (data : PartialMember)
    (clear : List FieldsMember) : Request State Handled := do
  let s ← get
  let event := .serverMemberUpdate id data clear
  if id.user = s.cache.userId then do
    modifyCache fun c =>
      { c with
        members := c.members.modify id.server fun member =>
          (clear.foldl Member.removeField member).applyOptions data }
    pure { event := event,
           queueServer := if data.roles.isSome || clear.contains .roles then some id.server
             else none }
  else pure { event := event }

/-- Whether we hold a role of a server. -/
def holdsRole (c : Cache) (id roleId : String) : Bool :=
  (c.members.lookup id).any (·.roles.contains roleId)

def handleServerRoleUpdate (id roleId : String) (data : PartialRole)
    (clear : List FieldsRole) : Request State Handled := do
  modifyCache fun c =>
    { c with
      servers := c.servers.modify id fun server =>
        { server with
          roles := server.roles.modify roleId fun role =>
            (clear.foldl Role.removeField role).applyOptions data } }
  let s ← get
  pure { event := .serverRoleUpdate id roleId data clear,
         queueServer := if (data.rank.isSome || data.permissions.isSome)
           && holdsRole s.cache id roleId then some id else none }

def handleServerRoleDelete (id roleId : String) : Request State Handled := do
  modifyCache fun c =>
    { c with
      servers := c.servers.modify id fun server =>
        { server with roles := server.roles.erase roleId } }
  let s ← get
  pure { event := .serverRoleDelete id roleId,
         queueServer := if holdsRole s.cache id roleId then some id else none }

/-- An update of a user reaches us once for every server we share, and is
passed on once. -/
def handleUserUpdate (id : String) (eventId : Option String) : Request State (Option Handled) := do
  let s ← get
  match eventId with
  | some eventId =>
    if s.cache.seenEvents.contains eventId then pure none
    else do
      modifyCache fun c =>
        { c with
          seenEvents :=
            (eventId :: c.seenEvents.filter (· ≠ eventId)).take seenEventsCapacity }
      pure (some { event := .userUpdate id none })
  | none => pure (some { event := .userUpdate id none })

def handleUserRelationship (id : String) (user : V0User) : Request State Unit := do
  modifyCache fun c => { c with users := c.users.insert id user.toUser }
  let s ← get
  if s.cache.canSubscribeToUser id then insertSubscription id else removeSubscription id

/-- Messages are fanned out to many clients, so the relationship with the
author is filled in here. -/
def handleMessage (author : String) (user : Option V0User) : Request State EventV1 := do
  let s ← get
  match user with
  | some user => do
      let self ← Handler.ofOption (s.cache.users.lookup s.cache.userId)
      pure (.message author (some { user with relationship := self.relationshipWith author }))
  | none => pure (.message author none)

/-- The match on the event; `none` drops the event. -/
def dispatch (event : EventV1) : Request State (Option Handled) :=
  match event with
  | .channelCreate channel => do
      insertSubscription channel.id
      modifyCache fun c => { c with channels := c.channels.insert channel.id channel }
      pure (some { event := event })
  | .channelUpdate id data clear => do
      let handled ← handleChannelUpdate db clock id data clear
      pure (some handled)
  | .channelDelete id => do
      dropChannel id
      pure (some { event := event })
  | .channelGroupJoin _ user => do
      insertSubscription user
      pure (some { event := event })
  | .channelGroupLeave id user => do
      handleChannelGroupLeave id user
      pure (some { event := event })
  | .serverCreate id server channels => do
      insertSubscription id
      subscribeToMembers id
      cacheServer clock id server channels
      pure (some { event := event, queueServer := some id })
  | .serverUpdate id data clear => do
      modifyCache fun c =>
        { c with
          servers := c.servers.modify id fun server =>
            (clear.foldl Server.removeField server).applyOptions data }
      pure (some { event := event,
                   queueServer := if data.defaultPermissions.isSome then some id else none })
  -- a new server is announced by `serverCreate` as well
  | .serverMemberJoin _ _ => pure (some { event := event })
  | .serverMemberLeave id user => do
      let s ← get
      if user = s.cache.userId then do
        leaveServer id
        pure (some { event := event })
      else pure (some { event := event })
  | .serverDelete id => do
      leaveServer id
      pure (some { event := event })
  | .serverMemberUpdate id data clear => do
      let handled ← handleServerMemberUpdate id data clear
      pure (some handled)
  | .serverRoleUpdate id roleId data clear => do
      let handled ← handleServerRoleUpdate id roleId data clear
      pure (some handled)
  | .serverRoleDelete id roleId => do
      let handled ← handleServerRoleDelete id roleId
      pure (some handled)
  | .userUpdate id eventId => handleUserUpdate id eventId
  | .userRelationship id user => do
      handleUserRelationship id user
      pure (some { event := event })
  | .message author user => do
      let event ← handleMessage author user
      pure (some { event := event })
  | .bulk _ | .ready _ | .other => pure (some { event := event })

/-- Calculate server permissions if requested. -/
def recalculateQueued (handled : Handled) : Request State EventV1 :=
  match handled.queueServer with
  | some id => recalculateServer db clock id handled.event
  | none => pure handled.event

/-- Sub / unsub accordingly. -/
def subscribeQueued (handled : Handled) : Request State Unit := do
  (handled.queueAdd.toList).forM insertSubscription
  (handled.queueRemove.toList).forM removeSubscription

/-- Handle an incoming event for protocol version 1.  Returns whether to send
it, and the event to send. -/
def handleIncomingEventV1 (event : EventV1) : Request State (Bool × EventV1) := do
  let handled ← dispatch db clock event
  match handled with
  | none => pure (false, event)
  | some handled => do
      let event ← recalculateQueued db clock handled
      subscribeQueued handled
      pure (true, event)

/-! ### What handling an event changes -/

/-- The cached users after an event. -/
def usersAfter (users : HashMap String User) : EventV1 → HashMap String User
  | .userRelationship id user => users.insert id user.toUser
  | _ => users

/-- The cached memberships after an event, in the session of `userId`. -/
def membersAfter (userId : String) (now : Timestamp) (members : HashMap String Member) :
    EventV1 → HashMap String Member
  | .serverCreate id server _ => members.insert id { id := ⟨server.id, userId⟩, joinedAt := now }
  | .serverMemberLeave id user => if user = userId then members.erase id else members
  | .serverDelete id => members.erase id
  | .serverMemberUpdate id data clear =>
    if id.user = userId then
      members.modify id.server fun member =>
        (clear.foldl Member.removeField member).applyOptions data
    else members
  | _ => members

/-- Outside a reset, with this user, these users and these memberships. -/
structure Frame (userId : String) (users : HashMap String User) (members : HashMap String Member)
    (s : State) : Prop where
  state : s.state ≠ .reset
  userId : s.cache.userId = userId
  users : s.cache.users = users
  members : s.cache.members = members

/-- The session's user is never lost from the cache, only replaced. -/
theorem exists_self_usersAfter {users : HashMap String User} {userId : String}
    (h : ∃ self, users.lookup userId = some self) (event : EventV1) :
    ∃ self, (usersAfter users event).lookup userId = some self := by
  cases event with
  | userRelationship id user =>
    by_cases hid : userId = id
    · subst hid
      exact ⟨_, AList.lookup_insert _⟩
    · obtain ⟨self, hself⟩ := h
      exact ⟨self, (AList.lookup_insert_ne hid).trans hself⟩
  | _ => exact h

end State

end DawnChat
