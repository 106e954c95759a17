/-
DawnChat/Bonfire/Effect.lean

What handling an event does, as a function of the cache.

`handle_incoming_event_v1` mixes reads of the cache, writes to it, and calls
that change the subscriptions.  `Cache.effect` computes the outcome in one go:
the cache afterwards, the subscription calls in order, and the event for the
client.

`does_handleIncomingEventV1` says that the handler has exactly this effect as
long as the cache has the session's user and the calls go through, which they
do outside a reset.  What a session does is proved about `effect` from there
on, and the statements of the handler are not looked at again.
-/
import DawnChat.Bonfire.Handle

namespace DawnChat

open RustStd Fallible SetLog Run HashMap Cache List Option

namespace Cache

/-! ### Views -/

/-- Whether a channel can be viewed.  The clock plays no role in it. -/
def sees (c : Cache) (db : Database) (channel : Channel) : Bool :=
  (c.canViewChannel db (Stream'.const 0) channel).getD false

/-- The cached channels of a server, with their keys. -/
def channelsOf (c : Cache) (id : String) : List (String × Channel) :=
  c.channels.toList.filter fun e => e.2.server = some id

/-- Those that can be viewed. -/
def shown (c : Cache) (db : Database) (id : String) : List String :=
  ((c.channelsOf id).filter fun e => c.sees db e.2).map (·.1)

/-- Those that cannot. -/
def hidden (c : Cache) (db : Database) (id : String) : List String :=
  ((c.channelsOf id).filter fun e => !c.sees db e.2).map (·.1)

/-- The channels a server lists that are not cached. -/
def unknown (c : Cache) (id : String) (server : Server) : List String :=
  server.channels.dedup.filter fun t => !((c.channelsOf id).map (·.1)).contains t

/-- What the database has of a list of channels, as far as it can be viewed. -/
def loadable (c : Cache) (db : Database) (ids : List String) : List Channel :=
  if ids.isEmpty then []
  else
    match db.fetchChannels ids with
    | .ok channels => channels.filter (c.sees db)
    | .error _ => []

/-! ### Changes of the cached channels -/

/-- Forget channels. -/
def dropChannels (c : Cache) (ids : List String) : Cache :=
  { c with channels := ids.foldl (fun cs id => cs.erase id) c.channels }

/-- Remember channels. -/
def addChannels (c : Cache) (channels : List Channel) : Cache :=
  { c with channels := channels.foldl (fun cs channel => cs.insert channel.id channel) c.channels }

/-- Update a channel in place. -/
def updateChannel (c : Cache) (id : String) (data : PartialChannel)
    (clear : List FieldsChannel) : Cache :=
  { c with
    channels := c.channels.modify id fun channel =>
      (clear.foldl Channel.removeField channel).applyOptions data }

/-- Fetch a channel that is not cached. -/
def fetchMissing (c : Cache) (db : Database) (id : String) : Cache :=
  if id ∈ c.channels then c
  else
    match db.fetchChannel id with
    | .ok channel => { c with channels := c.channels.insert id channel }
    | .error _ => c

/-- Whether a channel is cached and can be viewed. -/
def seesCached (c : Cache) (db : Database) (id : String) : Bool :=
  (c.channels.lookup id).any (c.sees db)

end Cache

/-! ### The effect -/

/-- The outcome of a computation: its value, the cache it leaves, and the
subscription calls it makes. -/
structure Effect (α : Type) where
  value : α
  cache : Cache
  calls : List (Op String) := []

namespace Cache

/-- Re-determine the accessible channels of a server. -/
def recalculated (c : Cache) (db : Database) (id : String) (event : EventV1) : Effect EventV1 :=
  match c.servers.lookup id with
  | none => { value := event, cache := c }
  | some server =>
    let hidden := c.hidden db id
    let created := c.loadable db (c.unknown id server)
    let bulkEvents := hidden.map .channelDelete ++ created.map .channelCreate
    { value := if bulkEvents.isEmpty then event else .bulk (bulkEvents ++ [event])
      cache := (c.dropChannels hidden).addChannels created
      calls := (c.shown db id).map .insert ++ hidden.map .remove
        ++ created.map fun channel => .insert channel.id }

/-- The outcome of an update of a channel, from the cache before and after. -/
def updateOutcome (c c' : Cache) (db : Database) (id : String) (event : EventV1) :
    State.Handled :=
  match c'.channels.lookup id with
  | none => { event := event }
  | some channel =>
    if c.seesCached db id = c'.sees db channel then { event := event }
    else if c'.sees db channel then { event := .channelCreate channel, queueAdd := some id }
    else { event := .channelDelete id, queueRemove := some id }

/-- The channels that a cached server lists. -/
def listed (c : Cache) (id : String) : List String :=
  ((c.servers.lookup id).map (·.channels)).getD []

/-- Forget a server with the channels it lists. -/
def withoutServer (c : Cache) (id : String) : Cache :=
  { c.dropChannels (c.listed id) with
    servers := c.servers.erase id
    members := c.members.erase id }

/-- Remember a server that was created or joined. -/
def withServer (c : Cache) (now : Timestamp) (id : String) (server : Server)
    (channels : List Channel) : Cache :=
  { c.addChannels channels with
    servers := c.servers.insert id server
    members := c.members.insert id { id := ⟨server.id, c.userId⟩, joinedAt := now } }

/-- Update a server in place. -/
def updateServer (c : Cache) (id : String) (f : Server → Server) : Cache :=
  { c with servers := c.servers.modify id f }

/-- Update a membership in place. -/
def updateMember (c : Cache) (id : String) (f : Member → Member) : Cache :=
  { c with members := c.members.modify id f }

/-- We are not in a server any more. -/
def left (c : Cache) (id : String) (event : EventV1) : Effect (Option State.Handled) where
  value := some { event := event }
  cache := c.withoutServer id
  calls := .remove id :: (c.listed id).map .remove

/-- The match on the event. -/
def matched (c : Cache) (db : Database) (now : Timestamp) (event : EventV1) :
    Effect (Option State.Handled) :=
  match event with
  | .channelCreate channel =>
    { value := some { event := event }
      cache := c.addChannels [channel]
      calls := [.insert channel.id] }
  | .channelUpdate id data clear =>
    let c' := (c.updateChannel id data clear).fetchMissing db id
    { value := some (c.updateOutcome c' db id event), cache := c' }
  | .channelDelete id =>
    { value := some { event := event }
      cache := c.dropChannels [id]
      calls := [.remove id] }
  | .channelGroupJoin _ user =>
    { value := some { event := event }, cache := c, calls := [.insert user] }
  | .channelGroupLeave id user =>
    { value := some { event := event }
      cache := c
      calls :=
        if user = c.userId then [.remove id]
        else if c.canSubscribeToUser user then [] else [.remove user] }
  | .serverCreate id server channels =>
    { value := some { event := event, queueServer := some id }
      cache := c.withServer now id server channels
      calls := .insert id :: if c.isBot then [.insert (memberTopic id)] else [] }
  | .serverUpdate id data clear =>
    { value := some { event := event,
                      queueServer := if data.defaultPermissions.isSome then some id
                        else none }
      cache := c.updateServer id fun server =>
        (clear.foldl Server.removeField server).applyOptions data }
  | .serverMemberLeave id user =>
    if user = c.userId then c.left id event
    else { value := some { event := event }, cache := c }
  | .serverDelete id => c.left id event
  | .serverMemberUpdate id data clear =>
    if id.user = c.userId then
      { value := some { event := event,
                        queueServer := if data.roles.isSome || clear.contains .roles
                          then some id.server else none }
        cache := c.updateMember id.server fun member =>
          (clear.foldl Member.removeField member).applyOptions data }
    else { value := some { event := event }, cache := c }
  | .serverRoleUpdate id roleId data clear =>
    { value := some { event := event,
                      queueServer := if (data.rank.isSome || data.permissions.isSome)
                        && State.holdsRole c id roleId then some id else none }
      cache := c.updateServer id fun server =>
        { server with
          roles := server.roles.modify roleId fun role =>
            (clear.foldl Role.removeField role).applyOptions data } }
  | .serverRoleDelete id roleId =>
    { value := some { event := event,
                      queueServer := if State.holdsRole c id roleId then some id else none }
      cache := c.updateServer id fun server =>
        { server with roles := server.roles.erase roleId } }
  | .userUpdate id (some eventId) =>
    if c.seenEvents.contains eventId then { value := none, cache := c }
    else
      { value := some { event := .userUpdate id none }
        cache :=
          { c with
            seenEvents :=
              (eventId :: c.seenEvents.filter (· ≠ eventId)).take seenEventsCapacity } }
  | .userRelationship id user =>
    let c' := { c with users := c.users.insert id user.toUser }
    { value := some { event := event }
      cache := c'
      calls := [if c'.canSubscribeToUser id then .insert id else .remove id] }
  | .message author (some user) =>
    { value := some { event := .message author (some { user with
        relationship := (c.users.lookup c.userId).elim .none (·.relationshipWith author) }) }
      cache := c }
  | .userUpdate _ none | .message _ none | .serverMemberJoin _ _ | .bulk _ | .ready _
  | .other => { value := some { event := event }, cache := c }

/-- Recalculate the server that a branch has queued. -/
def recalculatedQueued (c : Cache) (db : Database) (handled : State.Handled) : Effect EventV1 :=
  match handled.queueServer with
  | some id => c.recalculated db id handled.event
  | none => { value := handled.event, cache := c }

/-- What handling an event does: the match, then the server to recalculate,
then the topics to add and to remove. -/
def effect (c : Cache) (db : Database) (now : Timestamp) (event : EventV1) :
    Effect (Bool × EventV1) :=
  let m := c.matched db now event
  match m.value with
  | none => { m with value := (false, event) }
  | some handled =>
    let r := m.cache.recalculatedQueued db handled
    { value := (true, r.value)
      cache := r.cache
      calls := m.calls ++ (r.calls ++ (handled.queueAdd.toList.map .insert
        ++ handled.queueRemove.toList.map .remove)) }

/-! ### What changes -/

section Frame

variable (c : Cache) (db : Database) (now : Timestamp)

theorem fetchMissing_frame (id : String) :
    ∃ channels, c.fetchMissing db id = { c with channels := channels } := by
  rw [fetchMissing]
  split
  · exact ⟨_, rfl⟩
  · rcases db.fetchChannel id with e | channel
    · exact ⟨_, rfl⟩
    · exact ⟨_, rfl⟩

/-- Users and memberships change as `usersAfter` and `membersAfter` say. -/
theorem matched_frame (event : EventV1) :
    (c.matched db now event).cache.userId = c.userId ∧
      (c.matched db now event).cache.isBot = c.isBot ∧
      (c.matched db now event).cache.users = State.usersAfter c.users event ∧
      (c.matched db now event).cache.members
        = State.membersAfter c.userId now c.members event := by
  cases event with
  | channelUpdate id data clear =>
    obtain ⟨channels, hchannels⟩ := (c.updateChannel id data clear).fetchMissing_frame db id
    rw [matched, hchannels]
    exact ⟨rfl, rfl, rfl, rfl⟩
  | serverMemberLeave id user | serverMemberUpdate id data clear =>
    rw [matched, State.membersAfter]
    split <;> exact ⟨rfl, rfl, rfl, rfl⟩
  | userUpdate id eventId =>
    rcases eventId with - | eventId
    · exact ⟨rfl, rfl, rfl, rfl⟩
    · rw [matched]
      split <;> exact ⟨rfl, rfl, rfl, rfl⟩
  | message author user => rcases user with - | user <;> exact ⟨rfl, rfl, rfl, rfl⟩
  | _ => exact ⟨rfl, rfl, rfl, rfl⟩

/-- Recalculating a server only changes the cached channels. -/
theorem recalculated_frame (id : String) (event : EventV1) :
    ∃ channels, (c.recalculated db id event).cache = { c with channels := channels } := by
  rw [recalculated]
  rcases c.servers.lookup id with - | server
  · exact ⟨_, rfl⟩
  · exact ⟨_, rfl⟩

theorem recalculatedQueued_frame (handled : State.Handled) :
    ∃ channels, (c.recalculatedQueued db handled).cache = { c with channels := channels } := by
  rw [recalculatedQueued]
  rcases handled.queueServer with - | id
  · exact ⟨_, rfl⟩
  · exact c.recalculated_frame db id handled.event

/-- After the match only the cached channels still change. -/
theorem effect_frame (event : EventV1) :
    ∃ channels, (c.effect db now event).cache
      = { (c.matched db now event).cache with channels := channels } := by
  rw [effect]
  rcases (c.matched db now event).value with - | handled
  · exact ⟨_, rfl⟩
  · exact (c.matched db now event).cache.recalculatedQueued_frame db handled

end Frame

/-! ### Two kinds of events -/

section Kinds

variable (c : Cache) (db : Database) (now : Timestamp) (event : EventV1) {sent : EventV1}

/-- Events that end with the match. -/
theorem effect_plain (h : (c.matched db now event).value = some { event := sent }) :
    c.effect db now event = { c.matched db now event with value := (true, sent) } := by
  rw [effect, h]
  exact congrArg (Effect.mk _ _) (append_nil _)

/-- Events after which a server is recalculated. -/
theorem effect_queued {id : String}
    (h : (c.matched db now event).value = some { event := sent, queueServer := some id }) :
    let r := (c.matched db now event).cache.recalculated db id sent
    c.effect db now event
      = { r with
          value := (true, r.value), calls := (c.matched db now event).calls ++ r.calls } := by
  intro r
  rw [effect, h]
  exact congrArg (fun calls => Effect.mk _ _ (_ ++ calls)) (append_nil _)

variable {c}

/-- Updates of our own membership, and of those of others. -/
theorem matched_serverMemberUpdate {id : MemberCompositeKey} (h : id.user = c.userId)
    (data : PartialMember) (clear : List FieldsMember) :
    c.matched db now (.serverMemberUpdate id data clear) =
      { value := some { event := .serverMemberUpdate id data clear,
                        queueServer := if data.roles.isSome || clear.contains .roles
                          then some id.server else none }
        cache := c.updateMember id.server fun member =>
          (clear.foldl Member.removeField member).applyOptions data } := by
  rw [matched, if_pos h]

theorem matched_serverMemberUpdate_ne {id : MemberCompositeKey} (h : id.user ≠ c.userId)
    (data : PartialMember) (clear : List FieldsMember) :
    c.matched db now (.serverMemberUpdate id data clear) =
      { value := some { event := .serverMemberUpdate id data clear }, cache := c } := by
  rw [matched, if_neg h]

theorem updateOutcome_queueServer (c c' : Cache) (id : String) :
    (c.updateOutcome c' db id event).queueServer = none := by
  rw [updateOutcome]
  rcases c'.channels.lookup id with - | channel
  · rfl
  · dsimp only
    split
    · rfl
    · split <;> rfl

/-- An update of a channel: at most one topic comes or goes. -/
theorem effect_channelUpdate (c : Cache) (id : String) (data : PartialChannel)
    (clear : List FieldsChannel) :
    let c' := (c.updateChannel id data clear).fetchMissing db id
    let outcome := c.updateOutcome c' db id (.channelUpdate id data clear)
    c.effect db now (.channelUpdate id data clear) =
      { value := (true, outcome.event)
        cache := c'
        calls := outcome.queueAdd.toList.map .insert ++
          outcome.queueRemove.toList.map .remove } := by
  intro c' outcome
  have hqueue : outcome.queueServer = none := updateOutcome_queueServer db _ c c' id
  rw [effect]
  show Effect.mk (true, (c'.recalculatedQueued db outcome).value)
    (c'.recalculatedQueued db outcome).cache
    ([] ++ ((c'.recalculatedQueued db outcome).calls ++ _)) = _
  rw [recalculatedQueued, hqueue]
  rfl

end Kinds

/-! ### Channels and topics -/

section Channels

variable {c : Cache} {db : Database} {id t : String}

theorem lookup_dropChannels (c : Cache) (ids : List String) (t : String) :
    (c.dropChannels ids).channels.lookup t = if t ∈ ids then none else c.channels.lookup t :=
  lookup_foldl_erase ids c.channels t

theorem lookup_addChannels (c : Cache) (channels : List Channel) (t : String) :
    (c.addChannels channels).channels.lookup t
      = (recordOf Channel.id channels t).or (c.channels.lookup t) :=
  lookup_foldl_insert_key Channel.id channels c.channels t

/-- The channels after an update: the one at `id` is updated in place, or fetched. -/
theorem lookup_updateChannel_fetchMissing (c : Cache) (db : Database) (id : String)
    (data : PartialChannel) (clear : List FieldsChannel) (t : String) :
    ((c.updateChannel id data clear).fetchMissing db id).channels.lookup t
      = if t = id then
          ((c.channels.lookup id).map fun channel =>
            (clear.foldl Channel.removeField channel).applyOptions data).or
              (db.fetchChannel id).toOption
        else c.channels.lookup t := by
  have hupdate := lookup_modify_eq c.channels id
    (f := fun channel => (clear.foldl Channel.removeField channel).applyOptions data)
  have hmem : id ∈ (c.updateChannel id data clear).channels ↔ id ∈ c.channels := by
    show id ∈ c.channels.modify id _ ↔ _
    rw [AList.mem_keys, keys_modify, ← AList.mem_keys]
  rw [fetchMissing]
  split
  · rename_i hid
    obtain ⟨channel, hchannel⟩ := mem_iff_exists_lookup.mp (hmem.mp hid)
    refine (hupdate t).trans ?_
    split
    · rename_i heq
      rw [heq, hchannel]
      rfl
    · rfl
  · rename_i hid
    have hnone : c.channels.lookup id = none := AList.lookup_eq_none.mpr fun h => hid (hmem.mpr h)
    rw [hnone, map_none, none_or]
    rcases db.fetchChannel id with e | channel
    · refine (hupdate t).trans ?_
      split
      · rename_i heq
        rw [heq, hnone]
        rfl
      · rfl
    · by_cases heq : t = id
      · subst heq
        rw [if_pos rfl]
        exact AList.lookup_insert _
      · rw [if_neg heq]
        exact (AList.lookup_insert_ne heq).trans (lookup_modify_ne heq _ _)

variable {c : Cache} {id : String} {db : Database} {data : PartialChannel}
  {clear : List FieldsChannel} {channel : Channel}

/-- A channel that is not cached is fetched. -/
theorem lookup_updateChannel_fetched (hold : c.channels.lookup id = none)
    (db : Database) (data : PartialChannel) (clear : List FieldsChannel) (channel : Channel) :
    ((c.updateChannel id data clear).fetchMissing db id).channels.lookup id = some channel ↔
      db.fetchChannel id = .ok channel := by
  rw [lookup_updateChannel_fetchMissing, if_pos rfl, hold]
  cases db.fetchChannel id <;> simp [Except.toOption]

/-- A channel that is cached after an update was there before, or it was fetched. -/
theorem cached_or_fetched {t : String}
    (h : ((c.updateChannel id data clear).fetchMissing db id).channels.lookup t = some channel) :
    (∃ old, c.channels.lookup t = some old ∧ channel.id = old.id ∧ channel.server = old.server) ∨
      t = id ∧ db.fetchChannel t = .ok channel := by
  by_cases ht : t = id
  · subst ht
    rcases hold : c.channels.lookup t with - | old
    · exact .inr ⟨rfl, (lookup_updateChannel_fetched hold db data clear channel).mp h⟩
    · rw [lookup_updateChannel_fetchMissing, if_pos rfl, hold] at h
      obtain rfl := some.inj h
      exact .inl ⟨old, rfl, Channel.update_keeps old data clear⟩
  · rw [lookup_updateChannel_fetchMissing, if_neg ht] at h
    exact .inl ⟨channel, h, rfl, rfl⟩

theorem seesCached_of_none (hold : c.channels.lookup id = none)
    (db : Database) : c.seesCached db id = false := by
  rw [seesCached, hold]
  rfl

/-- The view of the channel after an update, if it is cached then. -/
theorem seesCached_updated
    (h : ((c.updateChannel id data clear).fetchMissing db id).channels.lookup id = some channel) :
    ((c.updateChannel id data clear).fetchMissing db id).seesCached db id
      = c.sees db channel := by
  obtain ⟨channels, hframe⟩ := (c.updateChannel id data clear).fetchMissing_frame db id
  rw [seesCached, h, hframe]
  rfl

/-- The topics after an update: they change when the view of the channel does. -/
theorem mem_replay_channelUpdate (c : Cache) (db : Database) (now : Timestamp) (id : String)
    (data : PartialChannel) (clear : List FieldsChannel) (S : Finset String) (t : String) :
    let c' := (c.updateChannel id data clear).fetchMissing db id
    t ∈ replay S (c.effect db now (.channelUpdate id data clear)).calls ↔
      if t = id ∧ c.seesCached db id ≠ c'.seesCached db id then c'.seesCached db id = true
      else t ∈ S := by
  intro c'
  rw [effect_channelUpdate, updateOutcome]
  dsimp only
  rcases hchannel : c'.channels.lookup id with - | channel
  · -- the channel was not cached before either
    have hsame : c.seesCached db id = c'.seesCached db id := by
      have h := c.lookup_updateChannel_fetchMissing db id data clear id
      rw [if_pos rfl, hchannel] at h
      have hnone : c.channels.lookup id = none := by
        rcases hold : c.channels.lookup id with - | old
        · rfl
        · rw [hold] at h
          cases h
      rw [seesCached, seesCached, hnone, hchannel]
      rfl
    rw [if_neg fun h => h.2 hsame]
    rfl
  · have hcan : c'.seesCached db id = c'.sees db channel := by
      rw [seesCached, hchannel]
      rfl
    rw [hcan]
    dsimp only
    by_cases hsame : c.seesCached db id = c'.sees db channel
    · rw [if_pos hsame, if_neg fun h => h.2 hsame]
      rfl
    · rw [if_neg hsame]
      rw [replay_append, replay_map_insert, replay_map_remove, mem_removeAll, mem_insertAll]
      cases hsees : c'.sees db channel with
      | true | false => by_cases ht : t = id <;> simp [ht, hsees ▸ hsame]

theorem mem_channelsOf {e : String × Channel} :
    e ∈ c.channelsOf id ↔ c.channels.lookup e.1 = some e.2 ∧ e.2.server = some id := by
  rw [channelsOf, mem_filter, mem_toList_iff, decide_eq_true_eq]

theorem mem_map_filter_channelsOf {p : Channel → Bool} :
    t ∈ ((c.channelsOf id).filter fun e => p e.2).map (·.1) ↔
      ∃ channel, c.channels.lookup t = some channel ∧ channel.server = some id ∧
        p channel = true := by
  simp only [List.mem_map, mem_filter, mem_channelsOf]
  constructor
  · rintro ⟨e, ⟨⟨hlookup, hserver⟩, hp⟩, rfl⟩
    exact ⟨e.2, hlookup, hserver, hp⟩
  · rintro ⟨channel, hlookup, hserver, hp⟩
    exact ⟨(t, channel), ⟨⟨hlookup, hserver⟩, hp⟩, rfl⟩

theorem mem_shown :
    t ∈ c.shown db id ↔ ∃ channel, c.channels.lookup t = some channel ∧
      channel.server = some id ∧ c.sees db channel = true :=
  mem_map_filter_channelsOf

theorem mem_hidden :
    t ∈ c.hidden db id ↔ ∃ channel, c.channels.lookup t = some channel ∧
      channel.server = some id ∧ c.sees db channel = false := by
  simp only [← Bool.not_eq_true']
  exact mem_map_filter_channelsOf (p := fun channel => !c.sees db channel)

theorem mem_loadable {ids : List String} (h : channel ∈ c.loadable db ids) :
    ∃ channels, db.fetchChannels ids = .ok channels ∧ channel ∈ channels ∧
      c.sees db channel = true := by
  rw [loadable] at h
  split at h
  · exact absurd h not_mem_nil
  · rcases hfetch : db.fetchChannels ids with e | channels <;> rw [hfetch] at h
    · exact absurd h not_mem_nil
    · obtain ⟨hmem, hsees⟩ := mem_filter.mp h
      exact ⟨channels, rfl, hmem, hsees⟩

/-- What is not known is listed and not cached for the server. -/
theorem mem_unknown {server : Server} : t ∈ c.unknown id server ↔ t ∈ server.channels ∧
    ∀ channel, c.channels.lookup t = some channel → channel.server ≠ some id := by
  rw [unknown, mem_filter, mem_dedup]
  simp [mem_channelsOf]

variable {server : Server} (hserver : c.servers.lookup id = some server) (db) (event : EventV1)

include hserver

/-- The channels after a recalculation: those just loaded, and the old ones that
are not hidden. -/
theorem lookup_recalculated (t : String) :
    (c.recalculated db id event).cache.channels.lookup t
      = (recordOf Channel.id (c.loadable db (c.unknown id server)) t).or
          (if t ∈ c.hidden db id then none else c.channels.lookup t) := by
  rw [recalculated, hserver]
  show ((c.dropChannels (c.hidden db id)).addChannels _).channels.lookup t = _
  rw [lookup_addChannels, lookup_dropChannels]

/-- A channel that is cached after a recalculation. -/
theorem cached_recalculated
    (h : (c.recalculated db id event).cache.channels.lookup t = some channel) :
    (channel ∈ c.loadable db (c.unknown id server) ∧ channel.id = t) ∨
      t ∉ (c.loadable db (c.unknown id server)).map Channel.id ∧ t ∉ c.hidden db id ∧
        c.channels.lookup t = some channel := by
  rw [lookup_recalculated db hserver] at h
  refine (recordOf_or h).imp_right fun ⟨hnew, hold⟩ => ?_
  split at hold
  next => cases hold
  next hhidden => exact ⟨hnew, hhidden, hold⟩

/-- The topics after a recalculation. -/
theorem mem_replay_recalculated (S : Finset String) :
    t ∈ replay S (c.recalculated db id event).calls ↔
      ((t ∈ S ∨ t ∈ c.shown db id) ∧ t ∉ c.hidden db id) ∨
        t ∈ (c.loadable db (c.unknown id server)).map Channel.id := by
  rw [recalculated, hserver]
  dsimp only
  rw [show ((c.loadable db (c.unknown id server)).map fun channel => Op.insert channel.id)
      = ((c.loadable db (c.unknown id server)).map Channel.id).map .insert from
        List.map_map.symm, replay_append, replay_append, replay_map_insert, replay_map_remove,
    replay_map_insert, mem_insertAll, mem_removeAll, mem_insertAll]

end Channels

/-- The session's user is never lost from the cache, only replaced. -/
theorem exists_self_matched {c : Cache} (h : ∃ self, c.users.lookup c.userId = some self)
    (db : Database) (now : Timestamp) (event : EventV1) :
    ∃ self, (c.matched db now event).cache.users.lookup (c.matched db now event).cache.userId
      = some self := by
  obtain ⟨hid, -, husers, -⟩ := c.matched_frame db now event
  rw [hid, husers]
  exact State.exists_self_usersAfter h event

end Cache

/-! ### Computations and their effect -/

namespace State

open Handler

variable {α β : Type}

/-- In a session with the cache `c` the computation returns `v`, leaves the cache `c'`
and does to the subscriptions what the calls do, provided that they go through. -/
def Does (x : Request State α) (c : Cache) (v : α) (c' : Cache) (calls : List (Op String)) :
    Prop :=
  ∀ (s : State) (subs : Subscriptions), s.cache = c →
    run Subscriptions.call s.toSubscriptions calls = some subs →
    exec x s = (.ok v, { s with toSubscriptions := subs, cache := c' })

section Rules

variable {c c₁ c₂ : Cache} {calls calls₁ calls₂ : List (Op String)} {v : α} {w : β}

theorem does_pure (v : α) (c : Cache) : Does (pure v) c v c [] := by
  intro s subs hs hrun
  obtain rfl := some.inj hrun
  subst hs
  rfl

variable {x : Request State α} {f : α → Request State β}

theorem Does.bind (hx : Does x c v c₁ calls₁)
    (hf : Does (f v) c₁ w c₂ calls₂) : Does (x >>= f) c w c₂ (calls₁ ++ calls₂) := by
  intro s subs hs hrun
  rw [run_append] at hrun
  obtain ⟨subs₁, hrun₁, hrun₂⟩ := bind_eq_some_iff.mp hrun
  rw [exec_bind_of_ok (hx s subs₁ hs hrun₁)]
  exact hf _ subs rfl hrun₂

/-- A last part that makes no calls. -/
theorem Does.bind_nil
    (hx : Does x c v c₁ calls) (hf : Does (f v) c₁ w c₂ []) : Does (x >>= f) c w c₂ calls := by
  have h := hx.bind hf
  rwa [append_nil] at h

theorem does_get_bind {f : State → Request State β}
    (h : ∀ s : State, s.cache = c → Does (f s) c w c₁ calls) :
    Does (get >>= f) c w c₁ calls := by
  intro s subs hs hrun
  rw [exec_get_bind]
  exact h s hs s subs hs hrun

theorem does_ofOption {o : Option α} (h : o = some v) (c : Cache) :
    Does (ofOption o) c v c [] := by
  subst h
  exact does_pure v c

theorem does_modifyCache (f : Cache → Cache) (c : Cache) : Does (modifyCache f) c ⟨⟩ (f c) [] := by
  intro s subs hs hrun
  obtain rfl := some.inj hrun
  subst hs
  rfl

theorem does_insertSubscription (t : String) (c : Cache) :
    Does (insertSubscription t) c ⟨⟩ c [.insert t] := by
  intro s subs hs hrun
  obtain rfl : s.toSubscriptions.insertSubscription t = subs := some.inj hrun
  subst hs
  rfl

theorem does_removeSubscription (t : String) (c : Cache) :
    Does (removeSubscription t) c ⟨⟩ c [.remove t] := by
  intro s subs hs hrun
  have hremove : s.toSubscriptions.removeSubscription t = some subs := by
    obtain ⟨subs', hsubs', hnil⟩ := bind_eq_some_iff.mp hrun
    obtain rfl := some.inj hnil
    exact hsubs'
  subst hs
  rw [removeSubscription, exec_get_bind, hremove]
  rfl

/-- A loop does what its rounds do, one after another. -/
theorem does_forM {γ : Type} {f : γ → Request State PUnit} {g : Cache → γ → Cache}
    {k : γ → Op String} (h : ∀ a c, Does (f a) c ⟨⟩ (g c a) [k a]) (l : List γ) (c : Cache) :
    Does (l.forM f) c ⟨⟩ (l.foldl g c) (l.map k) := by
  induction l generalizing c with
  | nil => exact does_pure _ c
  | cons a l ih => exact (h a c).bind (ih (g c a))

/-- A loop that leaves the cache alone. -/
theorem does_forM_calls {γ : Type} {f : γ → Request State PUnit} {k : γ → List (Op String)}
    (h : ∀ a, Does (f a) c ⟨⟩ c (k a)) (l : List γ) :
    Does (l.forM f) c ⟨⟩ c (l.flatMap k) := by
  induction l with
  | nil => exact does_pure _ c
  | cons a l ih => exact (h a).bind ih

end Rules

/-! ### The handler does what its effect says -/

theorem does_dropChannel (id : String) (c : Cache) :
    Does (dropChannel id) c ⟨⟩ (c.dropChannels [id]) [.remove id] :=
  (does_removeSubscription id c).bind (does_modifyCache _ c)

theorem does_dropChannels (ids : List String) (c : Cache) :
    Does (ids.forM dropChannel) c ⟨⟩ (c.dropChannels ids) (ids.map .remove) := by
  have hfold : ids.foldl (fun c id => c.dropChannels [id]) c = c.dropChannels ids := by
    induction ids generalizing c with
    | nil => rfl
    | cons id ids ih => exact ih (c.dropChannels [id])
  rw [← hfold]
  exact does_forM (fun id c => does_dropChannel id c) ids c

theorem does_addChannel (channel : Channel) (c : Cache) :
    Does (addChannel channel) c ⟨⟩ (c.addChannels [channel]) [.insert channel.id] :=
  (does_modifyCache _ c).bind (does_insertSubscription _ _)

theorem does_addChannels (channels : List Channel) (c : Cache) :
    Does (channels.forM addChannel) c ⟨⟩ (c.addChannels channels)
      (channels.map fun channel => .insert channel.id) := by
  have hfold : channels.foldl (fun c channel => c.addChannels [channel]) c
      = c.addChannels channels := by
    induction channels generalizing c with
    | nil => rfl
    | cons channel channels ih => exact ih (c.addChannels [channel])
  rw [← hfold]
  exact does_forM (fun channel c => does_addChannel channel c) channels c

theorem does_insertSubscriptions (ts : List String) (c : Cache) :
    Does (ts.forM insertSubscription) c ⟨⟩ c (ts.map .insert) := by
  rw [map_eq_flatMap]
  exact does_forM_calls (fun t => does_insertSubscription t c) ts

theorem does_removeSubscriptions (ts : List String) (c : Cache) :
    Does (ts.forM removeSubscription) c ⟨⟩ c (ts.map .remove) := by
  rw [map_eq_flatMap]
  exact does_forM_calls (fun t => does_removeSubscription t c) ts

theorem does_leaveServer (id : String) (c : Cache) :
    Does (leaveServer id) c ⟨⟩ (c.withoutServer id) (.remove id :: (c.listed id).map .remove) := by
  refine (does_removeSubscription id c).bind ?_
  have hforget : Does (forgetServer id) c ⟨⟩
      { c.dropChannels (c.listed id) with servers := c.servers.erase id }
      ((c.listed id).map .remove) := by
    refine does_get_bind fun s hs => ?_
    rw [hs, listed]
    rcases hserver : c.servers.lookup id with - | server
    · rw [erase_of_notMem (AList.lookup_eq_none.mp hserver)]
      exact does_pure _ c
    · exact (does_modifyCache _ c).bind (does_dropChannels server.channels _)
  exact hforget.bind_nil (does_modifyCache _ _)

theorem does_handleChannelGroupLeave (id user : String) (c : Cache) :
    Does (handleChannelGroupLeave id user) c ⟨⟩ c
      (if user = c.userId then [.remove id]
        else if c.canSubscribeToUser user then [] else [.remove user]) := by
  refine does_get_bind fun s hs => ?_
  rw [hs]
  split
  · exact does_removeSubscription id c
  · split
    · exact does_pure _ c
    · exact does_removeSubscription user c

theorem does_subscribeToMembers (id : String) (c : Cache) :
    Does (subscribeToMembers id) c ⟨⟩ c
      (if c.isBot then [.insert (memberTopic id)] else []) := by
  refine does_get_bind fun s hs => ?_
  rw [hs]
  split
  · exact does_insertSubscription _ c
  · exact does_pure _ c

theorem does_cacheChannel (db : Database) (id : String) (c : Cache) :
    Does (cacheChannel db id) c ⟨⟩ (c.fetchMissing db id) [] := by
  refine does_get_bind fun s hs => ?_
  rw [hs, fetchMissing]
  split
  · exact does_pure _ c
  · rcases db.fetchChannel id with e | channel
    · exact does_pure _ c
    · exact does_modifyCache _ c

section Self

variable {c : Cache} {user : User} (huser : c.users.lookup c.userId = some user) (db : Database)
  (clock : Stream' Timestamp)

include huser

theorem canViewChannel_eq_sees (channel : Channel) :
    c.canViewChannel db clock channel = some (c.sees db channel) := by
  obtain ⟨viewable, hview⟩ := exists_canViewChannel huser db (Stream'.const 0) channel
  rw [canViewChannel_clock huser db clock (Stream'.const 0), sees, hview]
  rfl

theorem visibleChannels_eq (id : String) :
    visibleChannels db clock c id
      = some ((c.channelsOf id).map fun e => (e.1, c.sees db e.2)) := by
  rw [visibleChannels, channelsOf]
  induction c.channels.toList.filter fun e => e.2.server = some id with
  | nil => rfl
  | cons e l ih =>
    rw [mapM_cons, canViewChannel_eq_sees huser, ih]
    rfl

theorem filterAccessibleChannels_eq (channels : List Channel) :
    c.filterAccessibleChannels db clock channels = some (channels.filter (c.sees db)) := by
  induction channels with
  | nil => rfl
  | cons channel channels ih =>
    rw [filterAccessibleChannels, canViewChannel_eq_sees huser, ih, filter_cons]
    rfl

theorem does_loadChannels (ids : List String) :
    Does (loadChannels db clock ids) c ((c.loadable db ids).map .channelCreate)
      (c.addChannels (c.loadable db ids))
      ((c.loadable db ids).map fun channel => .insert channel.id) := by
  rw [loadChannels, loadable]
  split
  · exact does_pure _ c
  · rcases db.fetchChannels ids with e | channels
    · exact does_pure _ c
    · refine does_get_bind fun s hs => ?_
      rw [hs]
      refine (does_ofOption (filterAccessibleChannels_eq huser db clock channels) c).bind ?_
      exact (does_addChannels (channels.filter (c.sees db)) c).bind_nil (does_pure _ _)

theorem does_recalculateServer (id : String) (event : EventV1) :
    Does (recalculateServer db clock id event) c
      (c.recalculated db id event).value (c.recalculated db id event).cache
      (c.recalculated db id event).calls := by
  refine does_get_bind fun s hs => ?_
  rw [hs, recalculated]
  rcases c.servers.lookup id with - | server
  · exact does_pure _ c
  · refine (does_ofOption (visibleChannels_eq huser db clock id) c).bind ?_
    have hshown : ((((c.channelsOf id).map fun e => (e.1, c.sees db e.2)).filter (·.2)).map
        (·.1)) = c.shown db id := by
      rw [List.filter_map, List.map_map]
      rfl
    have hhidden : ((((c.channelsOf id).map fun e => (e.1, c.sees db e.2)).filter (!·.2)).map
        (·.1)) = c.hidden db id := by
      rw [List.filter_map, List.map_map]
      rfl
    have hids : ((c.channelsOf id).map fun e => (e.1, c.sees db e.2)).map (·.1)
        = (c.channelsOf id).map (·.1) := by
      rw [List.map_map]
      rfl
    rw [hshown, hhidden, hids]
    show Does _ c _ _ ((c.shown db id).map .insert ++ (c.hidden db id).map .remove ++ _)
    rw [append_assoc]
    refine (does_insertSubscriptions (c.shown db id) c).bind ?_
    refine (does_dropChannels (c.hidden db id) c).bind ?_
    -- dropping channels does not change what can be viewed
    have hload := does_loadChannels (c := c.dropChannels (c.hidden db id)) huser db clock
      (c.unknown id server)
    exact hload.bind_nil (does_pure _ _)

theorem does_canViewCached (id : String) :
    Does (canViewCached db clock id) c (c.seesCached db id) c [] := by
  refine does_get_bind fun s hs => ?_
  rw [hs, seesCached]
  rcases c.channels.lookup id with - | channel
  · exact does_pure _ c
  · exact does_ofOption (canViewChannel_eq_sees huser db clock channel) c

theorem does_channelUpdateOutcome (c₀ : Cache) (id : String) (event : EventV1) :
    Does (channelUpdateOutcome db clock id (c₀.seesCached db id) event) c
      (c₀.updateOutcome c db id event) c [] := by
  refine does_get_bind fun s hs => ?_
  rw [hs, updateOutcome]
  rcases c.channels.lookup id with - | channel
  · exact does_pure _ c
  · exact (does_ofOption (canViewChannel_eq_sees huser db clock channel) c).bind_nil
      (does_pure _ c)

theorem does_handleChannelUpdate (id : String) (data : PartialChannel)
    (clear : List FieldsChannel) :
    let c' := (c.updateChannel id data clear).fetchMissing db id
    Does (handleChannelUpdate db clock id data clear) c
      (c.updateOutcome c' db id (.channelUpdate id data clear)) c' [] := by
  intro c'
  have huser' : c'.users.lookup c'.userId = some user := by
    obtain ⟨channels, hchannels⟩ := (c.updateChannel id data clear).fetchMissing_frame db id
    rw [show c' = _ from hchannels]
    exact huser
  refine (does_canViewCached huser db clock id).bind_nil ?_
  refine (does_modifyCache _ c).bind_nil ?_
  refine (does_cacheChannel db id _).bind_nil ?_
  exact does_channelUpdateOutcome huser' db clock c id _

theorem does_handleMessage (author : String) (other : V0User) :
    Does (handleMessage author (some other)) c
      (.message author (some { other with
        relationship := (c.users.lookup c.userId).elim .none (·.relationshipWith author) })) c
      [] := by
  refine does_get_bind fun s hs => ?_
  rw [hs, huser]
  exact (does_pure user c).bind_nil (does_pure _ c)

omit huser in
theorem does_handleUserUpdate (id : String) (eventId : Option String) :
    Does (handleUserUpdate id eventId) c (c.matched db clock.head (.userUpdate id eventId)).value
      (c.matched db clock.head (.userUpdate id eventId)).cache
      (c.matched db clock.head (.userUpdate id eventId)).calls := by
  rw [handleUserUpdate]
  refine does_get_bind fun s hs => ?_
  rw [hs]
  rcases eventId with - | eventId
  · exact does_pure _ c
  · by_cases hseen : c.seenEvents.contains eventId = true
    · rw [matched, if_pos hseen]
      dsimp only
      rw [if_pos hseen]
      exact does_pure _ c
    · rw [matched, if_neg hseen]
      dsimp only
      rw [if_neg hseen]
      exact (does_modifyCache _ c).bind_nil (does_pure _ _)

/-- The match does what `matched` says. -/
theorem does_dispatch (event : EventV1) :
    Does (dispatch db clock event) c (c.matched db clock.head event).value
      (c.matched db clock.head event).cache (c.matched db clock.head event).calls := by
  cases event with
  | channelCreate channel =>
    refine (does_insertSubscription _ c).bind_nil ?_
    exact (does_modifyCache _ c).bind_nil (does_pure _ _)
  | channelUpdate id data clear =>
    exact (does_handleChannelUpdate huser db clock id data clear).bind_nil (does_pure _ _)
  | channelDelete id => exact (does_dropChannel id c).bind_nil (does_pure _ _)
  | channelGroupJoin id user => exact (does_insertSubscription user c).bind_nil (does_pure _ _)
  | channelGroupLeave id user =>
    exact (does_handleChannelGroupLeave id user c).bind_nil (does_pure _ _)
  | serverCreate id server channels =>
    refine (does_insertSubscription id c).bind ?_
    refine (does_subscribeToMembers id c).bind_nil ?_
    exact (does_modifyCache _ c).bind_nil (does_pure _ _)
  | serverUpdate id data clear => exact (does_modifyCache _ c).bind_nil (does_pure _ _)
  | serverMemberJoin id member | bulk _ | ready _ | other => exact does_pure _ c
  | serverMemberLeave id user =>
    refine does_get_bind fun s hs => ?_
    rw [hs, matched]
    split
    · exact (does_leaveServer id c).bind_nil (does_pure _ _)
    · exact does_pure _ c
  | serverDelete id => exact (does_leaveServer id c).bind_nil (does_pure _ _)
  | serverMemberUpdate id data clear =>
    by_cases hself : id.user = c.userId
    · rw [matched, if_pos hself]
      refine Does.bind_nil (does_get_bind fun s hs => ?_) (does_pure _ _)
      rw [hs, if_pos hself]
      exact (does_modifyCache _ c).bind_nil (does_pure _ _)
    · rw [matched, if_neg hself]
      refine Does.bind_nil (does_get_bind fun s hs => ?_) (does_pure _ _)
      rw [hs, if_neg hself]
      exact does_pure _ c
  | serverRoleUpdate id roleId data clear | serverRoleDelete id roleId =>
    refine Does.bind_nil ?_ (does_pure _ _)
    refine (does_modifyCache _ c).bind_nil (does_get_bind fun s hs => ?_)
    rw [hs]
    exact does_pure _ _
  | userUpdate id eventId => exact does_handleUserUpdate db clock id eventId
  | userRelationship id user =>
    refine Does.bind_nil (v := ⟨⟩) ?_ (does_pure _ _)
    refine (does_modifyCache _ c).bind (does_get_bind fun s hs => ?_)
    rw [hs]
    split
    · exact does_insertSubscription id _
    · exact does_removeSubscription id _
  | message author user =>
    rcases user with - | other
    · exact does_get_bind fun s hs => does_pure _ c
    · exact (does_handleMessage huser author other).bind_nil (does_pure _ _)

theorem does_recalculateQueued (handled : Handled) :
    Does (recalculateQueued db clock handled) c (c.recalculatedQueued db handled).value
      (c.recalculatedQueued db handled).cache (c.recalculatedQueued db handled).calls := by
  rw [recalculateQueued, recalculatedQueued]
  rcases handled.queueServer with - | id
  · exact does_pure _ c
  · exact does_recalculateServer huser db clock id handled.event

/-- **The handler does what its effect says**, in a session whose cache has its user. -/
theorem does_handleIncomingEventV1 (event : EventV1) :
    Does (handleIncomingEventV1 db clock event) c (c.effect db clock.head event).value
      (c.effect db clock.head event).cache (c.effect db clock.head event).calls := by
  have hdispatch := does_dispatch huser db clock event
  obtain ⟨user', huser'⟩ := exists_self_matched ⟨user, huser⟩ db clock.head event
  rw [effect]
  rcases hvalue : (c.matched db clock.head event).value with - | handled
  · rw [hvalue] at hdispatch
    exact hdispatch.bind_nil (does_pure _ _)
  · rw [hvalue] at hdispatch
    refine hdispatch.bind ?_
    refine (does_recalculateQueued huser' db clock handled).bind ?_
    refine Does.bind_nil (v := ⟨⟩) ?_ (does_pure _ _)
    exact (does_insertSubscriptions _ _).bind (does_removeSubscriptions _ _)

end Self

end State

end DawnChat
