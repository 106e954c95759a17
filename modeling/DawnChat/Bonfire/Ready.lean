/-
DawnChat/Bonfire/Ready.lean

The Ready payload (`bonfire/src/events/impl.rs`, `generate_ready_payload`).

When a session starts it loads everything the client needs at once, keeps a
copy in its cache and subscribes to the topics.  The function is one sequence
of fetches, each of which can fail; it is written here in three parts:
`gatherReady` fetches, `fillCache` and `subscribeReady` finish the state, and
`ReadyData.payload` selects the requested fields.

Members need care.  Besides the user's own memberships the payload contains the
members who are connected to visible voice channels.  Both go into one list,
and the cache collects that list by server id alone, so for each server the
last record wins.

Hash sets that are only built and iterated over are lists without duplicates;
`IterOrder` is the order the iterator happens to have.
-/
import DawnChat.Bonfire.Effect
import DawnChat.Users.Relationships

namespace DawnChat

open RustStd Fallible Handler SetLog HashMap Except

/-- What a session asks Redis for. -/
structure Redis where
  /-- `get_channel_voice_state` -/
  channelVoiceState : Channel → Result (Option ChannelVoiceState)
  /-- Those of the given users who are online. -/
  filterOnline : List String → List String

/-- The order in which a hash set is iterated over. -/
structure IterOrder where
  iter : List String → List String
  perm : ∀ l, (iter l).Perm l

/-- The order of insertion. -/
def IterOrder.insertion : IterOrder := ⟨id, fun _ => .rfl⟩

/-- `HashSet::extend` -/
def extendSet (set : List String) (ids : List String) : List String :=
  ids.foldl (fun set id => set.insert id) set

/-! ### Voice participants -/

/-- Whether calls can take place in a channel. -/
def Channel.hasVoice : Channel → Bool
  | .directMessage _ => true
  | .group _ => true
  | .textChannel c => c.voice.isSome
  | .savedMessages _ => false

/-- The channels with a call, each with its voice state. -/
def voiceChannels (redis : Redis) (channels : List Channel) :
    List (Channel × ChannelVoiceState) :=
  (channels.filter (·.hasVoice)).filterMap fun channel =>
    match redis.channelVoiceState channel with
    | .ok (some voiceState) => some (channel, voiceState)
    | _ => none

/-- The ids of the users in a call. -/
def ChannelVoiceState.participantIds (v : ChannelVoiceState) : List String :=
  v.participants.map (·.id)

/-- The participants of calls in servers, by server. -/
def serverParticipants (voice : List (Channel × ChannelVoiceState)) :
    HashMap String (List String) :=
  voice.foldl
    (fun m v =>
      match v.1.server with
      | some server =>
        m.insert server (extendSet ((m.lookup server).getD []) v.2.participantIds)
      | none => m)
    ∅

/-- Fetch all the members for the participants who are in a server. -/
def fetchVoiceMembers (db : Database) (order : IterOrder) :
    List (String × List String) → Result (List Member)
  | [] => .ok []
  | e :: rest => do
      let voiceMembers ← db.fetchMembers e.1 (order.iter e.2)
      let others ← fetchVoiceMembers db order rest
      .ok (voiceMembers ++ others)

theorem fetchVoiceMembers_cons_ok {db : Database} {order : IterOrder} {e : String × List String}
    {rest : List (String × List String)} {voiceMembers : List Member}
    (h : fetchVoiceMembers db order (e :: rest) = .ok voiceMembers) :
    ∃ records others, db.fetchMembers e.1 (order.iter e.2) = .ok records ∧
      fetchVoiceMembers db order rest = .ok others ∧ voiceMembers = records ++ others := by
  rw [fetchVoiceMembers] at h
  rcases hrecords : db.fetchMembers e.1 (order.iter e.2) with err | records
  · rw [hrecords] at h
    exact nomatch h
  · rcases hothers : fetchVoiceMembers db order rest with err | others
    · rw [hrecords, hothers] at h
      exact nomatch h
    · rw [hrecords, hothers] at h
      exact ⟨records, others, rfl, rfl, (ok.inj h).symm⟩

/-! ### The payload -/

/-- Fetch pending policy changes. -/
def pendingPolicyChanges (db : Database) (fields : ReadyPayloadFields) (user : User) :
    Result (Option (List PolicyChange)) :=
  if user.bot.isSome || !fields.policyChanges then .ok none
  else do
    let changes ← db.fetchPolicyChanges
    .ok (some (changes.filter fun policy =>
      user.lastAcknowledgedPolicyChange < policy.createdTime))

/-- A part of the payload that is only fetched on request. -/
def fetchIf {α : Type} (requested : Bool) (fetch : Result α) : Result (Option α) :=
  if requested then fetch.map some else .ok none

/-- The user and the servers they are in. -/
structure ReadyServers where
  user : User
  policyChanges : Option (List PolicyChange)
  memberships : List Member
  servers : List Server

/-- Everything the payload is made of. -/
structure ReadyData extends ReadyServers where
  channels : List Channel
  members : List Member
  voiceStates : Option (List ChannelVoiceState)
  onlineIds : List String
  users : List User
  emojis : Option (List Emoji)
  userSettings : Option UserSettings
  channelUnreads : Option (List ChannelUnread)

namespace ReadyData

/-- All users from our perspective, ourselves last. -/
def shownUsers (d : ReadyData) : List V0User :=
  d.users.map (fun u => u.intoKnown (some d.user) (d.onlineIds.contains u.id))
    ++ [d.user.intoSelf true false]

def payload (d : ReadyData) (fields : ReadyPayloadFields) : ReadyPayload where
  users := if fields.users then some d.shownUsers else none
  servers := if fields.servers then some d.servers else none
  channels := if fields.channels then some d.channels else none
  members := if fields.members then some d.members else none
  voiceStates := d.voiceStates
  emojis := d.emojis
  userSettings := d.userSettings
  channelUnreads := d.channelUnreads
  policyChanges := d.policyChanges

end ReadyData

namespace State

section Ready

variable (db : Database) (redis : Redis) (order : IterOrder) (clock : Stream' Timestamp)
  (fields : ReadyPayloadFields)

/-- Fetch the user's memberships with their corresponding servers. -/
def gatherServers : Request State ReadyServers := do
  let s ← get
  let user ← ofOption s.cloneUser
  modifyCache fun c => { c with isBot := user.bot.isSome }
  let policyChanges ← ofExcept (pendingPolicyChanges db fields user)
  let memberships ← ofExcept (db.fetchAllMemberships user.id)
  let servers ← ofExcept (db.fetchServers (memberships.map (·.id.server)))
  modifyCache fun c => { c with servers := HashMap.collect (servers.map fun x => (x.id, x)) }
  pure ⟨user, policyChanges, memberships, servers⟩

/-- Fetch DMs and server channels, and filter them by permission. -/
def gatherChannels (r : ReadyServers) : Request State (List Channel) := do
  let directMessages ← ofExcept (db.findDirectMessages r.user.id)
  let serverChannels ← ofExcept (db.fetchChannels (r.servers.flatMap (·.channels)))
  let s ← get
  ofOption
    (s.cache.filterAccessibleChannels db clock (directMessages ++ serverChannels))

/-- The channels with a call, when voice states are requested. -/
def requestedVoice (channels : List Channel) : List (Channel × ChannelVoiceState) :=
  if fields.voiceStates then voiceChannels redis channels else []

/-- The users known from relations, private channels and calls. -/
def knownUserIds (user : User) (channels : List Channel) : List String :=
  extendSet [] ((user.relations.getD []).map (·.id) ++ channels.flatMap (·.recipients)
    ++ (requestedVoice redis fields channels).flatMap (·.2.participantIds))

/-- Fetch the known users and the members in calls, and keep the members. -/
def gatherMembers (r : ReadyServers) (channels : List Channel) :
    Request State (List Member × List User) := do
  let voiceMembers ← ofExcept (fetchVoiceMembers db order
    (serverParticipants (requestedVoice redis fields channels)).toList)
  let userIds := order.iter (knownUserIds redis fields r.user channels)
  let users ← ofExcept (db.fetchUsers (userIds.filter (· ≠ r.user.id)))
  let members := r.memberships ++ voiceMembers
  modifyCache fun c => { c with members := HashMap.collect (members.map fun x => (x.id.server, x)) }
  pure (members, users)

/-- Fetch what the session starts with. -/
def gatherReady : Request State ReadyData := do
  let r ← gatherServers db fields
  let channels ← gatherChannels db clock r
  let fetched ← gatherMembers db redis order fields r channels
  let emojis ← ofExcept
    (fetchIf fields.emojis (db.fetchEmojiByParentIds (r.servers.map (·.id))))
  let userSettings ← ofExcept
    (fetchIf (!fields.userSettings.isEmpty) (db.fetchUserSettings r.user.id fields.userSettings))
  let channelUnreads ← ofExcept
    (fetchIf fields.channelUnreads (db.fetchUnreads r.user.id))
  pure {
    toReadyServers := r
    channels := channels
    members := fetched.1
    voiceStates := if fields.voiceStates then
        some ((requestedVoice redis fields channels).map (·.2))
      else none
    onlineIds := redis.filterOnline (order.iter (knownUserIds redis fields r.user channels))
    users := fetched.2
    emojis := emojis
    userSettings := userSettings
    channelUnreads := channelUnreads }

/-- Copy data into local state cache. -/
def fillCache (d : ReadyData) : Request State Unit :=
  modifyCache fun c =>
    { c with
      users := (HashMap.collect (d.users.map fun x => (x.id, x))).insert c.userId d.user
      channels := HashMap.collect (d.channels.map fun x => (x.id, x)) }

/-- Listen to a server. -/
def subscribeToServer (server : Server) : Request State Unit := do
  insertSubscription server.id
  subscribeToMembers server.id

/-- Set subscription state internally. -/
def subscribeReady (d : ReadyData) : Request State Unit := do
  resetState
  let s ← get
  insertSubscription s.privateTopic
  (d.shownUsers.map (·.id)).forM insertSubscription
  d.servers.forM subscribeToServer
  (d.channels.map (·.id)).forM insertSubscription

/-- Generate a Ready packet for the current user. -/
def generateReadyPayload : Request State ReadyPayload := do
  let d ← gatherReady db redis order clock fields
  fillCache d
  subscribeReady d
  pure (d.payload fields)

end Ready

/-! ### The cache afterwards -/

section CacheAfter

theorem exec_modifyCache_ok {f : Cache → Cache} {s s' : State} {u : Unit} :
    exec (modifyCache f) s = (.ok u, s') ↔ { s with cache := f s.cache } = s' := by
  show ((ok () : Except (Fault ErrorType) Unit), _) = (.ok u, s') ↔ _
  simp

theorem does_subscribeToServer (c : Cache) (server : Server) :
    Does (subscribeToServer server) c ⟨⟩ c
      (.insert server.id :: if c.isBot then [.insert (memberTopic server.id)] else []) :=
  (does_insertSubscription server.id c).bind (does_subscribeToMembers server.id c)

/-- The topics of a new session, in order. -/
def readyCalls (c : Cache) (privateTopic : String) (d : ReadyData) : List (Op String) :=
  .insert privateTopic :: ((d.shownUsers.map (·.id)).map .insert
    ++ (d.servers.flatMap (fun server =>
        .insert server.id :: if c.isBot then [.insert (memberTopic server.id)] else [])
      ++ (d.channels.map (·.id)).map .insert))

theorem remove_notMem_readyCalls (c : Cache) (privateTopic : String) (d : ReadyData)
    (t : String) : .remove t ∉ readyCalls c privateTopic d := by
  cases hbot : c.isBot <;> simp [readyCalls, hbot]

/-- Subscribing leaves the cache alone, and the session is in a reset then, with
the topics that the calls name. -/
theorem exec_subscribeReady (s : State) (d : ReadyData) :
    ∃ subs, exec (subscribeReady d) s = (.ok (), { s with toSubscriptions := subs }) ∧
      subs.state = .reset ∧
      subs.subscribed = replay ∅ (readyCalls s.cache s.privateTopic d) := by
  obtain ⟨subs, hrun⟩ := Subscriptions.exists_run_call_insert (s := Subscriptions.resetState)
    (remove_notMem_readyCalls s.cache s.privateTopic d)
  obtain ⟨hsub, hreset⟩ := Subscriptions.run_call_ok hrun
  refine ⟨subs, ?_, hreset rfl, hsub⟩
  have hdoes : Does (do
      insertSubscription s.privateTopic
      (d.shownUsers.map (·.id)).forM insertSubscription
      d.servers.forM subscribeToServer
      (d.channels.map (·.id)).forM insertSubscription) s.cache ⟨⟩ s.cache
      (readyCalls s.cache s.privateTopic d) := by
    refine (does_insertSubscription _ _).bind ?_
    refine (does_insertSubscriptions _ _).bind ?_
    refine (does_forM_calls (does_subscribeToServer s.cache) d.servers).bind ?_
    exact does_insertSubscriptions _ _
  exact hdoes { s with toSubscriptions := Subscriptions.resetState } subs rfl hrun

variable {db : Database} {redis : Redis} {order : IterOrder} {clock : Stream' Timestamp}
  {fields : ReadyPayloadFields} {s s' : State} {ready : ReadyPayload} {channels : List Channel}
  {r : ReadyServers}

section Payload

variable (h : exec (generateReadyPayload db redis order clock fields) s = (.ok ready, s'))

include h

/-- What a payload leaves behind: a cache with what was fetched, and a reset to
its topics. -/
theorem generateReadyPayload_ok :
    ∃ d s₁, exec (gatherReady db redis order clock fields) s = (.ok d, s₁) ∧
      s'.cache = { s₁.cache with
        users := (collect (d.users.map fun x => (x.id, x))).insert s₁.cache.userId d.user
        channels := collect (d.channels.map fun x => (x.id, x)) } ∧
      s'.state = .reset ∧
      s'.subscribed = replay ∅ (readyCalls s'.cache s₁.privateTopic d) ∧
      ready = d.payload fields := by
  simp only [generateReadyPayload, exec_bind_ok, fillCache, exec_modifyCache_ok, exec_pure_ok] at h
  obtain ⟨d, s₁, hgather, _, _, rfl, _, s₃, hsub, rfl, rfl⟩ := h
  obtain ⟨subs, hexec, hreset, hsubscribed⟩ := exec_subscribeReady { s₁ with
    cache := { s₁.cache with
      users := (collect (d.users.map fun x => (x.id, x))).insert s₁.cache.userId d.user
      channels := collect (d.channels.map fun x => (x.id, x)) } } d
  obtain ⟨-, rfl⟩ := Prod.mk.inj (hexec.symm.trans hsub)
  exact ⟨d, s₁, hgather, rfl, hreset, hsubscribed, rfl⟩

/-- The topics of all cached channels are subscribed. -/
theorem subscribed_generateReadyPayload {t : String} {channel : Channel}
    (ht : s'.cache.channels.lookup t = some channel) : t ∈ s'.subscribed := by
  obtain ⟨d, s₁, -, hcache, -, hsub, -⟩ := generateReadyPayload_ok h
  rw [hcache] at ht
  rw [lookup_collect_eq_recordOf] at ht
  obtain ⟨hmem, rfl⟩ := key_of_recordOf ht
  rw [hsub, readyCalls, ← List.cons_append, ← List.append_assoc, replay_append, replay_map_insert,
    mem_insertAll]
  exact .inr (List.mem_map_of_mem hmem)

/-- The cache that a payload leaves behind. -/
theorem cache_generateReadyPayload :
    ∃ d s₁, exec (gatherReady db redis order clock fields) s = (.ok d, s₁) ∧
      s'.cache.userId = s₁.cache.userId ∧
      s'.cache.users.lookup s'.cache.userId = some d.user ∧
      s'.cache.members = s₁.cache.members := by
  obtain ⟨d, s₁, hgather, hcache, -⟩ := generateReadyPayload_ok h
  refine ⟨d, s₁, hgather, ?_, ?_, ?_⟩
  · rw [hcache]
  · rw [hcache]
    exact AList.lookup_insert _
  · rw [hcache]

end Payload

/-- The cache while channels are filtered: the memberships are not there yet. -/
def filterCache (c : Cache) (user : User) (servers : List Server) : Cache :=
  { c with
    isBot := user.bot.isSome
    servers := HashMap.collect (servers.map fun x => (x.id, x)) }

/-- The channels that a session shows its user at the start: private channels
and those of the user's servers, as far as they can be viewed. -/
def ShowsChannels (db : Database) (clock : Stream' Timestamp) (c : Cache) (user : User)
    (channels : List Channel) : Prop :=
  ∃ memberships servers directMessages serverChannels,
    db.fetchAllMemberships user.id = .ok memberships ∧
    db.fetchServers (memberships.map (·.id.server)) = .ok servers ∧
    db.findDirectMessages user.id = .ok directMessages ∧
    db.fetchChannels (servers.flatMap (·.channels)) = .ok serverChannels ∧
    (filterCache c user servers).filterAccessibleChannels db clock
      (directMessages ++ serverChannels) = some channels

theorem ShowsChannels.unique {c : Cache} {user : User} {channels' : List Channel}
    (h : ShowsChannels db clock c user channels) (h' : ShowsChannels db clock c user channels') :
    channels = channels' := by
  obtain ⟨memberships, servers, dms, chans, hmemberships, hservers, hdms, hchans, hfilter⟩ := h
  obtain ⟨_, _, _, _, hmemberships', hservers', hdms', hchans', hfilter'⟩ := h'
  obtain rfl := ok.inj (hmemberships.symm.trans hmemberships')
  obtain rfl := ok.inj (hservers.symm.trans hservers')
  obtain rfl := ok.inj (hdms.symm.trans hdms')
  obtain rfl := ok.inj (hchans.symm.trans hchans')
  exact Option.some.inj (hfilter.symm.trans hfilter')

theorem gatherServers_ok (h : exec (gatherServers db fields) s = (.ok r, s')) :
    s.cloneUser = some r.user ∧ s'.cache = filterCache s.cache r.user r.servers ∧
    db.fetchAllMemberships r.user.id = .ok r.memberships ∧
    db.fetchServers (r.memberships.map (·.id.server)) = .ok r.servers := by
  simp only [gatherServers, exec_bind_ok, exec_get_ok, exec_ofOption_ok, exec_ofExcept_ok,
    exec_modifyCache_ok, exec_pure_ok] at h
  obtain ⟨_, _, ⟨rfl, rfl⟩, user, _, ⟨huser, rfl⟩, _, _, rfl, _, _, ⟨-, rfl⟩, memberships, _,
    ⟨hmemberships, rfl⟩, servers, _, ⟨hservers, rfl⟩, _, _, rfl, rfl, rfl⟩ := h
  exact ⟨huser, rfl, hmemberships, hservers⟩

theorem gatherChannels_ok (h : exec (gatherChannels db clock r) s = (.ok channels, s')) :
    s' = s ∧ ∃ directMessages serverChannels,
      db.findDirectMessages r.user.id = .ok directMessages ∧
      db.fetchChannels (r.servers.flatMap (·.channels)) = .ok serverChannels ∧
      s.cache.filterAccessibleChannels db clock (directMessages ++ serverChannels)
        = some channels := by
  simp only [gatherChannels, exec_bind_ok, exec_get_ok, exec_ofOption_ok, exec_ofExcept_ok] at h
  obtain ⟨directMessages, _, ⟨hdms, rfl⟩, serverChannels, _, ⟨hchannels, rfl⟩, _, _, ⟨rfl, rfl⟩,
    hfilter, rfl⟩ := h
  exact ⟨rfl, directMessages, serverChannels, hdms, hchannels, hfilter⟩

theorem gatherMembers_ok {fetched : List Member × List User}
    (h : exec (gatherMembers db redis order fields r channels) s = (.ok fetched, s')) :
    ∃ voiceMembers,
      fetchVoiceMembers db order (serverParticipants (requestedVoice redis fields
        channels)).toList = .ok voiceMembers ∧
      s'.cache.userId = s.cache.userId ∧
      s'.cache.members = collect
        ((r.memberships ++ voiceMembers).map fun x => (x.id.server, x)) := by
  simp only [gatherMembers, exec_bind_ok, exec_ofExcept_ok, exec_modifyCache_ok, exec_pure_ok] at h
  obtain ⟨voiceMembers, _, ⟨hvoice, rfl⟩, _, _, ⟨-, rfl⟩, _, _, rfl, -, rfl⟩ := h
  exact ⟨voiceMembers, hvoice, rfl, rfl⟩

/-- Which records the cached memberships come from. -/
theorem gatherReady_ok {d : ReadyData}
    (h : exec (gatherReady db redis order clock fields) s = (.ok d, s')) :
    s.cloneUser = some d.user ∧ s'.cache.userId = s.cache.userId ∧
    ∃ memberships channels voiceMembers,
      db.fetchAllMemberships d.user.id = .ok memberships ∧
      ShowsChannels db clock s.cache d.user channels ∧
      fetchVoiceMembers db order (serverParticipants (requestedVoice redis fields
        channels)).toList = .ok voiceMembers ∧
      s'.cache.members = collect
        ((memberships ++ voiceMembers).map fun x => (x.id.server, x)) := by
  simp only [gatherReady, exec_bind_ok, exec_ofExcept_ok, exec_pure_ok] at h
  obtain ⟨r, s₁, hservers, channels, s₂, hchannels, fetched, s₃, hmembers, _, _, ⟨-, rfl⟩, _, _,
    ⟨-, rfl⟩, _, _, ⟨-, rfl⟩, rfl, rfl⟩ := h
  obtain ⟨huser, hcache, hmemberships, hfetch⟩ := gatherServers_ok hservers
  obtain ⟨rfl, directMessages, serverChannels, hdms, hchans, hfilter⟩ :=
    gatherChannels_ok hchannels
  obtain ⟨voiceMembers, hvoice, hid, hcached⟩ := gatherMembers_ok hmembers
  rw [hcache] at hfilter hid
  have hshows : ShowsChannels db clock s.cache r.user channels :=
    ⟨r.memberships, r.servers, directMessages, serverChannels, hmemberships, hfetch, hdms, hchans,
      hfilter⟩
  exact ⟨huser, hid, r.memberships, channels, voiceMembers, hmemberships, hshows, hvoice, hcached⟩

end CacheAfter

end State

end DawnChat
