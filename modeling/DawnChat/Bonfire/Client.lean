/-
DawnChat/Bonfire/Client.lean

What the client is told about channels (`bonfire/src/events/impl.rs`).

The client keeps its own list of channels from what it is sent, which is ghost
state here (`Client.announced`).  A channel that goes out of view by an update
is announced as deleted but stays in the cache, and a later recalculation finds
it there and subscribes to it without telling the client.
`announced_subscribed_iff` says that this, a payload without channels, and a
hidden channel fetched under a subscribed topic are the only ways in which the
client hears from a channel it does not know.
-/
import DawnChat.Bonfire.Listener

namespace DawnChat

open RustStd Fallible SetLog Run State List Option Listener

/-! ### What the client knows -/

mutual

/-- The channels that are announced after an event was sent. -/
def EventV1.announce (A : Finset String) : EventV1 → Finset String
  | .bulk v => EventV1.announceAll A v
  | .ready payload => insertAll A ((payload.channels.getD []).map Channel.id)
  | .serverCreate _ _ channels => insertAll A (channels.map Channel.id)
  | .channelCreate channel => insert channel.id A
  | .channelDelete id => A.erase id
  | _ => A

def EventV1.announceAll (A : Finset String) : List EventV1 → Finset String
  | [] => A
  | event :: events => EventV1.announceAll (event.announce A) events

end

theorem EventV1.announceAll_append (A : Finset String) (v w : List EventV1) :
    announceAll A (v ++ w) = announceAll (announceAll A v) w := by
  induction v generalizing A with
  | nil => rfl
  | cons event v ih => exact ih (event.announce A)

theorem EventV1.announceAll_channelDelete (A : Finset String) (ids : List String) :
    announceAll A (ids.map .channelDelete) = removeAll A ids := by
  induction ids generalizing A with
  | nil => rfl
  | cons id ids ih => exact ih (A.erase id)

theorem EventV1.announceAll_channelCreate (A : Finset String) (channels : List Channel) :
    announceAll A (channels.map .channelCreate) = insertAll A (channels.map Channel.id) := by
  induction channels generalizing A with
  | nil => rfl
  | cons channel channels ih => exact ih (insert channel.id A)

/-- A session together with the channels its client was told about. -/
structure Client where
  listener : Listener
  announced : Finset String

namespace Client

/-- One round of the listener, with what it sends. -/
def step (k : Client) (r : Round) : Option Client := do
  let l ← k.listener.flush r.entries
  match r.event with
  | none => some { k with listener := l }
  | some event =>
    match Handler.exec (State.handleIncomingEventV1 r.db r.clock event) l.state with
    | (.ok (true, sent), s) => some ⟨{ l with state := s }, sent.announce k.announced⟩
    | (.ok (false, _), s) => some { k with listener := { l with state := s } }
    | (.error _, _) => none

/-- A session that has sent its Ready payload. -/
def start (s : State) (ready : ReadyPayload) : Client :=
  ⟨Listener.start s, (EventV1.ready ready).announce ∅⟩

/-- Every cached text channel whose topic is subscribed was announced. -/
def AnnouncedSubscribed (k : Client) : Prop :=
  ∀ t ∈ k.listener.state.subscribed, ∀ ch,
    k.listener.state.cache.channels.lookup t = some (.textChannel ch) → t ∈ k.announced

/-- The client's side of a round is what its effect sends. -/
theorem step_eq {k : Client} (hself : k.listener.HasSelf) (r : Round) :
    k.step r = (k.listener.step r).map fun l =>
      ⟨l, ((r.effect k.listener.state.cache).value.map
        (·.announce k.announced)).getD k.announced⟩ := by
  rw [step, Listener.step]
  rcases hflush : k.listener.flush r.entries with - | l
  · rfl
  · obtain ⟨hcache, hstate⟩ := flush_ok hflush
    obtain ⟨user, huser⟩ := hself
    rw [cloneUser, ← hcache] at huser
    rw [← hcache, Round.effect]
    rcases hevent : r.event with - | event
    · simp [receive, hevent]
    · obtain ⟨subs, hrun, -⟩ := Subscriptions.exists_run_call (s := l.state.toSubscriptions)
        (by simp [hstate]) (l.state.cache.effect r.db r.clock.head event).calls
      have hexec := does_handleIncomingEventV1 huser r.db r.clock event l.state subs rfl hrun
      rcases hvalue : (l.state.cache.effect r.db r.clock.head event).value with ⟨send, sent⟩
      rw [hvalue] at hexec
      cases send <;> simp [receive, hevent, hexec, hvalue]

end Client

/-! ### One event -/

/-- The database finds channels under their own ids. -/
def Database.ChannelsKeyed (db : Database) : Prop :=
  (∀ id channel, db.fetchChannel id = .ok channel → channel.id = id) ∧
    ∀ ids channels, db.fetchChannels ids = .ok channels → ∀ channel ∈ channels, channel.id ∈ ids

/-- Events that may change what our user can view. -/
def EventV1.changesAccess : EventV1 → Bool
  | .channelUpdate _ _ _ => true
  | .serverUpdate _ _ _ => true
  | .serverMemberUpdate _ _ _ => true
  | .serverRoleUpdate _ _ _ _ => true
  | .serverRoleDelete _ _ => true
  | _ => false

namespace Cache

/-- Cached channels are found under their own ids. -/
def Keyed (c : Cache) : Prop :=
  ∀ t channel, c.channels.lookup t = some channel → channel.id = t

/-- The cached text channels with a topic in `S` are in `A`. -/
def AnnouncedIn (c : Cache) (S A : Finset String) : Prop :=
  ∀ t ∈ S, ∀ channel id, c.channels.lookup t = some channel → channel.server = some id → t ∈ A

/-- The server that is recalculated for an event. -/
def recalculates (c : Cache) (db : Database) (now : Timestamp) (event : EventV1) :
    Option String :=
  (c.matched db now event).value.bind (·.queueServer)

/-- What it takes for an event to keep subscribed channels announced: where a
server is recalculated, its visible channels in the cache are announced, and a
hidden channel that is fetched under a subscribed topic is. -/
def KeepsAnnounced (c : Cache) (S A : Finset String) (db : Database) (now : Timestamp)
    (event : EventV1) : Prop :=
  (∀ id, c.recalculates db now event = some id → id ∈ (c.matched db now event).cache.servers →
    ∀ t ∈ (c.matched db now event).cache.shown db id, t ∈ A) ∧
  ∀ id data clear, event = .channelUpdate id data clear → id ∈ S → id ∉ c.channels →
    ∀ ch, db.fetchChannel id = .ok (.textChannel ch) → c.sees db (.textChannel ch) = false →
      id ∈ A

section Recalculated

variable {c : Cache} {db : Database} {id : String} {server : Server}
  (hserver : c.servers.lookup id = some server) {event : EventV1}

include hserver

/-- What the client knows after a recalculation. -/
theorem mem_announce_recalculated {A : Finset String} (hevent : ∀ A, event.announce A = A)
    {t : String} :
    t ∈ (c.recalculated db id event).value.announce A ↔
      (t ∈ A ∧ t ∉ c.hidden db id) ∨
        t ∈ (c.loadable db (c.unknown id server)).map Channel.id := by
  have hbulk : (c.recalculated db id event).value.announce A
      = insertAll (removeAll A (c.hidden db id))
          ((c.loadable db (c.unknown id server)).map Channel.id) := by
    rw [← EventV1.announceAll_channelDelete, ← EventV1.announceAll_channelCreate,
      ← EventV1.announceAll_append, recalculated, hserver]
    dsimp only
    split
    · rename_i hempty
      rw [List.isEmpty_iff.mp hempty, hevent]
      rfl
    · rw [EventV1.announce, EventV1.announceAll_append]
      exact hevent _
  rw [hbulk, mem_insertAll, mem_removeAll]

omit hserver in
/-- Channels that are loaded were not cached for the server before. -/
theorem notMem_shown_of_loaded (hdb : db.ChannelsKeyed) {t : String}
    (ht : t ∈ (c.loadable db (c.unknown id server)).map Channel.id) :
    t ∉ c.shown db id := by
  obtain ⟨channel, hchannel, rfl⟩ := List.mem_map.mp ht
  obtain ⟨channels, hfetch, hmem, -⟩ := mem_loadable hchannel
  have hunknown := hdb.2 _ channels hfetch channel hmem
  intro hshown
  obtain ⟨cached, hcached, hs, -⟩ := mem_shown.mp hshown
  exact (mem_unknown.mp hunknown).2 cached hcached hs

/-- **A recalculation** subscribes to every visible channel in the cache, and
announces those it has just loaded. -/
theorem announcedIn_recalculated (hdb : db.ChannelsKeyed) (hevent : ∀ A, event.announce A = A)
    {S A : Finset String} (hann : c.AnnouncedIn S A) :
    (c.recalculated db id event).cache.AnnouncedIn (replay S (c.recalculated db id event).calls)
        ((c.recalculated db id event).value.announce A) ↔
      ∀ t ∈ c.shown db id, t ∈ A := by
  constructor
  · intro h t ht
    obtain ⟨channel, hchannel, hs, hsees⟩ := mem_shown.mp ht
    have hnew : t ∉ (c.loadable db (c.unknown id server)).map Channel.id :=
      fun hloaded => notMem_shown_of_loaded hdb hloaded ht
    have hhidden : t ∉ c.hidden db id := by
      intro hhidden
      obtain ⟨channel', hchannel', -, hsees'⟩ := mem_hidden.mp hhidden
      obtain rfl := some.inj (hchannel.symm.trans hchannel')
      rw [hsees] at hsees'
      cases hsees'
    have hrecord : recordOf Channel.id (c.loadable db (c.unknown id server)) t = none :=
      recordOf_eq_none_iff_notMem.mpr hnew
    have hlookup := lookup_recalculated db hserver event t
    rw [hrecord, none_or, if_neg hhidden, hchannel] at hlookup
    have hmem := h t ((mem_replay_recalculated db hserver event S).mpr (.inl ⟨.inr ht, hhidden⟩))
      channel id hlookup hs
    rcases (mem_announce_recalculated hserver hevent).mp hmem with ⟨hA, -⟩ | hloaded
    · exact hA
    · exact absurd hloaded hnew
  · intro h t ht channel id' hchannel hs
    refine (mem_announce_recalculated hserver hevent).mpr ?_
    rcases (mem_replay_recalculated db hserver event S).mp ht with ⟨htS, hhidden⟩ | hloaded
    · obtain ⟨hloaded, hid⟩ | ⟨-, -, hold⟩ := cached_recalculated db hserver event hchannel
      · exact .inr (List.mem_map.mpr ⟨channel, hloaded, hid⟩)
      · refine .inl ⟨?_, hhidden⟩
        rcases htS with htS | hshown
        · exact hann t htS channel id' hold hs
        · exact h t hshown
    · exact .inr hloaded

omit hserver in
/-- Channels stay under their own ids. -/
theorem keyed_recalculated (hkeyed : c.Keyed) : (c.recalculated db id event).cache.Keyed := by
  intro t channel ht
  rcases hserver : c.servers.lookup id with - | server
  · rw [recalculated, hserver] at ht
    exact hkeyed t channel ht
  · obtain ⟨-, hid⟩ | ⟨-, -, hold⟩ := cached_recalculated db hserver event ht
    · exact hid
    · exact hkeyed t channel hold

end Recalculated

section Event

variable {c : Cache} {db : Database} {now : Timestamp} {S A : Finset String}
  (hdb : db.ChannelsKeyed) (hann : c.AnnouncedIn S A)

include hdb hann

/-- Events that change a server or a membership in place. -/
theorem announcedIn_effect_queued {event : EventV1} {id : String} (queued : Bool)
    (hvalue : (c.matched db now event).value
      = some { event := event, queueServer := if queued then some id else none })
    (hcalls : (c.matched db now event).calls = [])
    (hchannels : (c.matched db now event).cache.channels = c.channels)
    (hevent : ∀ A, event.announce A = A)
    (hkind : ∀ id data clear, event ≠ .channelUpdate id data clear) :
    (c.effect db now event).cache.AnnouncedIn (replay S (c.effect db now event).calls)
        ((c.effect db now event).value.2.announce A) ↔ c.KeepsAnnounced S A db now event := by
  have hann' : (c.matched db now event).cache.AnnouncedIn S A := by
    intro t ht channel id hchannel
    rw [hchannels] at hchannel
    exact hann t ht channel id hchannel
  have hrecalculates : c.recalculates db now event = if queued then some id else none := by
    rw [recalculates, hvalue]
    rfl
  cases queued with
  | false =>
    rw [effect_plain c db now event hvalue, hcalls, hevent]
    refine iff_of_true hann'
      ⟨fun id' hid' => ?_, fun id data clear h => absurd h (hkind id data clear)⟩
    rw [hrecalculates] at hid'
    cases hid'
  | true =>
    rw [effect_queued c db now event hvalue, hcalls, nil_append]
    have hkeeps : c.KeepsAnnounced S A db now event ↔
        (id ∈ (c.matched db now event).cache.servers →
          ∀ t ∈ (c.matched db now event).cache.shown db id, t ∈ A) := by
      constructor
      · intro h
        exact h.1 id hrecalculates
      · intro h
        refine ⟨fun id' hid' => ?_, fun id data clear h => absurd h (hkind id data clear)⟩
        obtain rfl := some.inj (hrecalculates.symm.trans hid')
        exact h
    rw [hkeeps]
    rcases hserver : (c.matched db now event).cache.servers.lookup id with - | server
    · refine iff_of_true ?_ fun hid => absurd hid (AList.lookup_eq_none.mp hserver)
      rw [recalculated, hserver]
      show (c.matched db now event).cache.AnnouncedIn S (event.announce A)
      rw [hevent]
      exact hann'
    · rw [announcedIn_recalculated hserver hdb hevent hann']
      exact ⟨fun h _ => h, fun h => h (HashMap.mem_iff_exists_lookup.mpr ⟨server, hserver⟩)⟩

omit hann in
/-- Channels stay under their own ids. -/
theorem keyed_channelUpdate (hkeyed : c.Keyed) (id : String) (data : PartialChannel)
    (clear : List FieldsChannel) : ((c.updateChannel id data clear).fetchMissing db id).Keyed := by
  intro t channel ht
  rcases cached_or_fetched ht with ⟨old, hold, hid, -⟩ | ⟨rfl, hfetch⟩
  · rw [hid]
    exact hkeyed t old hold
  · exact hdb.1 t channel hfetch

omit hdb hann in
/-- A channel update recalculates no server. -/
theorem recalculates_channelUpdate (id : String) (data : PartialChannel)
    (clear : List FieldsChannel) :
    c.recalculates db now (.channelUpdate id data clear) = none :=
  updateOutcome_queueServer db _ c _ id

omit hann in
/-- After an update the client is told what becomes of the topic. -/
theorem announce_channelUpdate (hkeyed : c.Keyed) (id : String) (data : PartialChannel)
    (clear : List FieldsChannel) :
    (c.effect db now (.channelUpdate id data clear)).value.2.announce A
      = replay A (c.effect db now (.channelUpdate id data clear)).calls := by
  have hkeyed' := keyed_channelUpdate hdb hkeyed id data clear
  rw [effect_channelUpdate]
  dsimp only
  rw [updateOutcome]
  rcases hchannel :
    ((c.updateChannel id data clear).fetchMissing db id).channels.lookup id with - | channel
  · rfl
  · dsimp only
    split
    · rfl
    · split
      · show insert channel.id A = insert id A
        rw [hkeyed' id channel hchannel]
      · rfl

theorem announcedIn_channelUpdate (id : String) (data : PartialChannel)
    (clear : List FieldsChannel) (hkeyed : c.Keyed) :
    (c.effect db now (.channelUpdate id data clear)).cache.AnnouncedIn
        (replay S (c.effect db now (.channelUpdate id data clear)).calls)
        ((c.effect db now (.channelUpdate id data clear)).value.2.announce A) ↔
      c.KeepsAnnounced S A db now (.channelUpdate id data clear) := by
  have hlookup := lookup_updateChannel_fetchMissing c db id data clear
  have hmem := mem_replay_channelUpdate c db now id data clear
  rw [announce_channelUpdate hdb hkeyed, show (c.effect db now (.channelUpdate id data clear)).cache
    = (c.updateChannel id data clear).fetchMissing db id by rw [effect_channelUpdate]]
  dsimp only at hmem
  set c' := (c.updateChannel id data clear).fetchMissing db id
  -- only a topic that stays as it is matters
  have hiff : c'.AnnouncedIn (replay S (c.effect db now (.channelUpdate id data clear)).calls)
        (replay A (c.effect db now (.channelUpdate id data clear)).calls) ↔
      (c.seesCached db id = c'.seesCached db id → id ∈ S → ∀ ch,
        c'.channels.lookup id = some (.textChannel ch) → id ∈ A) := by
    constructor
    · intro h hsame hid ch hch
      have hin := h id
      rw [hmem, hmem, if_neg fun h => h.2 hsame, if_neg fun h => h.2 hsame] at hin
      exact hin hid (.textChannel ch) ch.server hch rfl
    · intro h t ht channel id' hchannel hs
      rw [hmem] at ht ⊢
      split at ht
      · rename_i hcond
        rw [if_pos hcond]
        exact ht
      · rename_i hcond
        rw [if_neg hcond]
        by_cases heq : t = id
        · subst heq
          obtain ⟨ch, rfl, -⟩ := Channel.server_eq_some.mp hs
          refine h ?_ ht ch hchannel
          by_contra hne
          exact hcond ⟨rfl, hne⟩
        · rw [hlookup, if_neg heq] at hchannel
          exact hann t ht channel id' hchannel hs
  have hkeeps : c.KeepsAnnounced S A db now (.channelUpdate id data clear) ↔
      (id ∈ S → id ∉ c.channels → ∀ ch, db.fetchChannel id = .ok (.textChannel ch) →
        c.sees db (.textChannel ch) = false → id ∈ A) := by
    constructor
    · intro h
      exact h.2 id data clear rfl
    · intro h
      refine ⟨fun id' hid' => ?_, ?_⟩
      · rw [recalculates_channelUpdate] at hid'
        cases hid'
      · rintro _ _ _ ⟨⟩
        exact h
  rw [hiff, hkeeps]
  rcases hold : c.channels.lookup id with - | old
  · -- the channel is fetched
    have hnew := lookup_updateChannel_fetched hold db data clear
    rw [seesCached_of_none hold db]
    constructor
    · intro h hid _ ch hfetch hhidden
      have hch := (hnew _).mpr hfetch
      refine h ?_ hid ch hch
      rw [seesCached_updated hch, hhidden]
    · intro h hsame hid ch hch
      rw [seesCached_updated hch] at hsame
      exact h hid (AList.lookup_eq_none.mp hold) ch ((hnew _).mp hch) hsame.symm
  · -- what was cached is updated in place, and was announced before
    refine iff_of_true ?_ fun _ hid => absurd (HashMap.mem_iff_exists_lookup.mpr ⟨old, hold⟩) hid
    intro _ hid ch hch
    rw [hlookup, if_pos rfl, hold] at hch
    refine hann id hid old ch.server hold ?_
    rw [← (Channel.update_keeps old data clear).2]
    exact congrArg Channel.server (some.inj hch)

end Event

section Kinds

variable {c : Cache} {db : Database} {now : Timestamp} {event : EventV1}
  (hkind : event.changesAccess = true)

include hkind

variable (c db now) in
/-- An event that may change what our user can view updates a channel, or it
changes a server or a membership in place. -/
theorem matched_changesAccess :
    (∃ id data clear, event = .channelUpdate id data clear) ∨
      (∀ id data clear, event ≠ .channelUpdate id data clear) ∧
      (∀ A, event.announce A = A) ∧
      (c.matched db now event).calls = [] ∧
      (c.matched db now event).cache.channels = c.channels ∧
      ∃ (queued : Bool) (id : String), (c.matched db now event).value
        = some { event := event, queueServer := if queued then some id else none } := by
  by_cases hupdate : ∃ id data clear, event = .channelUpdate id data clear
  · exact .inl hupdate
  refine .inr ⟨fun id data clear h => hupdate ⟨id, data, clear, h⟩, ?_⟩
  cases event with
  | channelUpdate id data clear => exact absurd ⟨id, data, clear, rfl⟩ hupdate
  | serverUpdate id data clear =>
    exact ⟨fun _ => rfl, rfl, rfl, data.defaultPermissions.isSome, id, rfl⟩
  | serverRoleUpdate id roleId data clear =>
    exact ⟨fun _ => rfl, rfl, rfl,
      (data.rank.isSome || data.permissions.isSome) && holdsRole c id roleId, id, rfl⟩
  | serverRoleDelete id roleId =>
    exact ⟨fun _ => rfl, rfl, rfl, holdsRole c id roleId, id, rfl⟩
  | serverMemberUpdate id data clear =>
    refine ⟨fun _ => rfl, ?_⟩
    by_cases hself : id.user = c.userId
    · rw [matched_serverMemberUpdate db now hself]
      exact ⟨rfl, rfl, data.roles.isSome || clear.contains .roles, id.server, rfl⟩
    · rw [matched_serverMemberUpdate_ne db now hself]
      exact ⟨rfl, rfl, false, id.server, rfl⟩
  | _ => cases hkind

/-- Such an event is never withheld. -/
theorem sends_effect : (c.effect db now event).value.1 = true := by
  rcases matched_changesAccess c db now hkind with
    ⟨id, data, clear, rfl⟩ | ⟨-, -, -, -, queued, id, hvalue⟩
  · rw [effect_channelUpdate]
  · cases queued with
    | false => rw [effect_plain c db now event hvalue]
    | true => rw [effect_queued c db now event hvalue]

/-- Channels stay under their own ids. -/
theorem keyed_effect (hdb : db.ChannelsKeyed) (hkeyed : c.Keyed) :
    (c.effect db now event).cache.Keyed := by
  rcases matched_changesAccess c db now hkind with
    ⟨id, data, clear, rfl⟩ | ⟨-, -, -, hchannels, queued, id, hvalue⟩
  · rw [effect_channelUpdate]
    exact keyed_channelUpdate hdb hkeyed id data clear
  · have hmatched : (c.matched db now event).cache.Keyed := by
      rw [Keyed, hchannels]
      exact hkeyed
    cases queued with
    | false =>
      rw [effect_plain c db now event hvalue]
      exact hmatched
    | true =>
      rw [effect_queued c db now event hvalue]
      exact keyed_recalculated hmatched

/-- **One event.**  The subscribed channels are announced afterwards exactly when
the event meets the condition. -/
theorem announcedIn_effect {S A : Finset String} (hdb : db.ChannelsKeyed) (hkeyed : c.Keyed)
    (hann : c.AnnouncedIn S A) :
    (c.effect db now event).cache.AnnouncedIn (replay S (c.effect db now event).calls)
        ((c.effect db now event).value.2.announce A) ↔ c.KeepsAnnounced S A db now event := by
  rcases matched_changesAccess c db now hkind with
    ⟨id, data, clear, rfl⟩ | ⟨hne, hevent, hcalls, hchannels, queued, id, hvalue⟩
  · exact announcedIn_channelUpdate hdb hann id data clear hkeyed
  · exact announcedIn_effect_queued hdb hann queued hvalue hcalls hchannels hevent hne

end Kinds

end Cache

/-- Channels are found under the ids they are stored with. -/
theorem ReferenceDb.channelsKeyed {db : ReferenceDb}
    (h : ∀ e ∈ db.channels.toList, e.2.id = e.1) : db.database.ChannelsKeyed := by
  have hget : ∀ id channel, get db.channels id = .ok channel → channel.id = id := by
    intro id channel hchannel
    rw [get] at hchannel
    rcases hlookup : db.channels.lookup id with - | found
    · rw [hlookup] at hchannel
      cases hchannel
    · rw [hlookup] at hchannel
      obtain rfl := Except.ok.inj hchannel
      exact h (id, found) (HashMap.mem_toList_iff.mpr hlookup)
  refine ⟨hget, fun ids channels hchannels channel hmem => ?_⟩
  obtain ⟨id, hid, hfetch⟩ := (mem_of_mapM hchannels).mp hmem
  rwa [hget id channel hfetch]

/-! ### Runs -/

namespace Client

/-- What the rounds of a run keep. -/
structure Tracking (k : Client) : Prop where
  self : k.listener.HasSelf
  logged : k.listener.state.toSubscriptions.Logged
  keyed : k.listener.state.cache.Keyed

/-- The round brings an event that may change what our user can view, the
database finds channels under their own ids, and the topics for member events
are not ids of channels. -/
def TracksRound (k : Client) (r : Round) : Prop :=
  (∀ server, .valid server ∈ r.entries → memberTopic server ∉ k.listener.state.cache.channels) ∧
    r.db.ChannelsKeyed ∧ ∀ event, r.event = some event → event.changesAccess = true

/-- The event of the round keeps the subscribed channels announced. -/
def KeepsAnnounced (k : Client) (r : Round) : Prop :=
  ∀ l₁, k.listener.flush r.entries = some l₁ → ∀ event, r.event = some event →
    k.listener.state.cache.KeepsAnnounced l₁.state.subscribed k.announced r.db r.clock.head event

theorem announcedSubscribed_iff (k : Client) :
    k.AnnouncedSubscribed ↔
      k.listener.state.cache.AnnouncedIn k.listener.state.subscribed k.announced := by
  constructor
  · intro h t ht channel id hchannel hs
    obtain ⟨ch, rfl, -⟩ := Channel.server_eq_some.mp hs
    exact h t ht ch hchannel
  · intro h t ht ch hch
    exact h t ht _ ch.server hch rfl

variable {k : Client} {db : Database}

theorem tracking_step {k' : Client} {r : Round} (hk : k.Tracking) (hr : k.TracksRound r)
    (h : k.step r = some k') : k'.Tracking := by
  rw [step_eq hk.self] at h
  obtain ⟨l', hl', rfl⟩ := map_eq_some_iff.mp h
  refine ⟨hasSelf_step hk.self hl', logged_step hk.self hl', ?_⟩
  obtain ⟨-, -, -, -, -, hcache⟩ := step_effect hk.self hl'
  show l'.state.cache.Keyed
  rw [hcache, Round.effect]
  rcases hevent : r.event with - | event
  · exact hk.keyed
  · exact Cache.keyed_effect (hr.2.2 event hevent) hr.2.1 hk.keyed

/-- **One round.** -/
theorem announcedSubscribed_step {r : Round} (hk : k.Tracking)
    (hr : k.TracksRound r) (hann : k.AnnouncedSubscribed) :
    (∀ k', k.step r = some k' → k'.AnnouncedSubscribed) ↔ k.KeepsAnnounced r := by
  rw [announcedSubscribed_iff] at hann
  set A' := ((r.effect k.listener.state.cache).value.map (·.announce k.announced)).getD k.announced
    with hA'
  have hafter : (∀ k', k.step r = some k' → k'.AnnouncedSubscribed) ↔
      ∀ l', k.listener.step r = some l' → l'.state.cache.AnnouncedIn l'.state.subscribed A' := by
    simp only [step_eq hk.self, map_eq_some_iff, announcedSubscribed_iff]
    constructor
    · intro h l' hl'
      exact h _ ⟨l', hl', rfl⟩
    · rintro h _ ⟨l', hl', rfl⟩
      exact h l' hl'
  rw [hafter, forall_step_iff hk.self fun c S => c.AnnouncedIn S A']
  refine forall₂_congr fun l₁ hflush => ?_
  have hann₁ : k.listener.state.cache.AnnouncedIn l₁.state.subscribed k.announced := by
    intro t ht channel id hchannel hs
    rcases mem_of_flush hk.logged hflush ht with ht | ⟨server, hserver, rfl⟩
    · exact hann t ht channel id hchannel hs
    · exact absurd (HashMap.mem_iff_exists_lookup.mpr ⟨channel, hchannel⟩) (hr.1 server hserver)
  rw [hA', Round.effect]
  rcases hevent : r.event with - | event
  · exact iff_of_true hann₁ fun _ h => by cases h
  · have hkind := hr.2.2 event hevent
    simp only [some.injEq, forall_eq', Cache.sends_effect hkind, if_true, map_some, getD_some]
    exact Cache.announcedIn_effect hkind hr.2.1 hk.keyed hann₁

section Session

variable {db : Database} {redis : Redis} {order : IterOrder} {clock : Stream' Timestamp}
  {fields : ReadyPayloadFields} {s₀ s : State} {ready : ReadyPayload}
  (hready : Handler.exec (State.generateReadyPayload db redis order clock fields) s₀
    = (.ok ready, s))

include hready

theorem tracking_start : (start s ready).Tracking := by
  obtain ⟨d, -, -, -, huser, -⟩ := cache_generateReadyPayload hready
  obtain ⟨d', s₁, -, hcache, hreset, -⟩ := generateReadyPayload_ok hready
  refine ⟨⟨d.user, huser⟩, .inl hreset, ?_⟩
  intro t channel ht
  replace ht : s.cache.channels.lookup t = some channel := ht
  rw [hcache, lookup_collect_eq_recordOf] at ht
  exact (key_of_recordOf ht).2

/-- A payload that shows its channels announces them. -/
theorem announcedSubscribed_start :
    (start s ready).AnnouncedSubscribed ↔
      fields.channels = true ∨ ∀ t ch, s.cache.channels.lookup t ≠ some (.textChannel ch) := by
  obtain ⟨d, s₁, -, hcache, -, -, hpayload⟩ := generateReadyPayload_ok hready
  have hshown : ∀ t channel, s.cache.channels.lookup t = some channel →
      t ∈ d.channels.map Channel.id := by
    intro t channel ht
    rw [hcache, lookup_collect_eq_recordOf] at ht
    obtain ⟨hmem, rfl⟩ := key_of_recordOf ht
    exact List.mem_map_of_mem hmem
  have hannounced : (start s ready).announced
      = insertAll ∅ (((if fields.channels then some d.channels else none).getD []).map
          Channel.id) := by
    rw [hpayload]
    rfl
  cases hfields : fields.channels with
  | true =>
    refine iff_of_true (fun t _ ch hch => ?_) (.inl rfl)
    rw [hannounced, hfields, mem_insertAll]
    exact .inr (hshown t _ hch)
  | false =>
    constructor
    · intro h
      refine .inr fun t ch hch => ?_
      have hmem := h t (subscribed_generateReadyPayload hready hch) ch hch
      rw [hannounced, hfields] at hmem
      exact absurd hmem (Finset.notMem_empty t)
    · rintro (h | h)
      · cases h
      · exact fun t _ ch hch => absurd hch (h t ch)

/-- **The client knows the channels it hears from**, along a run of events that may
change what its user can view, exactly when its Ready payload showed the
channels, and no event of the run subscribes to a channel that is not
announced. -/
theorem announced_subscribed_iff {rounds : List Round}
    (htracks : EachStep step TracksRound (start s ready) rounds) :
    Always step AnnouncedSubscribed (start s ready) rounds ↔
      (fields.channels = true ∨ ∀ t ch, s.cache.channels.lookup t ≠ some (.textChannel ch)) ∧
      EachStep step KeepsAnnounced (start s ready) rounds := by
  rw [← announcedSubscribed_start hready]
  exact always_iff_eachStep (fun _ _ _ hk hr h => tracking_step hk hr h)
    (fun _ _ hk hr hann => announcedSubscribed_step hk hr hann) (tracking_start hready) htracks

end Session

/-- The default permissions of the call are changed. -/
def hideCall (db : Database) : Round :=
  ⟨db, Stream'.const 0, [], some (.channelUpdate "voice"
    { defaultPermissions := some { d := ChannelPermission.viewChannel.value } } [])⟩

/-- Alice becomes a moderator. -/
def promotion (db : Database) : Round :=
  ⟨db, Stream'.const 0, [], some (.serverMemberUpdate ⟨"server", "alice"⟩
    { roles := some ["mods"] } [])⟩

/-- Such rounds meet the assumptions about a run. -/
theorem eachStep_tracksRound (hdb : db.ChannelsKeyed) (k : Client) :
    EachStep step TracksRound k [hideCall db, promotion db] := by
  intro l₁ r k₁ hpre _
  have hr : r ∈ [hideCall db, promotion db] :=
    hpre.subset (mem_append_right l₁ (mem_singleton_self r))
  rcases mem_pair.mp hr with rfl | rfl
  all_goals exact ⟨nofun, hdb, fun event hevent => by obtain rfl := some.inj hevent; rfl⟩

/-- No server is recalculated, and nothing is fetched. -/
theorem keepsAnnounced_hideCall {s : State} {ready : ReadyPayload}
    (h : "voice" ∈ s.cache.channels) :
    EachStep step KeepsAnnounced (start s ready) [hideCall db] := by
  refine eachStep_cons.mpr ⟨fun l₁ _ event hevent => ?_, fun _ _ => eachStep_nil⟩
  obtain rfl := some.inj hevent
  refine ⟨fun id hid => ?_, ?_⟩
  · rw [Cache.recalculates_channelUpdate] at hid
    cases hid
  · rintro _ _ _ ⟨⟩ _ hnot
    exact absurd h hnot

/-- Alice is told that the call is gone. -/
theorem announced_subscribed_iff_callState :
    ∃ ready, Handler.exec (State.generateReadyPayload callDb.database callRedis .insertion
        (Stream'.const 0) {}) (State.from { id := "alice" } "session") = (.ok ready, callState) ∧
      Always step AnnouncedSubscribed (start callState ready) [hideCall callDb.database] := by
  obtain ⟨ready, hready⟩ := exec_callState
  have hdb : callDb.database.ChannelsKeyed := ReferenceDb.channelsKeyed (by decide +kernel)
  have htracks := (eachStep_tracksRound hdb (start callState ready)).shorten
    (prefix_append [hideCall callDb.database] [promotion callDb.database])
  exact ⟨ready, hready, (announced_subscribed_iff hready htracks).mpr
    ⟨.inl rfl, keepsAnnounced_hideCall (by decide +kernel)⟩⟩

/-- Moderators keep seeing the call. -/
def modsDb : ReferenceDb :=
  { callDb with
    servers := HashMap.collect [("server",
      { callServer with roles := HashMap.collect [("mods", { id := "mods" })] })]
    channels := HashMap.collect [("voice", .textChannel
      { id := "voice", server := "server",
        rolePermissions := HashMap.collect
          [("mods", { a := ChannelPermission.viewChannel.value })] })] }

/-- The call is subscribed and cached, and not announced. -/
def hearsUnannounced (t : String) (k : Client) : Bool :=
  decide (t ∈ k.listener.state.subscribed) && decide (t ∉ k.announced) &&
    match k.listener.state.cache.channels.lookup t with
    | some (.textChannel _) => true
    | _ => false

theorem not_announcedSubscribed (t : String) (h : k.hearsUnannounced t = true) :
    ¬ k.AnnouncedSubscribed := by
  intro hann
  rw [hearsUnannounced, Bool.and_eq_true, Bool.and_eq_true, decide_eq_true_eq,
    decide_eq_true_eq] at h
  obtain ⟨⟨ht, hnot⟩, h⟩ := h
  split at h
  · rename_i ch hch
    exact hnot (hann t ht ch hch)
  · cases h

/-- Alice is told that the call is gone, and hears from it again as a moderator. -/
theorem promotion_subscribes_unannounced :
    ∃ ready s, Handler.exec (State.generateReadyPayload modsDb.database callRedis .insertion
        (Stream'.const 0) {}) (State.from { id := "alice" } "session") = (.ok ready, s) ∧
      EachStep step TracksRound (start s ready)
        [hideCall modsDb.database, promotion modsDb.database] ∧
      ¬ Always step AnnouncedSubscribed (start s ready)
        [hideCall modsDb.database, promotion modsDb.database] := by
  have hdb : modsDb.database.ChannelsKeyed := ReferenceDb.channelsKeyed (by decide +kernel)
  exact Handler.exists_exec_ok_of (fun ready s => (run step (start s ready)
    [hideCall modsDb.database, promotion modsDb.database]).any (hearsUnannounced "voice"))
    (by decide +kernel) fun ready s _ hhears => ⟨eachStep_tracksRound hdb _,
      not_always_of_run (fun _ => not_announcedSubscribed "voice") hhears⟩

end Client

end DawnChat
