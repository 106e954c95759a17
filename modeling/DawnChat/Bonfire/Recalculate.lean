/-
DawnChat/Bonfire/Recalculate.lean

What `recalculate_server` leaves behind (`bonfire/src/events/impl.rs`).

The function goes through the cached channels of a server, subscribes to those that can be
viewed and drops the others, and then loads what the server lists and the cache lacks.  The
client is told of each channel that was dropped or loaded, and of the event after that.
`recalculateServer_ok` says all of this of the session afterwards.
-/
import DawnChat.Bonfire.Listener

namespace DawnChat

open RustStd Fallible Handler SetLog Cache List

/-- What the database has of the channels that a server lists are channels of the server, each
of them once. -/
def Database.StoresChannelsOf (db : Database) (id : String) (server : Server) : Prop :=
  ∀ ids channels, ids ⊆ server.channels → ids.Nodup → db.fetchChannels ids = .ok channels →
    (channels.map Channel.id).Nodup ∧
      ∀ channel ∈ channels, channel.id ∈ ids ∧ channel.server = some id

section Unknown

variable {db : Database} {id : String} {server : Server} (hdb : db.StoresChannelsOf id server)
  (c : Cache)

include hdb

theorem Database.StoresChannelsOf.unknown {channels : List Channel}
    (h : db.fetchChannels (c.unknown id server) = .ok channels) :
    (channels.map Channel.id).Nodup ∧
      ∀ channel ∈ channels, channel.id ∈ c.unknown id server ∧ channel.server = some id :=
  hdb _ channels (fun _ h => (mem_unknown.mp h).1) ((nodup_dedup _).filter _) h

theorem Cache.nodup_loadable : ((c.loadable db (c.unknown id server)).map Channel.id).Nodup := by
  rw [loadable]
  split
  · exact nodup_nil
  · rcases hfetch : db.fetchChannels (c.unknown id server) with e | channels
    · exact nodup_nil
    · exact (hdb.unknown c hfetch).1.sublist (filter_sublist.map _)

/-- What is loaded is all that was fetched and can be viewed. -/
theorem Cache.mem_loadable_unknown {channel : Channel} :
    channel ∈ c.loadable db (c.unknown id server) ↔ ∃ channels,
      db.fetchChannels (c.unknown id server) = .ok channels ∧ channel ∈ channels ∧
        c.sees db channel = true := by
  refine ⟨mem_loadable, ?_⟩
  rintro ⟨channels, hfetch, hmem, hsees⟩
  have hunknown := ((hdb.unknown c hfetch).2 channel hmem).1
  rw [loadable, if_neg fun h => ne_nil_of_mem hunknown (List.isEmpty_iff.mp h), hfetch]
  exact mem_filter.mpr ⟨hmem, hsees⟩

/-- It is listed and was not cached for the server. -/
theorem Cache.unknown_of_loaded {t : String}
    (h : t ∈ (c.loadable db (c.unknown id server)).map Channel.id) : t ∈ c.unknown id server := by
  obtain ⟨channel, hchannel, rfl⟩ := mem_map.mp h
  obtain ⟨channels, hfetch, hmem, -⟩ := mem_loadable hchannel
  exact ((hdb.unknown c hfetch).2 channel hmem).1

end Unknown

namespace State

/-- The session after its channels of a server were determined again: the channels that were
deleted and created for the client, and the event that was sent. -/
structure Redetermined (db : Database) (clock : Stream' Timestamp) (id : String)
    (server : Server) (event : EventV1) (s s' : State) (sent : EventV1) (deleted : List String)
    (created : List Channel) : Prop where
  /-- Deletions and creations come first, and the event itself is last. -/
  event : sent = if deleted = [] ∧ created = [] then event
    else .bulk (deleted.map .channelDelete ++ created.map .channelCreate ++ [event])
  cached : ∀ t channel, s'.cache.channels.lookup t = some channel → channel.server = some id →
    s'.cache.canViewChannel db clock channel = some true ∧ t ∈ s'.subscribed
  deleted_nodup : deleted.Nodup
  mem_deleted : ∀ t, t ∈ deleted ↔ ∃ channel, s.cache.channels.lookup t = some channel ∧
    channel.server = some id ∧ s.cache.canViewChannel db clock channel = some false
  deleted_gone : ∀ t ∈ deleted, s'.cache.channels.lookup t = none ∧ t ∉ s'.subscribed
  created_nodup : (created.map Channel.id).Nodup
  mem_created : ∀ channel, channel ∈ created ↔ ∃ channels,
    db.fetchChannels (s.cache.unknown id server) = .ok channels ∧ channel ∈ channels ∧
      s.cache.canViewChannel db clock channel = some true
  created_there : ∀ channel ∈ created,
    s'.cache.channels.lookup channel.id = some channel ∧ channel.id ∈ s'.subscribed
  /-- Channels of other servers are those that the server does not list either. -/
  others : ∀ t channel, s.cache.channels.lookup t = some channel → channel.server ≠ some id →
    t ∉ server.channels →
      s'.cache.channels.lookup t = some channel ∧ (t ∈ s'.subscribed ↔ t ∈ s.subscribed)

variable {db : Database} {id : String} {server : Server} {s : State} {user : User}

/-- **Recalculating a server**, in a session that is not being reset. -/
theorem recalculateServer_ok (hstate : s.state ≠ .reset)
    (huser : s.cache.users.lookup s.cache.userId = some user)
    (hserver : s.cache.servers.lookup id = some server) (hdb : db.StoresChannelsOf id server)
    (clock : Stream' Timestamp) (event : EventV1) :
    ∃ s' sent deleted created,
      exec (recalculateServer db clock id event) s = (.ok sent, s') ∧
        Redetermined db clock id server event s s' sent deleted created := by
  obtain ⟨subs, hrun, hsub, -⟩ := Subscriptions.exists_run_call hstate
    (s.cache.recalculated db id event).calls
  obtain ⟨_, hframe⟩ := s.cache.recalculated_frame db id event
  have hmem := fun t => mem_replay_recalculated (t := t) db hserver event s.subscribed
  simp only [← hsub] at hmem
  have hlookup := lookup_recalculated db hserver event
  have hview := canViewChannel_eq_sees huser db clock
  have hnot : ∀ t ∈ s.cache.hidden db id,
      t ∉ (s.cache.loadable db (s.cache.unknown id server)).map Channel.id := by
    intro t ht hloaded
    obtain ⟨channel, hchannel, hs, -⟩ := mem_hidden.mp ht
    exact (mem_unknown.mp (s.cache.unknown_of_loaded hdb hloaded)).2 channel hchannel hs
  refine ⟨_, _, s.cache.hidden db id, s.cache.loadable db (s.cache.unknown id server),
    does_recalculateServer huser db clock id event s subs rfl hrun, ?_⟩
  constructor
  case event =>
    rw [recalculated, hserver]
    simp [List.isEmpty_iff]
  case cached =>
    intro t channel hchannel hs
    have hseen : s.cache.sees db channel = true ∧ t ∈ subs.subscribed := by
      rw [hmem]
      obtain ⟨hloaded, hid⟩ | ⟨-, hhidden, hold⟩ :=
        cached_recalculated db hserver event hchannel
      · obtain ⟨-, -, -, hsees⟩ := mem_loadable hloaded
        exact ⟨hsees, .inr (mem_map.mpr ⟨channel, hloaded, hid⟩)⟩
      · have hsees : s.cache.sees db channel = true := by
          by_contra hne
          exact hhidden (mem_hidden.mpr ⟨channel, hold, hs, by simpa using hne⟩)
        exact ⟨hsees, .inl ⟨.inr (mem_shown.mpr ⟨channel, hold, hs, hsees⟩), hhidden⟩⟩
    refine ⟨?_, hseen.2⟩
    rw [hframe, ← hseen.1]
    exact hview channel
  case deleted_nodup =>
    have hkeys : (s.cache.channels.toList.map (·.1)).Nodup := by
      rw [HashMap.map_fst_toList]
      exact s.cache.channels.keys_nodup
    exact hkeys.sublist ((filter_sublist.trans filter_sublist).map _)
  case mem_deleted => simp only [hview, Option.some.injEq, mem_hidden, implies_true]
  case deleted_gone =>
    intro t ht
    refine ⟨?_, fun hsubscribed => ?_⟩
    · rw [hlookup, recordOf_eq_none_iff_notMem.mpr (hnot t ht), if_pos ht]
      rfl
    · rcases (hmem t).mp hsubscribed with ⟨-, hhidden⟩ | hloaded
      · exact hhidden ht
      · exact hnot t ht hloaded
  case created_nodup => exact s.cache.nodup_loadable hdb
  case mem_created =>
    simp only [hview, Option.some.injEq, s.cache.mem_loadable_unknown hdb, implies_true]
  case created_there =>
    intro channel hchannel
    refine ⟨?_, (hmem _).mpr (.inr (mem_map_of_mem hchannel))⟩
    rw [hlookup, recordOf_of_mem (s.cache.nodup_loadable hdb) hchannel]
    rfl
  case others =>
    intro t channel hchannel hs hlisted
    have hother (p : Channel → Bool) :
        t ∉ ((s.cache.channelsOf id).filter fun e => p e.2).map (·.1) := by
      intro h
      obtain ⟨channel', hchannel', hs', -⟩ := mem_map_filter_channelsOf.mp h
      obtain rfl := Option.some.inj (hchannel.symm.trans hchannel')
      exact hs hs'
    have hhidden : t ∉ s.cache.hidden db id := hother (!s.cache.sees db ·)
    have hshown : t ∉ s.cache.shown db id := hother (s.cache.sees db)
    have hloaded : t ∉ (s.cache.loadable db (s.cache.unknown id server)).map Channel.id :=
      fun h => hlisted (mem_unknown.mp (s.cache.unknown_of_loaded hdb h)).1
    refine ⟨?_, ?_⟩
    · rw [hlookup, recordOf_eq_none_iff_notMem.mpr hloaded, if_neg hhidden, hchannel]
      rfl
    · simp [hmem, hhidden, hshown, hloaded]

/-- Alice's session has a server in its cache, and is subscribed to a channel of it. -/
def secretState : State :=
  let s := State.from { id := "alice" } "session"
  { s with
    toSubscriptions := ⟨.none, {"secret"}⟩
    cache := { s.cache with
      servers := HashMap.collect [("server", quietServer)]
      channels := HashMap.collect
        [("secret", .textChannel { id := "secret", server := "server" })] } }

theorem recalculateServer_ok_secret : ∃ s' sent deleted created,
    exec (recalculateServer quietDb.database (Stream'.const 0) "server" .other) secretState
        = (.ok sent, s') ∧
      Redetermined quietDb.database (Stream'.const 0) "server" quietServer .other secretState s'
        sent deleted created := by
  have hstate : secretState.state ≠ .reset := by decide
  have huser : secretState.cache.users.lookup secretState.cache.userId
      = some { id := "alice" } := by decide +kernel
  have hserver : secretState.cache.servers.lookup "server" = some quietServer := by
    simp [secretState, HashMap.lookup_collect]
  have hdb : quietDb.database.StoresChannelsOf "server" quietServer := by
    intro ids channels hids _ hfetch
    obtain rfl := subset_nil.mp hids
    obtain rfl := Except.ok.inj hfetch
    exact ⟨nodup_nil, fun _ h => absurd h not_mem_nil⟩
  exact recalculateServer_ok hstate huser hserver hdb _ _

end State

end DawnChat
