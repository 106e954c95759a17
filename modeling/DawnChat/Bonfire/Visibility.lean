/-
DawnChat/Bonfire/Visibility.lean

Sessions are subscribed to channels their user can view
(`bonfire/src/events/impl.rs`, `bonfire/src/websocket.rs`).

`subscribed_viewable_iff` is about whole runs of the listener.  A session that
has sent its Ready payload handles events about channels, servers, roles and
memberships, as the API publishes them.  Every subscribed text channel is
viewable throughout exactly when the payload's own records see what it shows,
and no event is of one of three kinds: a created channel is subscribed to
without a look at the permissions, a transfer of ownership does not
recalculate anything, and a channel that is fetched for an update may be hidden
under a topic that is already subscribed.
-/
import DawnChat.Bonfire.Listener
import DawnChat.Bonfire.Views

namespace DawnChat

open RustStd Fallible SetLog Run State Option

namespace Listener

/-- Every topic that is the id of a cached text channel is that of a channel that
can be viewed. -/
def SubscribedViewable (l : Listener) : Prop :=
  ∀ t ∈ l.state.subscribed, ∀ ch, l.state.cache.channels.lookup t = some (.textChannel ch) →
    ∀ db clock, l.state.cache.canViewChannel db clock (.textChannel ch) = some true

/-- The events of the round are as the API publishes them, and the topics for
member events are not ids of channels. -/
def TracksRound (l : Listener) (r : Round) : Prop :=
  (∀ server, .valid server ∈ r.entries → memberTopic server ∉ l.state.cache.channels) ∧
    ∀ event, r.event = some event → l.state.cache.Tracks r.db r.clock.head event

/-- The event of the round keeps the subscribed channels viewable. -/
def KeepsViews (l : Listener) (r : Round) : Prop :=
  ∀ l₁, l.flush r.entries = some l₁ → ∀ event, r.event = some event →
    l.state.cache.KeepsViews l₁.state.subscribed r.db event

variable {l : Listener} {id : String}

theorem subscribedViewable_iff_views (hself : l.HasSelf) :
    l.SubscribedViewable ↔ l.state.cache.ViewsSubscribed l.state.subscribed := by
  obtain ⟨user, huser⟩ := hself
  constructor
  · intro h t ht channel hchannel
    rcases hs : channel.server with - | id
    · exact Cache.views_of_server_none _ hs
    · obtain ⟨ch, rfl, -⟩ := Channel.server_eq_some.mp hs
      intro db
      have hview := h t ht ch hchannel db (Stream'.const 0)
      rw [canViewChannel_eq_sees huser] at hview
      exact some.inj hview
  · intro h t ht ch hch db clock
    rw [canViewChannel_eq_sees huser, h t ht _ hch db]

/-- What the rounds of a run keep. -/
structure Tracking (l : Listener) : Prop where
  self : l.HasSelf
  logged : l.state.toSubscriptions.Logged
  complete : l.state.cache.Complete

theorem tracking_step {l' : Listener} {r : Round} (hl : l.Tracking) (hr : l.TracksRound r)
    (h : l.step r = some l') : l'.Tracking := by
  refine ⟨hasSelf_step hl.self h, logged_step hl.self h, ?_⟩
  obtain ⟨-, -, -, -, -, hcache⟩ := step_effect hl.self h
  rw [hcache, Round.effect]
  rcases hevent : r.event with - | event
  · exact hl.complete
  · exact Cache.complete_effect hl.complete (hr.2 event hevent)

/-- **One round.** -/
theorem subscribedViewable_step {r : Round} (hl : l.Tracking)
    (hr : l.TracksRound r) (hviews : l.SubscribedViewable) :
    (∀ l', l.step r = some l' → l'.SubscribedViewable) ↔ l.KeepsViews r := by
  rw [subscribedViewable_iff_views hl.self] at hviews
  have hafter : (∀ l', l.step r = some l' → l'.SubscribedViewable) ↔
      ∀ l', l.step r = some l' → l'.state.cache.ViewsSubscribed l'.state.subscribed :=
    forall₂_congr fun _ h => subscribedViewable_iff_views (hasSelf_step hl.self h)
  rw [hafter, forall_step_iff hl.self Cache.ViewsSubscribed]
  refine forall₂_congr fun l₁ hflush => ?_
  have hviews₁ : l.state.cache.ViewsSubscribed l₁.state.subscribed := by
    intro t ht channel hchannel
    rcases mem_of_flush hl.logged hflush ht with ht | ⟨server, hserver, rfl⟩
    · exact hviews t ht channel hchannel
    · exact absurd (HashMap.mem_iff_exists_lookup.mpr ⟨channel, hchannel⟩) (hr.1 server hserver)
  rw [Round.effect]
  rcases hevent : r.event with - | event
  · exact iff_of_true hviews₁ fun _ h => by cases h
  · obtain ⟨user, huser⟩ := hl.self
    simp only [some.injEq, forall_eq']
    exact Cache.viewsSubscribed_effect huser hl.complete hviews₁ (hr.2 event hevent)

/-- Creations in a known server are as the API publishes them. -/
theorem tracks_creation {db : Database} (h : "server" ∈ l.state.cache.servers) :
    EachStep step TracksRound l [creation db id] := by
  rw [eachStep_cons]
  refine ⟨⟨nofun, fun event hevent => ?_⟩, fun _ _ => eachStep_nil⟩
  obtain rfl := some.inj hevent
  intro id' hid'
  obtain rfl := some.inj hid'
  exact HashMap.mem_iff_exists_lookup.mp h

/-- Creations of channels that one database lets our user see. -/
theorem keepsViews_creation (hself : l.HasSelf) (hc : l.state.cache.Complete)
    (db : Database) (hserver : "server" ∈ l.state.cache.servers)
    (h : l.state.cache.sees db (.textChannel { id := id, server := "server" }) = true) :
    EachStep step KeepsViews l [creation db id] := by
  obtain ⟨user, huser⟩ := hself
  refine eachStep_cons.mpr ⟨fun _ _ event hevent => ?_, fun _ _ => eachStep_nil⟩
  obtain rfl := some.inj hevent
  refine Cache.views_of_sees huser hc (fun id' hid' => ?_) db h
  obtain rfl := some.inj hid'
  exact HashMap.mem_iff_exists_lookup.mp hserver

/-- One database is enough to tell that all cached channels can be viewed. -/
theorem viewable_of_sees {s : State} (hself : (start s).HasSelf) (hc : s.cache.Complete)
    (db : Database) (h : ∀ e ∈ s.cache.channels.toList, s.cache.sees db e.2 = true) (t : String)
    (ch : TextChannel) (hch : s.cache.channels.lookup t = some (.textChannel ch))
    (db' : Database) (clock : Stream' Timestamp) :
    s.cache.canViewChannel db' clock (.textChannel ch) = some true := by
  obtain ⟨user, huser⟩ := hself
  replace huser : s.cache.users.lookup s.cache.userId = some user := huser
  have hview := Cache.views_of_sees huser hc (fun id => hc.channels t _ id hch) db
    (h (t, .textChannel ch) (HashMap.mem_toList_iff.mpr hch))
  rw [canViewChannel_eq_sees huser, hview db']

section Session

variable {db : Database} {redis : Redis} {order : IterOrder} {clock : Stream' Timestamp}
  {fields : ReadyPayloadFields} {s₀ s : State} {ready : ReadyPayload}
  (hready : Handler.exec (State.generateReadyPayload db redis order clock fields) s₀
    = (.ok ready, s))

include hready

/-- A session that has sent its Ready payload. -/
theorem tracking_start (hcomplete : s.cache.Complete) : (start s).Tracking := by
  obtain ⟨d, -, -, -, huser, -⟩ := cache_generateReadyPayload hready
  obtain ⟨-, -, -, -, hreset, -⟩ := generateReadyPayload_ok hready
  exact ⟨⟨d.user, huser⟩, .inl hreset, hcomplete⟩

/-- **Every subscribed text channel is viewable**, along a run of events that the
API publishes, exactly when the payload's own records see the channels it shows
and no event of the run brings a hidden channel under a subscribed topic. -/
theorem subscribed_viewable_iff (hcomplete : s.cache.Complete) {rounds : List Round}
    (htracks : EachStep step TracksRound (start s) rounds) :
    Always step SubscribedViewable (start s) rounds ↔
      (∀ t ch, s.cache.channels.lookup t = some (.textChannel ch) →
        ∀ db clock, s.cache.canViewChannel db clock (.textChannel ch) = some true) ∧
      EachStep step KeepsViews (start s) rounds := by
  have hstart : (start s).SubscribedViewable ↔
      ∀ t ch, s.cache.channels.lookup t = some (.textChannel ch) →
        ∀ db clock, s.cache.canViewChannel db clock (.textChannel ch) = some true :=
    ⟨fun h t ch hch => h t (subscribed_generateReadyPayload hready hch) ch hch,
      fun h t _ ch hch => h t ch hch⟩
  rw [← hstart]
  exact always_iff_eachStep (fun _ _ _ hl hr h => tracking_step hl hr h)
    (fun _ _ hl hr hviews => subscribedViewable_step hl hr hviews)
    (tracking_start hready hcomplete) htracks

end Session

/-- Alice sees what is created in a server that shows everything. -/
theorem subscribed_viewable_iff_callState :
    Always step SubscribedViewable (start callState) [creation callDb.database "news"] := by
  obtain ⟨ready, hready⟩ := exec_callState
  have hcomplete : callState.cache.Complete := by decide +kernel
  have hself : (start callState).HasSelf := (tracking_start hready hcomplete).self
  refine (subscribed_viewable_iff hready hcomplete (tracks_creation (by decide +kernel))).mpr
    ⟨viewable_of_sees hself hcomplete callDb.database (by decide +kernel),
      keepsViews_creation hself hcomplete callDb.database (by decide +kernel) (by decide +kernel)⟩

/-- The topic is subscribed, and the channel it belongs to cannot be viewed. -/
def hiddenSubscribed (db : Database) (t : String) (l : Listener) : Bool :=
  decide (t ∈ l.state.subscribed) &&
    match l.state.cache.channels.lookup t with
    | some (.textChannel ch) =>
      l.state.cache.canViewChannel db (Stream'.const 0) (.textChannel ch) == some false
    | _ => false

theorem not_subscribedViewable (db : Database) (t : String)
    (h : l.hiddenSubscribed db t = true) : ¬ l.SubscribedViewable := by
  intro hviews
  rw [hiddenSubscribed, Bool.and_eq_true, decide_eq_true_eq] at h
  obtain ⟨ht, h⟩ := h
  split at h
  · rename_i ch hch
    rw [hviews t ht ch hch] at h
    cases h
  · cases h

/-- Alice cannot view the new channel, and is subscribed to it. -/
theorem creation_subscribes_hidden :
    (∃ ready, Handler.exec (State.generateReadyPayload quietDb.database callRedis .insertion
      (Stream'.const 0) {}) (State.from { id := "alice" } "session") = (.ok ready, quietState)) ∧
    quietState.cache.Complete ∧
    EachStep step TracksRound (start quietState) [creation quietDb.database "secret"] ∧
    ¬ Always step SubscribedViewable (start quietState) [creation quietDb.database "secret"] := by
  refine ⟨Handler.exists_exec_ok (by decide +kernel), by decide +kernel,
    tracks_creation (by decide +kernel), ?_⟩
  exact not_always_of_run (fun _ => not_subscribedViewable quietDb.database "secret")
    (by decide +kernel)

end Listener

end DawnChat
