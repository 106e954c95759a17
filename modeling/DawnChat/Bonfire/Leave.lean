/-
DawnChat/Bonfire/Leave.lean

Leaving a server (`bonfire/src/events/impl.rs`, `bonfire/src/events/state.rs`).

When the session's user leaves a server, or the server is deleted, the handler
drops the server's topic, the channels that the cached server lists, and the
cached server and membership.  `leave_drops_iff` says when nothing of the server
is left after the next flush, from any state that a session can reach.  Two
things stay behind otherwise: the topic for member events, which the handler
does not know about, and cached channels that the cached server does not list,
such as the ones created during the session.
-/
import DawnChat.Bonfire.Listener

namespace DawnChat

open RustStd Fallible SetLog Run List

/-- The id is not a topic for member events: ids are in upper case. -/
def PlainId (id : String) : Prop := ∀ server, id ≠ memberTopic server

theorem plainId_of_getLast {id : String} (h : id.toList.getLast? ≠ some 'u') : PlainId id := by
  rintro server rfl
  rw [memberTopic, String.toList_append] at h
  exact h (getLast?_concat ..)

namespace Cache

/-- The channels of a server that the session knows: cached ones, and those the
cached server lists. -/
def ChannelOf (c : Cache) (serverId t : String) : Prop :=
  t ∈ c.listed serverId ∨
    ∃ channel, c.channels.lookup t = some channel ∧ channel.server = some serverId

/-- The event takes our user out of the server. -/
def Leaves (c : Cache) (serverId : String) (event : EventV1) : Prop :=
  event = .serverMemberLeave serverId c.userId ∨ event = .serverDelete serverId

/-- What leaving does. -/
theorem effect_leaves {c : Cache} {serverId : String} {event : EventV1}
    (h : c.Leaves serverId event) (db : Database) (now : Timestamp) :
    (c.effect db now event).cache = c.withoutServer serverId ∧
      (c.effect db now event).calls = .remove serverId :: (c.listed serverId).map .remove := by
  have hmatched : c.matched db now event = c.left serverId event := by
    rcases h with rfl | rfl
    · exact if_pos rfl
    · rfl
  rw [effect_plain c db now event (by rw [hmatched]; rfl), hmatched]
  exact ⟨rfl, rfl⟩

/-- The cache holds nothing of the server. -/
def Forgot (c : Cache) (serverId : String) : Prop :=
  serverId ∉ c.servers ∧ serverId ∉ c.members ∧
    ∀ t channel, c.channels.lookup t = some channel → channel.server ≠ some serverId

/-- The handler forgets the channels that the server lists. -/
theorem forgot_withoutServer (c : Cache) (serverId : String) :
    (c.withoutServer serverId).Forgot serverId ↔
      ∀ t channel, c.channels.lookup t = some channel → channel.server = some serverId →
        t ∈ c.listed serverId := by
  have hlookup : ∀ t, (c.withoutServer serverId).channels.lookup t
      = if t ∈ c.listed serverId then none else c.channels.lookup t :=
    c.lookup_dropChannels (c.listed serverId)
  constructor
  · rintro ⟨-, -, h⟩ t channel ht hs
    by_contra hnot
    refine h t channel ?_ hs
    rw [hlookup, if_neg hnot, ht]
  · intro h
    refine ⟨?_, ?_, fun t channel ht hs => ?_⟩
    · show serverId ∉ c.servers.erase serverId
      rw [AList.mem_erase]
      exact fun hmem => hmem.1 rfl
    · show serverId ∉ c.members.erase serverId
      rw [AList.mem_erase]
      exact fun hmem => hmem.1 rfl
    · rw [hlookup] at ht
      split at ht
      · cases ht
      · rename_i hnot
        exact hnot (h t channel ht hs)

end Cache

/-! ### The topics after the next flush -/

/-- The calls from the time the event is handled to the next flush. -/
def Cache.leaveCalls (c : Cache) (serverId : String) (entries : List TimedEntry) :
    List (Op String) :=
  (.remove serverId :: (c.listed serverId).map .remove) ++ activeServerChanges c.isBot entries

section LeaveCalls

variable {c : Cache} {serverId t : String} {entries : List TimedEntry}

theorem insert_mem_leaveCalls :
    .insert t ∈ c.leaveCalls serverId entries ↔
      c.isBot = false ∧ ∃ server, .valid server ∈ entries ∧ t = memberTopic server := by
  rw [Cache.leaveCalls, mem_append, insert_mem_activeServerChanges]
  simp

theorem remove_mem_leaveCalls :
    .remove t ∈ c.leaveCalls serverId entries ↔
      t = serverId ∨ t ∈ c.listed serverId ∨
        c.isBot = false ∧ ∃ server, .expired server ∈ entries ∧ t = memberTopic server := by
  rw [Cache.leaveCalls, mem_append, remove_mem_activeServerChanges]
  simp [or_assoc]

end LeaveCalls

namespace Listener

/-- A message and the flush after it, in a session that has just flushed. -/
theorem mem_flush_receive {l l₂ l₃ : Listener} {r : Round} {entries : List TimedEntry}
    (hself : l.HasSelf) (hnone : l.state.state = .none) (hreceive : l.receive r = some l₂)
    (hnext : l₂.flush entries = some l₃) {calls : List (Op String)}
    (hcalls : (r.effect l.state.cache).calls
      ++ activeServerChanges l₂.state.cache.isBot entries = calls) (t : String) :
    t ∈ l₃.state.subscribed ↔
      t ∈ replay l.state.subscribed calls ∧ t ∉ removed l.state.subscribed calls := by
  subst hcalls
  obtain ⟨subs, hrun, -, -, hreceive'⟩ := receive_effect r hself (by rw [hnone]; exact nofun)
  obtain rfl := Option.some.inj (hreceive'.symm.trans hreceive)
  obtain ⟨s, hactive, hstate⟩ := flush_eq_some hnext
  have hcalls : run Subscriptions.call ⟨.none, l.state.subscribed⟩
      ((r.effect l.state.cache).calls
        ++ activeServerChanges (r.effect l.state.cache).cache.isBot entries) = some s := by
    rw [run_append, ← hnone, show (⟨l.state.state, l.state.subscribed⟩ : Subscriptions)
      = l.state.toSubscriptions from rfl, hrun]
    exact hactive
  have hmem := Subscriptions.mem_flush_iff hcalls (t := t)
  rw [(Subscriptions.run_call_ok hcalls).1] at hmem
  rw [hstate]
  exact hmem

/-- Nothing of the server is left; `c` is the cache in which the event met the
session. -/
structure Dropped (serverId : String) (c : Cache) (l : Listener) : Prop where
  server : serverId ∉ l.state.subscribed
  members : memberTopic serverId ∉ l.state.subscribed
  channels : ∀ t, c.ChannelOf serverId t → t ∉ l.state.subscribed
  cache : l.state.cache.Forgot serverId

/-- The message is handled, and after the next flush nothing of the server is
left. -/
def LeaveDrops (serverId : String) (r : Round) (entries : List TimedEntry) (l : Listener) : Prop :=
  ∃ l₂ l₃, l.receive r = some l₂ ∧ l₂.flush entries = some l₃ ∧
    Dropped serverId l.state.cache l₃

section Leave

variable {l l₂ l₃ : Listener} {r : Round} {entries : List TimedEntry} {serverId : String}
  {event : EventV1} (hself : l.HasSelf) (hnone : l.state.state = .none)
  (hevent : r.event = some event) (hleaves : l.state.cache.Leaves serverId event)

include hevent hleaves

/-- The cache and the calls that leaving leads to. -/
theorem effect_leave (entries : List TimedEntry) :
    (r.effect l.state.cache).cache = l.state.cache.withoutServer serverId ∧
      (r.effect l.state.cache).calls
          ++ activeServerChanges (r.effect l.state.cache).cache.isBot entries
        = l.state.cache.leaveCalls serverId entries := by
  obtain ⟨hcache, hcalls⟩ := Cache.effect_leaves hleaves r.db r.clock.head
  rw [Round.effect, hevent]
  dsimp only
  rw [hcache, hcalls]
  exact ⟨rfl, rfl⟩

include hself hnone

section Flush

variable (hreceive : l.receive r = some l₂) (hnext : l₂.flush entries = some l₃)

include hreceive hnext

/-- The topics after leaving and the next flush. -/
theorem mem_flush_leave {t : String}
    (hway : .insert t ∈ l.state.cache.leaveCalls serverId entries →
      .remove t ∉ l.state.cache.leaveCalls serverId entries) :
    t ∈ l₃.state.subscribed ↔
      (t ∈ l.state.subscribed ∨ .insert t ∈ l.state.cache.leaveCalls serverId entries) ∧
        .remove t ∉ l.state.cache.leaveCalls serverId entries := by
  obtain ⟨subs, -, -, -, hreceive'⟩ := receive_effect r hself (by rw [hnone]; exact nofun)
  obtain rfl := Option.some.inj (hreceive'.symm.trans hreceive)
  have hmem := mem_flush_receive hself hnone hreceive hnext
    (effect_leave hevent hleaves entries).2 t
  rw [hmem, ← mem_replay_of_one_way hway]
  refine ⟨fun h => h.1, fun h => ⟨h, fun hrem => ?_⟩⟩
  exact ((mem_replay_of_one_way hway).mp h).2 (remove_mem_of_mem_removed hrem)

/-- Plain ids: what the handler removes is gone. -/
theorem mem_flush_leave_plain {t : String} (ht : PlainId t) :
    t ∈ l₃.state.subscribed ↔
      t ∈ l.state.subscribed ∧ t ≠ serverId ∧ t ∉ l.state.cache.listed serverId := by
  have hinsert : .insert t ∉ l.state.cache.leaveCalls serverId entries := by
    rw [insert_mem_leaveCalls]
    rintro ⟨-, server, -, rfl⟩
    exact ht server rfl
  have hexpired : ¬ ∃ server, .expired server ∈ entries ∧ t = memberTopic server := by
    rintro ⟨server, -, rfl⟩
    exact ht server rfl
  rw [mem_flush_leave hself hnone hevent hleaves hreceive hnext fun h => absurd h hinsert,
    remove_mem_leaveCalls]
  simp only [hinsert, hexpired, and_false, or_false, not_or]

/-- The topic for member events: only flushing changes it. -/
theorem memberTopic_mem_flush_leave (hserver : PlainId serverId)
    (hlisted : ∀ t ∈ l.state.cache.listed serverId, PlainId t)
    (hentries : .valid serverId ∈ entries → .expired serverId ∉ entries) :
    memberTopic serverId ∈ l₃.state.subscribed ↔
      (memberTopic serverId ∈ l.state.subscribed ∨
        l.state.cache.isBot = false ∧ .valid serverId ∈ entries) ∧
      ¬ (l.state.cache.isBot = false ∧ .expired serverId ∈ entries) := by
  have htopic : ∀ P : String → Prop,
      (∃ server, P server ∧ memberTopic serverId = memberTopic server) ↔ P serverId := by
    intro P
    constructor
    · rintro ⟨server, hP, heq⟩
      rwa [memberTopic_injective heq]
    · intro hP
      exact ⟨serverId, hP, rfl⟩
  have hinsert : .insert (memberTopic serverId) ∈ l.state.cache.leaveCalls serverId entries ↔
      l.state.cache.isBot = false ∧ .valid serverId ∈ entries := by
    rw [insert_mem_leaveCalls, htopic fun server => .valid server ∈ entries]
  have hremove : .remove (memberTopic serverId) ∈ l.state.cache.leaveCalls serverId entries ↔
      l.state.cache.isBot = false ∧ .expired serverId ∈ entries := by
    have hne : memberTopic serverId ≠ serverId := (hserver serverId).symm
    have hnot : memberTopic serverId ∉ l.state.cache.listed serverId :=
      fun hmem => hlisted _ hmem serverId rfl
    rw [remove_mem_leaveCalls, htopic fun server => .expired server ∈ entries]
    simp only [hne, hnot, false_or]
  rw [mem_flush_leave hself hnone hevent hleaves hreceive hnext, hinsert, hremove]
  rw [hinsert, hremove]
  exact fun hvalid hexpired => hentries hvalid.2 hexpired.2

end Flush

/-- **Leaving a server drops everything of it** exactly when all its cached channels
are listed and the topic for its member events goes as well. -/
theorem leaveDrops_iff (hserver : PlainId serverId)
    (hchannels : ∀ t, l.state.cache.ChannelOf serverId t → PlainId t)
    (hentries : .valid serverId ∈ entries → .expired serverId ∉ entries) :
    LeaveDrops serverId r entries l ↔
      (∀ t channel, l.state.cache.channels.lookup t = some channel →
        channel.server = some serverId → t ∈ l.state.cache.listed serverId) ∧
      (l.state.cache.isBot = false → .valid serverId ∉ entries) ∧
      (memberTopic serverId ∈ l.state.subscribed →
        l.state.cache.isBot = false ∧ .expired serverId ∈ entries) := by
  obtain ⟨subs, -, -, hreset, hreceive⟩ := receive_effect r hself (by rw [hnone]; exact nofun)
  set l₂ : Listener := { l with
    state := { l.state with toSubscriptions := subs, cache := (r.effect l.state.cache).cache } }
  obtain ⟨l₃, hnext⟩ := exists_flush (l := l₂) (r := { r with entries := entries }) (.inl hreset)
  have hcache₃ : l₃.state.cache = l.state.cache.withoutServer serverId := by
    rw [(flush_ok hnext).1]
    exact (effect_leave hevent hleaves entries).1
  have hdrops : LeaveDrops serverId r entries l ↔ Dropped serverId l.state.cache l₃ := by
    constructor
    · rintro ⟨l₂', l₃', hreceive', hnext', h⟩
      obtain rfl := Option.some.inj (hreceive.symm.trans hreceive')
      obtain rfl := Option.some.inj (hnext.symm.trans hnext')
      exact h
    · exact fun h => ⟨l₂, l₃, hreceive, hnext, h⟩
  have hplain := fun {t} => mem_flush_leave_plain hself hnone hevent hleaves hreceive hnext (t := t)
  have hmember := memberTopic_mem_flush_leave hself hnone hevent hleaves hreceive hnext hserver
    (fun t ht => hchannels t (.inl ht)) hentries
  rw [hdrops]
  constructor
  · rintro ⟨-, hmembers, -, hforgot⟩
    rw [hcache₃, Cache.forgot_withoutServer] at hforgot
    rw [hmember] at hmembers
    refine ⟨hforgot, fun hbot hvalid => ?_, fun hmem => ?_⟩
    · exact hmembers ⟨.inr ⟨hbot, hvalid⟩, fun hexpired => hentries hvalid hexpired.2⟩
    · by_contra hexpired
      exact hmembers ⟨.inl hmem, hexpired⟩
  · rintro ⟨hlisted, hvalid, hexpired⟩
    refine ⟨?_, ?_, fun t ht => ?_, ?_⟩
    · rw [hplain hserver]
      exact fun h => h.2.1 rfl
    · rw [hmember]
      rintro ⟨hmem | ⟨hbot, hmem⟩, hnot⟩
      · exact hnot (hexpired hmem)
      · exact hvalid hbot hmem
    · rw [hplain (hchannels t ht)]
      rintro ⟨-, -, hnot⟩
      rcases ht with ht | ⟨channel, hchannel, hs⟩
      · exact hnot ht
      · exact hnot (hlisted t channel hchannel hs)
    · rw [hcache₃, Cache.forgot_withoutServer]
      exact hlisted

end Leave

/-- **Leaving a server drops everything of it**, from any state that a session can
reach, exactly when the cached server lists all cached channels, and flushing
gives up the topic for member events. -/
theorem leave_drops_iff {db : Database} {redis : Redis} {order : IterOrder}
    {clock : Stream' Timestamp} {fields : ReadyPayloadFields} {s₀ s : State} {ready : ReadyPayload}
    (hready : Handler.exec (State.generateReadyPayload db redis order clock fields) s₀
      = (.ok ready, s))
    {rounds : List Round} {l l₁ : Listener} (hrun : run step (start s) rounds = some l)
    {r : Round} (hflush : l.flush r.entries = some l₁) {event : EventV1}
    (hevent : r.event = some event) {serverId : String}
    (hleaves : l₁.state.cache.Leaves serverId event) (hserver : PlainId serverId)
    (hchannels : ∀ t, l₁.state.cache.ChannelOf serverId t → PlainId t) {entries : List TimedEntry}
    (hentries : .valid serverId ∈ entries → .expired serverId ∉ entries) :
    LeaveDrops serverId r entries l₁ ↔
      (∀ t channel, l₁.state.cache.channels.lookup t = some channel →
        channel.server = some serverId → t ∈ l₁.state.cache.listed serverId) ∧
      (l₁.state.cache.isBot = false → .valid serverId ∉ entries) ∧
      (memberTopic serverId ∈ l₁.state.subscribed →
        l₁.state.cache.isBot = false ∧ .expired serverId ∈ entries) := by
  obtain ⟨d, -, -, -, huser, -⟩ := State.cache_generateReadyPayload hready
  obtain ⟨hcache, hnone⟩ := flush_ok hflush
  have hself : l.HasSelf := hasSelf_run (l := start s) ⟨d.user, huser⟩ hrun
  have hself₁ : l₁.HasSelf := by
    rw [HasSelf, State.cloneUser, hcache]
    exact hself
  exact leaveDrops_iff hself₁ hnone hevent hleaves hserver hchannels hentries

/-- Alice leaves the server. -/
def leaving : Round :=
  ⟨callDb.database, Stream'.const 0, [], some (.serverMemberLeave "server" "alice")⟩

/-- Alice leaves with nothing but the listed channel. -/
def Tidy (s : State) : Prop :=
  s.cache.userId = "alice" ∧ memberTopic "server" ∉ s.subscribed ∧
    (∀ t ∈ s.cache.listed "server", t.toList.getLast? ≠ some 'u') ∧
    ∀ e ∈ s.cache.channels.toList, e.1.toList.getLast? ≠ some 'u' ∧
      (e.2.server = some "server" → e.1 ∈ s.cache.listed "server")

instance (s : State) : Decidable (Tidy s) := inferInstanceAs (Decidable (_ ∧ _ ∧ _ ∧ _))

/-- The first flush of a session adds nothing. -/
theorem tidy_flush {s : State} {l₁ : Listener} (hreset : s.state = .reset) (h : Tidy s)
    (hflush : (start s).flush leaving.entries = some l₁) :
    l₁.state.cache.Leaves "server" (.serverMemberLeave "server" "alice") ∧
      (∀ t, l₁.state.cache.ChannelOf "server" t → PlainId t) ∧
      (∀ t channel, l₁.state.cache.channels.lookup t = some channel →
        channel.server = some "server" → t ∈ l₁.state.cache.listed "server") ∧
      memberTopic "server" ∉ l₁.state.subscribed := by
  obtain ⟨huser, htopic, hlisted, hchannels⟩ := h
  have hcache : l₁.state.cache = s.cache := (flush_ok hflush).1
  have hcached : ∀ {t channel}, s.cache.channels.lookup t = some channel →
      t.toList.getLast? ≠ some 'u' ∧
        (channel.server = some "server" → t ∈ s.cache.listed "server") :=
    fun {t channel} ht => hchannels (t, channel) (HashMap.mem_toList_iff.mpr ht)
  rw [hcache]
  refine ⟨.inl (by rw [huser]), ?_, fun t channel ht hs => (hcached ht).2 hs, fun hmem => ?_⟩
  · rintro t (ht | ⟨channel, ht, -⟩)
    · exact plainId_of_getLast (hlisted t ht)
    · exact plainId_of_getLast (hcached ht).1
  · rcases mem_of_flush (l := start s) (.inl hreset) hflush hmem with hmem | ⟨_, hentry, -⟩
    · exact htopic hmem
    · exact absurd hentry not_mem_nil

/-- Alice leaves, and her session forgets the server. -/
theorem leave_drops_iff_callState :
    ∃ l₁, (start callState).flush [] = some l₁ ∧ LeaveDrops "server" leaving [] l₁ := by
  obtain ⟨ready, hready⟩ := exec_callState
  obtain ⟨-, -, -, -, hreset, -⟩ := State.generateReadyPayload_ok hready
  obtain ⟨l₁, hflush⟩ := exists_flush (l := start callState) (r := leaving) (.inr nofun)
  obtain ⟨hleaves, hplain, hlisted, htopic⟩ := tidy_flush hreset (by decide +kernel) hflush
  have hrun : run step (start callState) [] = some (start callState) := rfl
  refine ⟨l₁, hflush, (leave_drops_iff hready hrun hflush rfl hleaves
    (plainId_of_getLast (by decide)) hplain fun h => absurd h not_mem_nil).mpr ?_⟩
  exact ⟨hlisted, fun _ => not_mem_nil, fun hmem => absurd hmem htopic⟩

/-- After the message and the next flush the topic is still there, and it belongs to
the server. -/
def keepsTopic (serverId t : String) (r : Round) (entries : List TimedEntry) (l : Listener) :
    Bool :=
  (t == memberTopic serverId ||
      (l.state.cache.channels.lookup t).any (·.server == some serverId)) &&
    ((l.receive r).bind (·.flush entries)).any fun l₃ => decide (t ∈ l₃.state.subscribed)

theorem not_leaveDrops {serverId t : String} {r : Round} {entries : List TimedEntry} {l : Listener}
    (h : l.keepsTopic serverId t r entries = true) : ¬ LeaveDrops serverId r entries l := by
  rintro ⟨l₂, l₃, hreceive, hflush, hdropped⟩
  rw [keepsTopic, Bool.and_eq_true, hreceive, Option.bind_some, hflush, Option.any_some,
    decide_eq_true_eq, Bool.or_eq_true, beq_iff_eq, Option.any_eq_true] at h
  obtain ⟨htopic, hmem⟩ := h
  rcases htopic with rfl | ⟨channel, hchannel, hs⟩
  · exact hdropped.members hmem
  · exact hdropped.channels t (.inr ⟨channel, hchannel, eq_of_beq hs⟩) hmem

/-- Alice is a bot. -/
def botUser : User := { id := "alice", bot := some { owner := "owner" } }

def botDb : ReferenceDb :=
  { callDb with users := HashMap.collect [("alice", botUser), ("bob", { id := "bob" })] }

/-- The server is deleted. -/
def deletion : Round := ⟨botDb.database, Stream'.const 0, [], some (.serverDelete "server")⟩

/-- A bot stays subscribed to the member events of a server that is deleted, and a
user to a channel that was created during the session. -/
theorem leaving_keeps_topics :
    (∃ ready s l₁, Handler.exec (State.generateReadyPayload botDb.database callRedis .insertion
        (Stream'.const 0) {}) (State.from botUser "session") = (.ok ready, s) ∧
      (start s).flush [] = some l₁ ∧ ¬ LeaveDrops "server" deletion [] l₁) ∧
    ∃ l l₁, run step (start callState) [creation callDb.database "news"] = some l ∧
      l.flush [] = some l₁ ∧ ¬ LeaveDrops "server" leaving [] l₁ := by
  constructor
  · obtain ⟨ready, s, hready, hcheck⟩ : ∃ ready s, Handler.exec (State.generateReadyPayload
        botDb.database callRedis .insertion (Stream'.const 0) {}) (State.from botUser "session")
          = (.ok ready, s) ∧
        ((start s).flush []).any (keepsTopic "server" (memberTopic "server") deletion []) :=
      Handler.exists_exec_ok_decide (by decide +kernel)
    obtain ⟨l₁, hflush, hkeeps⟩ := (Option.any_eq_true _ _).mp hcheck
    exact ⟨ready, s, l₁, hready, hflush, not_leaveDrops hkeeps⟩
  · have hcheck : ((run step (start callState) [creation callDb.database "news"]).any fun l =>
        (l.flush []).any (keepsTopic "server" "news" leaving [])) = true := by
      decide +kernel
    obtain ⟨l, hrun, hany⟩ := (Option.any_eq_true _ _).mp hcheck
    obtain ⟨l₁, hflush, hkeeps⟩ := (Option.any_eq_true _ _).mp hany
    exact ⟨l, l₁, hrun, hflush, not_leaveDrops hkeeps⟩

end Listener

end DawnChat
