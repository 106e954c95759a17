/-
DawnChat/Bonfire/Views.lean

Subscriptions and what the session's user may see, event by event
(`bonfire/src/events/impl.rs`, `handle_incoming_event_v1`).

Whoever listens to the topic of a channel gets its messages, so a session
should only be subscribed to text channels that its user can view
(`ViewsSubscribed`).  A cache that knows the server and our membership of every
text channel judges it without the database (`Complete`, `sees_of_known`).

The handler re-determines the channels of a server whenever roles, memberships
or default permissions change, and `viewsSubscribed_recalculated` says that
this settles all of them.  Where nothing is recalculated, the events differ:
`KeepsViews` is the condition each of them needs, and `viewsSubscribed_effect`
says that it is exact.
-/
import DawnChat.Bonfire.Effect

namespace DawnChat

open RustStd Fallible SetLog Run HashMap DatabasePermissionQuery Option AList

namespace Cache

/-! ### Views -/

/-- The session's user sees the channel, whatever the database says. -/
def Views (c : Cache) (channel : Channel) : Prop := ∀ db, c.sees db channel = true

/-- Every cached channel whose topic is in `S` can be viewed. -/
def ViewsSubscribed (c : Cache) (S : Finset String) : Prop :=
  ∀ t ∈ S, ∀ channel, c.channels.lookup t = some channel → c.Views channel

/-- The cache knows what it takes to judge its text channels: their servers, and
our membership in every server. -/
structure Complete (c : Cache) : Prop where
  servers : ∀ id server, c.servers.lookup id = some server →
    server.id = id ∧ ∃ member, c.members.lookup id = some member
  channels : ∀ t channel id, c.channels.lookup t = some channel → channel.server = some id →
    ∃ server, c.servers.lookup id = some server

theorem complete_iff {c : Cache} :
    c.Complete ↔ (∀ e ∈ c.servers.toList, e.2.id = e.1 ∧ e.1 ∈ c.members) ∧
      ∀ e ∈ c.channels.toList, ∀ id ∈ e.2.server, id ∈ c.servers := by
  constructor
  · intro h
    refine ⟨fun e he => ?_, fun e he id hid => ?_⟩
    · obtain ⟨hid, hmember⟩ := h.servers e.1 e.2 (mem_toList_iff.mp he)
      exact ⟨hid, mem_iff_exists_lookup.mpr hmember⟩
    · exact mem_iff_exists_lookup.mpr
        (h.channels e.1 e.2 id (mem_toList_iff.mp he) hid)
  · rintro ⟨hservers, hchannels⟩
    refine ⟨fun id server h => ?_, fun t channel id h hid => ?_⟩
    · obtain ⟨hid, hmember⟩ := hservers (id, server) (mem_toList_iff.mpr h)
      exact ⟨hid, mem_iff_exists_lookup.mp hmember⟩
    · exact mem_iff_exists_lookup.mp
        (hchannels (t, channel) (mem_toList_iff.mpr h) id hid)

instance (c : Cache) : Decidable c.Complete := decidable_of_iff _ complete_iff.symm

/-- The view of a channel depends on our user, the server and our membership. -/
theorem sees_congr {c c' : Cache} (db : Database) {channel : Channel}
    (huser : c'.users.lookup c'.userId = c.users.lookup c.userId)
    (hserver : ∀ id, channel.server = some id → c'.servers.lookup id = c.servers.lookup id)
    (hmember : ∀ id, channel.server = some id → c'.members.lookup id = c.members.lookup id) :
    c'.sees db channel = c.sees db channel := by
  cases channel with
  | textChannel ch =>
    rw [sees, sees, canViewChannel, canViewChannel]
    simp only [channelQuery, huser, hserver ch.server rfl, hmember ch.server rfl]
  | savedMessages _ => rfl
  | directMessage _ => rfl
  | group _ => rfl

theorem views_of_server_none (c : Cache) {channel : Channel} (h : channel.server = none) :
    c.Views channel := by
  intro db
  cases channel with
  | textChannel ch => cases h
  | savedMessages _ => rfl
  | directMessage _ => rfl
  | group _ => rfl

section Known

variable {c : Cache} {user : User} (huser : c.users.lookup c.userId = some user)

include huser

variable {ch : TextChannel} {server : Server} {member : Member}

section Server

variable (hserver : c.servers.lookup ch.server = some server) (hid : server.id = ch.server)
  (hmember : c.members.lookup ch.server = some member)

include hserver hid hmember

/-- In a server that the cache knows, the database is not asked. -/
theorem sees_of_known (db : Database) :
    c.sees db (.textChannel ch)
      = (user.privileged || (decide (server.owner = user.id)
          || viewGranted server ch member.roles)) := by
  rw [sees, canViewChannel_textChannel huser db _ (Stream'.const 0) ch]
  simp [seesChannel, channelServer, ourMember, channelQuery, new, hserver, hid, hmember]

theorem views_iff :
    c.Views (.textChannel ch) ↔ user.privileged = true ∨ server.owner = user.id ∨
      viewGranted server ch member.roles = true := by
  have hsees := sees_of_known huser hserver hid hmember
  constructor
  · intro h
    simpa [hsees] using h (ReferenceDb.database {})
  · intro h db
    simpa [hsees] using h

end Server

theorem views_of_sees (hc : c.Complete) {channel : Channel}
    (hknown : ∀ id, channel.server = some id → ∃ server, c.servers.lookup id = some server)
    (db : Database) (h : c.sees db channel = true) : c.Views channel := by
  rcases hs : channel.server with - | id
  · exact c.views_of_server_none hs
  · obtain ⟨ch, rfl, rfl⟩ := Channel.server_eq_some.mp hs
    obtain ⟨server, hserver⟩ := hknown _ hs
    obtain ⟨hid, member, hmember⟩ := hc.servers _ _ hserver
    intro db'
    rw [sees_of_known huser hserver hid hmember] at h ⊢
    exact h

end Known

/-! ### Recalculating a server -/

/-- What the database has for the channels of a server are channels of that
server. -/
def LoadsOwn (c : Cache) (db : Database) (id : String) : Prop :=
  ∀ server ids channels channel, c.servers.lookup id = some server → ids ⊆ server.channels →
    db.fetchChannels ids = .ok channels → channel ∈ channels →
    ∀ id', channel.server = some id' → id' = id

section Recalculated

variable {c : Cache} {db : Database} {id : String} (hload : c.LoadsOwn db id)

include hload

/-- Loaded channels belong to the server that was recalculated. -/
theorem LoadsOwn.server_of_loadable {server : Server} (hserver : c.servers.lookup id = some server)
    {channel : Channel} (h : channel ∈ c.loadable db (c.unknown id server)) {id' : String}
    (hs : channel.server = some id') : id' = id := by
  obtain ⟨channels, hfetch, hmem, -⟩ := mem_loadable h
  exact hload server _ channels channel hserver (fun _ h => (mem_unknown.mp h).1) hfetch hmem
    id' hs

theorem complete_recalculated (hc : c.Complete) (event : EventV1) :
    (c.recalculated db id event).cache.Complete := by
  rcases hserver : c.servers.lookup id with - | server
  · rw [recalculated, hserver]
    exact hc
  · obtain ⟨channels, hframe⟩ := c.recalculated_frame db id event
    refine ⟨by rw [hframe]; exact hc.servers, fun t channel id' ht hs => ?_⟩
    rw [hframe]
    obtain ⟨hloaded, -⟩ | ⟨-, -, hold⟩ := cached_recalculated db hserver event ht
    · obtain rfl := hload.server_of_loadable hserver hloaded hs
      exact ⟨server, hserver⟩
    · exact hc.channels t channel id' hold hs

/-- **Recalculating a server settles its channels**: what was right about the
channels of other servers is right about all of them afterwards. -/
theorem viewsSubscribed_recalculated {user : User} (huser : c.users.lookup c.userId = some user)
    (hc : c.Complete) (event : EventV1) {S : Finset String}
    (h : ∀ t ∈ S, ∀ channel, c.channels.lookup t = some channel → channel.server ≠ some id →
      c.Views channel) :
    (c.recalculated db id event).cache.ViewsSubscribed
      (replay S (c.recalculated db id event).calls) := by
  rcases hserver : c.servers.lookup id with - | server
  · rw [recalculated, hserver]
    intro t ht channel hlookup
    refine h t ht channel hlookup fun hs => ?_
    obtain ⟨server, hserver'⟩ := hc.channels t channel id hlookup hs
    cases hserver.symm.trans hserver'
  · obtain ⟨channels, hframe⟩ := c.recalculated_frame db id event
    intro t ht channel hchannel
    rw [mem_replay_recalculated db hserver event] at ht
    rw [hframe]
    show c.Views channel
    obtain ⟨hloaded, -⟩ | ⟨hnew, hhidden, hold⟩ := cached_recalculated db hserver event hchannel
    · obtain ⟨-, -, -, hsees⟩ := mem_loadable hloaded
      refine views_of_sees huser hc (fun id' hs => ?_) db hsees
      obtain rfl := hload.server_of_loadable hserver hloaded hs
      exact ⟨server, hserver⟩
    · -- an old channel: it is not hidden, so it is shown or belongs elsewhere
      by_cases hs : channel.server = some id
      · refine views_of_sees huser hc (fun id' => hc.channels t channel id' hold) db ?_
        by_contra hsees
        exact hhidden (mem_hidden.mpr ⟨channel, hold, hs, by simpa using hsees⟩)
      · have htS : t ∈ S := by
          rcases ht with ⟨ht | ht, -⟩ | ht
          · exact ht
          · obtain ⟨channel', hchannel', hs', -⟩ := mem_shown.mp ht
            obtain rfl := some.inj (hold.symm.trans hchannel')
            exact absurd hs' hs
          · exact absurd ht hnew
        exact h t htS channel hold hs

end Recalculated

/-! ### Changes in place -/

section InPlace

variable {c : Cache} {id : String} {f : Server → Server} {channel : Channel}

theorem complete_updateServer (hc : c.Complete)
    (hf : ∀ server, (f server).id = server.id) : (c.updateServer id f).Complete := by
  have hlookup := lookup_modify_eq c.servers id (f := f)
  constructor
  · intro id' server h
    replace h := (hlookup id').symm.trans h
    split at h
    · obtain ⟨server, hserver, rfl⟩ := map_eq_some_iff.mp h
      rw [hf]
      exact hc.servers id' server hserver
    · exact hc.servers id' server h
  · intro t channel id' ht hs
    obtain ⟨server, hserver⟩ := hc.channels t channel id' ht hs
    show ∃ server, (c.servers.modify id f).lookup id' = some server
    rw [hlookup, hserver]
    split
    · exact ⟨_, rfl⟩
    · exact ⟨_, rfl⟩

theorem complete_updateMember (hc : c.Complete) (f : Member → Member) :
    (c.updateMember id f).Complete := by
  refine ⟨fun id' server h => ?_, hc.channels⟩
  obtain ⟨hid, member, hmember⟩ := hc.servers id' server h
  refine ⟨hid, ?_⟩
  show ∃ member, (c.members.modify id f).lookup id' = some member
  rw [lookup_modify_eq, hmember]
  split
  · exact ⟨_, rfl⟩
  · exact ⟨_, rfl⟩

/-- The channels of other servers are viewed as before. -/
theorem views_updateServer_ne (f : Server → Server)
    (h : channel.server ≠ some id) : (c.updateServer id f).Views channel ↔ c.Views channel := by
  have hsees : ∀ db, (c.updateServer id f).sees db channel = c.sees db channel := fun db =>
    sees_congr db rfl
      (fun id' hs => lookup_modify_ne (fun heq : id' = id => h (heq ▸ hs)) _ _)
      fun _ _ => rfl
  simp only [Views, hsees]

theorem views_updateMember_ne (f : Member → Member)
    (h : channel.server ≠ some id) : (c.updateMember id f).Views channel ↔ c.Views channel := by
  have hsees : ∀ db, (c.updateMember id f).sees db channel = c.sees db channel := fun db =>
    sees_congr db rfl (fun _ _ => rfl)
      fun id' hs => lookup_modify_ne (fun heq : id' = id => h (heq ▸ hs)) _ _
  simp only [Views, hsees]

variable {user : User} (huser : c.users.lookup c.userId = some user) (hc : c.Complete)

include huser hc

/-- The channels of the server itself, when its overrides stay. -/
theorem views_updateServer {ch : TextChannel} {server : Server}
    {member : Member} (hserver : c.servers.lookup ch.server = some server)
    (hmember : c.members.lookup ch.server = some member) (hid : (f server).id = server.id)
    (hgranted : viewGranted (f server) ch member.roles = viewGranted server ch member.roles) :
    (c.updateServer ch.server f).Views (.textChannel ch) ↔
      user.privileged = true ∨ (f server).owner = user.id ∨
        viewGranted server ch member.roles = true := by
  have hserver' : (c.updateServer ch.server f).servers.lookup ch.server = some (f server) := by
    show (c.servers.modify ch.server f).lookup ch.server = _
    rw [lookup_modify, hserver]
    rfl
  rw [← hgranted]
  refine views_iff (c := c.updateServer ch.server f) huser hserver' ?_ hmember
  rw [hid]
  exact (hc.servers _ _ hserver).1

end InPlace

/-! ### One event -/

/-- The server of the channel is cached. -/
def KnowsServerOf (c : Cache) (channel : Channel) : Prop :=
  ∀ id, channel.server = some id → ∃ server, c.servers.lookup id = some server

/-- The events about servers and their channels, as the API publishes them for
real changes: they concern servers that the cache knows, a server that was
joined comes with its own channels, an update changes neither a server's id nor
its roles, and what is fetched fits the cache. -/
def Tracks (c : Cache) (db : Database) (now : Timestamp) (event : EventV1) : Prop :=
  match event with
  | .channelCreate channel => c.KnowsServerOf channel
  | .channelUpdate id _ _ => ∀ channel, db.fetchChannel id = .ok channel → c.KnowsServerOf channel
  | .channelDelete _ => True
  | .serverCreate id server channels =>
    server.id = id ∧
    (∀ channel ∈ channels, ∀ id', channel.server = some id' → id' = id) ∧
    id ∉ (c.matched db now event).cache.channels ∧
    memberTopic id ∉ (c.matched db now event).cache.channels ∧
    (c.matched db now event).cache.LoadsOwn db id
  | .serverUpdate id data _ =>
    data.id = none ∧ data.roles = none ∧ (c.matched db now event).cache.LoadsOwn db id
  | .serverMemberUpdate id _ _ => (c.matched db now event).cache.LoadsOwn db id.server
  | .serverRoleUpdate id _ _ _ => (c.matched db now event).cache.LoadsOwn db id
  | .serverRoleDelete id _ => (c.matched db now event).cache.LoadsOwn db id
  | _ => False

/-- Our user would see the channel if the server belonged to `owner`. -/
def ViewsUnder (c : Cache) (owner : String) (ch : TextChannel) : Prop :=
  ∀ user server member, c.users.lookup c.userId = some user →
    c.servers.lookup ch.server = some server → c.members.lookup ch.server = some member →
    user.privileged = true ∨ owner = user.id ∨ viewGranted server ch member.roles = true

/-- What it takes for an event to keep every subscribed channel viewable: a new
channel can be viewed, a channel that is fetched under a subscribed topic can be
viewed, and a new owner leaves the channels viewable. -/
def KeepsViews (c : Cache) (S : Finset String) (db : Database) : EventV1 → Prop
  | .channelCreate channel => c.Views channel
  | .channelUpdate id _ _ =>
    id ∈ S → id ∉ c.channels → ∀ channel, db.fetchChannel id = .ok channel → c.Views channel
  | .serverUpdate id data _ =>
    data.defaultPermissions = none → ∀ owner, data.owner = some owner →
      ∀ t ∈ S, ∀ ch, c.channels.lookup t = some (.textChannel ch) → ch.server = id →
        c.ViewsUnder owner ch
  | _ => True

section Step

variable {c : Cache} {S : Finset String} (hviews : c.ViewsSubscribed S)

include hviews

theorem viewsSubscribed_channelCreate (channel : Channel) :
    (c.addChannels [channel]).ViewsSubscribed (insert channel.id S) ↔ c.Views channel := by
  have hlookup : ∀ t, (c.addChannels [channel]).channels.lookup t
      = if t = channel.id then some channel else c.channels.lookup t := by
    intro t
    show (c.channels.insert channel.id channel).lookup t = _
    by_cases ht : t = channel.id
    · rw [if_pos ht, ht, lookup_insert]
    · rw [if_neg ht, lookup_insert_ne ht]
  constructor
  · intro h
    exact h channel.id (Finset.mem_insert_self _ _) channel (by rw [hlookup, if_pos rfl])
  · intro h t ht channel' hchannel'
    show c.Views channel'
    rw [hlookup] at hchannel'
    split at hchannel'
    · obtain rfl := some.inj hchannel'
      exact h
    · rename_i hne
      exact hviews t ((Finset.mem_insert.mp ht).resolve_left hne) channel' hchannel'

theorem viewsSubscribed_channelDelete (id : String) :
    (c.dropChannels [id]).ViewsSubscribed (S.erase id) := by
  intro t ht channel hchannel
  obtain ⟨hne, htS⟩ := Finset.mem_erase.mp ht
  rw [lookup_dropChannels, if_neg (by simpa using hne)] at hchannel
  exact hviews t htS channel hchannel

variable {user : User} (huser : c.users.lookup c.userId = some user) (hc : c.Complete)
  {db : Database}

include huser hc

theorem viewsSubscribed_channelUpdate (now : Timestamp) (id : String) (data : PartialChannel)
    (clear : List FieldsChannel)
    (hfetch : ∀ channel, db.fetchChannel id = .ok channel → c.KnowsServerOf channel) :
    (c.effect db now (.channelUpdate id data clear)).cache.ViewsSubscribed
        (replay S (c.effect db now (.channelUpdate id data clear)).calls) ↔
      c.KeepsViews S db (.channelUpdate id data clear) := by
  have hlookup := lookup_updateChannel_fetchMissing c db id data clear
  have hmem := mem_replay_channelUpdate c db now id data clear S
  dsimp only at hmem
  have hcache : (c.effect db now (.channelUpdate id data clear)).cache
      = (c.updateChannel id data clear).fetchMissing db id := by
    rw [effect_channelUpdate]
  obtain ⟨channels, hframe⟩ := (c.updateChannel id data clear).fetchMissing_frame db id
  rw [hcache]
  set c' := (c.updateChannel id data clear).fetchMissing db id
  have hviews' : ∀ channel, c'.Views channel ↔ c.Views channel := by
    intro channel
    rw [hframe]
    exact Iff.rfl
  -- only the topic of the channel itself matters
  have hiff : c'.ViewsSubscribed
        (replay S (c.effect db now (.channelUpdate id data clear)).calls) ↔
      (id ∈ replay S (c.effect db now (.channelUpdate id data clear)).calls →
        ∀ channel, c'.channels.lookup id = some channel → c.Views channel) := by
    constructor
    · intro h hid channel hchannel
      exact (hviews' channel).mp (h id hid channel hchannel)
    · intro h t ht channel hchannel
      rw [hviews']
      by_cases hid : t = id
      · subst hid
        exact h ht channel hchannel
      · rw [hmem, if_neg fun h => hid h.1] at ht
        rw [hlookup, if_neg hid] at hchannel
        exact hviews t ht channel hchannel
  -- a channel that is in view afterwards is no problem
  have hsees : ∀ channel, c'.channels.lookup id = some channel → c.KnowsServerOf channel →
      c'.seesCached db id = true → c.Views channel := by
    intro channel hchannel hknown hcan
    rw [seesCached_updated hchannel] at hcan
    exact views_of_sees huser hc hknown db hcan
  -- a topic that is there came into view, or it was there and is seen as before
  have htopic : id ∈ replay S (c.effect db now (.channelUpdate id data clear)).calls →
      c'.seesCached db id = true ∨ c.seesCached db id = c'.seesCached db id ∧ id ∈ S := by
    intro hid
    rw [hmem] at hid
    split at hid
    next => exact .inl hid
    next hsame => exact .inr ⟨by_contra fun hne => hsame ⟨rfl, hne⟩, hid⟩
  rw [hiff, KeepsViews]
  rcases hold : c.channels.lookup id with - | old
  · -- the channel is fetched
    have hnew := lookup_updateChannel_fetched hold db data clear
    constructor
    · intro h hid _ channel hchannel
      refine h ?_ channel ((hnew channel).mpr hchannel)
      rw [hmem, seesCached_of_none hold db]
      cases c'.seesCached db id <;> simp [hid]
    · intro h hid channel hchannel
      have hfetched := (hnew channel).mp hchannel
      rcases htopic hid with hcan | ⟨-, hid⟩
      · exact hsees channel hchannel (hfetch channel hfetched) hcan
      · exact h hid (lookup_eq_none.mp hold) channel hfetched
  · -- the channel was cached; where its topic was subscribed, it was seen
    refine ⟨fun _ _ hnot => absurd (mem_iff_exists_lookup.mpr ⟨old, hold⟩) hnot,
      fun _ hid channel hchannel => ?_⟩
    have hnew : (clear.foldl Channel.removeField old).applyOptions data = channel := by
      rw [hlookup, if_pos rfl, hold] at hchannel
      exact some.inj hchannel
    have hknown : c.KnowsServerOf channel := by
      intro id' hs
      rw [← hnew, (Channel.update_keeps old data clear).2] at hs
      exact hc.channels id old id' hold hs
    rcases htopic hid with hcan | ⟨hsame, hid⟩
    · exact hsees channel hchannel hknown hcan
    · have hsaw : c.seesCached db id = true := by
        rw [seesCached, hold]
        exact hviews id hid old hold db
      exact hsees channel hchannel hknown (hsame ▸ hsaw)

variable {id : String}

theorem viewsSubscribed_updateMember {f : Member → Member}
    (hroles : ∀ member, (f member).roles = member.roles) :
    (c.updateMember id f).ViewsSubscribed S := by
  intro t ht channel hchannel
  have hview := hviews t ht channel hchannel
  by_cases hs : channel.server = some id
  · obtain ⟨ch, rfl, rfl⟩ := Channel.server_eq_some.mp hs
    obtain ⟨server, hserver⟩ := hc.channels t _ _ hchannel hs
    obtain ⟨hid, member, hmember⟩ := hc.servers _ _ hserver
    have hmember' : (c.updateMember ch.server f).members.lookup ch.server = some (f member) := by
      show (c.members.modify ch.server f).lookup ch.server = _
      rw [lookup_modify, hmember]
      rfl
    refine (views_iff (c := c.updateMember ch.server f) huser hserver hid hmember').mpr ?_
    rw [hroles]
    exact (views_iff huser hserver hid hmember).mp hview
  · exact (views_updateMember_ne f hs).mpr hview

variable {f : Server → Server} (hid : ∀ server, (f server).id = server.id)
  (hgranted : ∀ ch server member, c.servers.lookup id = some server →
    c.members.lookup id = some member →
    viewGranted (f server) ch member.roles = viewGranted server ch member.roles)

include hid hgranted

/-- A change of a server that keeps its overrides leaves the question who owns
it. -/
theorem viewsSubscribed_updateServer_iff :
    (c.updateServer id f).ViewsSubscribed S ↔
      ∀ t ∈ S, ∀ ch, c.channels.lookup t = some (.textChannel ch) → ch.server = id →
        ∀ server member, c.servers.lookup ch.server = some server →
          c.members.lookup ch.server = some member →
          user.privileged = true ∨ (f server).owner = user.id ∨
            viewGranted server ch member.roles = true := by
  constructor
  · rintro h t ht ch hch rfl server member hserver hmember
    exact (views_updateServer huser hc hserver hmember (hid server)
      (hgranted ch server member hserver hmember)).mp (h t ht _ hch)
  · intro h t ht channel hchannel
    by_cases hs : channel.server = some id
    · obtain ⟨ch, rfl, rfl⟩ := Channel.server_eq_some.mp hs
      obtain ⟨server, hserver⟩ := hc.channels t _ _ hchannel hs
      obtain ⟨-, member, hmember⟩ := hc.servers _ _ hserver
      exact (views_updateServer huser hc hserver hmember (hid server)
        (hgranted ch server member hserver hmember)).mpr
          (h t ht ch hchannel rfl server member hserver hmember)
    · exact (views_updateServer_ne f hs).mpr (hviews t ht channel hchannel)

/-- Where the owner stays as well, nothing changes. -/
theorem viewsSubscribed_updateServer (howner : ∀ server, (f server).owner = server.owner) :
    (c.updateServer id f).ViewsSubscribed S := by
  refine (viewsSubscribed_updateServer_iff hviews huser hc hid hgranted).mpr ?_
  intro t ht ch hch _ server member hserver hmember
  rw [howner]
  exact (views_iff huser hserver (hc.servers _ _ hserver).1 hmember).mp (hviews t ht _ hch)

end Step

/-! ### A server that was joined -/

section Joined

variable {c : Cache} {now : Timestamp} {id : String} {server : Server} {channels : List Channel}
  (hown : ∀ channel ∈ channels, ∀ id', channel.server = some id' → id' = id)

include hown

theorem complete_withServer (hc : c.Complete) (hid : server.id = id) :
    (c.withServer now id server channels).Complete := by
  constructor
  · intro id' server' h
    replace h : (c.servers.insert id server).lookup id' = some server' := h
    show _ ∧ ∃ member, (c.members.insert id _).lookup id' = some member
    by_cases heq : id' = id
    · subst heq
      rw [lookup_insert] at h ⊢
      obtain rfl := some.inj h
      exact ⟨hid, _, rfl⟩
    · rw [lookup_insert_ne heq] at h ⊢
      exact hc.servers id' server' h
  · intro t channel id' ht hs
    replace ht := (c.lookup_addChannels channels t).symm.trans ht
    show ∃ server', (c.servers.insert id server).lookup id' = some server'
    by_cases heq : id' = id
    · subst heq
      exact ⟨server, lookup_insert _⟩
    · rw [lookup_insert_ne heq]
      obtain ⟨hnew, -⟩ | ⟨-, hold⟩ := recordOf_or ht
      · exact absurd (hown _ hnew id' hs) heq
      · exact hc.channels t channel id' hold hs

/-- The channels of other servers are viewed as before. -/
theorem views_withServer {S : Finset String} (hviews : c.ViewsSubscribed S) {t : String}
    (ht : t ∈ S) {channel : Channel}
    (hchannel : (c.withServer now id server channels).channels.lookup t = some channel)
    (hs : channel.server ≠ some id) : (c.withServer now id server channels).Views channel := by
  replace hchannel := (c.lookup_addChannels channels t).symm.trans hchannel
  obtain ⟨hnew, -⟩ | ⟨-, hold⟩ := recordOf_or hchannel
  · rcases hserver : channel.server with - | id'
    · exact views_of_server_none _ hserver
    · obtain rfl := hown channel hnew id' hserver
      exact absurd hserver hs
  · intro db
    rw [← hviews t ht channel hold db]
    exact sees_congr db rfl
      (fun id' hs' => lookup_insert_ne fun heq : id' = id => hs (heq ▸ hs'))
      fun id' hs' => lookup_insert_ne fun heq : id' = id => hs (heq ▸ hs')

end Joined

/-! ### Every event -/

section Effect

variable {c : Cache} {db : Database} {now : Timestamp} {event : EventV1} {id : String}

section Queued

variable (c db now event) (queued : Bool) {sent : EventV1}

/-- A change of a server, after which the server may be recalculated. -/
theorem complete_effect_queued (hc : (c.matched db now event).cache.Complete)
    (hload : (c.matched db now event).cache.LoadsOwn db id)
    (hvalue : (c.matched db now event).value
      = some { event := sent, queueServer := if queued then some id else none }) :
    (c.effect db now event).cache.Complete := by
  cases queued with
  | false =>
    rw [effect_plain c db now event hvalue]
    exact hc
  | true =>
    rw [effect_queued c db now event hvalue]
    exact complete_recalculated hload hc sent

theorem viewsSubscribed_effect_queued {user : User}
    (huser : (c.matched db now event).cache.users.lookup (c.matched db now event).cache.userId
      = some user) (hc : (c.matched db now event).cache.Complete)
    (hload : (c.matched db now event).cache.LoadsOwn db id) {S : Finset String}
    (hother : ∀ t ∈ replay S (c.matched db now event).calls, ∀ channel,
      (c.matched db now event).cache.channels.lookup t = some channel →
      channel.server ≠ some id → (c.matched db now event).cache.Views channel)
    (hplain : queued = false → (c.matched db now event).cache.ViewsSubscribed
      (replay S (c.matched db now event).calls))
    (hvalue : (c.matched db now event).value
      = some { event := sent, queueServer := if queued then some id else none }) :
    (c.effect db now event).cache.ViewsSubscribed (replay S (c.effect db now event).calls) := by
  cases queued with
  | false =>
    rw [effect_plain c db now event hvalue]
    exact hplain rfl
  | true =>
    rw [effect_queued c db now event hvalue, replay_append]
    exact viewsSubscribed_recalculated hload huser hc sent hother

end Queued

/-- The cache stays complete. -/
theorem complete_effect (hc : c.Complete) (htracks : c.Tracks db now event) :
    (c.effect db now event).cache.Complete := by
  cases event with
  | channelCreate channel =>
    rw [effect_plain c db now _ rfl]
    refine ⟨hc.servers, fun t channel' id' ht hs => ?_⟩
    replace ht := (c.lookup_addChannels [channel] t).symm.trans ht
    obtain ⟨hnew, -⟩ | ⟨-, hold⟩ := recordOf_or ht
    · obtain rfl := List.mem_singleton.mp hnew
      exact htracks id' hs
    · exact hc.channels t channel' id' hold hs
  | channelUpdate id data clear =>
    rw [effect_channelUpdate]
    obtain ⟨channels, hframe⟩ := (c.updateChannel id data clear).fetchMissing_frame db id
    refine ⟨?_, fun t channel id' ht hs => ?_⟩
    · rw [hframe]
      exact hc.servers
    · have hknown : ∃ server, c.servers.lookup id' = some server := by
        rcases cached_or_fetched ht with ⟨old, hold, -, hserver⟩ | ⟨rfl, hfetch⟩
        · exact hc.channels t old id' hold (hserver ▸ hs)
        · exact htracks channel hfetch id' hs
      rw [hframe]
      exact hknown
  | channelDelete id =>
    rw [effect_plain c db now _ rfl]
    refine ⟨hc.servers, fun t channel id' ht hs => ?_⟩
    replace ht := (c.lookup_dropChannels [id] t).symm.trans ht
    split at ht
    · cases ht
    · exact hc.channels t channel id' ht hs
  | serverCreate id server channels =>
    obtain ⟨hid, hown, -, -, hload⟩ := htracks
    exact complete_effect_queued c db now _ true (complete_withServer hown hc hid) hload rfl
  | serverUpdate id data clear =>
    obtain ⟨hid, -, hload⟩ := htracks
    refine complete_effect_queued c db now _ _ (complete_updateServer hc fun server => ?_) hload
      rfl
    show data.id.getD _ = _
    rw [hid, (server.foldl_removeField_keeps clear).1]
    rfl
  | serverMemberUpdate id data clear =>
    by_cases hself : id.user = c.userId
    · have hmatched := matched_serverMemberUpdate db now hself data clear
      refine complete_effect_queued c db now _ (data.roles.isSome || clear.contains .roles) ?_
        htracks (by rw [hmatched])
      rw [hmatched]
      exact complete_updateMember hc _
    · have hmatched := matched_serverMemberUpdate_ne db now hself data clear
      rw [effect_plain c db now _ (by rw [hmatched]), hmatched]
      exact hc
  | serverRoleUpdate id roleId data clear | serverRoleDelete id roleId =>
    exact complete_effect_queued c db now _ _ (complete_updateServer hc fun _ => rfl) htracks rfl
  | _ => exact htracks.elim

section EachEvent

variable {user : User} (huser : c.users.lookup c.userId = some user) (hc : c.Complete)
  {S : Finset String} (hviews : c.ViewsSubscribed S)

include huser hc hviews

/-- Without new default permissions, an update of a server matters when it names
an owner. -/
theorem viewsSubscribed_serverUpdate {data : PartialServer} {clear : List FieldsServer}
    (hid : data.id = none) (hroles : data.roles = none)
    (hload : (c.matched db now (.serverUpdate id data clear)).cache.LoadsOwn db id) :
    (c.effect db now (.serverUpdate id data clear)).cache.ViewsSubscribed
        (replay S (c.effect db now (.serverUpdate id data clear)).calls) ↔
      c.KeepsViews S db (.serverUpdate id data clear) := by
  have hkeeps : ∀ server : Server,
      ((clear.foldl Server.removeField server).applyOptions data).id = server.id := by
    intro server
    show data.id.getD _ = _
    rw [hid, (server.foldl_removeField_keeps clear).1]
    rfl
  have hvalue : ∀ queued, data.defaultPermissions.isSome = queued →
      (c.matched db now (.serverUpdate id data clear)).value
        = some { event := .serverUpdate id data clear,
                 queueServer := if queued then some id else none } := by
    rintro _ rfl
    rfl
  cases hdefault : data.defaultPermissions with
  | some permissions =>
    refine iff_of_true ?_ fun hnone => ?_
    · refine viewsSubscribed_effect_queued c db now (.serverUpdate id data clear) true huser
        (complete_updateServer hc hkeeps) hload ?_ nofun (hvalue true (by rw [hdefault]; rfl))
      exact fun t ht channel hchannel hs =>
        (views_updateServer_ne _ hs).mpr (hviews t ht channel hchannel)
    · rw [hdefault] at hnone
      cases hnone
  | none =>
    rw [effect_plain c db now _ (hvalue false (by rw [hdefault]; rfl))]
    have hgranted : ∀ ch server member, c.servers.lookup id = some server →
        c.members.lookup id = some member →
        viewGranted ((clear.foldl Server.removeField server).applyOptions data) ch member.roles
          = viewGranted server ch member.roles := by
      intro ch server member _ _
      obtain ⟨-, -, hroles', hdefault'⟩ := server.foldl_removeField_keeps clear
      refine viewGranted_congr ?_ ?_ ch member.roles
      · show data.roles.getD _ = _
        rw [hroles]
        exact hroles'
      · show data.defaultPermissions.getD _ = _
        rw [hdefault]
        exact hdefault'
    refine (viewsSubscribed_updateServer_iff hviews huser hc hkeeps hgranted).trans ?_
    constructor
    · intro h _ owner howner t ht ch hch hserver user' server member huser' hs hm
      obtain rfl := some.inj (huser.symm.trans huser')
      have hview := h t ht ch hch hserver server member hs hm
      rwa [show ((clear.foldl Server.removeField server).applyOptions data).owner = owner from
        congrArg (Option.getD · _) howner] at hview
    · intro h t ht ch hch hserver server member hs hm
      cases howner : data.owner with
      | some owner =>
        rw [show ((clear.foldl Server.removeField server).applyOptions data).owner = owner from
          congrArg (Option.getD · _) howner]
        exact h hdefault owner howner t ht ch hch hserver user server member huser hs hm
      | none =>
        rw [show ((clear.foldl Server.removeField server).applyOptions data).owner
          = (clear.foldl Server.removeField server).owner from
            congrArg (Option.getD · _) howner, (server.foldl_removeField_keeps clear).2.1]
        exact (views_iff huser hs (hc.servers _ _ hs).1 hm).mp (hviews t ht _ hch)

/-- The channels of a server that was joined are all determined. -/
theorem viewsSubscribed_serverCreate {server : Server} {channels : List Channel}
    (htracks : c.Tracks db now (.serverCreate id server channels)) :
    (c.effect db now (.serverCreate id server channels)).cache.ViewsSubscribed
      (replay S (c.effect db now (.serverCreate id server channels)).calls) := by
  obtain ⟨hid, hown, htopic, hmemberTopic, hload⟩ := htracks
  refine viewsSubscribed_effect_queued c db now (.serverCreate id server channels) true huser
    (complete_withServer hown hc hid) hload ?_ nofun rfl
  intro t ht channel hchannel hs
  have htS : t ∈ S ∨ t = id ∨ t = memberTopic id := by
    replace ht : t ∈ replay S (.insert id :: if c.isBot then [.insert (memberTopic id)]
      else []) := ht
    cases hbot : c.isBot <;> simp [hbot, replay, Op.apply] at ht <;> tauto
  rcases htS with ht | rfl | rfl
  · exact views_withServer hown hviews ht hchannel hs
  · exact absurd (mem_iff_exists_lookup.mpr ⟨channel, hchannel⟩) htopic
  · exact absurd (mem_iff_exists_lookup.mpr ⟨channel, hchannel⟩) hmemberTopic

/-- Our membership only matters for its roles, and new roles recalculate the
server. -/
theorem viewsSubscribed_serverMemberUpdate {key : MemberCompositeKey} {data : PartialMember}
    {clear : List FieldsMember}
    (hload : (c.matched db now (.serverMemberUpdate key data clear)).cache.LoadsOwn db
      key.server) :
    (c.effect db now (.serverMemberUpdate key data clear)).cache.ViewsSubscribed
      (replay S (c.effect db now (.serverMemberUpdate key data clear)).calls) := by
  by_cases hself : key.user = c.userId
  · have hmatched := matched_serverMemberUpdate db now hself data clear
    have huser' : (c.matched db now (.serverMemberUpdate key data clear)).cache.users.lookup
        (c.matched db now (.serverMemberUpdate key data clear)).cache.userId = some user := by
      rw [hmatched]
      exact huser
    refine viewsSubscribed_effect_queued c db now _
      (data.roles.isSome || clear.contains .roles) huser' ?_ hload ?_ ?_ (by rw [hmatched])
    all_goals rw [hmatched]
    · exact complete_updateMember hc _
    · exact fun t ht channel hchannel hs =>
        (views_updateMember_ne _ hs).mpr (hviews t ht channel hchannel)
    · intro hqueued
      obtain ⟨hroles, hclear⟩ := Bool.or_eq_false_iff.mp hqueued
      refine viewsSubscribed_updateMember hviews huser hc fun member => ?_
      show data.roles.getD _ = _
      have hkept : FieldsMember.roles ∉ clear := by simpa using hclear
      have hnone : data.roles = none := by simpa using hroles
      rw [hnone, Member.foldl_removeField]
      exact if_neg hkept
  · have hmatched := matched_serverMemberUpdate_ne db now hself data clear
    rw [effect_plain c db now _ (by rw [hmatched]), hmatched]
    exact hviews

/-- An event about a role, which changes the server in the cache. -/
theorem viewsSubscribed_role {queued : Bool} {f : Server → Server}
    (hmatched : c.matched db now event
      = { value := some { event := event, queueServer := if queued then some id else none }
          cache := c.updateServer id f }) (hload : (c.matched db now event).cache.LoadsOwn db id)
    (hid : ∀ server, (f server).id = server.id) (howner : ∀ server, (f server).owner = server.owner)
    (hgranted : queued = false → ∀ ch server member, c.servers.lookup id = some server →
      c.members.lookup id = some member →
      viewGranted (f server) ch member.roles = viewGranted server ch member.roles) :
    (c.effect db now event).cache.ViewsSubscribed (replay S (c.effect db now event).calls) := by
  have huser' : (c.matched db now event).cache.users.lookup
      (c.matched db now event).cache.userId = some user := by
    rw [hmatched]
    exact huser
  refine viewsSubscribed_effect_queued c db now event queued huser' ?_ hload ?_ ?_
    (by rw [hmatched])
  all_goals rw [hmatched]
  · exact complete_updateServer hc hid
  · exact fun t ht channel hchannel hs =>
      (views_updateServer_ne _ hs).mpr (hviews t ht channel hchannel)
  · exact fun hqueued => viewsSubscribed_updateServer hviews huser hc hid (hgranted hqueued) howner

/-- **One event.**  Every subscribed channel is viewable afterwards exactly when the
event meets the condition. -/
theorem viewsSubscribed_effect (htracks : c.Tracks db now event) :
    (c.effect db now event).cache.ViewsSubscribed (replay S (c.effect db now event).calls) ↔
      c.KeepsViews S db event := by
  cases event with
  | channelCreate channel =>
    rw [effect_plain c db now _ rfl]
    exact viewsSubscribed_channelCreate hviews channel
  | channelUpdate id data clear =>
    exact viewsSubscribed_channelUpdate hviews huser hc now id data clear htracks
  | channelDelete id =>
    rw [effect_plain c db now _ rfl]
    exact iff_of_true (viewsSubscribed_channelDelete hviews id) trivial
  | serverCreate id server channels =>
    exact iff_of_true (viewsSubscribed_serverCreate huser hc hviews htracks) trivial
  | serverUpdate id data clear =>
    obtain ⟨hid, hroles, hload⟩ := htracks
    exact viewsSubscribed_serverUpdate huser hc hviews hid hroles hload
  | serverMemberUpdate id data clear =>
    exact iff_of_true (viewsSubscribed_serverMemberUpdate huser hc hviews htracks) trivial
  | serverRoleUpdate id roleId data clear =>
    refine iff_of_true (viewsSubscribed_role huser hc hviews rfl htracks (fun _ => rfl)
      (fun _ => rfl) ?_) trivial
    intro hqueued ch server member _ hmember
    refine viewGranted_modifyRole server ch fun hheld role => ?_
    -- we hold the role, so neither rank nor permissions are in the update
    have hholds : State.holdsRole c id roleId = true := by simp [State.holdsRole, hmember, hheld]
    rw [hholds, Bool.and_true, Bool.or_eq_false_iff] at hqueued
    obtain ⟨-, hrank, hpermissions⟩ := role.foldl_removeField_keeps clear
    have hnoRank : data.rank = none := by simpa using hqueued.1
    have hnoPermissions : data.permissions = none := by simpa using hqueued.2
    constructor
    · show data.rank.getD _ = _
      rw [hnoRank]
      exact hrank
    · show data.permissions.getD _ = _
      rw [hnoPermissions]
      exact hpermissions
  | serverRoleDelete id roleId =>
    refine iff_of_true (viewsSubscribed_role huser hc hviews rfl htracks (fun _ => rfl)
      (fun _ => rfl) ?_) trivial
    intro hqueued ch server member _ hmember
    refine viewGranted_eraseRole server ch fun hheld => ?_
    rw [State.holdsRole, hmember] at hqueued
    simp [hheld] at hqueued
  | _ => exact htracks.elim

end EachEvent

end Effect

end Cache

end DawnChat
