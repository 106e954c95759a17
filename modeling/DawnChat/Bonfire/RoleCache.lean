/-
DawnChat/Bonfire/RoleCache.lean

The roles in a session's cache (`bonfire/src/events/impl.rs`).

A session keeps a copy of each of its server's roles and follows the events that
changes of roles publish.  `cached_roles_iff` says how far that goes, for any
history of `Role::create`, `Role::update`, `Role::delete` and
`Server::set_role_ordering` calls: updates and deletions are followed, but a new
role is published as an update, which only changes roles that are already in
the cache, and the event about a new order is not looked into at all.
-/
import DawnChat.Bonfire.Listener
import DawnChat.Servers.RoleEvents

namespace DawnChat

open RustStd Fallible Run HashMap List Option AList RoleChange

/-! ### Roles that agree -/

/-- What permissions depend on. -/
def Role.standing (role : Role) : Int × OverrideField := (role.rank, role.permissions)

/-- The same role ids, with the same ranks and permission overrides. -/
def SameRoles (a b : HashMap String Role) : Prop :=
  ∀ id, (a.lookup id).map Role.standing = (b.lookup id).map Role.standing

/-- The standing after an update depends on the standing before. -/
theorem Role.standing_update (role : Role) (p : PartialRole) (remove : List FieldsRole) :
    ((remove.foldl removeField role).applyOptions p).standing
      = (p.rank.getD role.standing.1, p.permissions.getD role.standing.2) := by
  obtain ⟨-, hrank, hpermissions⟩ := role.foldl_removeField_keeps remove
  show (p.rank.getD _, p.permissions.getD _) = _
  rw [hrank, hpermissions]
  rfl

namespace SameRoles

variable {a b c : HashMap String Role}

theorem refl (a : HashMap String Role) : SameRoles a a := fun _ => rfl

variable (h : SameRoles a b)

include h

theorem symm : SameRoles b a := fun id => (h id).symm

theorem trans (h' : SameRoles b c) : SameRoles a c :=
  fun id => (h id).trans (h' id)

theorem mem_iff {id : String} : id ∈ a ↔ id ∈ b := by
  have hid := congrArg Option.isSome (h id)
  rw [isSome_map, isSome_map] at hid
  rw [← lookup_isSome, ← lookup_isSome, hid]

/-- An update is followed. -/
theorem update (id : String) (p : PartialRole) (remove : List FieldsRole) :
    SameRoles (a.modify id fun role => (remove.foldl Role.removeField role).applyOptions p)
      (b.modify id fun role => (remove.foldl Role.removeField role).applyOptions p) := by
  intro id'
  rw [lookup_modify_eq, lookup_modify_eq]
  split
  · have hid := congrArg (Option.map fun standing : Int × OverrideField =>
      (p.rank.getD standing.1, p.permissions.getD standing.2)) (h id')
    simpa only [Option.map_map, Function.comp_def, Role.standing_update] using hid
  · exact h id'

/-- A deletion is followed. -/
theorem erase (id : String) : SameRoles (a.erase id) (b.erase id) := by
  intro id'
  by_cases hid : id' = id
  · rw [hid, lookup_erase, lookup_erase]
  · rw [lookup_erase_ne hid, lookup_erase_ne hid]
    exact h id'

/-- A creation is followed when the id is taken. -/
theorem create_iff (role : Role) :
    SameRoles (a.modify role.id fun cached => cached.applyOptions role.intoOptional)
      (b.insert role.id role) ↔ role.id ∈ b := by
  constructor
  · intro hnew
    have hmem : role.id ∈ a.modify role.id fun cached => cached.applyOptions role.intoOptional :=
      hnew.mem_iff.mpr ((mem_insert b).mpr (.inl rfl))
    rw [AList.mem_keys, keys_modify, ← AList.mem_keys] at hmem
    exact h.mem_iff.mp hmem
  · intro hid id'
    obtain ⟨cached, hcached⟩ := mem_iff_exists_lookup.mp (h.mem_iff.mpr hid)
    rw [lookup_modify_eq]
    by_cases heq : id' = role.id
    · rw [if_pos heq, heq, lookup_insert, hcached]
      rfl
    · rw [if_neg heq, lookup_insert_ne heq]
      exact h id'

end SameRoles

/-! ### One change -/

/-- What the session makes of an event about the roles of a server. -/
def EventV1.onRoles (roles : HashMap String Role) : EventV1 → HashMap String Role
  | .serverRoleUpdate _ roleId data clear =>
    roles.modify roleId fun role => (clear.foldl Role.removeField role).applyOptions data
  | .serverRoleDelete _ roleId => roles.erase roleId
  | _ => roles

/-- What it takes for a change to be followed: a role is not new, and a new order
leaves the ranks as they are. -/
def RoleChange.Followed (roles : HashMap String Role) : RoleChange → Prop
  | .create id _ => id ∈ roles
  | .setRoleOrdering newOrder => roles.len = newOrder.length →
      ∀ roles', Server.setRanks roles newOrder = some roles' → SameRoles roles roles'
  | _ => True

variable {serverId : String} {events : List EventV1} {change : RoleChange}
  {roles : HashMap String Role}

/-- **One change** of roles that agree. -/
theorem sameRoles_effect {a b b' : HashMap String Role} (h : SameRoles a b)
    (heffect : change.effect serverId b = some (b', events)) :
    SameRoles (events.foldl EventV1.onRoles a) b' ↔ change.Followed b := by
  cases outcome_of_effect heffect with
  | created role => exact h.create_iff role
  | updated roleId id p remove => exact iff_of_true (h.update id p remove) trivial
  | updateRefused roleId p remove | deleteRefused roleId => exact iff_of_true h trivial
  | deleted roleId id => exact iff_of_true (h.erase id) trivial
  | reordered hlen hranks =>
    constructor
    · intro hsame _ roles hroles
      obtain rfl := some.inj (hranks.symm.trans hroles)
      exact h.symm.trans hsame
    · intro hfollowed
      exact h.trans (hfollowed hlen _ hranks)

/-- Only a new order can panic, and then nothing changes. -/
theorem RoleChange.followed_of_panic (heffect : change.effect serverId roles = none) :
    change.Followed roles := by
  cases change with
  | create id name => cases heffect
  | update roleId p remove | delete roleId => exact trivial
  | setRoleOrdering newOrder =>
    intro hlen roles' hranks
    rw [effect, if_pos hlen, hranks] at heffect
    cases heffect

/-- The events are about the roles of the server. -/
def EventV1.OfRoles (serverId : String) (event : EventV1) : Prop :=
  (∃ roleId data clear, event = .serverRoleUpdate serverId roleId data clear) ∨
    (∃ roleId, event = .serverRoleDelete serverId roleId) ∨ event = .other

theorem RoleChange.ofRoles_effect {roles' : HashMap String Role}
    (heffect : change.effect serverId roles = some (roles', events)) :
    ∀ event ∈ events, event.OfRoles serverId := by
  intro event hevent
  cases outcome_of_effect heffect with
  | created role | updated roleId id p remove => exact .inl ⟨_, _, _, mem_singleton.mp hevent⟩
  | updateRefused roleId p remove | deleteRefused roleId => exact absurd hevent not_mem_nil
  | deleted roleId id => exact .inr (.inl ⟨_, mem_singleton.mp hevent⟩)
  | reordered hlen hranks => exact .inr (.inr (mem_singleton.mp hevent))

/-- What such an event does to the cached server. -/
theorem Cache.lookup_servers_effect (c : Cache) (db : Database) (now : Timestamp)
    {event : EventV1} (hevent : event.OfRoles serverId) :
    (c.effect db now event).cache.servers.lookup serverId
      = (c.servers.lookup serverId).map fun server =>
          { server with roles := event.onRoles server.roles } := by
  obtain ⟨channels, hframe⟩ := c.effect_frame db now event
  rw [hframe]
  rcases hevent with ⟨roleId, data, clear, rfl⟩ | ⟨roleId, rfl⟩ | rfl
  · exact lookup_modify _ _ _
  · exact lookup_modify _ _ _
  · show c.servers.lookup serverId = _
    rcases c.servers.lookup serverId with - | server
    · rfl
    · rfl

/-! ### Histories -/

/-- A change, with what the session meets while it handles the event. -/
structure Turn where
  change : RoleChange
  db : Database
  clock : Stream' Timestamp
  entries : List TimedEntry := []

/-- The round in which the session handles an event. -/
def Turn.round (t : Turn) (event : EventV1) : Round := ⟨t.db, t.clock, t.entries, some event⟩

/-- The stored servers, and a session that handles every event about roles. -/
structure Follower where
  db : ReferenceDb
  listener : Listener

namespace Follower

/-- One change, and the rounds that handle what it publishes. -/
def step (serverId : String) (f : Follower) (t : Turn) : Option Follower := do
  let out ← t.change.perform serverId f.db
  let l ← run Listener.step f.listener (out.sent.map fun p => t.round p.event)
  some ⟨out.store, l⟩

/-- The cached server has the roles of the stored server. -/
def Follows (serverId : String) (f : Follower) : Prop :=
  ∃ cached server, f.listener.state.cache.servers.lookup serverId = some cached ∧
    f.db.fetchServer serverId = .ok server ∧ SameRoles cached.roles server.roles

/-- The change is one that is followed. -/
def Followed (serverId : String) (f : Follower) (t : Turn) : Prop :=
  ∀ server, f.db.fetchServer serverId = .ok server → t.change.Followed server.roles

/-- The session can flush: an expired entry does not meet a reset. -/
def Flushes (f : Follower) (t : Turn) : Prop :=
  f.listener.state.state ≠ .reset ∨ ∀ server, .expired server ∉ t.entries

/-- What the turns of a history keep. -/
structure Known (serverId : String) (f : Follower) : Prop where
  self : f.listener.HasSelf
  cached : ∃ cached, f.listener.state.cache.servers.lookup serverId = some cached
  stored : ∃ server, f.db.fetchServer serverId = .ok server ∧ server.id = serverId

variable {t : Turn} {f : Follower}

/-- The rounds of a turn return, and leave the cached roles as the events say. -/
theorem exists_run {serverId : String} {l : Listener} (hself : l.HasSelf)
    (hflushes : l.state.state ≠ .reset ∨ ∀ server, .expired server ∉ t.entries)
    {events : List EventV1} (hevents : ∀ event ∈ events, event.OfRoles serverId) :
    ∃ l', run Listener.step l (events.map t.round) = some l' ∧ l'.HasSelf ∧
      l'.state.cache.servers.lookup serverId
        = (l.state.cache.servers.lookup serverId).map fun server =>
            { server with roles := events.foldl EventV1.onRoles server.roles } := by
  induction events generalizing l with
  | nil =>
    refine ⟨l, rfl, hself, ?_⟩
    rcases l.state.cache.servers.lookup serverId with - | server
    · rfl
    · rfl
  | cons event events ih =>
    obtain ⟨l₁, hstep⟩ := Listener.exists_step (r := t.round event) hself hflushes
    obtain ⟨-, -, -, -, hreset, hcache⟩ := Listener.step_effect hself hstep
    obtain ⟨l', hrun, hself', hlookup⟩ := ih (Listener.hasSelf_step hself hstep) (.inl hreset)
      fun event' hevent' => hevents event' (mem_cons_of_mem event hevent')
    refine ⟨l', ?_, hself', ?_⟩
    · rw [map_cons, run_cons, hstep]
      exact hrun
    · rw [hlookup, hcache]
      show Option.map _ ((l.state.cache.effect t.db t.clock.head event).cache.servers.lookup
        serverId) = _
      rw [Cache.lookup_servers_effect _ _ _ (hevents event mem_cons_self), Option.map_map]
      rfl

section Step

variable {serverId : String} {f : Follower} {t : Turn} {cached server : Server}
  (hself : f.listener.HasSelf)
  (hcached : f.listener.state.cache.servers.lookup serverId = some cached)
  (hserver : f.db.fetchServer serverId = .ok server) (hid : server.id = serverId)

include hserver hid

/-- A change that panics ends the history. -/
theorem step_eq_none (heffect : t.change.effect serverId server.roles = none) :
    f.step serverId t = none := by
  subst hid
  have hperform := perform_effect hserver t.change
  rw [heffect, map_none, map_eq_none_iff] at hperform
  rw [step, hperform]
  rfl

include hself hcached

/-- **One turn**: the stored and the cached roles. -/
theorem exists_step (hflushes : f.Flushes t) {roles : HashMap String Role} {events : List EventV1}
    (heffect : t.change.effect serverId server.roles = some (roles, events)) :
    ∃ f', f.step serverId t = some f' ∧ f'.listener.HasSelf ∧
      f'.db.fetchServer serverId = .ok { server with roles := roles } ∧
      f'.listener.state.cache.servers.lookup serverId
        = some { cached with roles := events.foldl EventV1.onRoles cached.roles } := by
  subst hid
  have hperform := perform_effect hserver t.change
  rw [heffect, map_some, map_eq_some_iff] at hperform
  obtain ⟨out, hout, hpair⟩ := hperform
  obtain ⟨hstored, rfl⟩ := Prod.mk.inj hpair
  obtain ⟨l', hrun, hself', hlookup⟩ := exists_run hself hflushes
    (ofRoles_effect heffect)
  refine ⟨⟨out.store, l'⟩, ?_, hself', hstored, ?_⟩
  · rw [step, hout]
    show Option.bind (run Listener.step f.listener (out.sent.map fun p => t.round p.event)) _ = _
    rw [List.map_map] at hrun
    rw [show (out.sent.map fun p => t.round p.event)
      = out.sent.map (t.round ∘ fun p => p.event) from rfl, hrun]
    rfl
  · rw [hlookup, hcached]
    rfl

end Step

variable {serverId : String}

theorem known_step {f' : Follower} (hf : f.Known serverId) (hflushes : f.Flushes t)
    (h : f.step serverId t = some f') : f'.Known serverId := by
  obtain ⟨cached, hcached⟩ := hf.cached
  obtain ⟨server, hserver, hid⟩ := hf.stored
  rcases heffect : t.change.effect serverId server.roles with - | ⟨roles, events⟩
  · rw [step_eq_none hserver hid heffect] at h
    cases h
  · obtain ⟨f₁, hstep, hself, hstored, hlookup⟩ :=
      exists_step hf.self hcached hserver hid hflushes heffect
    obtain rfl := some.inj (hstep.symm.trans h)
    exact ⟨hself, ⟨_, hlookup⟩, ⟨_, hstored, hid⟩⟩

/-- One turn keeps the roles the same exactly when its change is followed. -/
theorem follows_step (hf : f.Known serverId) (hflushes : f.Flushes t)
    (hfollows : f.Follows serverId) :
    (∀ f', f.step serverId t = some f' → f'.Follows serverId) ↔ f.Followed serverId t := by
  obtain ⟨server, hserver, hid⟩ := hf.stored
  obtain ⟨cached, server', hcached, hserver', hsame⟩ := hfollows
  obtain rfl := Except.ok.inj (hserver.symm.trans hserver')
  have hfollowed : f.Followed serverId t ↔ t.change.Followed server.roles := by
    constructor
    · exact fun h => h server hserver
    · intro h server₁ hserver₁
      obtain rfl := Except.ok.inj (hserver.symm.trans hserver₁)
      exact h
  rw [hfollowed]
  rcases heffect : t.change.effect serverId server.roles with - | ⟨roles, events⟩
  · refine iff_of_true (fun f' h => ?_) (followed_of_panic heffect)
    rw [step_eq_none hserver hid heffect] at h
    cases h
  · obtain ⟨f₁, hstep, -, hstored, hlookup⟩ :=
      exists_step hf.self hcached hserver hid hflushes heffect
    rw [← sameRoles_effect hsame heffect]
    constructor
    · intro h
      obtain ⟨cached₁, server₁, hcached₁, hserver₁, hsame₁⟩ := h f₁ hstep
      obtain rfl := some.inj (hlookup.symm.trans hcached₁)
      obtain rfl := Except.ok.inj (hstored.symm.trans hserver₁)
      exact hsame₁
    · intro h f' hf'
      obtain rfl := some.inj (hstep.symm.trans hf')
      exact ⟨_, _, hlookup, hstored, h⟩

section Histories

/-- **Which histories a session follows**: those in which no role is new and no
new order changes a rank. -/
theorem cached_roles_iff {f : Follower} {server : Server}
    (hserver : f.db.fetchServer serverId = .ok server) (hid : server.id = serverId)
    (hcached : f.listener.state.cache.servers.lookup serverId = some server)
    (hself : f.listener.HasSelf) {turns : List Turn}
    (hflushes : EachStep (step serverId) Flushes f turns) :
    Always (step serverId) (Follows serverId) f turns ↔
      EachStep (step serverId) (Followed serverId) f turns := by
  have hfollows : f.Follows serverId := ⟨server, server, hcached, hserver, .refl _⟩
  have hiff := always_iff_eachStep (fun _ _ _ hf hW h => known_step hf hW h)
    (fun _ _ hf hW hP => follows_step hf hW hP) ⟨hself, ⟨server, hcached⟩, ⟨server, hserver, hid⟩⟩
    hflushes
  exact hiff.trans ⟨fun h => h.2, fun h => ⟨hfollows, h⟩⟩

variable {f : Follower} {turns : List Turn}

/-- Without entries there is nothing to expire. -/
theorem eachStep_flushes (h : ∀ t ∈ turns, t.entries = []) :
    EachStep (step serverId) Flushes f turns := by
  intro l₁ t f₁ hpre _
  refine .inr fun server => ?_
  rw [h t (hpre.subset (mem_append_right l₁ (mem_singleton_self t)))]
  exact not_mem_nil

/-- Changes that are followed whatever the roles are. -/
theorem eachStep_followed (h : ∀ t ∈ turns, ∀ roles, t.change.Followed roles) :
    EachStep (step serverId) (Followed serverId) f turns := by
  intro l₁ t f₁ hpre _ server _
  exact h t (hpre.subset (mem_append_right l₁ (mem_singleton_self t))) server.roles

end Histories

/-- A server with two roles. -/
def rankedServer : Server where
  id := "server"
  owner := "owner"
  roles := HashMap.collect
    [("admin", { id := "admin", rank := 0 }), ("mod", { id := "mod", rank := 1 })]

def rankedDb : ReferenceDb where
  servers := HashMap.collect [("server", rankedServer)]

/-- Alice's session knows the server. -/
def rankedFollower : Follower where
  db := rankedDb
  listener := Listener.start
    { State.from { id := "alice" } "session" with
      cache := { Cache.ofUser { id := "alice" } with
        servers := HashMap.collect [("server", rankedServer)] } }

theorem hasSelf_rankedFollower : rankedFollower.listener.HasSelf := ⟨{ id := "alice" }, rfl⟩

/-- A turn with a quiet database. -/
def turn (change : RoleChange) : Turn where
  change := change
  db := rankedDb.database
  clock := Stream'.const 0

/-- A role is changed, and another one deleted. -/
def followedTurns : List Turn :=
  [turn (.update "mod" { rank := some 3, permissions := some { a := 1 } } []),
    turn (.delete "admin")]

theorem cached_roles_iff_update :
    Always (step "server") (Follows "server") rankedFollower followedTurns := by
  have hserver : rankedFollower.db.fetchServer "server" = .ok rankedServer := rfl
  refine (cached_roles_iff hserver rfl rfl hasSelf_rankedFollower
    (eachStep_flushes (by decide))).mpr (eachStep_followed ?_)
  simp [followedTurns, turn, RoleChange.Followed]

/-- The role is not the same in the cache as in the database. -/
def disagrees (serverId roleId : String) (f : Follower) : Bool :=
  match f.listener.state.cache.servers.lookup serverId, f.db.fetchServer serverId with
  | some cached, .ok server =>
    decide ((cached.roles.lookup roleId).map Role.standing
      ≠ (server.roles.lookup roleId).map Role.standing)
  | _, _ => false

theorem not_follows (serverId roleId : String)
    (h : f.disagrees serverId roleId = true) : ¬ f.Follows serverId := by
  rintro ⟨cached, server, hcached, hserver, hsame⟩
  rw [disagrees, hcached, hserver] at h
  exact absurd (hsame roleId) (of_decide_eq_true h)

/-- A new role is missing in the cache, and a new order does not reach it. -/
theorem creation_and_reordering_missed :
    rankedDb.fetchServer "server" = .ok rankedServer ∧
    rankedFollower.listener.state.cache.servers.lookup "server" = some rankedServer ∧
    ¬ Always (step "server") (Follows "server") rankedFollower [turn (.create "dj" "DJ")] ∧
    ¬ Always (step "server") (Follows "server") rankedFollower
      [turn (.setRoleOrdering ["mod", "admin"])] := by
  refine ⟨rfl, rfl, ?_, ?_⟩
  · exact not_always_of_run (fun _ => not_follows "server" "dj") (by decide +kernel)
  · exact not_always_of_run (fun _ => not_follows "server" "admin") (by decide +kernel)

end Follower

end DawnChat
