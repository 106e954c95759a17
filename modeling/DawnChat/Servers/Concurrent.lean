/-
DawnChat/Servers/Concurrent.lean

Requests on one server that run at the same time on the MongoDB driver
(`Channel::create_server_channel`, `Channel::delete`, `Role::create`, `Role::delete`,
`Server::set_role_ordering`).

Every request begins with a copy of the server.  A new channel is then added to the list in
that copy, and the whole list is written; a new order of the roles is a whole map, computed
from the copy.  The other requests write one entry.  So a whole list or map can bring back an
entry that has gone in the meantime, or drop one that has come.

What each request has achieved on the server (`Deed`) follows from how far it has come.  As long
as no request is disturbed between its read and the write of a whole list or map
(`ServerState.Undisturbed`), the server has the entries of the start and those that were added,
without those that were taken away (`ServerState.Agrees`); `nothingLost_of_undisturbed` is what
this comes to when all requests are over.
-/
import DawnChat.Lib.Interleave
import DawnChat.Messages.Delete
import DawnChat.Routes.Limits
import DawnChat.Servers.Store
import Mathlib.Data.Fin.VecNotation

namespace DawnChat

open RustStd Fallible Handler Run Interleave HashMap ReferenceDb List Option MongoDb

/-! ### Requests, step by step -/

/-- A request on the server. -/
inductive ServerCall where
  | createChannel (data : DataCreateServerChannel) (id : String)
  | deleteChannel (id : String)
  | createRole (name id : String)
  | deleteRole (id : String)
  | setRoleOrdering (newOrder : List String)
  deriving DecidableEq

/-- How far a request has come, with what it has read. -/
inductive ServerPhase where
  | fetch
  | insertChannel (server : Server) (data : DataCreateServerChannel) (id : String)
  | listChannel (server : Server) (id : String)
  | deleteObjects (channel : Channel)
  | deleteMessages (channel : Channel)
  | fetchServer (channel : Channel) (serverId : String)
  | pullChannel (channel : Channel) (server : Server)
  | deleteFiles (channel : Channel)
  | eraseChannel (channel : Channel)
  | insertRole (server : Server) (role : Role)
  | pullRole (server : Server) (roleId : String)
  | unsetChannelRole (server : Server) (roleId : String)
  | unsetRole (server : Server) (roleId : String)
  | setRoles (server : Server) (roles : HashMap String Role)
  | done
  | failed (e : Fault ErrorType)

/-- Take a channel out of a server, with its system messages as they were in a copy. -/
def Server.pullChannel (id : String) (copy server : Server) : Server :=
  let unset (field : SystemMessageChannels → Option String) (sys : SystemMessageChannels) :=
    if copy.systemMessages.bind field = some id then none else field sys
  { server with
    channels := server.channels.filter (· ≠ id)
    systemMessages := server.systemMessages.map fun sys =>
      { userJoined := unset (·.userJoined) sys
        userLeft := unset (·.userLeft) sys
        userKicked := unset (·.userKicked) sys
        userBanned := unset (·.userBanned) sys } }

/-- On the copy itself this is what deleting a channel does when it runs alone. -/
theorem Server.pullChannel_self (id : String) (server : Server) :
    server.pullChannel id server = withoutChannel id server := by
  rw [pullChannel, withoutChannel]
  rcases server.systemMessages with - | sys <;> rfl

namespace ServerCall

variable (settings : Settings) (serverId : String)

/-- The ranks that a new order gives to the roles. -/
def newRoles (server : Server) (newOrder : List String) : Option (HashMap String Role) :=
  -- new order must always contain every role (a debug assertion)
  if server.roles.len ≠ newOrder.length then none else Server.setRanks server.roles newOrder

/-- The first step of a request. -/
def start : ServerCall → Request ReferenceDb ServerPhase
  | createChannel data id => do
      let server ← read fun db => db.fetchServer serverId
      let max := settings.features.limits.global.serverChannels
      throwIf (server.channels.length > max) (.tooManyChannels max)
      return .insertChannel server data id
  | deleteChannel id => do
      let channel ← read fun db => ReferenceDb.get db.channels id
      return .deleteObjects channel
  | createRole name id => do
      let server ← read fun db => db.fetchServer serverId
      return .insertRole server { id := id, name := name, rank := server.roles.len }
  | deleteRole id => do
      let server ← read fun db => db.fetchServer serverId
      let role ← ofExcept (ReferenceDb.get server.roles id)
      return .pullRole server role.id
  | setRoleOrdering newOrder => do
      let server ← read fun db => db.fetchServer serverId
      let roles ← ofOption (newRoles server newOrder)
      return .setRoles server roles

end ServerCall

namespace ServerPhase

/-- The next step on the database. -/
def next (settings : Settings) (serverId : String) (call : ServerCall) :
    ServerPhase → Request ReferenceDb ServerPhase
  | fetch => call.start settings serverId
  | insertChannel server data id => do
      write (MongoDb.insertChannel (.textChannel (data.channel id server.id)))
      return .listChannel server id
  | listChannel server id => do
      write (MongoDb.updateServer server.id
        { channels := some (server.channels ++ [id]) } [])
      return .done
  | deleteObjects channel => do
      write fun db => .ok (MongoDb.deleteAssociatedChannelObjects (· = channel.id) db)
      return .deleteMessages channel
  | deleteMessages channel => do
      write fun db => .ok (MongoDb.deleteBulkMessages (·.channel = channel.id) db)
      return channel.server.elim (.deleteFiles channel) (.fetchServer channel)
  | fetchServer channel serverId => do
      let server ← read fun db => db.fetchServer serverId
      return .pullChannel channel server
  | pullChannel channel server => do
      write fun db => .ok
        { db with servers := db.servers.modify server.id (server.pullChannel channel.id) }
      return .deleteFiles channel
  | deleteFiles channel => do
      write fun db => .ok
        (MongoDb.deleteManyAttachments (·.usedFor.any (·.id = channel.id)) db)
      return .eraseChannel channel
  | eraseChannel channel => do
      write fun db => .ok { db with channels := db.channels.erase channel.id }
      return .done
  | insertRole server role => do
      write fun db => .ok (MongoDb.insertRole server.id role db)
      return .done
  | pullRole server roleId => do
      write fun db => .ok (MongoDb.pullRole server.id roleId db)
      return .unsetChannelRole server roleId
  | unsetChannelRole server roleId => do
      write fun db => .ok (MongoDb.unsetChannelRole server.id roleId db)
      return .unsetRole server roleId
  | unsetRole server roleId => do
      write fun db => .ok (MongoDb.unsetRole server.id roleId db)
      return .done
  | setRoles server roles => do
      write (MongoDb.updateServer server.id { roles := some roles } [])
      return .done
  | phase => return phase

def advance (settings : Settings) (serverId : String) (call : ServerCall) :
    ServerPhase × ReferenceDb → ServerPhase × ReferenceDb :=
  Interleave.advance (next settings serverId call) .failed

def isDone : ServerPhase → Bool
  | done => true
  | _ => false

/-- The request has not begun, or it has failed. -/
def isAway : ServerPhase → Bool
  | fetch | failed _ => true
  | _ => false

theorem eq_done {phase : ServerPhase} (h : phase.isDone = true) : phase = .done := by
  cases phase with
  | done => rfl
  | _ => cases h

end ServerPhase

/-! ### What a step does -/

/-- The entries of a server that requests write. -/
structure Listing where
  channels : List String
  roles : HashMap String Role

def Server.listing (server : Server) : Listing := ⟨server.channels, server.roles⟩

/-- What the next step of a request makes of the entries. -/
def ServerPhase.written (l : Listing) : ServerPhase → Listing
  | listChannel server id => { l with channels := server.channels ++ [id] }
  | pullChannel channel _ => { l with channels := l.channels.filter (· ≠ channel.id) }
  | insertRole _ role => { l with roles := l.roles.insert role.id role }
  | unsetRole _ roleId => { l with roles := l.roles.erase roleId }
  | setRoles _ roles => { l with roles := roles }
  | _ => l

/-- What a request achieves on the server. -/
inductive Deed where
  | listed (id : String)
  | pulled (id : String)
  | inserted (id : String)
  | unset (id : String)

/-- The request for a deed. -/
def Deed.Of (call : ServerCall) : Deed → Prop
  | .listed id => ∃ data, call = .createChannel data id
  | .pulled id => call = .deleteChannel id
  | .inserted id => ∃ name, call = .createRole name id
  | .unset id => call = .deleteRole id

/-- The next step writes the server. -/
def ServerPhase.writes : ServerPhase → Bool
  | listChannel .. | pullChannel .. | insertRole .. | unsetRole .. | setRoles .. => true
  | _ => false

/-- The request has written the server. -/
def ServerPhase.wrote : ServerPhase → Bool
  | deleteFiles _ | eraseChannel _ | done => true
  | _ => false

theorem ServerPhase.wrote_of_isAway {phase : ServerPhase} (h : phase.isAway = true) :
    phase.wrote = false := by
  cases phase with
  | fetch | failed => rfl
  | _ => cases h

/-- Where the roles of a server come from, by id, name and permissions. -/
abbrev RoleOrigin := String → String → OverrideField → Prop

def RolesOk (origin : RoleOrigin) (roles : HashMap String Role) : Prop :=
  ∀ id role, roles.lookup id = some role →
    role.id = id ∧ origin id role.name role.permissions

/-- A new order changes the ranks only. -/
theorem RolesOk.setRanks {origin : RoleOrigin} {roles roles' : HashMap String Role}
    (h : RolesOk origin roles) {newOrder : List String}
    (hranks : Server.setRanks roles newOrder = some roles') :
    RolesOk origin roles' ∧ ∀ id, id ∈ roles' ↔ id ∈ roles := by
  rw [Server.setRanks] at hranks
  -- the positions do not matter
  generalize newOrder.zipIdx = entries at hranks
  induction entries generalizing roles with
  | nil =>
    obtain rfl := some.inj hranks
    exact ⟨h, fun _ => Iff.rfl⟩
  | cons e entries ih =>
    rw [foldlM_cons] at hranks
    obtain ⟨roles₁, hfirst, hrest⟩ := bind_eq_some_iff.mp hranks
    split at hfirst
    · obtain rfl := some.inj hfirst
      have hmodified : RolesOk origin (roles.modify e.1 fun role => { role with rank := e.2 }) := by
        intro id role hrole
        rw [lookup_modify_eq] at hrole
        split at hrole
        · obtain ⟨stored, hstored, rfl⟩ := map_eq_some_iff.mp hrole
          exact h id stored hstored
        · exact h id role hrole
      exact (ih hmodified hrest).imp_right fun hmem id => (hmem id).trans mem_modify
    · cases hfirst

/-- A channel of the server, stored under its id. -/
def Channel.IsOf (serverId id : String) (channel : Channel) : Prop :=
  channel.id = id ∧ channel.server = some serverId

/-- What a request has read when it has come as far as a phase.  `known` are the roles that
there have been. -/
def ServerPhase.Progress (serverId : String) (origin : RoleOrigin) (known : String → Prop)
    (call : ServerCall) : ServerPhase → Prop
  | fetch | failed _ => True
  | insertChannel server _ id | listChannel server id =>
    server.id = serverId ∧ ∃ data, call = .createChannel data id
  | deleteObjects channel | deleteMessages channel =>
    channel.server = some serverId ∧ call = .deleteChannel channel.id
  | fetchServer channel serverId' => serverId' = serverId ∧ call = .deleteChannel channel.id
  | pullChannel channel server => server.id = serverId ∧ call = .deleteChannel channel.id
  | deleteFiles _ | eraseChannel _ => ∃ id, call = .deleteChannel id
  | insertRole server role =>
    server.id = serverId ∧ call = .createRole role.name role.id ∧ role.permissions = {}
  | pullRole server id | unsetChannelRole server id | unsetRole server id =>
    server.id = serverId ∧ call = .deleteRole id ∧ known id
  | setRoles server roles =>
    server.id = serverId ∧ (∃ newOrder, call = .setRoleOrdering newOrder) ∧
      RolesOk origin roles ∧ ∀ id, id ∈ roles ↔ id ∈ server.roles
  | done => ∀ id, call = .deleteRole id → known id

/-- The server is stored, with these entries. -/
def ReferenceDb.Lists (serverId : String) (l : Listing) (db : ReferenceDb) : Prop :=
  ∃ server, db.servers.lookup serverId = some server ∧ server.id = serverId ∧ server.listing = l

/-- Channels of one store are those of another with other permissions, or new ones. -/
def ChannelsKept (serverId : String) (db db' : ReferenceDb) : Prop :=
  ∀ id channel, db'.channels.lookup id = some channel → channel.IsOf serverId id ∨
    ∃ channel', db.channels.lookup id = some channel' ∧ channel'.id = channel.id ∧
      channel'.server = channel.server

open ServerPhase

section Steps

variable {settings : Settings} {serverId : String} {origin : RoleOrigin} {known : String → Prop}

/-- Only a role that there has been is deleted. -/
theorem ServerPhase.Progress.known_of_wrote {call : ServerCall} {phase : ServerPhase} {id : String}
    (h : phase.Progress serverId origin known call) (hwrote : phase.wrote = true)
    (hcall : call = .deleteRole id) : known id := by
  cases phase with
  | deleteFiles | eraseChannel =>
    obtain ⟨_, rfl⟩ := h
    cases hcall
  | done => exact h id hcall
  | _ => cases hwrote

theorem ServerPhase.Progress.mono {call : ServerCall} {phase : ServerPhase}
    {known' : String → Prop} (h : phase.Progress serverId origin known call)
    (hknown : ∀ id, known id → known' id) : phase.Progress serverId origin known' call := by
  cases phase with
  | pullRole | unsetChannelRole | unsetRole => exact ⟨h.1, h.2.1, hknown _ h.2.2⟩
  | done => exact fun id hcall => hknown id (h id hcall)
  | _ => exact h

theorem ChannelsKept.of_eq {db db' : ReferenceDb} (h : db'.channels = db.channels) :
    ChannelsKept serverId db db' :=
  fun _ channel hchannel => .inr ⟨channel, h ▸ hchannel, rfl, rfl⟩

theorem Channel.id_withoutRole (serverId roleId : String) (channel : Channel) :
    (channel.withoutRole serverId roleId).id = channel.id := by
  cases channel with
  | textChannel c =>
    rw [withoutRole]
    split <;> rfl
  | _ => rfl

theorem Channel.server_withoutRole (serverId roleId : String) (channel : Channel) :
    (channel.withoutRole serverId roleId).server = channel.server := by
  cases channel with
  | textChannel c =>
    rw [withoutRole]
    split <;> rfl
  | _ => rfl

theorem channelsKept_unsetChannelRole (serverId serverId' roleId : String) (db : ReferenceDb) :
    ChannelsKept serverId db (unsetChannelRole serverId' roleId db) := by
  intro id channel hchannel
  rw [lookup_unsetChannelRole] at hchannel
  split at hchannel
  · obtain ⟨channel', hchannel', rfl⟩ := map_eq_some_iff.mp hchannel
    exact .inr ⟨channel', hchannel', (channel'.id_withoutRole ..).symm,
      (channel'.server_withoutRole ..).symm⟩
  · exact .inr ⟨channel, hchannel, rfl, rfl⟩

/-- What a step of a request does. -/
structure Stepped (serverId : String) (origin : RoleOrigin) (known : String → Prop)
    (call : ServerCall) (phase : ServerPhase) (db : ReferenceDb) (phase' : ServerPhase)
    (db' : ReferenceDb) : Prop where
  lists : ∀ l, db.Lists serverId l → db'.Lists serverId (phase.written l)
  channels : ChannelsKept serverId db db'
  progress : phase'.Progress serverId origin known call
  wrote : phase'.wrote = (phase.writes || phase.wrote)

/-- A write on the server. -/
theorem ReferenceDb.Lists.modify {db db' : ReferenceDb} {l l' : Listing} {f : Server → Server}
    (h : db.Lists serverId l) (hservers : db'.servers = db.servers.modify serverId f)
    (hid : ∀ server, (f server).id = server.id)
    (hf : ∀ server, server.listing = l → (f server).listing = l') : db'.Lists serverId l' := by
  obtain ⟨server, hserver, hkey, hlisting⟩ := h
  refine ⟨f server, ?_, (hid server).trans hkey, hf server hlisting⟩
  rw [hservers, lookup_modify, hserver, map_some]

theorem ReferenceDb.Lists.of_eq {db db' : ReferenceDb} {l : Listing} (h : db.Lists serverId l)
    (hservers : db'.servers = db.servers) : db'.Lists serverId l := by
  rwa [ReferenceDb.Lists, hservers]

section Outcomes

variable {call : ServerCall} {phase phase' : ServerPhase} {db db' : ReferenceDb}

/-- A step that leaves the server alone. -/
theorem Stepped.of_aside (hwritten : ∀ l, phase.written l = l)
    (hservers : db'.servers = db.servers) (hchannels : ChannelsKept serverId db db')
    (hprogress : phase'.Progress serverId origin known call)
    (hwrote : phase'.wrote = (phase.writes || phase.wrote)) :
    Stepped serverId origin known call phase db phase' db' where
  lists l hl := by
    rw [hwritten]
    exact hl.of_eq hservers
  channels := hchannels
  progress := hprogress
  wrote := hwrote

/-- A step that writes on the server only. -/
theorem Stepped.of_write {f : Server → Server}
    (hservers : db'.servers = db.servers.modify serverId f)
    (hid : ∀ server, (f server).id = server.id)
    (hf : ∀ server, (f server).listing = phase.written server.listing)
    (hchannels : db'.channels = db.channels)
    (hprogress : phase'.Progress serverId origin known call)
    (hwrote : phase'.wrote = (phase.writes || phase.wrote)) :
    Stepped serverId origin known call phase db phase' db' where
  lists _ hl := hl.modify hservers hid fun server hlisting => hlisting ▸ hf server
  channels := .of_eq hchannels
  progress := hprogress
  wrote := hwrote

end Outcomes

/-- What a request may rely on when it takes a step. -/
structure Ready (serverId : String) (origin : RoleOrigin) (known : String → Prop)
    (call : ServerCall) (db : ReferenceDb) : Prop where
  lists : ∃ l, db.Lists serverId l ∧ RolesOk origin l.roles ∧ ∀ id, id ∈ l.roles → known id
  channel : ∀ id, call = .deleteChannel id → ∀ channel, db.channels.lookup id = some channel →
    channel.IsOf serverId id

section Requests

variable {db : ReferenceDb} {call : ServerCall} {server : Server} {phase : ServerPhase}

theorem Ready.fetchServer (h : Ready serverId origin known call db)
    (hfetch : db.fetchServer serverId = .ok server) :
    server.id = serverId ∧ RolesOk origin server.roles ∧ ∀ id, id ∈ server.roles → known id := by
  obtain ⟨l, ⟨stored, hstored, hkey, rfl⟩, hroles⟩ := h.lists
  obtain rfl := some.inj (hstored.symm.trans (get_ok.mp hfetch))
  exact ⟨hkey, hroles⟩

instance (call : ServerCall) : ReadOnly (next settings serverId call .fetch) := by
  show ReadOnly (call.start settings serverId)
  unfold ServerCall.start
  split <;> infer_instance

/-- What a request has read after its first step. -/
theorem progress_start (h : Ready serverId origin known call db) {db' : ReferenceDb}
    (hexec : exec (call.start settings serverId) db = (.ok phase, db')) :
    phase.Progress serverId origin known call ∧ phase.wrote = false := by
  cases call with
  | createChannel data id =>
    obtain ⟨server, hfetch, hrest⟩ := exec_read_bind_ok.mp hexec
    obtain ⟨_, db₂, -, hpure⟩ := exec_bind_ok.mp hrest
    obtain ⟨rfl, -⟩ := exec_pure_ok.mp hpure
    exact ⟨⟨(h.fetchServer hfetch).1, data, rfl⟩, rfl⟩
  | deleteChannel id =>
    obtain ⟨channel, hget, hpure⟩ := exec_read_bind_ok.mp hexec
    obtain ⟨rfl, -⟩ := exec_pure_ok.mp hpure
    obtain ⟨rfl, hserver⟩ := h.channel id rfl channel (get_ok.mp hget)
    exact ⟨⟨hserver, rfl⟩, rfl⟩
  | createRole name id =>
    obtain ⟨server, hfetch, hpure⟩ := exec_read_bind_ok.mp hexec
    obtain ⟨rfl, -⟩ := exec_pure_ok.mp hpure
    exact ⟨⟨(h.fetchServer hfetch).1, rfl, rfl⟩, rfl⟩
  | deleteRole id =>
    obtain ⟨server, hfetch, hrest⟩ := exec_read_bind_ok.mp hexec
    obtain ⟨role, hget, hpure⟩ := exec_ofExcept_bind_ok.mp hrest
    obtain ⟨rfl, -⟩ := exec_pure_ok.mp hpure
    obtain ⟨hkey, hroles, hknown⟩ := h.fetchServer hfetch
    have hrole := get_ok.mp hget
    obtain ⟨rfl, -⟩ := hroles id role hrole
    exact ⟨⟨hkey, rfl, hknown _ (mem_iff_exists_lookup.mpr ⟨role, hrole⟩)⟩, rfl⟩
  | setRoleOrdering newOrder =>
    obtain ⟨server, hfetch, hrest⟩ := exec_read_bind_ok.mp hexec
    obtain ⟨roles, hnewRoles, hpure⟩ := exec_ofOption_bind_ok.mp hrest
    obtain ⟨rfl, -⟩ := exec_pure_ok.mp hpure
    obtain ⟨hkey, hroles, -⟩ := h.fetchServer hfetch
    refine ⟨⟨hkey, ⟨newOrder, rfl⟩, ?_⟩, rfl⟩
    rw [ServerCall.newRoles] at hnewRoles
    split at hnewRoles
    · cases hnewRoles
    · exact hroles.setRanks hnewRoles


/-- **What every step of every request does.** -/
theorem stepped (h : Ready serverId origin known call db)
    (hprogress : phase.Progress serverId origin known call) :
    Stepped serverId origin known call phase db (advance settings serverId call (phase, db)).1
      (advance settings serverId call (phase, db)).2 := by
  cases phase with
  | fetch =>
    refine of_advance_read (fun _ => .of_aside (fun _ => rfl) rfl (.of_eq rfl) trivial rfl)
      fun phase' hexec => ?_
    obtain ⟨hstart, hwrote⟩ := progress_start h hexec
    exact .of_aside (fun _ => rfl) rfl (.of_eq rfl) hstart hwrote
  | insertChannel server data id =>
    refine of_advance_write rfl (fun _ => .of_aside (fun _ => rfl) rfl (.of_eq rfl) trivial rfl)
      fun db' hinsert => ?_
    obtain ⟨-, rfl⟩ := ite_error_eq_ok.mp hinsert
    refine .of_aside (fun _ => rfl) rfl (fun id stored hstored => ?_) hprogress rfl
    rcases lookup_insert_eq_some.mp hstored with ⟨rfl, rfl⟩ | ⟨-, hold⟩
    · exact .inl ⟨rfl, congrArg some hprogress.1⟩
    · exact .inr ⟨stored, hold, rfl, rfl⟩
  | listChannel server id =>
    obtain ⟨rfl, data, rfl⟩ := hprogress
    exact .of_write rfl (fun _ => rfl) (fun _ => rfl) rfl nofun rfl
  | deleteMessages channel =>
    have hkept := deleteBulkMessages_keeps (·.channel = channel.id) db
    have hnext : (advance settings serverId call (.deleteMessages channel, db)).1
        = .fetchServer channel serverId := by
      show channel.server.elim (deleteFiles channel) (fetchServer channel) = _
      rw [hprogress.1]
      rfl
    refine .of_aside (fun _ => rfl) hkept.servers (.of_eq hkept.channels) ?_ ?_ <;> rw [hnext]
    · exact ⟨rfl, hprogress.2⟩
    · rfl
  | fetchServer channel serverId' =>
    obtain ⟨rfl, hcall⟩ := hprogress
    obtain ⟨l, ⟨server, hserver, hkey, -⟩, -⟩ := h.lists
    have hadvance : advance settings serverId' call (.fetchServer channel serverId', db)
        = (.pullChannel channel server, db) := by
      refine advance_of_ok ?_
      refine exec_bind_of_ok (exec_read_ok.mpr ⟨?_, rfl⟩) _
      exact get_ok.mpr hserver
    rw [hadvance]
    exact .of_aside (fun _ => rfl) rfl (.of_eq rfl) ⟨hkey, hcall⟩ rfl
  | pullChannel channel server =>
    obtain ⟨rfl, hcall⟩ := hprogress
    exact .of_write rfl (fun _ => rfl) (fun _ => rfl) rfl ⟨_, hcall⟩ rfl
  | eraseChannel channel =>
    obtain ⟨id, rfl⟩ := hprogress
    refine .of_aside (fun _ => rfl) rfl (fun id' stored hstored => ?_) nofun rfl
    exact .inr ⟨stored, (lookup_erase_eq_some.mp hstored).2, rfl, rfl⟩
  | insertRole server role =>
    obtain ⟨rfl, rfl, -⟩ := hprogress
    exact .of_write rfl (fun _ => rfl) (fun _ => rfl) rfl nofun rfl
  | unsetChannelRole server id =>
    exact .of_aside (fun _ => rfl) (unsetChannelRole_keeps ..).1
      (channelsKept_unsetChannelRole serverId server.id id db) hprogress rfl
  | unsetRole server id =>
    obtain ⟨rfl, rfl, hknown⟩ := hprogress
    refine .of_write rfl (fun _ => rfl) (fun _ => rfl) rfl (fun id' hcall => ?_) rfl
    rwa [← ServerCall.deleteRole.inj hcall]
  | setRoles server roles =>
    obtain ⟨rfl, ⟨newOrder, rfl⟩, -⟩ := hprogress
    exact .of_write rfl (fun _ => rfl) (fun _ => rfl) rfl nofun rfl
  -- the other steps do not touch the server, and rely on what the request relied on before
  | _ => exact .of_aside (fun _ => rfl) rfl (.of_eq rfl) hprogress rfl

end Requests

end Steps

/-! ### Any number of requests -/

section Runs

variable {ι : Type}

/-- How far the requests on the server have come, and the database. -/
abbrev ServerState (ι : Type) := Config ι (fun _ => ServerPhase) ReferenceDb

namespace ServerState

section Defs

variable [DecidableEq ι] (settings : Settings) (serverId : String) (calls : ι → ServerCall)

/-- One of the requests takes its next step. -/
def step : ServerState ι → ι → Option (ServerState ι) :=
  Config.step fun i => ServerPhase.advance settings serverId (calls i)

/-- All requests are about to read. -/
def start (db : ReferenceDb) : ServerState ι where
  phase _ := .fetch
  store := db

/-- **No request is disturbed between its read and its write.**  When a whole list of channels
is written, the server has the channels that the request read, and nobody is deleting the new
channel; when a whole map of roles is written, the server has the roles that the request read. -/
def Undisturbed (s : ServerState ι) (i : ι) : Prop :=
  match s.phase i, s.store.servers.lookup serverId with
  | .listChannel server id, some stored =>
    server.channels ⊆ stored.channels ∧ stored.channels ⊆ server.channels ∧
      ∀ j, calls j = .deleteChannel id → (s.phase j).isAway = true
  | .setRoles server _, some stored =>
    server.roles.keys ⊆ stored.roles.keys ∧ stored.roles.keys ⊆ server.roles.keys
  | _, _ => True

end Defs

section Fates

variable (server₀ : Server) (calls : ι → ServerCall) (s : ServerState ι) (id : String)

/-- The server had the channel, or it has been created. -/
def ChannelMade : Prop :=
  id ∈ server₀.channels ∨ ∃ i data, calls i = .createChannel data id ∧ s.phase i = .done

def ChannelDeleted : Prop := ∃ i, calls i = .deleteChannel id ∧ s.phase i = .done

/-- The server had the role, or it has been created. -/
def RoleMade : Prop :=
  id ∈ server₀.roles ∨ ∃ i name, calls i = .createRole name id ∧ s.phase i = .done

def RoleDeleted : Prop := ∃ i, calls i = .deleteRole id ∧ s.phase i = .done

end Fates

/-- The server lists every channel that was made and not deleted and no deleted one; its roles
are those that were made and not deleted, with the name and permissions they were made with. -/
structure NothingLost (server₀ : Server) (calls : ι → ServerCall) (s : ServerState ι)
    (server : Server) : Prop where
  channels : ∀ id, s.ChannelMade server₀ calls id → ¬ s.ChannelDeleted calls id →
    id ∈ server.channels
  deleted : ∀ id, s.ChannelDeleted calls id → id ∉ server.channels
  roles : ∀ id, id ∈ server.roles ↔
    s.RoleMade server₀ calls id ∧ ¬ s.RoleDeleted calls id
  had : ∀ id role role₀, server.roles.lookup id = some role →
    server₀.roles.lookup id = some role₀ →
    role.name = role₀.name ∧ role.permissions = role₀.permissions
  created : ∀ id role i name, server.roles.lookup id = some role →
    calls i = .createRole name id → role.name = name ∧ role.permissions = {}

/-- The requests are on one stored server, and new roles have new ids. -/
structure Calls (serverId : String) (server₀ : Server) (db : ReferenceDb)
    (calls : ι → ServerCall) : Prop where
  server : db.servers.lookup serverId = some server₀
  keyed : server₀.id = serverId
  roles : server₀.roles.KeyedBy Role.id
  channel : ∀ i id, calls i = .deleteChannel id → ∀ channel, db.channels.lookup id = some channel →
    channel.IsOf serverId id
  fresh : ∀ i name id, calls i = .createRole name id → id ∉ server₀.roles
  distinct : ∀ i j name name' id, calls i = .createRole name id → calls j = .createRole name' id →
    i = j

/-- Some request has achieved this. -/
def Did (calls : ι → ServerCall) (s : ServerState ι) (deed : Deed) : Prop :=
  ∃ i, (s.phase i).wrote = true ∧ deed.Of (calls i)

/-- A role is one that the server had, or one that a request creates. -/
def Origin (server₀ : Server) (calls : ι → ServerCall) : RoleOrigin := fun id name permissions =>
  (∃ role, server₀.roles.lookup id = some role ∧ name = role.name ∧
    permissions = role.permissions) ∨
  ∃ i, calls i = .createRole name id ∧ permissions = {}

/-- The entries are those of the start and those that were added, without those that were taken
away. -/
structure Agrees (server₀ : Server) (calls : ι → ServerCall) (s : ServerState ι)
    (l : Listing) : Prop where
  channels : ∀ id, id ∈ l.channels ↔
    (id ∈ server₀.channels ∨ s.Did calls (.listed id)) ∧ ¬ s.Did calls (.pulled id)
  roles : ∀ id, id ∈ l.roles ↔
    (id ∈ server₀.roles ∨ s.Did calls (.inserted id)) ∧ ¬ s.Did calls (.unset id)
  origin : RolesOk (Origin server₀ calls) l.roles

/-- What every undisturbed run keeps. -/
structure Inv (serverId : String) (server₀ : Server) (calls : ι → ServerCall)
    (s : ServerState ι) : Prop where
  lists : ∃ l, s.store.Lists serverId l ∧ s.Agrees server₀ calls l
  channel : ∀ i id, calls i = .deleteChannel id →
    ∀ channel, s.store.channels.lookup id = some channel → channel.IsOf serverId id
  progress : ∀ i, (s.phase i).Progress serverId (Origin server₀ calls)
    (fun id => id ∈ server₀.roles ∨ s.Did calls (.inserted id)) (calls i)

section Steps

variable {settings : Settings} {serverId : String} {server₀ server : Server} {db : ReferenceDb}
  {calls : ι → ServerCall} {s s' : ServerState ι} {i : ι}

theorem Inv.ready (hs : s.Inv serverId server₀ calls) (i : ι) :
    Ready serverId (Origin server₀ calls)
      (fun id => id ∈ server₀.roles ∨ s.Did calls (.inserted id)) (calls i) s.store := by
  obtain ⟨l, hl, hagrees⟩ := hs.lists
  exact ⟨⟨l, hl, hagrees.origin, fun id hid => ((hagrees.roles id).mp hid).1⟩, hs.channel i⟩

theorem Inv.stepped (hs : s.Inv serverId server₀ calls) (settings : Settings) (i : ι) :
    Stepped serverId (Origin server₀ calls)
      (fun id => id ∈ server₀.roles ∨ s.Did calls (.inserted id)) (calls i) (s.phase i) s.store
      (ServerPhase.advance settings serverId (calls i) (s.phase i, s.store)).1
      (ServerPhase.advance settings serverId (calls i) (s.phase i, s.store)).2 :=
  DawnChat.stepped (hs.ready i) (hs.progress i)

theorem Inv.did_iff [DecidableEq ι] (hs : s.Inv serverId server₀ calls)
    (hstep : step settings serverId calls s i = some s') (deed : Deed) :
    s'.Did calls deed ↔ s.Did calls deed ∨ (s.phase i).writes = true ∧ deed.Of (calls i) := by
  have hwrote := (hs.stepped settings i).wrote
  rw [← Config.phase_of_step hstep] at hwrote
  constructor
  · rintro ⟨j, hj, hof⟩
    by_cases hne : j = i
    · subst hne
      rw [hwrote, Bool.or_eq_true] at hj
      exact hj.elim (fun hwrites => .inr ⟨hwrites, hof⟩) fun hold => .inl ⟨j, hold, hof⟩
    · rw [Config.phase_of_step_ne hstep hne] at hj
      exact .inl ⟨j, hj, hof⟩
  · rintro (⟨j, hj, hof⟩ | ⟨hwrites, hof⟩)
    · by_cases hne : j = i
      · subst hne
        exact ⟨j, by rw [hwrote, hj, Bool.or_true], hof⟩
      · exact ⟨j, by rwa [Config.phase_of_step_ne hstep hne], hof⟩
    · exact ⟨i, by rw [hwrote, hwrites, Bool.true_or], hof⟩

section Run

variable (h : Calls serverId server₀ db calls)

include h

theorem inv_start : (start db).Inv serverId server₀ calls where
  lists := by
    have hnone : ∀ deed, ¬ (start db : ServerState ι).Did calls deed := by
      rintro deed ⟨i, hwrote, -⟩
      cases hwrote
    refine ⟨server₀.listing, ⟨server₀, h.server, h.keyed, rfl⟩, fun id => ?_, fun id => ?_, ?_⟩
    · simp [hnone, Server.listing]
    · simp [hnone, Server.listing]
    · exact fun id role hrole => ⟨h.roles hrole, .inl ⟨role, hrole, rfl, rfl⟩⟩
  channel := h.channel
  progress _ := trivial

/-- A role is not created after it has been deleted. -/
theorem Inv.not_unset (hs : s.Inv serverId server₀ calls) {role : Role}
    (hphase : s.phase i = .insertRole server role) : ¬ s.Did calls (.unset role.id) := by
  rintro ⟨j, hwrote, hdelete⟩
  have hprogress := hs.progress i
  rw [hphase] at hprogress
  obtain ⟨-, hcall, -⟩ := hprogress
  obtain hold | ⟨k, hk, name', hcreate⟩ := (hs.progress j).known_of_wrote hwrote hdelete
  · exact h.fresh i role.name role.id hcall hold
  · obtain rfl := h.distinct i k role.name name' role.id hcall hcreate
    rw [hphase] at hk
    cases hk

/-- A role that the server had is never taken for a new one. -/
theorem Origin.had {id name : String} {permissions : OverrideField} {role₀ : Role}
    (horigin : Origin server₀ calls id name permissions)
    (hrole₀ : server₀.roles.lookup id = some role₀) :
    name = role₀.name ∧ permissions = role₀.permissions := by
  obtain ⟨role, hrole, hsame⟩ | ⟨i, hcall, -⟩ := horigin
  · obtain rfl := some.inj (hrole.symm.trans hrole₀)
    exact hsame
  · exact absurd (mem_iff_exists_lookup.mpr ⟨role₀, hrole₀⟩) (h.fresh i name id hcall)

/-- A new role has the name that it was created with, and no permissions. -/
theorem Origin.created {id name name' : String} {permissions : OverrideField}
    (horigin : Origin server₀ calls id name permissions)
    (hcall : calls i = .createRole name' id) : name = name' ∧ permissions = {} := by
  obtain ⟨role, hrole, -⟩ | ⟨j, hcall', hpermissions⟩ := horigin
  · exact absurd (mem_iff_exists_lookup.mpr ⟨role, hrole⟩) (h.fresh i name' id hcall)
  · obtain rfl := h.distinct i j name' name id hcall hcall'
    obtain ⟨rfl, -⟩ := ServerCall.createRole.inj (hcall.symm.trans hcall')
    exact ⟨rfl, hpermissions⟩

/-- When all requests are over, nothing is lost. -/
theorem Agrees.nothingLost (hagrees : s.Agrees server₀ calls server.listing)
    (hover : ∀ i, s.phase i = .done ∨ ∃ e, s.phase i = .failed e) :
    NothingLost server₀ calls s server := by
  have hwrote : ∀ i, (s.phase i).wrote = true ↔ s.phase i = .done := by
    intro i
    rcases hover i with hdone | ⟨e, he⟩
    · simp [hdone, wrote]
    · simp [he, wrote]
  have hchannels : ∀ id, id ∈ server.channels ↔
      s.ChannelMade server₀ calls id ∧ ¬ s.ChannelDeleted calls id := by
    simpa [Did, hwrote, Deed.Of, ChannelMade, ChannelDeleted, and_comm, Server.listing]
      using hagrees.channels
  exact
    { channels := fun id hmade hdeleted => (hchannels id).mpr ⟨hmade, hdeleted⟩
      deleted := fun id hdeleted hmem => ((hchannels id).mp hmem).2 hdeleted
      roles := by
        simpa [Did, hwrote, Deed.Of, RoleMade, RoleDeleted, and_comm, Server.listing]
          using hagrees.roles
      had := fun id role role₀ hrole hrole₀ => (hagrees.origin id role hrole).2.had h hrole₀
      created := fun id role i name hrole hcall =>
        (hagrees.origin id role hrole).2.created h hcall }

variable [DecidableEq ι] (hs : s.Inv serverId server₀ calls)
  (hstep : step settings serverId calls s i = some s')

include hs hstep

/-- **An undisturbed step** does to the entries what it says. -/
theorem Inv.agrees (hcond : Undisturbed serverId calls s i) {l : Listing}
    (hl : s.store.Lists serverId l) (hagrees : s.Agrees server₀ calls l) :
    s'.Agrees server₀ calls ((s.phase i).written l) := by
  have hdid := hs.did_iff hstep
  have hprogress := hs.progress i
  obtain ⟨stored, hstored, -, rfl⟩ := hl
  rcases hp : s.phase i <;> rw [hp] at hprogress <;>
    simp only [Undisturbed, hp, hstored] at hcond <;> simp only [hp, writes] at hdid
  case listChannel server id =>
    obtain ⟨-, data, hcall⟩ := hprogress
    obtain ⟨hsub, hsup, haway⟩ := hcond
    have hnot : ¬ s.Did calls (.pulled id) := by
      rintro ⟨j, hj, hdelete⟩
      cases hj.symm.trans (wrote_of_isAway (haway j hdelete))
    refine ⟨fun id' => ?_, fun id' => ?_, hagrees.origin⟩
    · have hmem : id' ∈ server.channels ↔ id' ∈ stored.channels := ⟨@hsub id', @hsup id'⟩
      have hold := hmem.trans (hagrees.channels id')
      by_cases hid : id = id'
      · subst hid
        simp [hdid, hcall, Deed.Of, written, hnot]
      · simp [hdid, hcall, Deed.Of, written, hold, hid, Ne.symm hid]
    · simpa [hdid, hcall, Deed.Of, written] using hagrees.roles id'
  case pullChannel channel server =>
    obtain ⟨-, hcall⟩ := hprogress
    refine ⟨fun id' => ?_, fun id' => ?_, hagrees.origin⟩
    · have hold := hagrees.channels id'
      by_cases hid : channel.id = id'
      · simp [hdid, hcall, Deed.Of, written, hid]
      · simp [hdid, hcall, Deed.Of, written, hold, hid, Ne.symm hid]
    · simpa [hdid, hcall, Deed.Of, written] using hagrees.roles id'
  case insertRole server role =>
    obtain ⟨-, hcall, hpermissions⟩ := hprogress
    have hnot := hs.not_unset h hp
    refine ⟨fun id' => ?_, fun id' => ?_, fun id' role' hrole' => ?_⟩
    · simpa [hdid, hcall, Deed.Of, written] using hagrees.channels id'
    · have hold := hagrees.roles id'
      by_cases hid : role.id = id'
      · subst hid
        simp [hdid, hcall, Deed.Of, written, hnot]
      · simp [hdid, hcall, Deed.Of, written, hold, hid, Ne.symm hid]
    · rcases lookup_insert_eq_some.mp hrole' with ⟨rfl, rfl⟩ | ⟨-, hold⟩
      · exact ⟨rfl, .inr ⟨i, hcall, hpermissions⟩⟩
      · exact hagrees.origin id' role' hold
  case unsetRole server id =>
    obtain ⟨-, hcall, -⟩ := hprogress
    refine ⟨fun id' => ?_, fun id' => ?_, fun id' role' hrole' => ?_⟩
    · simpa [hdid, hcall, Deed.Of, written] using hagrees.channels id'
    · have hold := hagrees.roles id'
      by_cases hid : id = id'
      · simp [hdid, hcall, Deed.Of, written, hid]
      · simp [hdid, hcall, Deed.Of, written, hold, hid, Ne.symm hid]
    · exact hagrees.origin id' role' (lookup_erase_eq_some.mp hrole').2
  case setRoles server roles =>
    obtain ⟨-, ⟨newOrder, hcall⟩, hroles, hmem⟩ := hprogress
    refine ⟨fun id' => ?_, fun id' => ?_, hroles⟩
    · simpa [hdid, hcall, Deed.Of, written] using hagrees.channels id'
    · have hsame : id' ∈ server.roles ↔ id' ∈ stored.roles := ⟨@hcond.1 id', @hcond.2 id'⟩
      simpa [hdid, hcall, Deed.Of, written, hmem, hsame, Server.listing] using hagrees.roles id'
  all_goals
    exact ⟨fun id' => by simpa [hdid, written] using hagrees.channels id',
      fun id' => by simpa [hdid, written] using hagrees.roles id', hagrees.origin⟩

/-- **Every undisturbed step keeps the invariant.** -/
theorem Inv.step (hcond : Undisturbed serverId calls s i) : s'.Inv serverId server₀ calls := by
  have hstore := Config.store_of_step hstep
  have hstepped := hs.stepped settings i
  have hdid := hs.did_iff hstep
  refine ⟨?_, fun j id hj channel hchannel => ?_, fun j => ?_⟩
  · obtain ⟨l, hl, hagrees⟩ := hs.lists
    refine ⟨_, ?_, hs.agrees h hstep hcond hl hagrees⟩
    rw [hstore]
    exact hstepped.lists l hl
  · rw [hstore] at hchannel
    rcases hstepped.channels id channel hchannel with hof | ⟨channel', hchannel', hid, hserver⟩
    · exact hof
    · obtain ⟨hid', hserver'⟩ := hs.channel j id hj channel' hchannel'
      exact ⟨hid ▸ hid', hserver ▸ hserver'⟩
  · have hprogress : (s'.phase j).Progress serverId (Origin server₀ calls)
        (fun id => id ∈ server₀.roles ∨ s.Did calls (.inserted id)) (calls j) := by
      by_cases hne : j = i
      · subst hne
        rw [Config.phase_of_step hstep]
        exact hstepped.progress
      · rw [Config.phase_of_step_ne hstep hne]
        exact hs.progress j
    exact hprogress.mono fun id hid => hid.imp_right fun hdone => (hdid _).mpr (.inl hdone)

end Run

/-- **Nothing is lost and nothing comes back if no request is disturbed** between its read and
its write, whatever the requests on a server are and however else their steps mix, once all of
them are over. -/
theorem nothingLost_of_undisturbed [DecidableEq ι] (h : Calls serverId server₀ db calls)
    {schedule : List ι}
    (hcond : EachStep (step settings serverId calls) (Undisturbed serverId calls) (start db)
      schedule)
    (hrun : run (step settings serverId calls) (start db) schedule = some s)
    (hover : ∀ i, s.phase i = .done ∨ ∃ e, s.phase i = .failed e) :
    ∃ server, s.store.fetchServer serverId = .ok server ∧ NothingLost server₀ calls s server := by
  have hs : s.Inv serverId server₀ calls :=
    always_of_eachStep (P := Inv serverId server₀ calls)
      (fun s i s' hs hcond hstep => hs.step h hstep hcond) (inv_start h) hcond schedule s
      prefix_rfl hrun
  obtain ⟨l, ⟨server, hserver, -, rfl⟩, hagrees⟩ := hs.lists
  exact ⟨server, get_ok.mpr hserver, hagrees.nothingLost h hover⟩

end Steps

/-- A server with a channel. -/
def exampleServer : Server :=
  { id := "s", owner := "a", name := "server", channels := ["old"] }

def exampleDb : ReferenceDb where
  servers := (∅ : HashMap String Server).insert "s" exampleServer
  channels := (∅ : HashMap String Channel).insert "old"
    (.textChannel { id := "old", server := "s", name := "old" })

/-- Two channels are created and one is deleted; a role is created while others are ordered. -/
def exampleCalls : Fin 5 → ServerCall :=
  ![.createChannel { name := "x" } "x", .createChannel { name := "y" } "y", .deleteChannel "old",
    .createRole "role" "r", .setRoleOrdering []]

theorem calls_exampleCalls : Calls "s" exampleServer exampleDb exampleCalls where
  server := rfl
  keyed := rfl
  roles := keyedBy_empty
  channel i id hcall channel hchannel := by
    match i with
    | 2 =>
      obtain rfl := ServerCall.deleteChannel.inj hcall
      obtain rfl := some.inj hchannel
      exact ⟨rfl, rfl⟩
    | 0 | 1 | 3 | 4 => cases hcall
  fresh _ _ _ _ := AList.notMem_empty _
  distinct i j name name' id hi hj := by
    match i, j with
    | 3, 3 => rfl
    | 3, 0 | 3, 1 | 3, 2 | 3, 4 => cases hj
    | 0, _ | 1, _ | 2, _ | 4, _ => cases hi

/-- All requests are over and the server has these channels and roles. -/
def EndsWith (channels roles : List String) (s : ServerState (Fin 5)) : Prop :=
  (∀ i, (s.phase i).isDone) ∧
    (s.store.servers.lookup "s").map (fun server => (server.channels, server.roles.keys))
      = some (channels, roles)

instance (channels roles : List String) (s : ServerState (Fin 5)) :
    Decidable (s.EndsWith channels roles) :=
  inferInstanceAs (Decidable (_ ∧ _))

theorem EndsWith.server {channels roles : List String} {s : ServerState (Fin 5)}
    (h : s.EndsWith channels roles) {server : Server}
    (hserver : s.store.fetchServer "s" = .ok server) :
    server.channels = channels ∧ server.roles.keys = roles := by
  have hend := h.2
  rw [get_ok.mp hserver] at hend
  exact Prod.mk.inj (some.inj hend)

instance (s : ServerState (Fin 5)) (i : Fin 5) : Decidable (Undisturbed "s" exampleCalls s i) := by
  unfold Undisturbed
  split <;> infer_instance

/-- The requests overlap, but none changes what another is about to write. -/
theorem nothingLost_of_undisturbed_overlapping :
    ∃ s, run (step Settings.shipped "s" exampleCalls) (start exampleDb)
        [4, 0, 4, 3, 0, 3, 0, 2, 2, 2, 2, 2, 1, 2, 1, 2, 1] = some s ∧
      s.EndsWith ["x", "y"] ["r"] ∧
      ∃ server, s.store.fetchServer "s" = .ok server ∧
        NothingLost exampleServer exampleCalls s server := by
  refine exists_run_of (EndsWith ["x", "y"] ["r"]) (by decide +kernel) fun s hrun hend =>
    ⟨hend, nothingLost_of_undisturbed calls_exampleCalls (by decide +kernel) hrun
      fun i => .inl (eq_done (hend.1 i))⟩

/-- Every request but the deletion reads the server before any of them writes: a channel and the
role are lost, and the deleted channel is back. -/
theorem channel_and_role_lost :
    ∃ s, run (step Settings.shipped "s" exampleCalls) (start exampleDb)
        [0, 1, 3, 4, 0, 0, 2, 2, 2, 2, 2, 2, 2, 3, 1, 1, 4] = some s ∧
      s.EndsWith ["old", "y"] [] ∧
      ∀ server, s.store.fetchServer "s" = .ok server →
        ¬ NothingLost exampleServer exampleCalls s server := by
  refine exists_run_of (fun s => s.EndsWith ["old", "y"] []) (by decide +kernel)
    fun s _ hend => ⟨hend, fun server hserver hnothing => ?_⟩
  refine hnothing.deleted "old" ⟨2, rfl, eq_done (hend.1 2)⟩ ?_
  rw [(hend.server hserver).1]
  exact mem_cons_self

end ServerState

end Runs

end DawnChat
