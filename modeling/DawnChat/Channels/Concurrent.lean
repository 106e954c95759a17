/-
DawnChat/Channels/Concurrent.lean

Requests on one group, and requests for the channel of two users, that run at the same
time on the MongoDB driver.

A request on a group looks at the copy that it has fetched and decides what to write;
then it writes, whatever the group looks like by then.  So a user can be pushed who has
come in meanwhile, and a user can become the owner who has gone meanwhile.
`group_ok`: a group stays in order as long as no request writes against what another one has
decided on (`GroupPhase.opposes`).

`create_dm` looks for a channel and inserts one if there is none.  `oneChannel_of_looksAlone`:
two users have one channel at most as long as nobody looks while somebody else is between
looking and inserting.
-/
import DawnChat.Channels.Groups
import DawnChat.Lib.Interleave
import Mathlib.Data.Fin.VecNotation

namespace DawnChat

open RustStd Fallible Handler Run Interleave ReferenceDb RosterWrite Config List Option
  MongoDb Groups Except

/-! ### Requests on a group, step by step -/

/-- A request on a group. -/
inductive GroupCall where
  | add (user : User)
  | remove (user : User)
  /-- An edit that names a new owner. -/
  | transfer (user : User) (clock : Stream' Timestamp) (newOwner : String)

/-- How far a request has come: what it writes next. -/
inductive GroupPhase where
  | fetch
  | push (user : String)
  /-- The owner leaves: first there is a new owner. -/
  | handOver (newOwner user : String)
  | pull (user : String)
  | setOwner (newOwner : String)
  | delete (c : Group)
  | done
  | failed (e : Fault ErrorType)

namespace GroupCall

/-- What a request decides to write, from the copy that it has fetched. -/
def plan (settings : Settings) (c : Group) : GroupCall → Result GroupPhase
  | add user => do
      Groups.checkAdd settings user c
      return .push user.id
  | remove user =>
    if user.id = c.owner then
      match c.recipients.find? (· ≠ user.id) with
      | some newOwner => return .handOver newOwner user.id
      | none => return .delete c
    else return .pull user.id
  | transfer user _ newOwner => do
      DataEditChannel.checkOwner { owner := some newOwner } user (.group c)
      return .setOwner newOwner

/-- Only editing asks for a permission. -/
def checkPermission (channel : Channel) : GroupCall → Request ReferenceDb Unit
  | transfer user clock _ => do
      let db ← get
      let query ← ofOption (calculateChannelPermissions.run
        ((DatabasePermissionQuery.new db.database user clock).withChannel channel))
      ofExcept (query.1.throwIfLackingChannelPermission .manageChannel)
  | _ => pure ()

end GroupCall

namespace GroupPhase

/-- The next write.  Only the last statement of a deletion concerns the group itself. -/
def next (settings : Settings) (id : String) (call : GroupCall) :
    GroupPhase → Request ReferenceDb GroupPhase
  | fetch => do
      let channel ← read fun db => ReferenceDb.get db.channels id
      call.checkPermission channel
      match channel with
      | .group c => ofExcept (call.plan settings c)
      | _ => fail .invalidOperation
  | push user => do
      write (MongoDb.addUserToGroup id user)
      return .done
  | handOver newOwner user => do
      write (MongoDb.updateStoredChannel id { owner := some newOwner } [])
      return .pull user
  | pull user => do
      write (MongoDb.removeUserFromGroup id user)
      return .done
  | setOwner newOwner => do
      write (MongoDb.updateStoredChannel id { owner := some newOwner } [])
      return .done
  | delete c => do
      MongoDb.deleteChannel (.group c)
      return .done
  | phase => return phase

def advance (settings : Settings) (id : String) (call : GroupCall) :
    GroupPhase × ReferenceDb → GroupPhase × ReferenceDb :=
  Interleave.advance (next settings id call) .failed

/-- What the next step does to the roster. -/
def write : GroupPhase → Option RosterWrite
  | push user => some (.push user)
  | handOver newOwner _ => some (.setOwner newOwner)
  | pull user => some (.pull user)
  | setOwner newOwner => some (.setOwner newOwner)
  | delete _ => some .delete
  | _ => none

/-- The phase after the write. -/
def after : GroupPhase → GroupPhase
  | handOver _ user => .pull user
  | failed e => .failed e
  | _ => .done

/-- The first request is about to write against what the second has decided on: both add the
same user, or one makes an owner of a user whom the other takes out. -/
def opposes : GroupPhase → GroupPhase → Bool
  | push user, push other => other = user
  | pull user, handOver newOwner _ => newOwner = user
  | pull user, setOwner newOwner => newOwner = user
  | handOver newOwner _, pull user => user = newOwner
  | setOwner newOwner, pull user => user = newOwner
  | _, _ => false

/-- What a request has decided on is right for a roster. -/
def Fits (r : Roster) : GroupPhase → Prop
  | push user => user ∉ r.recipients
  | handOver newOwner user => newOwner ∈ r.recipients ∧ newOwner ≠ user
  | pull user => user ≠ r.owner
  | setOwner newOwner => newOwner ∈ r.recipients
  | _ => True

/-- All that is left to write. -/
def perform (id : String) : GroupPhase → Request ReferenceDb Unit
  | push user => Handler.write (MongoDb.addUserToGroup id user)
  | handOver newOwner user => do
      Handler.write (MongoDb.updateStoredChannel id { owner := some newOwner } [])
      Handler.write (MongoDb.removeUserFromGroup id user)
  | pull user => Handler.write (MongoDb.removeUserFromGroup id user)
  | setOwner newOwner =>
    Handler.write (MongoDb.updateStoredChannel id { owner := some newOwner } [])
  | delete c => MongoDb.deleteChannel (.group c)
  | _ => pure ()

end GroupPhase

open GroupPhase

open GroupCall

/-- Adding is to decide and then to write. -/
theorem addUserToGroup_eq_plan (settings : Settings) (c : Group) (user : User) :
    addUserToGroup settings (.group c) user
      = ofExcept (plan settings c (.add user)) >>= perform c.id := by
  rw [Groups.addUserToGroup, plan]
  rcases Groups.checkAdd settings user c with e | - <;> rfl

/-- Removing is to decide and then to write. -/
theorem removeUserFromGroup_eq_plan (settings : Settings) (c : Group) (user : User) :
    removeUserFromGroup (.group c) user
      = ofExcept (plan settings c (.remove user))
        >>= perform c.id := by
  rw [Groups.removeUserFromGroup, plan]
  split
  · rcases c.recipients.find? (· ≠ user.id) with - | newOwner <;> rfl
  · rfl

/-! ### Any number of requests on a group -/

section Group

variable {ι : Type} [DecidableEq ι]

/-- How far the requests on a group have come, and the database. -/
abbrev GroupState (ι : Type) := Config ι (fun _ => GroupPhase) ReferenceDb

namespace GroupState

section Defs

variable (settings : Settings) (id : String) (calls : ι → GroupCall)

/-- One of the requests takes its next step. -/
def step : GroupState ι → ι → Option (GroupState ι) :=
  Config.step fun i => GroupPhase.advance settings id (calls i)

/-- All requests are about to fetch the group. -/
def start (db : ReferenceDb) : GroupState ι where
  phase _ := .fetch
  store := db

end Defs

/-- The next step of `i` is not against what another request has decided on. -/
def Unopposed (s : GroupState ι) (i : ι) : Prop :=
  ∀ j, j ≠ i → (s.phase i).opposes (s.phase j) = false

variable {settings : Settings} {id : String} {calls : ι → GroupCall}

/-- What every run keeps in which no step is opposed. -/
structure Inv (id : String) (s : GroupState ι) : Prop where
  keyed : s.store.channels.KeyedBy Channel.id
  ordered : ∀ r, s.store.roster id = some r → r.owner ∈ r.recipients ∧ r.recipients.Nodup
  fits : ∀ r, s.store.roster id = some r → ∀ i, (s.phase i).Fits r
  deleting : ∀ i c, s.phase i = .delete c → c.id = id

variable {phase : GroupPhase} {r : Roster} {s s' : GroupState ι} {call : GroupCall}
  {db : ReferenceDb} {i : ι}

/-- What a request decides on is right for the group that it has fetched. -/
theorem plan_ok {c : Group} (h : call.plan settings c = .ok phase) :
    phase.Fits c.roster ∧ ∀ c', phase = .delete c' → c' = c := by
  cases call with
  | add user =>
    rw [plan] at h
    obtain ⟨_, hcheck, h⟩ := bind_eq_ok.mp h
    obtain rfl := ok.inj h
    refine ⟨fun hmem => ?_, fun _ hdelete => (by cases hdelete)⟩
    have hin : user.id ∈ c.recipients := hmem
    simp [checkAdd, hin] at hcheck
  | remove user =>
    rw [plan] at h
    split at h
    · rcases hfind : c.recipients.find? (· ≠ user.id) with - | newOwner
      · rw [hfind] at h
        obtain rfl := ok.inj h
        exact ⟨trivial, fun _ hdelete => (delete.inj hdelete).symm⟩
      · rw [hfind] at h
        obtain rfl := ok.inj h
        exact ⟨⟨mem_of_find?_eq_some hfind, by simpa using find?_some hfind⟩,
          fun _ hdelete => (by cases hdelete)⟩
    · next hne =>
      obtain rfl := ok.inj h
      exact ⟨hne, fun _ hdelete => (by cases hdelete)⟩
  | transfer user clock newOwner =>
    rw [plan] at h
    obtain ⟨_, hcheck, h⟩ := bind_eq_ok.mp h
    obtain rfl := ok.inj h
    exact ⟨checkOwner_ok hcheck _ rfl, fun _ hdelete => (by cases hdelete)⟩

instance (call : GroupCall) (channel : Channel) : ReadOnly (call.checkPermission channel) := by
  unfold checkPermission
  split <;> infer_instance

instance (call : GroupCall) : ReadOnly (next settings id call .fetch) :=
  .andThen fun channel => .andThen fun _ => by split <;> infer_instance

/-- What the fetch of a request comes to. -/
theorem advance_fetch (settings : Settings) (id : String) (call : GroupCall) (db : ReferenceDb) :
    (advance settings id call (.fetch, db)).2 = db ∧
      ((∃ c, db.channels.lookup id = some (.group c) ∧
        call.plan settings c = .ok (advance settings id call (.fetch, db)).1) ∨
      ∃ e, (advance settings id call (.fetch, db)).1 = .failed e) := by
  rcases hexec : exec (next settings id call .fetch) db with ⟨e | phase, db'⟩
  · rw [GroupPhase.advance, advance_of_error hexec]
    exact ⟨ReadOnly.of_exec hexec, .inr ⟨e, rfl⟩⟩
  · rw [GroupPhase.advance, advance_of_ok hexec]
    obtain ⟨channel, hget, hrest⟩ := exec_read_bind_ok.mp hexec
    obtain ⟨_, db₂, hpermission, hdecide⟩ := exec_bind_ok.mp hrest
    obtain rfl := ReadOnly.of_exec hpermission
    cases channel with
    | group c =>
      obtain ⟨hplan, rfl⟩ := exec_ofExcept_ok.mp hdecide
      exact ⟨rfl, .inl ⟨c, get_ok.mp hget, hplan⟩⟩
    | _ => cases hdecide

/-- What a step leaves of the roster, and what it makes of the phase. -/
structure Wrote (id : String) (phase : GroupPhase) (db : ReferenceDb)
    (next : GroupPhase × ReferenceDb) : Prop where
  keyed : next.2.channels.KeyedBy Channel.id
  roster : next.2.roster id = phase.write.elim (db.roster id) (RosterWrite.apply (db.roster id))
  phase : next.1 = phase.after

theorem wrote (hphase : phase ≠ .fetch)
    (h : db.channels.KeyedBy Channel.id) (hdelete : ∀ c, phase = .delete c → c.id = id) :
    Wrote id phase db (advance settings id call (phase, db)) := by
  cases phase with
  | fetch => exact absurd rfl hphase
  | push user =>
    obtain ⟨db', hdb'⟩ : ∃ db', MongoDb.addUserToGroup id user db = .ok db' := ⟨_, rfl⟩
    rw [GroupPhase.advance, advance_of_write rfl hdb']
    refine ⟨keyed_addUserToGroup h hdb', ?_, rfl⟩
    rw [roster_addUserToGroup hdb', if_pos rfl]
    rfl
  | handOver newOwner user | setOwner newOwner =>
    obtain ⟨db', hdb'⟩ : ∃ db', updateStoredChannel id { owner := some newOwner } [] db
      = .ok db' := ⟨_, rfl⟩
    rw [GroupPhase.advance, advance_of_write rfl hdb']
    refine ⟨keyed_updateStoredChannel h hdb', ?_, rfl⟩
    rw [roster_updateStoredChannel hdb', if_pos rfl]
    rfl
  | pull user =>
    obtain ⟨db', hdb'⟩ : ∃ db', MongoDb.removeUserFromGroup id user db = .ok db' := ⟨_, rfl⟩
    rw [GroupPhase.advance, advance_of_write rfl hdb']
    refine ⟨keyed_removeUserFromGroup h hdb', ?_, rfl⟩
    rw [roster_removeUserFromGroup hdb', if_pos rfl]
    rfl
  | delete c =>
    have hserver : (Channel.group c).server = none := rfl
    obtain ⟨db', hexec, hchannels⟩ := exec_deleteChannel hserver db
    have hadvance : advance settings id call (.delete c, db) = (.done, db') := by
      refine advance_of_ok ?_
      rw [GroupPhase.next, exec_bind_of_ok hexec]
      rfl
    rw [hadvance]
    refine ⟨keyed_erase h hchannels, ?_, rfl⟩
    rw [roster_of_erase hchannels]
    exact if_pos (hdelete c rfl).symm
  | done | failed e => exact ⟨h, rfl, rfl⟩

section Rosters

variable {r' : Roster} (hr' : phase.write.elim (some r) (RosterWrite.apply (some r)) = some r')

include hr'

/-- What a write that is right for a roster leaves. -/
theorem ordered_of_write (hfits : phase.Fits r) (h : r.owner ∈ r.recipients ∧ r.recipients.Nodup) :
    r'.owner ∈ r'.recipients ∧ r'.recipients.Nodup := by
  cases phase with
  | push user =>
    obtain rfl := some.inj hr'
    exact ⟨mem_append_left _ h.1, h.2.append (nodup_singleton user) (disjoint_singleton.mpr hfits)⟩
  | pull user =>
    obtain rfl := some.inj hr'
    exact ⟨mem_filter.mpr ⟨h.1, by simpa using Ne.symm hfits⟩, h.2.filter _⟩
  | handOver newOwner user =>
    obtain rfl := some.inj hr'
    exact ⟨hfits.1, h.2⟩
  | setOwner newOwner =>
    obtain rfl := some.inj hr'
    exact ⟨hfits, h.2⟩
  | delete c => cases hr'
  | _ => exact some.inj hr' ▸ h

theorem fits_after (hfits : phase.Fits r) : phase.after.Fits r' := by
  cases phase with
  | handOver newOwner user =>
    obtain rfl := some.inj hr'
    exact hfits.2.symm
  | _ => trivial

/-- A decision stays right if nobody writes against it. -/
theorem fits_of_unopposed {other : GroupPhase} (hother : other.Fits r)
    (hunopposed : phase.opposes other = false) : other.Fits r' := by
  cases phase with
  | delete c => cases hr'
  | fetch | done | failed e => exact some.inj hr' ▸ hother
  | push user | pull user | handOver newOwner user | setOwner newOwner =>
    obtain rfl := some.inj hr'
    cases other <;> simp_all [Fits, opposes]

end Rosters

theorem inv_fetch (h : s.Inv id)
    (hstep : step settings id calls s i = some s') (hphase : s.phase i = .fetch) : s'.Inv id := by
  have hstore := store_of_step hstep
  have hself := phase_of_step hstep
  rw [hphase] at hstore hself
  obtain ⟨hsame, hcases⟩ := advance_fetch settings id (calls i) s.store
  rw [hsame] at hstore
  rw [← hself] at hcases
  -- what the request has decided on, if it has
  have hdecided : (∀ r, s.store.roster id = some r → (s'.phase i).Fits r) ∧
      ∀ c, s'.phase i = .delete c → c.id = id := by
    obtain ⟨c, hc, hplan⟩ | ⟨e, hfailed⟩ := hcases
    · obtain ⟨hfits, hdelete⟩ := plan_ok hplan
      refine ⟨fun r hr => ?_, fun c' hc' => ?_⟩
      · obtain rfl := some.inj ((roster_eq_some.mpr ⟨c, hc, rfl⟩).symm.trans hr)
        exact hfits
      · rw [hdelete c' hc']
        exact h.keyed hc
    · rw [hfailed]
      exact ⟨fun _ _ => trivial, fun _ hdelete => (by cases hdelete)⟩
  refine ⟨hstore ▸ h.keyed, hstore ▸ h.ordered, fun r hr j => ?_, fun j c hj => ?_⟩
  · rw [hstore] at hr
    by_cases hne : j = i
    · subst hne
      exact hdecided.1 r hr
    · rw [phase_of_step_ne hstep hne]
      exact h.fits r hr j
  · by_cases hne : j = i
    · subst hne
      exact hdecided.2 c hj
    · rw [phase_of_step_ne hstep hne] at hj
      exact h.deleting j c hj

/-- **Every step that is not opposed keeps the invariant.** -/
theorem inv_step (h : s.Inv id) (hunopposed : s.Unopposed i)
    (hstep : step settings id calls s i = some s') : s'.Inv id := by
  by_cases hphase : s.phase i = .fetch
  · exact inv_fetch h hstep hphase
  have hstore := store_of_step hstep
  have hself := phase_of_step hstep
  have hwrote : Wrote id (s.phase i) s.store
      (advance settings id (calls i) (s.phase i, s.store)) :=
    wrote hphase h.keyed (h.deleting i)
  -- a group that is there after the step was there before
  have hbefore : ∀ r', s'.store.roster id = some r' → ∃ r, s.store.roster id = some r ∧
      (s.phase i).write.elim (some r) (RosterWrite.apply (some r)) = some r' := by
    intro r' hr'
    rw [hstore, hwrote.roster] at hr'
    rcases hr : s.store.roster id with - | r
    · rw [hr] at hr'
      rcases hw : (s.phase i).write with - | w
      · rw [hw] at hr'
        cases hr'
      · rw [hw] at hr'
        cases w <;> cases hr'
    · rw [hr] at hr'
      exact ⟨r, rfl, hr'⟩
  refine ⟨hstore ▸ hwrote.keyed, fun r' hr' => ?_, fun r' hr' j => ?_, fun j c hj => ?_⟩
  · obtain ⟨r, hr, hwrite⟩ := hbefore r' hr'
    exact ordered_of_write hwrite (h.fits r hr i) (h.ordered r hr)
  · obtain ⟨r, hr, hwrite⟩ := hbefore r' hr'
    by_cases hne : j = i
    · subst hne
      rw [hself, hwrote.phase]
      exact fits_after hwrite (h.fits r hr j)
    · rw [phase_of_step_ne hstep hne]
      exact fits_of_unopposed hwrite (h.fits r hr j) (hunopposed j hne)
  · by_cases hne : j = i
    · subst hne
      rw [hself, hwrote.phase] at hj
      rcases hp : s.phase j <;> rw [hp] at hj <;> cases hj
    · rw [phase_of_step_ne hstep hne] at hj
      exact h.deleting j c hj

/-- **A group stays in order** as long as no step is opposed, whatever the requests are. -/
theorem group_ok (h : db.channels.KeyedBy Channel.id)
    (hordered : ∀ r, db.roster id = some r → r.owner ∈ r.recipients ∧ r.recipients.Nodup)
    {schedule : List ι}
    (hunopposed : EachStep (step settings id calls) Unopposed (start db) schedule) :
    Always (step settings id calls) (fun s => ∀ r, s.store.roster id = some r →
      r.owner ∈ r.recipients ∧ r.recipients.Nodup) (start db) schedule := by
  have hinv : Always (step settings id calls) (Inv id) (start db) schedule :=
    always_of_eachStep (fun _ _ _ hs hstep => inv_step hs hstep)
      ⟨h, hordered, fun _ _ _ => trivial, fun _ _ hdelete => (by cases hdelete)⟩ hunopposed
  exact hinv.imp fun s hs => hs.ordered

end GroupState

end Group

/-! ### The channel of two users -/

/-- The channel that is created for two users, or for one who writes to themselves. -/
def Channel.newDm (userA userB : User) (id : String) : Channel :=
  if userA.id = userB.id then .savedMessages { id := id, user := userA.id }
  else .directMessage { id := id, active := true, recipients := [userA.id, userB.id] }

/-- Create a DM (or return the existing one / saved messages). -/
def Channel.createDm (userA userB : User) (id : String) : Request ReferenceDb Channel := do
  match MongoDb.findDirectMessageChannel userA.id userB.id (← get) with
  | .ok channel => return channel
  | .error _ =>
    let channel := Channel.newDm userA userB id
    write (MongoDb.insertChannel channel)
    return channel

/-- A call for the channel of two users, with the id that a new channel gets. -/
structure DmCall where
  userA : User
  userB : User
  id : String

/-- How far a call has come. -/
inductive DmPhase where
  | look
  | insert
  | found
  | created
  | failed (e : Fault ErrorType)
  deriving DecidableEq

namespace DmPhase

/-- The next step of a call. -/
def next (call : DmCall) : DmPhase → Request ReferenceDb DmPhase
  | look => do
      match MongoDb.findDirectMessageChannel call.userA.id call.userB.id (← get) with
      | .ok _ => return .found
      | .error _ => return .insert
  | insert => do
      write (MongoDb.insertChannel (Channel.newDm call.userA call.userB call.id))
      return .created
  | phase => return phase

def advance (call : DmCall) : DmPhase × ReferenceDb → DmPhase × ReferenceDb :=
  Interleave.advance (next call) .failed

/-- The two steps without anything in between leave what `create_dm` leaves. -/
theorem store_uninterrupted (call : DmCall) (db : ReferenceDb) :
    (advance call (advance call (.look, db))).2
      = (exec (Channel.createDm call.userA call.userB call.id) db).2 := by
  rw [Channel.createDm, exec_get_bind]
  have hlook : ∀ {phase}, exec (next call .look) db = (.ok phase, db) →
      advance call (.look, db) = (phase, db) := advance_of_ok
  rw [next, exec_get_bind] at hlook
  rcases hfind : MongoDb.findDirectMessageChannel call.userA.id call.userB.id db with e | channel
    <;> rw [hfind] at hlook
  · rw [hlook rfl, advance, advance_snd]
    exact (store_bind_pure ..).trans (store_bind_pure ..).symm
  · rw [hlook rfl]
    rfl

end DmPhase

/-- A direct message channel of the two users is stored under the id. -/
def ReferenceDb.HasDm (a b : String) (db : ReferenceDb) (id : String) : Prop :=
  ∃ c : DirectMessage, db.channels.lookup id = some (.directMessage c) ∧
    a ∈ c.recipients ∧ b ∈ c.recipients

/-- Two users have at most one direct message channel. -/
def ReferenceDb.OneChannel (a b : String) (db : ReferenceDb) : Prop :=
  ∀ id id', db.HasDm a b id → db.HasDm a b id' → id = id'

section Dm

variable {ι : Type} [DecidableEq ι]

/-- How far the calls have come, and the database. -/
abbrev DmState (ι : Type) := Config ι (fun _ => DmPhase) ReferenceDb

namespace DmState

/-- One of the calls takes its next step. -/
def step (calls : ι → DmCall) : DmState ι → ι → Option (DmState ι) :=
  Config.step fun i => DmPhase.advance (calls i)

/-- All calls are about to look. -/
def start (db : ReferenceDb) : DmState ι where
  phase _ := .look
  store := db

/-- Nobody looks while somebody else is about to insert a channel. -/
def LooksAlone (s : DmState ι) (i : ι) : Prop := s.phase i = .look → ∀ j, s.phase j ≠ .insert

/-- Calls for two users, in either order. -/
structure Calls (a b : String) (calls : ι → DmCall) : Prop where
  ne : a ≠ b
  users : ∀ i, (calls i).userA.id = a ∧ (calls i).userB.id = b ∨
    (calls i).userA.id = b ∧ (calls i).userB.id = a

section Steps

variable {a b : String} {calls : ι → DmCall} {s s' : DmState ι} {i : ι}

/-- What a step of a call does. -/
inductive Stepped (a b : String) (phase : DmPhase) (db : ReferenceDb) (phase' : DmPhase)
    (db' : ReferenceDb) : Prop
  | quiet (hdb : db' = db) (hphase : phase' ≠ .insert)
  | missed (hlook : phase = .look) (hdb : db' = db) (hnone : ∀ id, ¬ db.HasDm a b id)
  | inserted (id : String) (hinsert : phase = .insert) (hphase : phase' ≠ .insert)
      (hdb : ∀ id', db'.HasDm a b id' → id' = id ∨ db.HasDm a b id')

omit [DecidableEq ι] in
/-- A call finds a channel if there is one. -/
theorem Calls.not_hasDm (h : Calls a b calls) {db : ReferenceDb} {e : ErrorType}
    (hfind : MongoDb.findDirectMessageChannel (calls i).userA.id (calls i).userB.id db = .error e)
    (id : String) : ¬ db.HasDm a b id := by
  rintro ⟨c, hlookup, ha, hb⟩
  have hboth : (calls i).userA.id ≠ (calls i).userB.id ∧ (calls i).userA.id ∈ c.recipients ∧
      (calls i).userB.id ∈ c.recipients := by
    rcases h.users i with ⟨hA, hB⟩ | ⟨hA, hB⟩ <;> rw [hA, hB]
    · exact ⟨h.ne, ha, hb⟩
    · exact ⟨h.ne.symm, hb, ha⟩
  obtain ⟨channel, hfound⟩ := exists_findOne (HashMap.mem_values.mpr ⟨id, hlookup⟩)
    ((directMessageFilter_eq_true hboth.1).mpr ⟨c, rfl, hboth.2⟩)
  cases hfind.symm.trans hfound

omit [DecidableEq ι] in
theorem Calls.stepped (h : Calls a b calls) (i : ι) (phase : DmPhase) (db : ReferenceDb) :
    Stepped a b phase db (DmPhase.advance (calls i) (phase, db)).1
      (DmPhase.advance (calls i) (phase, db)).2 := by
  cases phase with
  | look =>
    have : ReadOnly (DmPhase.next (calls i) .look) := .andThen fun db => by split <;> infer_instance
    refine of_advance_read (fun e => .quiet rfl nofun) fun phase' hexec => ?_
    rw [DmPhase.next, exec_get_bind] at hexec
    split at hexec
    · obtain rfl := (exec_pure_ok.mp hexec).1
      exact .quiet rfl nofun
    · next e hfind => exact .missed rfl rfl (h.not_hasDm hfind)
  | insert =>
    refine of_advance_write rfl (fun e => .quiet rfl nofun) fun db' hinsert => ?_
    obtain ⟨-, rfl⟩ := ite_error_eq_ok.mp hinsert
    exact .inserted _ rfl nofun fun id' ⟨c, hlookup, hrecipients⟩ =>
      (HashMap.lookup_insert_eq_some.mp hlookup).imp And.left fun hold => ⟨c, hold.2, hrecipients⟩
  | found | created | failed e => exact .quiet rfl nofun

/-- What every run keeps in which the calls look alone. -/
structure Inv (a b : String) (s : DmState ι) : Prop where
  one : s.store.OneChannel a b
  alone : ∀ i, s.phase i = .insert →
    (∀ id, ¬ s.store.HasDm a b id) ∧ ∀ j, s.phase j = .insert → j = i

/-- **Every call that looks alone keeps the invariant.** -/
theorem inv_step (h : Calls a b calls) (hs : s.Inv a b) (halone : s.LooksAlone i)
    (hstep : step calls s i = some s') : s'.Inv a b := by
  have hother : ∀ {j}, j ≠ i → s'.phase j = s.phase j := phase_of_step_ne hstep
  have hbefore : s'.phase i ≠ .insert →
      ∀ j, s'.phase j = .insert → s.phase j = .insert ∧ j ≠ i := by
    intro hphase j hj
    have hne : j ≠ i := by
      rintro rfl
      exact hphase hj
    exact ⟨hother hne ▸ hj, hne⟩
  have hstepped := h.stepped i (s.phase i) s.store
  rw [← store_of_step hstep, ← phase_of_step hstep] at hstepped
  cases hstepped with
  | quiet hstore hphase =>
    refine ⟨hstore ▸ hs.one, fun j hj => ?_⟩
    obtain ⟨hnone, hunique⟩ := hs.alone j (hbefore hphase j hj).1
    exact ⟨hstore ▸ hnone, fun k hk => hunique k (hbefore hphase k hk).1⟩
  | missed hlook hstore hnone =>
    -- nobody else was about to insert
    have hself : ∀ {j}, s'.phase j = .insert → j = i := fun {j} hj => by
      by_contra hne
      exact halone hlook j (hother hne ▸ hj)
    refine ⟨hstore ▸ hs.one, fun j hj => ⟨hstore ▸ hnone, fun k hk => ?_⟩⟩
    exact (hself hk).trans (hself hj).symm
  | inserted id hinsert hphase hstore =>
    obtain ⟨hnone, hunique⟩ := hs.alone i hinsert
    have hid : ∀ {id'}, s'.store.HasDm a b id' → id' = id := fun hdm =>
      (hstore _ hdm).resolve_right (hnone _)
    refine ⟨fun _ _ hdm hdm' => (hid hdm).trans (hid hdm').symm, fun j hj => ?_⟩
    obtain ⟨hj, hne⟩ := hbefore hphase j hj
    exact absurd (hunique j hj) hne

/-- **Two users have one channel** in every state of a run in which the calls look alone. -/
theorem oneChannel_of_looksAlone (h : Calls a b calls) {db : ReferenceDb}
    (hone : db.OneChannel a b) {schedule : List ι}
    (halone : EachStep (step calls) LooksAlone (start db) schedule) :
    Always (step calls) (fun s => s.store.OneChannel a b) (start db) schedule := by
  have hinv : Always (step calls) (Inv a b) (start db) schedule :=
    always_of_eachStep (fun _ _ _ hs halone hstep => inv_step h hs halone hstep)
      ⟨hone, fun _ hinsert => (by cases hinsert)⟩ halone
  exact hinv.imp fun s hs => hs.one

end Steps

end DmState

end Dm

/-! ### Both together -/

/-- **Channels stay well formed under two conditions on the order of the steps.**  A group that
survives has its owner among its recipients and no recipient twice in every state, if no step
is against what another request has decided on; two users have one channel at most in every
state, if their calls look alone. -/
theorem wellFormed_channels {ι κ : Type} [DecidableEq ι] [DecidableEq κ] {settings : Settings}
    {id : String} {requests : ι → GroupCall} {db : ReferenceDb}
    (hkeyed : db.channels.KeyedBy Channel.id)
    (hordered : ∀ r, db.roster id = some r → r.owner ∈ r.recipients ∧ r.recipients.Nodup)
    (schedule : List ι) {a b : String} {db' : ReferenceDb} {calls : κ → DmCall}
    (hcalls : DmState.Calls a b calls) (hone : db'.OneChannel a b) (schedule' : List κ) :
    (EachStep (GroupState.step settings id requests) GroupState.Unopposed (GroupState.start db)
      schedule →
      Always (GroupState.step settings id requests) (fun s => ∀ r, s.store.roster id = some r →
        r.owner ∈ r.recipients ∧ r.recipients.Nodup) (GroupState.start db) schedule) ∧
    (EachStep (DmState.step calls) DmState.LooksAlone (DmState.start db') schedule' →
      Always (DmState.step calls) (fun s => s.store.OneChannel a b) (DmState.start db')
        schedule') :=
  ⟨GroupState.group_ok hkeyed hordered, DmState.oneChannel_of_looksAlone hcalls hone⟩

namespace Concurrent

/-- A group of two. -/
def exampleDb : ReferenceDb where
  channels := (∅ : HashMap String Channel).insert exampleGroup.id (.group exampleGroup)

theorem keyed_exampleDb : exampleDb.channels.KeyedBy Channel.id :=
  HashMap.keyedBy_empty.insert (Channel.group exampleGroup)

/-- Somebody is added twice, and both members leave. -/
def exampleRequests : Fin 4 → GroupCall :=
  ![.add { id := "c" }, .add { id := "c" }, .remove { id := "a" }, .remove { id := "b" }]

/-- Two calls, one from each side. -/
def exampleCalls : Bool → DmCall
  | false => { userA := { id := "a" }, userB := { id := "b" }, id := "x" }
  | true => { userA := { id := "b" }, userB := { id := "a" }, id := "y" }

theorem calls_exampleCalls : DmState.Calls "a" "b" exampleCalls where
  ne := by decide
  users i := by
    cases i
    · exact .inl ⟨rfl, rfl⟩
    · exact .inr ⟨rfl, rfl⟩

end Concurrent

open Concurrent

instance (s : GroupState (Fin 4)) (i : Fin 4) : Decidable (s.Unopposed i) :=
  inferInstanceAs (Decidable (∀ j, j ≠ i → (s.phase i).opposes (s.phase j) = false))

instance (s : DmState Bool) (i : Bool) : Decidable (s.LooksAlone i) :=
  inferInstanceAs (Decidable (s.phase i = .look → ∀ j, s.phase j ≠ .insert))

/-- Requests that overlap without opposing each other, and calls that come one after the other. -/
theorem wellFormed_channels_overlapping :
    (∃ s, run (GroupState.step Settings.shipped "group" exampleRequests)
        (GroupState.start exampleDb) [0, 3, 0, 3, 2, 2, 1, 2, 1] = some s ∧
      s.store.roster "group" = some ⟨"c", ["c"]⟩ ∧
      ∀ r, s.store.roster "group" = some r → r.owner ∈ r.recipients ∧ r.recipients.Nodup) ∧
    ∃ s', run (DmState.step exampleCalls) (DmState.start {}) [false, false, true] = some s' ∧
      (s'.phase false = .created ∧ s'.phase true = .found) ∧ s'.store.OneChannel "a" "b" := by
  have hordered : ∀ r, exampleDb.roster "group" = some r →
      r.owner ∈ r.recipients ∧ r.recipients.Nodup := by
    intro r hr
    obtain rfl := some.inj hr
    decide
  have hboth := @wellFormed_channels _ _ _ _ Settings.shipped "group" exampleRequests _
    keyed_exampleDb hordered [0, 3, 0, 3, 2, 2, 1, 2, 1] _ _ {} _
    calls_exampleCalls (fun _ _ ⟨_, hc, _⟩ => (by cases hc)) [false, false, true]
  constructor
  · exact exists_run_of (fun s => s.store.roster "group" = some ⟨"c", ["c"]⟩) (by decide +kernel)
      fun s hrun hroster => ⟨hroster, hboth.1 (by decide +kernel) _ s prefix_rfl hrun⟩
  · exact exists_run_of (fun s => s.phase false = .created ∧ s.phase true = .found)
      (by decide +kernel)
      fun s hrun hphases => ⟨hphases, hboth.2 (by decide +kernel) _ s prefix_rfl hrun⟩

/-- All requests fetch the group before any of them writes, and both calls look before one of
them inserts: the owner has left, a recipient is there twice, and there are two channels. -/
theorem malformed_channels :
    (∃ s, run (GroupState.step Settings.shipped "group" exampleRequests)
        (GroupState.start exampleDb) [0, 1, 2, 3, 0, 1, 2, 2, 3] = some s ∧
      (∀ i, s.phase i = .done) ∧ ∃ r, s.store.roster "group" = some r ∧
        r.owner ∉ r.recipients ∧ ¬ r.recipients.Nodup) ∧
    ∃ s, run (DmState.step exampleCalls) (DmState.start {}) [false, true, false, true] = some s ∧
      (∀ i, s.phase i = .created) ∧ ¬ s.store.OneChannel "a" "b" := by
  constructor
  · refine ⟨_, rfl, fun i => ?_, ⟨"b", ["c", "c"]⟩, by decide +kernel, by decide, by decide⟩
    match i with
    | 0 | 1 | 2 | 3 => rfl
  · refine ⟨_, rfl, fun i => ?_, fun hone => ?_⟩
    · cases i <;> rfl
    · have hsame : "x" = "y" :=
        hone "x" "y" ⟨_, rfl, by decide, by decide⟩ ⟨_, rfl, by decide, by decide⟩
      exact absurd hsame (by decide)

end DawnChat
