/-
DawnChat/Bonfire/Members.lean

The cached memberships of a session.

The cache keeps one member record per server, meant to be the session user's
own membership there (`MembersOwn`): permission checks use it as such.  Events
respect this.  The Ready payload does not: it appends the records of the members
in voice calls to the user's own and collects all of them by server, so the last
record of a call replaces the user's.

`membersOwn_iff_voiceRecordsOwn` shows that this is the only way a foreign
record gets in, at any time in the session.
-/
import DawnChat.Bonfire.Listener

namespace DawnChat

open RustStd Fallible Run HashMap State Listener List Option AList

/-- Each record is the membership of the user in the server it is stored for. -/
def OwnMembers (userId : String) (members : HashMap String Member) : Prop :=
  ∀ e ∈ members.toList, e.2.id = ⟨e.1, userId⟩

instance (userId : String) : DecidablePred (OwnMembers userId) :=
  fun _ => inferInstanceAs (Decidable (∀ e ∈ _, _))

variable {userId : String} {members : HashMap String Member}

theorem ownMembers_iff :
    OwnMembers userId members ↔
      ∀ server m, members.lookup server = some m → m.id = ⟨server, userId⟩ := by
  constructor
  · intro h server m hm
    exact h (server, m) (mem_toList_iff.mpr hm)
  · intro h e he
    exact h e.1 e.2 (mem_toList_iff.mp he)

/-! ### Events -/

/-- How the API publishes events about servers and members: a new server comes
with its own id, and an update of a member does not change whose it is. -/
def EventV1.AsPublished : EventV1 → Prop
  | .serverCreate id server _ => id = server.id
  | .serverMemberUpdate _ data _ => data.id = none
  | _ => True

/-- Handling an event adds no foreign record. -/
theorem ownMembers_membersAfter
    (h : OwnMembers userId members) {event : EventV1} (hpub : event.AsPublished)
    (now : Timestamp) : OwnMembers userId (State.membersAfter userId now members event) := by
  rw [ownMembers_iff] at h ⊢
  have herase : ∀ id server m, (members.erase id).lookup server = some m →
      m.id = ⟨server, userId⟩ := by
    intro id server m hm
    by_cases hid : server = id
    · rw [hid, lookup_erase] at hm
      exact nomatch hm
    · rw [lookup_erase_ne hid] at hm
      exact h server m hm
  cases event with
  | serverCreate id created channels =>
    intro server m hm
    obtain rfl : id = created.id := hpub
    by_cases hid : server = created.id
    · rw [membersAfter, hid, lookup_insert] at hm
      obtain rfl := some.inj hm
      rw [hid]
    · rw [membersAfter, lookup_insert_ne hid] at hm
      exact h server m hm
  | serverDelete id => exact herase id
  | serverMemberLeave id user =>
    rw [membersAfter]
    split
    · exact herase id
    · exact h
  | serverMemberUpdate id data clear =>
    rw [membersAfter]
    split
    · intro server m hm
      by_cases hid : server = id.server
      · subst hid
        rw [lookup_modify] at hm
        obtain ⟨old, hold, rfl⟩ := map_eq_some_iff.mp hm
        have hdata : data.id = none := hpub
        show data.id.getD (clear.foldl Member.removeField old).id = _
        rw [hdata, getD_none, Member.foldl_removeField]
        exact h _ old hold
      · rw [lookup_modify_ne hid] at hm
        exact h server m hm
    · exact h
  | _ => exact h

namespace Listener

/-- The cached memberships are the session user's own. -/
def MembersOwn (l : Listener) : Prop := OwnMembers l.state.cache.userId l.state.cache.members

instance : DecidablePred MembersOwn := fun _ => inferInstanceAs (Decidable (OwnMembers _ _))

/-- What a round keeps. -/
theorem membersOwn_step {l l' : Listener} {r : Round} (hself : l.HasSelf) (h : l.MembersOwn)
    (hpub : ∀ event, r.event = some event → event.AsPublished) (hstep : l.step r = some l') :
    l'.MembersOwn := by
  have hframe := step_ok hself hstep
  rw [MembersOwn, hframe.userId, hframe.members, Round.membersAfter]
  rcases hevent : r.event with - | event
  · exact h
  · exact ownMembers_membersAfter h (hpub event hevent) _

/-- Over a whole run the start decides. -/
theorem always_membersOwn_iff {l : Listener} {rounds : List Round} (hself : l.HasSelf)
    (hpub : ∀ r ∈ rounds, ∀ event, r.event = some event → event.AsPublished) :
    Always step MembersOwn l rounds ↔ l.MembersOwn := by
  constructor
  · exact Always.start
  · intro h
    have hpub' : EachStep step (fun _ r => ∀ event, r.event = some event → event.AsPublished)
        l rounds := by
      intro rounds₁ r l₁ hpre _
      exact hpub r (hpre.subset (mem_append_right _ mem_cons_self))
    have hinv : Always step (fun l => l.HasSelf ∧ l.MembersOwn) l rounds :=
      always_of_eachStep (fun l r l' hl hC hstep =>
        ⟨hasSelf_step hl.1 hstep, membersOwn_step hl.1 hl.2 hC hstep⟩) ⟨hself, h⟩ hpub'
    exact hinv.imp fun _ hl => hl.2

end Listener

/-! ### The Ready payload -/

section Voice

variable {db : Database} {order : IterOrder} {entries : List (String × List String)}
  {voiceMembers : List Member}

/-- Servers without a call contribute no record. -/
theorem recordOf_fetchVoiceMembers_none (hdb : db.RecordsKeyed)
    (h : fetchVoiceMembers db order entries = .ok voiceMembers) {server : String}
    (hserver : server ∉ entries.map (·.1)) :
    recordOf (·.id.server) voiceMembers server = none := by
  induction entries generalizing voiceMembers with
  | nil =>
    obtain rfl := Except.ok.inj h
    rfl
  | cons e rest ih =>
    obtain ⟨records, others, hrecords, hothers, rfl⟩ := fetchVoiceMembers_cons_ok h
    rw [map_cons, mem_cons, not_or] at hserver
    have hne : ∀ m ∈ records, m.id.server ≠ server :=
      fun m hm heq => hserver.1 (heq.symm.trans (hdb.members hrecords m hm))
    rw [recordOf_append, ih hothers hserver.2, recordOf_eq_none.mpr hne]
    rfl

/-- A server with a call contributes the last record fetched for it. -/
theorem recordOf_fetchVoiceMembers_some (hdb : db.RecordsKeyed)
    (h : fetchVoiceMembers db order entries = .ok voiceMembers)
    (hnodup : (entries.map (·.1)).Nodup) {e : String × List String} (he : e ∈ entries) :
    ∃ records, db.fetchMembers e.1 (order.iter e.2) = .ok records ∧
      recordOf (·.id.server) voiceMembers e.1 = records.getLast? := by
  induction entries generalizing voiceMembers with
  | nil => exact absurd he not_mem_nil
  | cons e' rest ih =>
    obtain ⟨records, others, hrecords, hothers, rfl⟩ := fetchVoiceMembers_cons_ok h
    rw [map_cons, nodup_cons] at hnodup
    rcases mem_cons.mp he with rfl | he
    · refine ⟨records, hrecords, ?_⟩
      rw [recordOf_append, recordOf_fetchVoiceMembers_none hdb hothers hnodup.1,
        recordOf_of_forall (hdb.members hrecords)]
      rfl
    · obtain ⟨last, hlast, hrecord⟩ := ih hothers hnodup.2 he
      have hne : ∀ m ∈ records, m.id.server ≠ e.1 := by
        intro m hm heq
        rw [hdb.members hrecords m hm] at heq
        exact hnodup.1 (heq ▸ List.mem_map_of_mem he)
      refine ⟨last, hlast, ?_⟩
      rw [recordOf_append, hrecord, recordOf_eq_none.mpr hne, or_none]

end Voice

/-- In every server with a call that the user sees, the last record that the
database returns for the participants is the user's own. -/
def VoiceRecordsOwn (db : Database) (redis : Redis) (order : IterOrder)
    (clock : Stream' Timestamp) (fields : ReadyPayloadFields) (user : User) : Prop :=
  ∀ channels, State.ShowsChannels db clock (.ofUser user) user channels →
    ∀ e ∈ (serverParticipants (State.requestedVoice redis fields channels)).toList,
      ∀ records last, db.fetchMembers e.1 (order.iter e.2) = .ok records →
        records.getLast? = some last → last.id.user = user.id

section Session

variable {db : Database} {redis : Redis} {order : IterOrder} {clock : Stream' Timestamp}
  {fields : ReadyPayloadFields} {user : User} {sessionId : String} {ready : ReadyPayload}
  {s₀ : State}

/-- The records collected at the start are the user's own exactly when those of
the calls are. -/
theorem ownMembers_collect_iff (hdb : db.RecordsKeyed) {memberships voiceMembers : List Member}
    {participants : HashMap String (List String)}
    (hmemberships : db.fetchAllMemberships user.id = .ok memberships)
    (hvoice : fetchVoiceMembers db order participants.toList = .ok voiceMembers) :
    OwnMembers user.id
        (HashMap.collect ((memberships ++ voiceMembers).map fun x => (x.id.server, x))) ↔
      ∀ e ∈ participants.toList, ∀ records last,
        db.fetchMembers e.1 (order.iter e.2) = .ok records → records.getLast? = some last →
        last.id.user = user.id := by
  have hnodup : (participants.toList.map (·.1)).Nodup := by
    rw [map_fst_toList]
    exact participants.keys_nodup
  have hlookup : ∀ server, (collect ((memberships ++ voiceMembers).map
      fun x => (x.id.server, x))).lookup server
        = (recordOf (·.id.server) voiceMembers server).or
            (recordOf (·.id.server) memberships server) := by
    intro server
    rw [lookup_collect_eq_recordOf, recordOf_append]
  rw [ownMembers_iff]
  constructor
  · intro h e he records last hrecords hlast
    obtain ⟨records', hrecords', hrecord⟩ := recordOf_fetchVoiceMembers_some hdb hvoice hnodup he
    obtain rfl := Except.ok.inj (hrecords.symm.trans hrecords')
    have hcached := hlookup e.1
    rw [hrecord, hlast, some_or] at hcached
    rw [h e.1 last hcached]
  · intro h server m hm
    rw [hlookup] at hm
    rcases hrecord : recordOf (·.id.server) voiceMembers server with - | last
    · -- no call in this server: the user's own record
      rw [hrecord, none_or] at hm
      obtain ⟨hmem, hserver⟩ := key_of_recordOf hm
      have huser := hdb.memberships hmemberships m hmem
      exact congrArg₂ MemberCompositeKey.mk hserver huser
    · rw [hrecord, some_or] at hm
      obtain rfl := some.inj hm
      have hserver := (key_of_recordOf hrecord).2
      have hkey : server ∈ participants.toList.map (·.1) := by
        by_contra hno
        rw [recordOf_fetchVoiceMembers_none hdb hvoice hno] at hrecord
        exact nomatch hrecord
      obtain ⟨e, he, rfl⟩ := List.mem_map.mp hkey
      obtain ⟨records, hrecords, hlast⟩ := recordOf_fetchVoiceMembers_some hdb hvoice hnodup he
      have huser := h e he records last hrecords (hlast.symm.trans hrecord)
      exact congrArg₂ MemberCompositeKey.mk hserver huser

/-- **Cached memberships are the session user's own exactly when the calls they
see bring in no foreign record.**  The session starts with the Ready payload and
runs any number of rounds. -/
theorem membersOwn_iff_voiceRecordsOwn (hdb : db.RecordsKeyed)
    (hready : Handler.exec (State.generateReadyPayload db redis order clock fields)
      (State.from user sessionId) = (.ok ready, s₀))
    {rounds : List Round}
    (hpub : ∀ r ∈ rounds, ∀ event, r.event = some event → event.AsPublished) :
    Always Listener.step Listener.MembersOwn (Listener.start s₀) rounds ↔
      VoiceRecordsOwn db redis order clock fields user := by
  obtain ⟨d, s₁, hgather, hid, husers, hmembers⟩ := cache_generateReadyPayload hready
  obtain ⟨huser, hid₁, memberships, channels, voiceMembers, hmemberships, hshows, hvoice,
    hcached⟩ := gatherReady_ok hgather
  obtain rfl : user = d.user := some.inj ((lookup_insert _).symm.trans huser)
  have hself : (start s₀).HasSelf := ⟨d.user, husers⟩
  have hstart : (start s₀).MembersOwn ↔ OwnMembers d.user.id
      (collect ((memberships ++ voiceMembers).map fun x => (x.id.server, x))) := by
    show OwnMembers s₀.cache.userId s₀.cache.members ↔ _
    rw [hid.trans hid₁, hmembers, hcached]
    rfl
  rw [always_membersOwn_iff hself hpub, hstart, ownMembers_collect_iff hdb hmemberships hvoice]
  constructor
  · intro h channels' hshows'
    obtain rfl := hshows.unique hshows'
    exact h
  · intro h
    exact h channels hshows

end Session

theorem callDb_recordsKeyed : callDb.database.RecordsKeyed :=
  ReferenceDb.recordsKeyed (by decide)

/-- Alice's membership in the server is Bob's. -/
theorem callState_members_foreign :
    callDb.database.RecordsKeyed ∧
    (∃ ready, Handler.exec (State.generateReadyPayload callDb.database callRedis .insertion
      (Stream'.const 0) {}) (State.from { id := "alice" } "session") = (.ok ready, callState)) ∧
    ¬ Always Listener.step Listener.MembersOwn (Listener.start callState) [] := by
  refine ⟨callDb_recordsKeyed, exec_callState, ?_⟩
  decide +kernel

/-- Alice gets a nickname, then Bob leaves the server. -/
def memberRounds : List Round :=
  [⟨callDb.database, Stream'.const 0, [], some (.serverMemberUpdate ⟨"server", "alice"⟩
      { nickname := some "al" } [])⟩,
    ⟨callDb.database, Stream'.const 0, [], some (.serverMemberLeave "server" "bob")⟩]

/-- Without voice states, her own record is the one that is updated. -/
theorem membersOwn_iff_voiceRecordsOwn_alice : ∃ ready s₀,
    Handler.exec (State.generateReadyPayload callDb.database callRedis .insertion
      (Stream'.const 0) { voiceStates := false }) (State.from { id := "alice" } "session")
        = (.ok ready, s₀) ∧
    ((run Listener.step (Listener.start s₀) memberRounds).any fun l =>
      (l.state.cache.members.lookup "server").any (·.nickname == some "al")) = true ∧
    Always Listener.step Listener.MembersOwn (Listener.start s₀) memberRounds := by
  refine Handler.exists_exec_ok_of
    (fun _ s₀ => ((run Listener.step (Listener.start s₀) memberRounds).any fun l =>
      (l.state.cache.members.lookup "server").any (·.nickname == some "al")) = true)
    (by decide +kernel) fun ready s₀ hready hran => ⟨hran, ?_⟩
  have hpub : ∀ r ∈ memberRounds, ∀ event, r.event = some event → event.AsPublished := by
    intro r hr event hevent
    rcases mem_pair.mp hr with rfl | rfl
    · obtain rfl := some.inj hevent
      rfl
    · obtain rfl := some.inj hevent
      trivial
  refine (membersOwn_iff_voiceRecordsOwn callDb_recordsKeyed hready hpub).mpr ?_
  -- no call is looked at
  intro channels _ e he
  cases he

end DawnChat
