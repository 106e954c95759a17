/-
DawnChat/Members/Departed.lean

Records of members who have left, over whole histories.

The queries that list members skip the records that are marked, or cannot match them because
their roles are gone.  Two do not: `fetch_all_members_chunked`, whose generator panics on a
record without a join date, and `fetch_mutual_server_ids`.  So departed members are invisible
throughout a history exactly if nobody is ever removed while in timeout
(`departedHidden_iff`).

What the mark is for does work.  `timeout_survives_rejoin`: whoever leaves in timeout and joins
again before it is over is still in timeout, with nothing else left of the old record.
-/
import DawnChat.Members.Store

namespace DawnChat

open RustStd Fallible Handler Run MemberDb Collection MemberDocument MemberCall
  ChunkedServerMembersGenerator
  Option

/-! ### What a call can do -/

namespace MemberCall

variable {now : Timestamp} {banned : Bool} {id : MemberCompositeKey} {call : MemberCall}
  {before : Option MemberDocument} {doc after : MemberDocument}

/-- **Where a record comes from**: it was there, it is new, or a call has merged, edited or
marked it. -/
theorem effect_cases (h : call.effect now banned id before = some after) :
    before = some after ∨
    (before = none ∧ call = .create id ∧ after = .new id now) ∨
    (∃ doc, before = some doc ∧ call = .create id ∧ doc.departed = true ∧ after = doc.merge now) ∨
    (∃ doc p clear, before = some doc ∧ call = .edit id p clear ∧ doc.isMember = true ∧
      conflicts p clear = false ∧ after = doc.update p clear) ∨
    (∃ doc timeout, before = some doc ∧ call = .remove id ∧ doc.isMember = true ∧
      doc.timeout = some timeout ∧ now < timeout ∧ after = doc.depart timeout) := by
  cases call with
  | create id' =>
    rw [effect] at h
    split at h
    · next hid =>
      obtain ⟨rfl, -⟩ := hid
      rcases before with - | doc
      · exact .inr (.inl ⟨rfl, rfl, (some.inj h).symm⟩)
      · rcases hdeparted : doc.departed with - | -
        · left
          rw [← h]
          simp [hdeparted]
        · refine .inr (.inr (.inl ⟨doc, rfl, rfl, hdeparted, ?_⟩))
          rw [← some.inj h]
          simp [hdeparted]
    · exact .inl h
  | edit id' p clear =>
    rw [effect] at h
    split at h
    · next hid =>
      obtain ⟨rfl, hconflicts⟩ := hid
      obtain ⟨doc, rfl, hafter⟩ := map_eq_some_iff.mp h
      split at hafter
      · next hmember =>
        exact .inr (.inr (.inr (.inl ⟨doc, p, clear, rfl, rfl, hmember, hconflicts,
          hafter.symm⟩)))
      · exact .inl (congrArg some hafter)
    · exact .inl h
  | remove id' =>
    rw [effect] at h
    split at h
    · next hid =>
      subst hid
      obtain ⟨doc, rfl, hafter⟩ := bind_eq_some_iff.mp h
      split at hafter
      · next hmember =>
        obtain ⟨timeout, htimeout, hafter⟩ := bind_eq_some_iff.mp hafter
        split at hafter
        · next hnow =>
          exact .inr (.inr (.inr (.inr ⟨doc, timeout, rfl, rfl, hmember, htimeout, hnow,
            (some.inj hafter).symm⟩)))
        · cases hafter
      · exact .inl hafter
    · exact .inl h
  | ban b => exact .inl h
  | unban id' => exact .inl h
  | removeDangling => exact .inl (filter_eq_some_iff.mp h).1

/-- **When a record goes away**: a member who is not in timeout is removed, or its time has
come. -/
theorem effect_eq_none (h : call.effect now banned id (some doc) = none) :
    (call = .remove id ∧ doc.isMember = true ∧ ∀ timeout, doc.timeout = some timeout →
      timeout ≤ now) ∨
    (call = .removeDangling ∧ ∃ pending, doc.pendingDeletionAt = some pending ∧ pending < now) := by
  cases call with
  | create id' | edit id' p clear =>
    rw [effect] at h
    split at h <;> cases h
  | remove id' =>
    rw [effect] at h
    split at h
    · next hid =>
      subst hid
      rw [bind_some] at h
      split at h
      · next hmember =>
        refine .inl ⟨rfl, hmember, fun timeout htimeout => ?_⟩
        rw [htimeout, bind_some] at h
        split at h
        · cases h
        · next hnow => exact not_lt.mp hnow
      · cases h
    · cases h
  | ban b => cases h
  | unban id' => cases h
  | removeDangling =>
    rw [effect, filter_eq_none_iff] at h
    have hpending := h doc rfl
    rw [Bool.not_eq_true, Bool.not_eq_false'] at hpending
    rcases hdoc : doc.pendingDeletionAt with - | pending
    · rw [hdoc] at hpending
      cases hpending
    · rw [hdoc] at hpending
      exact .inr ⟨rfl, pending, rfl, of_decide_eq_true hpending⟩

/-- The call does not take a join date away. -/
def keepsJoinedAt : MemberCall → Bool
  | edit _ _ clear => FieldsMember.joinedAt ∉ clear
  | _ => true

end MemberCall

/-! ### Records -/

/-- Nothing but the timeout and the voice settings is left of a record that is marked. -/
def MemberDocument.Bare (doc : MemberDocument) : Prop :=
  doc.departed = true →
    doc.joinedAt = none ∧ doc.nickname = none ∧ doc.avatar = none ∧ doc.roles = []

/-- A record that is not marked has a join date. -/
def MemberDocument.Joined (doc : MemberDocument) : Prop :=
  doc.departed = false → doc.joinedAt.isSome = true

namespace MemberDocument

variable {now : Timestamp} {banned : Bool} {id : MemberCompositeKey} {call : MemberCall}
  {before : Option MemberDocument} {after : MemberDocument}

theorem bare_effect (hbefore : ∀ doc, before = some doc → doc.Bare)
    (h : call.effect now banned id before = some after) : after.Bare := by
  obtain hsame | ⟨-, -, rfl⟩ | ⟨doc, -, -, -, rfl⟩ | ⟨doc, p, clear, -, -, hmember, -, rfl⟩ |
    ⟨doc, timeout, -, -, -, -, -, rfl⟩ := effect_cases h
  · exact hbefore after hsame
  · exact fun hdeparted => Bool.noConfusion hdeparted
  · exact fun hdeparted => Bool.noConfusion hdeparted
  · -- only members are edited
    intro hdeparted
    rw [isMember, Bool.and_eq_true, Bool.not_eq_true'] at hmember
    exact Bool.noConfusion (hmember.1.symm.trans hdeparted)
  · exact fun _ => ⟨rfl, rfl, rfl, rfl⟩

theorem joined_effect (hkeeps : call.keepsJoinedAt = true)
    (hbefore : ∀ doc, before = some doc → doc.Joined)
    (h : call.effect now banned id before = some after) : after.Joined := by
  obtain hsame | ⟨-, -, rfl⟩ | ⟨doc, -, -, -, rfl⟩ | ⟨doc, p, clear, -, rfl, hmember, -, rfl⟩ |
    ⟨doc, timeout, -, -, -, -, -, rfl⟩ := effect_cases h
  · exact hbefore after hsame
  · exact fun _ => rfl
  · exact fun _ => rfl
  · intro _
    rw [isMember, Bool.and_eq_true] at hmember
    have hclear : FieldsMember.joinedAt ∉ clear := of_decide_eq_true hkeeps
    rw [update, if_neg hclear, isSome_or, hmember.2, Bool.or_true]
  · exact fun hdeparted => Bool.noConfusion hdeparted

end MemberDocument

theorem MemberDocument.id_of_decode {doc : MemberDocument} {member : Member}
    (h : doc.decode = some member) : member.id = doc.id := by
  obtain ⟨joinedAt, -, rfl⟩ := map_eq_some_iff.mp h
  rfl

theorem MemberDocument.exists_decode {doc : MemberDocument} (h : doc.joinedAt.isSome = true) :
    ∃ member, doc.decode = some member := by
  obtain ⟨joinedAt, hjoinedAt⟩ := isSome_iff_exists.mp h
  exact ⟨_, by rw [decode, hjoinedAt]; rfl⟩

namespace MemberDb

variable {db db' : MemberDb} {c : TimedCall} {calls : List TimedCall}

/-- Every record has a property. -/
def Records (P : MemberDocument → Prop) (db : MemberDb) : Prop :=
  ∀ id doc, db.members.get? id = some doc → P doc

/-- A property that a call keeps for one record, it keeps for all of them. -/
theorem Records.step {P : MemberDocument → Prop}
    (hP : ∀ {banned id before after}, (∀ doc, before = some doc → P doc) →
      c.call.effect c.now banned id before = some after → P after)
    (hdb : db.Records P) (h : db.step c = some db') : db'.Records P := by
  obtain rfl := some.inj h
  intro id doc hdoc
  rw [get?_exec] at hdoc
  exact hP (hdb id) hdoc

theorem records_empty (P : MemberDocument → Prop) : Records P {} :=
  fun _ _ hdoc => nomatch hdoc

/-- In every history, little is left of the records that are marked. -/
theorem bare_run (hrun : run step {} calls = some db) : db.Records MemberDocument.Bare :=
  run_keeps (fun _ _ _ hs h => hs.step bare_effect h) hrun (records_empty _)

/-- The user is there, and not only a record that is marked. -/
def Shows (db : MemberDb) (id : MemberCompositeKey) : Prop :=
  ∃ doc, db.members.get? id = some doc ∧ doc.departed = false

/-- A generator does not panic, however often it is asked, and yields nobody who left. -/
def Yields (db : MemberDb) (generator : ChunkedServerMembersGenerator) : Prop :=
  ∀ n, ∃ members rest, generator.iterate n = some (members, rest) ∧ ∀ m ∈ members, db.Shows m.id

/-- The queries with a filter that marked records do not pass. -/
structure HiddenByFilter (db : MemberDb) : Prop where
  fetchMember : ∀ {serverId userId m}, fetchMember serverId userId db = .ok m → db.Shows m.id
  fetchMembers : ∀ {serverId ids m}, m ∈ fetchMembers serverId ids db → db.Shows m.id
  fetchAllMembers : ∀ {serverId m}, m ∈ fetchAllMembers serverId db → db.Shows m.id
  fetchAllMembersWithRoles : ∀ {serverId roles m},
    m ∈ fetchAllMembersWithRoles serverId roles db → db.Shows m.id
  fetchAllMembersWithRolesChunked : ∀ serverId roles,
    db.Yields (fetchAllMembersWithRolesChunked serverId roles db)
  fetchAllMemberships : ∀ {userId m}, m ∈ fetchAllMemberships userId db → db.Shows m.id
  fetchMemberCount : ∀ serverId, fetchMemberCount serverId db
    = ((db.members.documents.filter (!·.departed)).filter (·.id.server = serverId)).length
  fetchServerCount : ∀ userId, fetchServerCount userId db
    = ((db.members.documents.filter (!·.departed)).filter (·.id.user = userId)).length

/-- **No query shows or counts somebody who left**, and no generator panics. -/
structure Hidden (db : MemberDb) : Prop extends HiddenByFilter db where
  fetchAllMembersChunked : ∀ serverId, db.Yields (fetchAllMembersChunked serverId db)
  fetchMutualServerIds : ∀ {userA userB serverId},
    serverId ∈ fetchMutualServerIds userA userB db →
      db.Shows ⟨serverId, userA⟩ ∧ db.Shows ⟨serverId, userB⟩

variable {doc : MemberDocument} {m : Member} {generator : ChunkedServerMembersGenerator}

theorem shows_of_decode (hdoc : doc ∈ db.members)
    (hdeparted : doc.departed = false) (hdecode : doc.decode = some m) : db.Shows m.id := by
  obtain ⟨joinedAt, -, rfl⟩ := map_eq_some_iff.mp hdecode
  exact ⟨doc, get?_key hdoc, hdeparted⟩

/-- What a query lists is shown if its filter lets nobody pass who left. -/
theorem shows_of_mem {p : MemberDocument → Bool}
    (hp : ∀ doc ∈ db.members, p doc = true → doc.departed = false)
    (hm : m ∈ (db.members.documents.filter p).filterMap decode) : db.Shows m.id := by
  obtain ⟨doc, hmem, hdecode⟩ := List.mem_filterMap.mp hm
  obtain ⟨hdoc, hfilter⟩ := List.mem_filter.mp hmem
  exact shows_of_decode hdoc (hp doc hdoc hfilter) hdecode

/-- A generator of documents of members yields them. -/
theorem yields_of_cursor (h : ∀ doc ∈ generator.cursor, doc ∈ db.members ∧ doc.departed = false ∧
      doc.joinedAt.isSome = true) : db.Yields generator := by
  intro n
  induction n generalizing generator with
  | zero => exact ⟨[], generator, rfl, fun _ hm => nomatch hm⟩
  | succ n ih =>
    obtain ⟨cursor⟩ := generator
    cases cursor with
    | nil =>
      obtain ⟨members, rest, hrest, hshows⟩ := ih h
      refine ⟨members, rest, ?_, hshows⟩
      simp [iterate, next, hrest]
    | cons doc cursor =>
      obtain ⟨hdoc, hdeparted, hjoined⟩ := h doc (List.mem_cons_self ..)
      obtain ⟨members, rest, hrest, hshows⟩ := @ih ⟨cursor⟩
        fun doc' hdoc' => h doc' (List.mem_cons_of_mem _ hdoc')
      obtain ⟨member, hdecode⟩ := exists_decode hjoined
      refine ⟨member :: members, rest, ?_, ?_⟩
      · simp [iterate, next, hrest, hdecode]
      · intro m hm
        rcases List.mem_cons.mp hm with rfl | hm
        · exact shows_of_decode hdoc hdeparted hdecode
        · exact hshows m hm

/-- A generator panics when it comes to a document without a join date. -/
theorem iterate_eq_none {cursor : List MemberDocument}
    (hdoc : doc ∈ cursor) (hjoined : doc.joinedAt = none) :
    ChunkedServerMembersGenerator.iterate cursor.length ⟨cursor⟩ = none := by
  induction cursor with
  | nil => cases hdoc
  | cons first cursor ih =>
    rcases hdecode : first.decode with - | member
    · simp [iterate, next, hdecode]
    · rcases List.mem_cons.mp hdoc with rfl | hrest
      · rw [decode, hjoined] at hdecode
        cases hdecode
      · simp [iterate, next, hdecode, ih hrest]

theorem not_yields
    (hdoc : doc ∈ generator.cursor) (hjoined : doc.joinedAt = none) : ¬ db.Yields generator := by
  intro hyields
  obtain ⟨members, rest, hiterate, -⟩ := hyields generator.cursor.length
  rw [iterate_eq_none hdoc hjoined] at hiterate
  cases hiterate

/-- Whoever holds a role has not left. -/
theorem not_departed_of_withRoles (hbare : db.Records MemberDocument.Bare) {serverId : String}
    {roles : List String} (hdoc : doc ∈ withRoles serverId roles db) :
    doc ∈ db.members ∧ doc.departed = false := by
  obtain ⟨hmem, hfilter⟩ := List.mem_filter.mp hdoc
  refine ⟨hmem, Bool.eq_false_iff.mpr fun hdeparted => ?_⟩
  obtain ⟨-, -, -, hroles⟩ := hbare _ doc (get?_key hmem) hdeparted
  rw [hroles] at hfilter
  simp at hfilter

/-- The filters do their work in every history. -/
theorem hiddenByFilter (hbare : db.Records MemberDocument.Bare)
    (hjoined : db.Records MemberDocument.Joined) : db.HiddenByFilter where
  fetchMember := by
    intro serverId userId m hm
    obtain ⟨doc, hdoc, hdeparted, hdecode⟩ := fetchMember_ok.mp hm
    exact shows_of_decode (get?_eq_some.mp hdoc).1 hdeparted hdecode
  fetchMembers := shows_of_mem fun doc _ hp => by
    rw [Bool.and_eq_true, Bool.and_eq_true, Bool.not_eq_true'] at hp
    exact hp.1.2
  fetchAllMembers := shows_of_mem fun doc _ hp => by
    rw [Bool.and_eq_true, Bool.not_eq_true'] at hp
    exact hp.2
  fetchAllMembersWithRoles := by
    intro serverId roles m hm
    obtain ⟨doc, hmem, hdecode⟩ := List.mem_filterMap.mp hm
    obtain ⟨hdoc, hdeparted⟩ := not_departed_of_withRoles hbare hmem
    exact shows_of_decode hdoc hdeparted hdecode
  fetchAllMembersWithRolesChunked serverId roles := yields_of_cursor fun doc hdoc => by
    obtain ⟨hmem, hdeparted⟩ := not_departed_of_withRoles hbare hdoc
    exact ⟨hmem, hdeparted, hjoined _ doc (get?_key hmem) hdeparted⟩
  fetchAllMemberships := shows_of_mem fun doc _ hp => by
    rw [Bool.and_eq_true, Bool.not_eq_true'] at hp
    exact hp.2
  fetchMemberCount serverId := by
    rw [fetchMemberCount, List.filter_filter]
  fetchServerCount userId := by
    rw [fetchServerCount, List.filter_filter]

/-- **Departed members are invisible exactly if there are none.** -/
theorem hidden_iff (hbare : db.Records MemberDocument.Bare)
    (hjoined : db.Records MemberDocument.Joined) :
    db.Hidden ↔ db.Records (·.departed = false) := by
  constructor
  · intro h id doc hdoc
    refine Bool.eq_false_iff.mpr fun hdeparted => ?_
    obtain ⟨hmem, rfl⟩ := get?_eq_some.mp hdoc
    have hcursor : doc ∈ (fetchAllMembersChunked doc.id.server db).cursor :=
      List.mem_filter.mpr ⟨hmem, decide_eq_true rfl⟩
    exact not_yields hcursor (hbare _ doc hdoc hdeparted).1 (h.fetchAllMembersChunked doc.id.server)
  · intro h
    have hshows : ∀ doc ∈ db.members, db.Shows doc.id := fun doc hdoc =>
      ⟨doc, get?_key hdoc, h _ doc (get?_key hdoc)⟩
    refine ⟨hiddenByFilter hbare hjoined, fun serverId => yields_of_cursor fun doc hdoc => ?_, ?_⟩
    · have hmem := (List.mem_filter.mp hdoc).1
      have hdeparted := h _ doc (get?_key hmem)
      exact ⟨hmem, hdeparted, hjoined _ doc (get?_key hmem) hdeparted⟩
    · intro userA userB serverId hserver
      obtain ⟨doc, hdoc, rfl⟩ := List.mem_map.mp hserver
      obtain ⟨hdoc, hone⟩ := List.mem_filter.mp hdoc
      obtain ⟨hmem, huser⟩ := List.mem_filter.mp hdoc
      obtain ⟨other, hother⟩ := List.exists_mem_of_length_pos
        (Nat.lt_of_lt_of_eq Nat.zero_lt_one (of_decide_eq_true hone).symm)
      obtain ⟨hmemOther, hids⟩ := List.mem_filter.mp hother
      rw [Bool.and_eq_true, decide_eq_true_eq, decide_eq_true_eq] at hids
      rw [← of_decide_eq_true huser, ← hids.1]
      refine ⟨hshows doc hmem, ?_⟩
      rw [← hids.2]
      exact hshows other hmemOther

/-- Somebody is removed while in timeout. -/
def LeavesRecord (db : MemberDb) (c : TimedCall) : Prop :=
  ∃ id m, c.call = .remove id ∧ fetchMember id.server id.user db = .ok m ∧ m.inTimeout c.now = true

/-- Where no record is marked, a call marks one exactly if it removes somebody in timeout. -/
theorem records_step_iff (hdb : db.Records (·.departed = false)) :
    (∀ db', db.step c = some db' → db'.Records (·.departed = false)) ↔ ¬ db.LeavesRecord c := by
  constructor
  · rintro h ⟨id, m, hcall, hfetch, htimeout⟩
    obtain ⟨doc, hdoc, hmember, -, hsame⟩ := exists_of_fetchMember hfetch
    obtain ⟨timeout, htime, hnow⟩ := Member.inTimeout_iff.mp htimeout
    have hmarked : ((c.call.request c.now).exec db).2.members.get? id
        = some (doc.depart timeout) := by
      rw [get?_exec, hcall, effect, if_pos rfl, hdoc, bind_some, if_pos hmember,
        ← hsame, htime, bind_some, if_pos hnow]
    exact Bool.noConfusion (h _ rfl id _ hmarked)
  · intro h db' hdb' id after hafter
    obtain rfl := some.inj hdb'
    rw [get?_exec] at hafter
    obtain hsame | ⟨-, -, rfl⟩ | ⟨doc, -, -, -, rfl⟩ | ⟨doc, p, clear, hdoc, -, -, -, rfl⟩ |
      ⟨doc, timeout, hdoc, hcall, hmember, htime, hnow, rfl⟩ := effect_cases hafter
    · exact hdb id after hsame
    · rfl
    · rfl
    · exact hdb id doc hdoc
    · rw [MemberDocument.isMember, Bool.and_eq_true, Bool.not_eq_true'] at hmember
      obtain ⟨m, hdecode⟩ := exists_decode hmember.2
      have hfetch : fetchMember id.server id.user db = .ok m :=
        fetchMember_ok.mpr ⟨doc, hdoc, hmember.1, hdecode⟩
      obtain ⟨joinedAt, -, rfl⟩ := map_eq_some_iff.mp hdecode
      exact absurd ⟨id, _, hcall, hfetch, Member.inTimeout_iff.mpr ⟨timeout, htime, hnow⟩⟩ h

theorem hidden_empty : Hidden {} :=
  (hidden_iff (records_empty _) (records_empty _)).mpr (records_empty _)

end MemberDb

/-- **Departed members are invisible** to all queries throughout a history of joining, leaving,
timeouts, bans and pruning, exactly if nobody is removed while in timeout. -/
theorem departedHidden_iff (calls : List TimedCall)
    (hcalls : ∀ c ∈ calls, c.call.keepsJoinedAt = true) :
    Always MemberDb.step MemberDb.Hidden {} calls ↔
      EachStep MemberDb.step (fun db c => ¬ db.LeavesRecord c) {} calls := by
  have hkeep : ∀ (db : MemberDb) (c : TimedCall) (db' : MemberDb),
      db.Records MemberDocument.Bare ∧ db.Records MemberDocument.Joined →
      c.call.keepsJoinedAt = true → db.step c = some db' →
      db'.Records MemberDocument.Bare ∧ db'.Records MemberDocument.Joined :=
    fun db c db' hdb hc h => ⟨hdb.1.step bare_effect h,
      hdb.2.step (joined_effect hc) h⟩
  have hiff := always_iff_eachStep (P := MemberDb.Hidden) (W := fun _ c => c.call.keepsJoinedAt)
    (C := fun db c => ¬ db.LeavesRecord c) (s := {}) (l := calls) hkeep ?_
    ⟨records_empty _, records_empty _⟩ ?_
  · rw [hiff]
    exact and_iff_right hidden_empty
  · intro db c hdb hc hhidden
    rw [hidden_iff hdb.1 hdb.2] at hhidden
    rw [← records_step_iff hhidden]
    refine forall₂_congr fun db' hdb' => ?_
    obtain ⟨hbare, hjoined⟩ := hkeep db c db' hdb hc hdb'
    exact hidden_iff hbare hjoined
  · intro calls₁ c db hpre _
    exact hcalls c (hpre.subset (List.mem_append_right _ (List.mem_singleton_self c)))

/-- Two members, of whom one is put in timeout and leaves. -/
def leavingInTimeout : List TimedCall :=
  [⟨0, .create ⟨"s", "v"⟩⟩, ⟨0, .create ⟨"s", "u"⟩⟩,
    ⟨1, .edit ⟨"s", "u"⟩ { timeout := some 10 } []⟩, ⟨2, .remove ⟨"s", "u"⟩⟩]

/-- The record that is left makes the generator panic, and the two still share the server. -/
theorem exists_leavingInTimeout :
    ∃ db, run step {} leavingInTimeout = some db ∧
      (fetchAllMembersChunked "s" db).iterate 2 = none ∧
      "s" ∈ fetchMutualServerIds "v" "u" db := by
  exact exists_run_of (fun db => ((fetchAllMembersChunked "s" db).iterate 2).isNone ∧
    "s" ∈ fetchMutualServerIds "v" "u" db) (by decide +kernel)
    fun db _ ⟨hnone, hmutual⟩ => ⟨isNone_iff_eq_none.mp hnone, hmutual⟩

theorem not_always_hidden_leavingInTimeout : ¬ Always step MemberDb.Hidden {} leavingInTimeout := by
  intro h
  obtain ⟨db, hrun, hpanic, -⟩ := exists_leavingInTimeout
  obtain ⟨members, rest, hiterate, -⟩ :=
    (h leavingInTimeout db List.prefix_rfl hrun).fetchAllMembersChunked "s" 2
  rw [hpanic] at hiterate
  cases hiterate

theorem departedHidden_iff_leavingInTimeout :
    (∀ c ∈ leavingInTimeout, c.call.keepsJoinedAt = true) ∧
      ¬ EachStep MemberDb.step (fun db c => ¬ db.LeavesRecord c) {} leavingInTimeout :=
  ⟨by decide, fun h => not_always_hidden_leavingInTimeout
    ((departedHidden_iff leavingInTimeout (by decide)).mpr h)⟩

/-- **Departed members are visible**: the generator of all members panics, and a server that
somebody left is still shared. -/
theorem departedHidden_panics :
    (∀ c ∈ leavingInTimeout, c.call.keepsJoinedAt = true) ∧
      (¬ Always MemberDb.step MemberDb.Hidden {} leavingInTimeout) ∧
      ∃ db, run MemberDb.step {} leavingInTimeout = some db ∧
        (fetchAllMembersChunked "s" db).iterate 2 = none ∧
        "s" ∈ fetchMutualServerIds "v" "u" db :=
  ⟨by decide, not_always_hidden_leavingInTimeout, exists_leavingInTimeout⟩

/-! ### Timeouts -/

/-- The call changes when the timeout of a member ends. -/
def MemberCall.ChangesTimeout (id : MemberCompositeKey) : MemberCall → Prop
  | edit id' p clear => id' = id ∧ (p.timeout.isSome = true ∨ .timeout ∈ clear)
  | _ => False

/-- The record of a member who is in timeout until then, marked or not. -/
def MemberDocument.TimedOut (timeout : Timestamp) (doc : MemberDocument) : Prop :=
  doc.timeout = some timeout ∧ ∀ pending, doc.pendingDeletionAt = some pending → pending = timeout

namespace MemberDb

variable {db db' : MemberDb} {c : TimedCall} {calls : List TimedCall} {id : MemberCompositeKey}
  {timeout : Timestamp}

/-- The record of a user is in timeout until then. -/
def TimedOut (id : MemberCompositeKey) (timeout : Timestamp) (db : MemberDb) : Prop :=
  ∃ doc, db.members.get? id = some doc ∧ doc.TimedOut timeout

/-- Before a timeout is over, no call ends it but an edit of the timeout. -/
theorem TimedOut.step (hdb : db.TimedOut id timeout) (hnow : c.now < timeout)
    (hkept : ¬ c.call.ChangesTimeout id) (h : db.step c = some db') : db'.TimedOut id timeout := by
  obtain rfl := some.inj h
  obtain ⟨doc, hdoc, htimeout, hpending⟩ := hdb
  rw [TimedOut, get?_exec, hdoc]
  rcases hafter : c.call.effect c.now (db.bans.get? id).isSome id (some doc) with - | after
  · -- the record would have gone away
    obtain ⟨-, -, hover⟩ | ⟨-, pending, hdocPending, hover⟩ := effect_eq_none hafter
    · exact absurd hnow (not_lt.mpr (hover timeout htimeout))
    · rw [hpending pending hdocPending] at hover
      exact absurd hnow (lt_asymm hover)
  · refine ⟨after, rfl, ?_⟩
    obtain hsame | ⟨hnone, -⟩ | ⟨old, hold, -, -, rfl⟩ |
      ⟨old, p, clear, hold, hcall, -, -, rfl⟩ | ⟨old, until', hold, -, -, huntil, -, rfl⟩ :=
      effect_cases hafter
    · obtain rfl := some.inj hsame
      exact ⟨htimeout, hpending⟩
    · cases hnone
    · obtain rfl := some.inj hold
      exact ⟨htimeout, fun _ hnone => nomatch hnone⟩
    · obtain rfl := some.inj hold
      rw [hcall, MemberCall.ChangesTimeout, not_and, not_or, Bool.not_eq_true,
        isSome_eq_false_iff, isNone_iff_eq_none] at hkept
      obtain ⟨hnone, hclear⟩ := hkept rfl
      refine ⟨?_, hpending⟩
      rw [update, if_neg hclear, hnone]
      exact htimeout
    · obtain rfl := some.inj hold
      obtain rfl := some.inj (huntil.symm.trans htimeout)
      exact ⟨htimeout, fun pending h => (some.inj h).symm⟩

theorem TimedOut.run (hdb : db.TimedOut id timeout)
    (hcalls : ∀ c ∈ calls, c.now < timeout ∧ ¬ c.call.ChangesTimeout id)
    (hrun : run MemberDb.step db calls = some db') : db'.TimedOut id timeout := by
  have hsteps : EachStep MemberDb.step
      (fun _ c => c.now < timeout ∧ ¬ c.call.ChangesTimeout id) db calls :=
    fun _ c _ hpre _ => hcalls c (hpre.subset (List.mem_append_right _ (List.mem_singleton_self c)))
  exact always_of_eachStep (fun _ _ _ hdb hc h => hdb.step hc.1 hc.2 h) hdb hsteps calls db'
    List.prefix_rfl hrun

/-- A successful edit of the timeout sets it. -/
theorem timedOut_of_edit {now : Timestamp} {p : PartialMember} {clear : List FieldsMember}
    (h : ((MemberCall.edit id p clear).request now).exec db = (.ok (), db'))
    (htimeout : p.timeout = some timeout) : db'.TimedOut id timeout := by
  obtain ⟨m, hfetch, hwrite⟩ := exec_read_bind_ok.mp h
  obtain ⟨doc, hdoc, hmember, hid, -⟩ := exists_of_fetchMember hfetch
  have hupdate := exec_write_ok.mp hwrite
  rw [updateMember, hid] at hupdate
  obtain ⟨hconflicts, rfl⟩ := ite_error_eq_ok.mp hupdate
  -- the field that is set is not removed
  have hclear : FieldsMember.timeout ∉ clear := fun hmem =>
    hconflicts (List.any_eq_true.mpr ⟨_, hmem, by rw [htimeout]; rfl⟩)
  rw [MemberDocument.isMember, Bool.and_eq_true, Bool.not_eq_true', departed,
    isSome_eq_false_iff, isNone_iff_eq_none] at hmember
  refine ⟨doc.update p clear, ?_, ?_, fun pending hpending => ?_⟩
  · refine (get?_updateMany_key db.members id (·.update p clear) (fun _ => rfl)
      id).trans ?_
    rw [if_pos rfl, hdoc]
    rfl
  · rw [update, if_neg hclear, htimeout]
    rfl
  · cases hmember.1.symm.trans hpending

end MemberDb

/-- **A timeout cannot be evaded by rejoining.**  Whatever happens after a moderator has set it,
short of another edit of the timeout, whoever is a member before it is over is in timeout; and
whoever joins has no roles, no nickname and no avatar. -/
theorem timeout_survives_rejoin {before after : List TimedCall} {db₁ db₂ db : MemberDb}
    {id : MemberCompositeKey} {p : PartialMember} {clear : List FieldsMember}
    {now timeout t : Timestamp} (hbefore : run MemberDb.step {} before = some db₁)
    (hset : ((MemberCall.edit id p clear).request now).exec db₁ = (.ok (), db₂))
    (htimeout : p.timeout = some timeout) (hafter : run MemberDb.step db₂ after = some db)
    (hkept : ∀ c ∈ after, ¬ c.call.ChangesTimeout id)
    (htimes : (after.map (·.now) ++ [t]).Pairwise (· ≤ ·)) (ht : t < timeout) :
    (∀ m, fetchMember id.server id.user db = .ok m → m.inTimeout t = true) ∧
      ∀ m db', (createMember id.server id.user t).exec db = (.ok m, db') →
        fetchMember id.server id.user db' = .ok m ∧ m.inTimeout t = true ∧
          m.roles = [] ∧ m.nickname = none ∧ m.avatar = none := by
  have hcalls : ∀ c ∈ after, c.now < timeout ∧ ¬ c.call.ChangesTimeout id := by
    intro c hc
    have hle := (List.pairwise_append.mp htimes).2.2 c.now (List.mem_map_of_mem hc) t
      (List.mem_singleton_self t)
    exact ⟨lt_of_le_of_lt hle ht, hkept c hc⟩
  obtain ⟨doc, hdoc, htimed, -⟩ := (MemberDb.timedOut_of_edit hset htimeout).run hcalls hafter
  constructor
  · intro m hm
    obtain ⟨doc', hdoc', -, -, hsame⟩ := exists_of_fetchMember hm
    obtain rfl := some.inj (hdoc.symm.trans hdoc')
    exact Member.inTimeout_iff.mpr ⟨timeout, hsame.trans htimed, ht⟩
  · intro m db' hcreate
    obtain ⟨new, hnew, hdeparted, hdecode, ⟨hnone, -⟩ | ⟨old, hold, hmarked, rfl⟩⟩ :=
      createMember_ok hcreate
    · cases hdoc.symm.trans hnone
    · obtain rfl := some.inj (hdoc.symm.trans hold)
      have hreached : run step {} (before ++ ⟨now, .edit id p clear⟩ :: after)
          = some db := by
        rw [run_append, hbefore]
        show run step (((edit id p clear).request now).exec db₁).2 after = _
        rw [hset]
        exact hafter
      obtain ⟨-, hnickname, havatar, hroles⟩ := bare_run hreached id doc hdoc hmarked
      refine ⟨fetchMember_ok.mpr ⟨_, hnew, hdeparted, hdecode⟩, ?_⟩
      obtain rfl := some.inj hdecode
      exact ⟨Member.inTimeout_iff.mpr ⟨timeout, htimed, ht⟩, hroles, hnickname, havatar⟩

/-- A member who is put in timeout, is kicked, and joins again. -/
theorem timeout_survives_rejoin_kicked :
    ∃ db₁ db₂ db m db', run MemberDb.step {} [⟨0, .create ⟨"s", "u"⟩⟩] = some db₁ ∧
      ((MemberCall.edit ⟨"s", "u"⟩ { timeout := some 10 } []).request 1).exec db₁ = (.ok (), db₂) ∧
      run MemberDb.step db₂ [⟨2, .remove ⟨"s", "u"⟩⟩] = some db ∧
      (createMember "s" "u" 3).exec db = (.ok m, db') ∧ m.inTimeout 3 = true := by
  let db₁ := (((create ⟨"s", "u"⟩).request 0).exec {}).2
  obtain ⟨_, hset⟩ := exists_exec_ok (s := db₁)
    (x := (edit ⟨"s", "u"⟩ { timeout := some 10 } []).request 1) (by decide +kernel)
  let db₂ := (((edit ⟨"s", "u"⟩ { timeout := some 10 } []).request 1).exec db₁).2
  let db := (((remove ⟨"s", "u"⟩).request 2).exec db₂).2
  obtain ⟨m, hjoin⟩ := exists_exec_ok (s := db) (x := createMember "s" "u" 3)
    (by decide +kernel)
  have hbefore : run step {} [⟨0, .create ⟨"s", "u"⟩⟩] = some db₁ := rfl
  have hafter : run step db₂ [⟨2, .remove ⟨"s", "u"⟩⟩] = some db := rfl
  refine ⟨db₁, _, db, m, _, hbefore, hset, hafter, hjoin, ?_⟩
  exact ((timeout_survives_rejoin hbefore hset rfl hafter (by simp [MemberCall.ChangesTimeout])
    (by decide) (by decide)).2 m _ hjoin).2.1

end DawnChat
