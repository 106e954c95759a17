/-
DawnChat/Messages/Store.lean

The message collection in the two drivers
(`core/database/src/models/messages/ops`).

Queries of the MongoDB driver are a filter, a sort and a limit.  A query around
a message asks twice: for messages from that id on in increasing order, and for
messages before it in decreasing order.  Each part is an initial piece in its
order, which is why the whole has no gaps (`fetchMessages_nearby`).  Ids are
compared as strings, as the database compares them.

The in-memory driver has its own predicates.  `delete_messages` keeps a message
only if *neither* its channel nor its id is among those to delete, and the filter
for pinned messages is inverted.  `messageStore_refines_iff` says for which stores
and arguments the two drivers nevertheless agree.
-/
import DawnChat.Channels.Store
import Mathlib.Data.String.Basic

namespace DawnChat

open RustStd Fallible Collection ReferenceDb List

/-! ### Queries with a filter, a sort and a limit -/

/-- Text search, which the database does with an index of its own. -/
structure TextIndex where
  /-- Whether a search finds a message. -/
  matches_ : String → Message → Bool
  score : String → Message → Int

namespace MongoDb

/-- The limit of a query: zero is no limit, and the sign does not matter. -/
def cut {α : Type} (limit : Int) (l : List α) : List α :=
  if limit = 0 then l else l.take limit.natAbs

theorem cut_of_pos {α : Type} {limit : Int} (h : 0 < limit) (l : List α) :
    cut limit l = l.take limit.natAbs :=
  if_neg h.ne'

/-- The conditions that a message filter puts on messages. -/
def messageFilter (index : TextIndex) (filter : MessageFilter) (m : Message) : Bool :=
  (filter.channel.all fun channel => m.channel = channel) &&
  (filter.author.all fun author => m.author = author) &&
  (filter.query.all fun query => index.matches_ query m) &&
  (filter.pinned.all fun pinned => m.pinned = some pinned)

/-- Order of a query for a time period. -/
def sortMessages (index : TextIndex) (query : Option String) (sort : MessageSort)
    (l : List Message) : List Message :=
  match sort, query with
  -- sort by relevance, fallback to latest
  | .relevance, some query => sortByKeyDesc (index.score query) l
  | .relevance, none => sortByKeyDesc Message.id l
  | .latest, _ => sortByKeyDesc Message.id l
  | .oldest, _ => sortByKey Message.id l

/-- Fetch multiple messages by given query. -/
def fetchMessages (index : TextIndex) (query : MessageQuery) (db : ReferenceDb) :
    Result (List Message) :=
  let filtered := db.messages.documents.filter (messageFilter index query.filter)
  let limit := query.limit.getD 50
  match query.timePeriod with
  | .relative nearby =>
    let newer := filtered.filter fun m => nearby ≤ m.id
    let older := filtered.filter fun m => m.id < nearby
    .ok (cut (limit.tdiv 2 + 1) (sortByKey Message.id newer) ++
      cut (limit.tdiv 2 + 1) (sortByKeyDesc Message.id older))
  | .absolute before after sort =>
    let filtered := filtered.filter fun m =>
      (before.all fun before => m.id < before) && after.all fun after => after < m.id
    .ok (cut limit (sortMessages index query.filter.query (sort.getD .latest) filtered))

end MongoDb

section Nearby

open MongoDb

variable {index : TextIndex} {db : ReferenceDb} {channel nearby : String} {limit : Int}

/-- The query for the messages of a channel around a message. -/
def nearbyQuery (channel nearby : String) (limit : Int) : MessageQuery where
  limit := some limit
  filter := { channel := some channel }
  timePeriod := .relative nearby

/-- The messages of a channel. -/
def channelMessages (db : ReferenceDb) (channel : String) : List Message :=
  db.messages.documents.filter fun m => m.channel = channel

theorem mem_channelMessages {m : Message} :
    m ∈ channelMessages db channel ↔ m ∈ db.messages ∧ m.channel = channel := by
  simp [channelMessages]

theorem nodup_ids_filter (p : Message → Bool) :
    (((channelMessages db channel).filter p).map Message.id).Nodup :=
  (db.messages.nodup_map_key.sublist (filter_sublist.map _)).sublist
    (filter_sublist.map _)

/-- The two halves of the window. -/
def newerHalf (db : ReferenceDb) (channel nearby : String) (n : Nat) : List Message :=
  (sortByKey Message.id ((channelMessages db channel).filter fun m => nearby ≤ m.id)).take n

def olderHalf (db : ReferenceDb) (channel nearby : String) (n : Nat) : List Message :=
  (sortByKeyDesc Message.id ((channelMessages db channel).filter fun m => m.id < nearby)).take n

theorem fetchMessages_nearbyQuery (h : 1 ≤ limit) :
    fetchMessages index (nearbyQuery channel nearby limit) db
      = .ok (newerHalf db channel nearby (limit.toNat / 2 + 1) ++
          olderHalf db channel nearby (limit.toNat / 2 + 1)) := by
  have hpos : 0 < limit.tdiv 2 + 1 := by
    rw [Int.tdiv_eq_ediv_of_nonneg (by omega)]
    omega
  have habs : (limit.tdiv 2 + 1).natAbs = limit.toNat / 2 + 1 := by
    rw [Int.tdiv_eq_ediv_of_nonneg (by omega)]
    omega
  have hfilter : messageFilter index { channel := some channel }
      = fun m => decide (m.channel = channel) := by
    funext m
    simp [messageFilter]
  simp only [fetchMessages, nearbyQuery, Option.getD_some, hfilter, cut_of_pos hpos, habs]
  rfl

theorem mem_newerHalf {n : Nat} {m : Message} (h : m ∈ newerHalf db channel nearby n) :
    m ∈ channelMessages db channel ∧ nearby ≤ m.id := by
  simpa using mem_filter.mp (mem_of_mem_take_sortByKey h)

theorem mem_olderHalf {n : Nat} {m : Message} (h : m ∈ olderHalf db channel nearby n) :
    m ∈ channelMessages db channel ∧ m.id < nearby := by
  simpa using mem_filter.mp (mem_of_mem_take_sortByKey h)

/-- **Nearby window.**  A query around a message yields at most `limit + 2`
messages of the channel, each once, with the message itself if there is one, and
without gaps. -/
theorem fetchMessages_nearby (index : TextIndex) (db : ReferenceDb) (channel nearby : String)
    (limit : Int) (hlimit : 1 ≤ limit) :
    ∃ result, fetchMessages index (nearbyQuery channel nearby limit) db = .ok result ∧
      (result.length : Int) ≤ limit + 2 ∧ (result.map Message.id).Nodup ∧
      (∀ m ∈ result, m ∈ db.messages ∧ m.channel = channel) ∧
      (∀ m ∈ db.messages, m.channel = channel → m.id = nearby → m ∈ result) ∧
      ∀ a ∈ result, ∀ b ∈ result, ∀ m ∈ db.messages, m.channel = channel →
        a.id < m.id → m.id < b.id → m ∈ result := by
  refine ⟨_, fetchMessages_nearbyQuery hlimit, ?_, ?_, ?_, ?_, ?_⟩
  · have hnewer : (newerHalf db channel nearby (limit.toNat / 2 + 1)).length
        ≤ limit.toNat / 2 + 1 := length_take_le _ _
    have holder : (olderHalf db channel nearby (limit.toNat / 2 + 1)).length
        ≤ limit.toNat / 2 + 1 := length_take_le _ _
    rw [length_append]
    omega
  · rw [map_append]
    refine nodup_append.mpr ⟨nodup_map_take_sortByKey (nodup_ids_filter _),
      nodup_map_take_sortByKey (nodup_ids_filter _), ?_⟩
    -- the halves lie on different sides of the id
    intro x hx y hy
    obtain ⟨a, ha, rfl⟩ := mem_map.mp hx
    obtain ⟨b, hb, rfl⟩ := mem_map.mp hy
    exact (lt_of_lt_of_le (mem_olderHalf hb).2 (mem_newerHalf ha).2).ne'
  · intro m hm
    rcases mem_append.mp hm with hnewer | holder
    · exact mem_channelMessages.mp (mem_newerHalf hnewer).1
    · exact mem_channelMessages.mp (mem_olderHalf holder).1
  · rintro m hm hchannel rfl
    refine mem_append_left _ (mem_take_sortByKey_of_least (nodup_ids_filter _)
      (Nat.succ_pos _) ?_ ?_)
    · exact mem_filter.mpr ⟨mem_channelMessages.mpr ⟨hm, hchannel⟩, by simp⟩
    · intro a ha
      simpa using (mem_filter.mp ha).2
  · intro a ha b hb m hm hchannel ham hmb
    have hmem : m ∈ channelMessages db channel := mem_channelMessages.mpr ⟨hm, hchannel⟩
    rcases le_or_gt nearby m.id with hle | hlt
    · -- a newer message comes before `b` in the newer half
      have hb' : b ∈ newerHalf db channel nearby (limit.toNat / 2 + 1) := by
        refine (mem_append.mp hb).resolve_right fun holder => ?_
        exact absurd (lt_of_le_of_lt hle hmb) (not_lt.mpr (mem_olderHalf holder).2.le)
      refine mem_append_left _ (mem_take_sortByKey_of_lt hb' ?_ hmb)
      exact mem_filter.mpr ⟨hmem, by simpa using hle⟩
    · -- an older message comes before `a` in the older half
      have ha' : a ∈ olderHalf db channel nearby (limit.toNat / 2 + 1) := by
        refine (mem_append.mp ha).resolve_left fun hnewer => ?_
        exact absurd (ham.trans hlt) (not_lt.mpr (mem_newerHalf hnewer).2)
      refine mem_append_right _ (mem_take_sortByKey_of_lt ha' ?_ ?_)
      · exact mem_filter.mpr ⟨hmem, by simpa using hlt⟩
      · exact OrderDual.toDual_lt_toDual.mpr ham

/-- Five messages of one channel. -/
def fiveMessages : ReferenceDb where
  messages := ["1", "2", "3", "4", "5"].foldl
    (fun messages id => messages.insert { id := id, channel := "c" }) ∅

/-- With a limit of one and the third of five messages in the middle, the window is
the message with one neighbour on each side at most. -/
theorem fetchMessages_nearby_third :
    (1 : Int) ≤ 1 ∧ ∃ result, fetchMessages ⟨fun _ _ => true, fun _ _ => 0⟩
      (nearbyQuery "c" "3" 1) fiveMessages = .ok result ∧ (result.length : Int) ≤ 1 + 2 := by
  obtain ⟨result, hresult, hlength, -⟩ :=
    fetchMessages_nearby ⟨fun _ _ => true, fun _ _ => 0⟩ fiveMessages "c" "3" 1 (by decide)
  exact ⟨by decide, result, hresult, hlength⟩

end Nearby

/-! ### Deleting and filtering -/

namespace ReferenceDb

/-- Fetch a message by its id. -/
def fetchMessage (id : String) (db : ReferenceDb) : Result Message :=
  match db.messages.get? id with
  | some m => .ok m
  | none => .error .notFound

/-- Fetch multiple messages by given IDs; a missing one is an error. -/
def fetchMessagesById (ids : List String) (db : ReferenceDb) : Result (List Message) :=
  ids.mapM fun id => db.fetchMessage id

/-- The conditions that a message filter puts on messages.  `toLowercase` is the
lower case form of a text. -/
def messageFilter (toLowercase : String → String) (filter : MessageFilter) (m : Message) : Bool :=
  (filter.channel.all fun channel => m.channel = channel) &&
  (filter.author.all fun author => m.author = author) &&
  (filter.query.all fun query =>
    match m.content with
    | some content => query.toList <:+: (toLowercase content).toList
    | none => false) &&
  -- a message whose state is the one asked for is left out
  filter.pinned.all fun pinned => m.pinned.getD false ≠ pinned

/-- Fetch multiple messages by given query.  Limit and time period are ignored. -/
def fetchMessages (toLowercase : String → String) (query : MessageQuery) (db : ReferenceDb) :
    Result (List Message) :=
  .ok (db.messages.documents.filter (messageFilter toLowercase query.filter))

/-- Delete messages from a channel by their ids and corresponding channel id. -/
def deleteMessages (channel : String) (ids : List String) (db : ReferenceDb) :
    Result ReferenceDb :=
  .ok { db with
    messages := db.messages.retain fun m => m.channel ≠ channel && !ids.contains m.id }

end ReferenceDb

namespace MongoDb

/-- Fetch multiple messages by given IDs; missing ones are left out. -/
def fetchMessagesById (ids : List String) (db : ReferenceDb) : Result (List Message) :=
  .ok (db.messages.documents.filter fun m => ids.contains m.id)

/-- Delete messages from a channel by their ids and corresponding channel id. -/
def deleteMessages (channel : String) (ids : List String) (db : ReferenceDb) :
    Result ReferenceDb :=
  .ok { db with
    messages := db.messages.retain fun m => !(m.channel = channel && ids.contains m.id) }

end MongoDb

/-- The calls of a driver that a bulk deletion makes. -/
structure MessageOps where
  fetchMessagesById : List String → ReferenceDb → Result (List Message)
  deleteMessages : String → List String → ReferenceDb → Result ReferenceDb

def ReferenceDb.messageOps : MessageOps where
  fetchMessagesById := ReferenceDb.fetchMessagesById
  deleteMessages := ReferenceDb.deleteMessages

def MongoDb.messageOps : MessageOps where
  fetchMessagesById := MongoDb.fetchMessagesById
  deleteMessages := MongoDb.deleteMessages

/-- Bulk delete messages. -/
def Message.bulkDelete (ops : MessageOps) (channel : String) (ids : List String)
    (db : ReferenceDb) : Result ReferenceDb := do
  let messages ← ops.fetchMessagesById ids db
  let validIds := (messages.filter (·.channel = channel)).map (·.id)
  ops.deleteMessages channel validIds db

/-! ### What the calls are for -/

/-- The listed messages of the channel are gone, and nothing else changed. -/
structure MessagesDeleted (channel : String) (ids : List String) (db db' : ReferenceDb) :
    Prop where
  messages : ∀ m, m ∈ db'.messages ↔ m ∈ db.messages ∧ ¬ (m.channel = channel ∧ m.id ∈ ids)
  rest : { db' with messages := db.messages } = db

namespace MessageFilter

/-- The message is in the channel and by the author that the filter names. -/
def MatchesPlace (filter : MessageFilter) (m : Message) : Prop :=
  (∀ channel, filter.channel = some channel → m.channel = channel) ∧
    ∀ author, filter.author = some author → m.author = author

/-- The message satisfies every condition of a filter without a text query. -/
def Matches (filter : MessageFilter) (m : Message) : Prop :=
  filter.MatchesPlace m ∧ ∀ pinned, filter.pinned = some pinned → m.pinned.getD false = pinned

end MessageFilter

/-- No limit and no time period. -/
def MessageQuery.Unbounded (query : MessageQuery) : Prop :=
  query.limit = none ∧ ∃ sort, query.timePeriod = .absolute none none sort

/-- All messages match, and none is missing when nothing bounds the query. -/
structure QueryAnswered (query : MessageQuery) (db : ReferenceDb) (result : List Message) :
    Prop where
  sound : ∀ m ∈ result, m ∈ db.messages ∧ query.filter.Matches m
  complete : query.Unbounded → ∀ m ∈ db.messages, query.filter.Matches m → m ∈ result

/-- The MongoDB driver removes what its filter selects. -/
theorem MongoDb.deleteMessages_deleted (channel : String) (ids : List String)
    (db : ReferenceDb) : ∃ db', deleteMessages channel ids db = .ok db' ∧
      MessagesDeleted channel ids db db' := by
  refine ⟨_, rfl, fun m => ?_, rfl⟩
  rw [mem_retain]
  simp [imp_iff_not_or]

namespace ReferenceDb

variable {db : ReferenceDb} {channel : String} {ids : List String} {m : Message} {db' : ReferenceDb}
  {toLowercase : String → String}

theorem fetchMessage_ok {id : String} :
    db.fetchMessage id = .ok m ↔ m ∈ db.messages ∧ m.id = id := by
  rw [fetchMessage, ← get?_eq_some]
  rcases db.messages.get? id with - | m' <;> simp

/-- What is kept: messages that are neither in the channel nor listed. -/
theorem mem_deleteMessages (h : deleteMessages channel ids db = .ok db')
    : m ∈ db'.messages ↔ m ∈ db.messages ∧ m.channel ≠ channel ∧ m.id ∉ ids := by
  obtain rfl := Except.ok.inj h
  rw [mem_retain]
  simp

/-- The listed messages are removed, and nothing else, exactly when the messages of
the channel are the listed ones. -/
theorem deleteMessages_deleted_iff :
    (∃ db', deleteMessages channel ids db = .ok db' ∧ MessagesDeleted channel ids db db') ↔
      ∀ m ∈ db.messages, m.channel = channel ↔ m.id ∈ ids := by
  constructor
  · rintro ⟨db', hdb', hdeleted⟩ m hm
    have hkept := (mem_deleteMessages hdb' (m := m)).symm.trans (hdeleted.messages m)
    tauto
  · intro h
    refine ⟨_, rfl, fun m => ?_, rfl⟩
    rw [mem_deleteMessages rfl]
    have hm := h m
    tauto

/-- A bulk deletion spares the other messages when the messages of the channel are
the listed ones. -/
theorem bulkDelete_spares (h : ∀ m ∈ db.messages, m.channel = channel ↔ m.id ∈ ids)
    (hdb' : Message.bulkDelete messageOps channel ids db = .ok db')
    (hm : m ∈ db.messages) (hother : ¬ (m.channel = channel ∧ m.id ∈ ids)) :
    m ∈ db'.messages := by
  rw [Message.bulkDelete] at hdb'
  rcases hfetch : messageOps.fetchMessagesById ids db with e | messages
  · rw [hfetch] at hdb'
    cases hdb'
  rw [hfetch] at hdb'
  have hids : m.id ∉ ids := fun hid => hother ⟨(h m hm).mpr hid, hid⟩
  refine (mem_deleteMessages hdb').mpr ⟨hm, fun hc => hids ((h m hm).mp hc), ?_⟩
  -- the ids that are passed on are among the given ones
  intro hvalid
  obtain ⟨m', hm', hid'⟩ := mem_map.mp hvalid
  obtain ⟨id, hid, hfound⟩ := (mem_of_mapM hfetch).mp (mem_of_mem_filter hm')
  rw [← hid', (fetchMessage_ok.mp hfound).2] at hids
  exact hids hid

theorem messageFilter_eq_true {filter : MessageFilter} (hquery : filter.query = none) :
    messageFilter toLowercase filter m = true ↔ filter.MatchesPlace m ∧
      ∀ pinned, filter.pinned = some pinned → m.pinned.getD false ≠ pinned := by
  simp [messageFilter, hquery, MessageFilter.MatchesPlace, Option.all_eq_true]

/-- What the inverted filter returns is right exactly when it has nothing to leave
out that matches, and nothing to return that does not. -/
theorem fetchMessages_answered_iff {query : MessageQuery} (hquery : query.filter.query = none) :
    (∃ result, fetchMessages toLowercase query db = .ok result ∧ QueryAnswered query db result) ↔
      ∀ pinned, query.filter.pinned = some pinned → ∀ m ∈ db.messages,
        query.filter.MatchesPlace m → m.pinned.getD false = pinned ∧ ¬ query.Unbounded := by
  have hmem : ∀ {m}, m ∈ db.messages.documents.filter (messageFilter toLowercase query.filter) ↔
      m ∈ db.messages ∧ query.filter.MatchesPlace m ∧
        ∀ pinned, query.filter.pinned = some pinned → m.pinned.getD false ≠ pinned := by
    intro m
    rw [mem_filter, messageFilter_eq_true hquery, mem_documents]
  constructor
  · rintro ⟨result, hresult, hanswered⟩ pinned hpinned m hm hplace
    obtain rfl := Except.ok.inj hresult
    have honly : ∀ {p}, query.filter.pinned = some p → p = pinned := fun hp =>
      Option.some.inj (hp.symm.trans hpinned)
    have hstate : m.pinned.getD false = pinned := by
      by_contra hne
      have hreturned := hmem.mpr ⟨hm, hplace, fun p hp => by rwa [honly hp]⟩
      exact hne ((hanswered.sound m hreturned).2.2 pinned hpinned)
    refine ⟨hstate, fun hunbounded => ?_⟩
    have hmatches : query.filter.Matches m := ⟨hplace, fun p hp => by rwa [honly hp]⟩
    exact (hmem.mp (hanswered.complete hunbounded m hm hmatches)).2.2 pinned hpinned hstate
  · intro h
    refine ⟨_, rfl, fun m hm => ?_, fun hunbounded m hm hmatches => ?_⟩
    · obtain ⟨hm, hplace, hpinned⟩ := hmem.mp hm
      exact ⟨hm, hplace, fun p hp => (h p hp m hm hplace).1⟩
    · exact hmem.mpr ⟨hm, hmatches.1, fun p hp => absurd hunbounded (h p hp m hm hmatches.1).2⟩

end ReferenceDb

/-- **Where the message stores agree.**  The MongoDB driver removes exactly the listed
messages of the channel.  The in-memory driver does, spares the others in a bulk
deletion and answers a query without text as it should exactly when the messages
of the channel are the listed ones and, if the query asks for a pinned state, it is
bounded and every message at that place has the state. -/
theorem messageStore_refines_iff (toLowercase : String → String) (db : ReferenceDb)
    (channel : String) (ids : List String) (query : MessageQuery)
    (hquery : query.filter.query = none) :
    (∃ db', MongoDb.deleteMessages channel ids db = .ok db' ∧
        MessagesDeleted channel ids db db') ∧
      (((∃ db', ReferenceDb.deleteMessages channel ids db = .ok db' ∧
            MessagesDeleted channel ids db db') ∧
          (∀ db', Message.bulkDelete ReferenceDb.messageOps channel ids db = .ok db' →
            ∀ m ∈ db.messages, ¬ (m.channel = channel ∧ m.id ∈ ids) → m ∈ db'.messages) ∧
          ∃ result, ReferenceDb.fetchMessages toLowercase query db = .ok result ∧
            QueryAnswered query db result) ↔
        (∀ m ∈ db.messages, m.channel = channel ↔ m.id ∈ ids) ∧
          ∀ pinned, query.filter.pinned = some pinned → ∀ m ∈ db.messages,
            query.filter.MatchesPlace m → m.pinned.getD false = pinned ∧ ¬ query.Unbounded) := by
  refine ⟨MongoDb.deleteMessages_deleted channel ids db, ?_⟩
  rw [deleteMessages_deleted_iff, fetchMessages_answered_iff hquery]
  constructor
  · rintro ⟨hdelete, -, hfetch⟩
    exact ⟨hdelete, hfetch⟩
  · rintro ⟨hdelete, hfetch⟩
    refine ⟨hdelete, fun db' hdb' m hm hother => ?_, hfetch⟩
    exact bulkDelete_spares hdelete hdb' hm hother

/-- Two messages of the channel `c`, the first of them pinned, and one of `d`. -/
def exampleMessages : ReferenceDb where
  messages :=
    [{ id := "1", channel := "c", pinned := some true }, { id := "2", channel := "c" },
      { id := "3", channel := "d" }].foldl (fun messages m => messages.insert m) ∅

/-- The query for the pinned messages of the channel `c`. -/
def pinnedQuery : MessageQuery where
  filter := { channel := some "c", pinned := some true }
  timePeriod := .absolute none none none

/-- Deleting every message of the channel and asking for all messages. -/
theorem messageStore_refines_iff_all :
    ∃ db', ReferenceDb.deleteMessages "c" ["1", "2"] exampleMessages = .ok db' ∧
      MessagesDeleted "c" ["1", "2"] exampleMessages db' := by
  refine ((messageStore_refines_iff id exampleMessages "c" ["1", "2"]
    { timePeriod := .absolute none none none } rfl).2.mpr ⟨?_, ?_⟩).1
  · have h : ∀ m ∈ exampleMessages.messages.documents,
        m.channel = "c" ↔ m.id ∈ ["1", "2"] := by decide +kernel
    exact h
  · intro pinned hpinned
    cases hpinned

/-- Deleting one message of a channel removes the whole channel and a message of
another channel with it, a bulk deletion removes the whole channel, and a query for
the pinned messages returns the other ones. -/
theorem messageStore_reference_fails :
    (∃ db', ReferenceDb.deleteMessages "c" ["1", "3"] exampleMessages = .ok db' ∧
      db'.messages.documents = []) ∧
    (∃ db', Message.bulkDelete ReferenceDb.messageOps "c" ["1"] exampleMessages = .ok db' ∧
      db'.messages.documents = [{ id := "3", channel := "d" }]) ∧
    ReferenceDb.fetchMessages id pinnedQuery exampleMessages
      = .ok [{ id := "2", channel := "c" }] := by
  refine ⟨⟨_, rfl, ?_⟩, ⟨_, rfl, ?_⟩, ?_⟩
  all_goals decide +kernel

end DawnChat
