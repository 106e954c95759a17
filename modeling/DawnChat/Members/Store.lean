/-
DawnChat/Members/Store.lean

Server members in MongoDB
(`core/database/src/models/server_members/{model,ops,ops/mongodb}.rs`, and
`fetch_mutual_server_ids` in `core/database/src/models/users/ops/mongodb.rs`).

Whoever leaves a server while in timeout leaves a record behind: `soft_delete_member` marks
it with `pending_deletion_at` and takes the join date, the nickname, the avatar and the
roles away.  The mark is only in the database.  Joining again before the record is pruned
merges with it.

A call of the model is a sequence of queries, and `get?_exec` says what it does to the record
of one user in one server (`MemberCall.effect`).  What holds of all records over a history is
proved about `effect` only.
-/
import DawnChat.Lib.Run
import DawnChat.Models.Servers

namespace DawnChat

open RustStd Fallible Handler Run Collection Option

/-! ### Documents -/

/-- A document of the collection. -/
structure MemberDocument where
  id : MemberCompositeKey
  joinedAt : Option Timestamp := none
  nickname : Option String := none
  avatar : Option File := none
  roles : List String := []
  timeout : Option Timestamp := none
  canPublish : Bool := true
  canReceive : Bool := true
  /-- This value only exists in the database, not the models. -/
  pendingDeletionAt : Option Timestamp := none
  deriving DecidableEq, Repr, Inhabited

namespace MemberDocument

def ofMember (member : Member) : MemberDocument where
  id := member.id
  joinedAt := some member.joinedAt
  nickname := member.nickname
  avatar := member.avatar
  roles := member.roles
  timeout := member.timeout
  canPublish := member.canPublish
  canReceive := member.canReceive

/-- A document without a join date is not a member. -/
def decode (doc : MemberDocument) : Option Member :=
  doc.joinedAt.map fun joinedAt =>
    { id := doc.id
      joinedAt := joinedAt
      nickname := doc.nickname
      avatar := doc.avatar
      roles := doc.roles
      timeout := doc.timeout
      canPublish := doc.canPublish
      canReceive := doc.canReceive }

/-- Whether the record is one that was left behind. -/
def departed (doc : MemberDocument) : Bool := doc.pendingDeletionAt.isSome

/-- Mark the record of somebody who leaves. -/
def depart (doc : MemberDocument) (pendingDeletionAt : Timestamp) : MemberDocument :=
  { doc with
    pendingDeletionAt := some pendingDeletionAt
    joinedAt := none
    avatar := none
    nickname := none
    roles := [] }

/-- Take the mark off again.  What is stored as the join date is a number of seconds, while
other dates count milliseconds. -/
def merge (doc : MemberDocument) (joinedAt : Timestamp) : MemberDocument :=
  { doc with joinedAt := some (joinedAt.tdiv 1000), pendingDeletionAt := none }

/-- `$set` the fields that are given, and `$unset` those that are to be removed. -/
def update (doc : MemberDocument) (p : PartialMember) (remove : List FieldsMember) :
    MemberDocument where
  id := doc.id
  joinedAt := if .joinedAt ∈ remove then none else p.joinedAt.or doc.joinedAt
  nickname := if .nickname ∈ remove then none else p.nickname.or doc.nickname
  avatar := if .avatar ∈ remove then none else p.avatar.or doc.avatar
  roles := if .roles ∈ remove then [] else p.roles.getD doc.roles
  timeout := if .timeout ∈ remove then none else p.timeout.or doc.timeout
  canPublish := if .canPublish ∈ remove then true else p.canPublish.getD doc.canPublish
  canReceive := if .canReceive ∈ remove then true else p.canReceive.getD doc.canReceive
  pendingDeletionAt := doc.pendingDeletionAt

/-- An update that sets and removes the same field is refused. -/
def conflicts (p : PartialMember) (remove : List FieldsMember) : Bool :=
  remove.any fun
    | .joinedAt => p.joinedAt.isSome
    | .nickname => p.nickname.isSome
    | .avatar => p.avatar.isSome
    | .roles => p.roles.isSome
    | .timeout => p.timeout.isSome
    | .canPublish => p.canPublish.isSome
    | .canReceive => p.canReceive.isSome
    | .voiceChannel => false

end MemberDocument

/-- The collections of members and of bans. -/
structure MemberDb where
  members : Collection MemberDocument.id := ∅
  bans : Collection ServerBan.id := ∅

/-! ### Queries -/

namespace MemberDb

/-- Fetch a server member by their id. -/
def fetchMember (serverId userId : String) (db : MemberDb) : Result Member :=
  match db.members.documents.find? fun doc => doc.id = ⟨serverId, userId⟩ && !doc.departed with
  | some doc =>
    match doc.decode with
    | some member => .ok member
    | none => .error (.databaseError "find_one" "server_members")
  | none => .error .notFound

/-- Fetch all members in a server. -/
def fetchAllMembers (serverId : String) (db : MemberDb) : List Member :=
  (db.members.documents.filter fun doc => doc.id.server = serverId && !doc.departed).filterMap
    MemberDocument.decode

/-- A generator of members: what its cursor has not come to yet. -/
structure ChunkedServerMembersGenerator where
  cursor : List MemberDocument

namespace ChunkedServerMembersGenerator

/-- The next member, if there is one.  `none` is a panic: a document that cannot be decoded is
not skipped. -/
def next (generator : ChunkedServerMembersGenerator) :
    Option (Option Member × ChunkedServerMembersGenerator) :=
  match generator.cursor with
  | [] => some (none, generator)
  | doc :: cursor => doc.decode.map fun member => (some member, ⟨cursor⟩)

/-- Ask for a member so many times. -/
def iterate : Nat → ChunkedServerMembersGenerator →
    Option (List Member × ChunkedServerMembersGenerator)
  | 0, generator => some ([], generator)
  | n + 1, generator => do
      let (member, generator) ← generator.next
      let (members, generator) ← iterate n generator
      some (member.toList ++ members, generator)

end ChunkedServerMembersGenerator

/-- Fetch all members in a server as a generator. -/
def fetchAllMembersChunked (serverId : String) (db : MemberDb) : ChunkedServerMembersGenerator where
  cursor := db.members.documents.filter fun doc => doc.id.server = serverId

/-- The documents of the members that hold one of the roles. -/
def withRoles (serverId : String) (roles : List String) (db : MemberDb) : List MemberDocument :=
  db.members.documents.filter fun doc =>
    doc.id.server = serverId && doc.roles.any fun role => roles.contains role

def fetchAllMembersWithRoles (serverId : String) (roles : List String) (db : MemberDb) :
    List Member :=
  (withRoles serverId roles db).filterMap MemberDocument.decode

def fetchAllMembersWithRolesChunked (serverId : String) (roles : List String) (db : MemberDb) :
    ChunkedServerMembersGenerator where
  cursor := withRoles serverId roles db

/-- Fetch all memberships for a user. -/
def fetchAllMemberships (userId : String) (db : MemberDb) : List Member :=
  (db.members.documents.filter fun doc => doc.id.user = userId && !doc.departed).filterMap
    MemberDocument.decode

/-- Fetch multiple members by their ids. -/
def fetchMembers (serverId : String) (ids : List String) (db : MemberDb) : List Member :=
  (db.members.documents.filter fun doc =>
    doc.id.server = serverId && !doc.departed && ids.contains doc.id.user).filterMap
      MemberDocument.decode

/-- Fetch member count of a server. -/
def fetchMemberCount (serverId : String) (db : MemberDb) : Nat :=
  (db.members.documents.filter fun doc => doc.id.server = serverId && !doc.departed).length

/-- Fetch server count of a user. -/
def fetchServerCount (userId : String) (db : MemberDb) : Nat :=
  (db.members.documents.filter fun doc => doc.id.user = userId && !doc.departed).length

/-- Fetch ids of servers that both users share. -/
def fetchMutualServerIds (userA userB : String) (db : MemberDb) : List String :=
  ((db.members.documents.filter fun doc => doc.id.user = userA).filter fun doc =>
    (db.members.documents.filter fun other =>
      other.id.user = userB && other.id.server = doc.id.server).length = 1).map (·.id.server)

/-- Fetch a server ban by server and user id. -/
def fetchBan (serverId userId : String) (db : MemberDb) : Result ServerBan :=
  match db.bans.get? ⟨serverId, userId⟩ with
  | some ban => .ok ban
  | none => .error .notFound

/-! ### Writes -/

/-- The record that somebody left behind. -/
def findDeparted (id : MemberCompositeKey) (db : MemberDb) : Option MemberDocument :=
  db.members.documents.find? fun doc => doc.id = id && doc.departed

/-- Take the mark off a record, whether it is there or not. -/
def mergeMember (id : MemberCompositeKey) (joinedAt : Timestamp) (db : MemberDb) : MemberDb :=
  { db with members := db.members.updateMany (·.id = id) (·.merge joinedAt) fun _ => rfl }

/-- The record that a merge returns, if there is one. -/
def mergedMember (id : MemberCompositeKey) (db : MemberDb) : Result (Option Member) :=
  match db.members.get? id with
  | some doc =>
    match doc.decode with
    | some member => .ok (some member)
    | none => .error (.databaseError "update_one" "server_members")
  | none => .ok none

def insertMember (member : Member) (db : MemberDb) : Result MemberDb :=
  match db.members.get? member.id with
  | some _ => .error (.databaseError "insert_one" "server_members")
  | none => .ok { db with members := db.members.insert (.ofMember member) }

/-- Update the existing record if it exists, otherwise make a new record. -/
def writeMember (member : Member) (existing : Bool) : Request MemberDb (Option Member) :=
  if existing then do
    write fun db => .ok (mergeMember member.id member.joinedAt db)
    read (mergedMember member.id)
  else do
    write (insertMember member)
    return none

/-- Insert a new server member (or use the existing member if one is found). -/
def insertOrMergeMember (member : Member) : Request MemberDb (Option Member) := do
  let db ← get
  writeMember member (findDeparted member.id db).isSome

/-- Update information for a server member. -/
def updateMember (id : MemberCompositeKey) (p : PartialMember) (remove : List FieldsMember)
    (db : MemberDb) : Result MemberDb :=
  if MemberDocument.conflicts p remove then .error (.databaseError "update_one" "server_members")
  else .ok { db with
    members := db.members.updateMany (·.id = id) (·.update p remove) fun _ => rfl }

/-- Delete a server member by their id. -/
def forceDeleteMember (id : MemberCompositeKey) (db : MemberDb) : MemberDb :=
  { db with members := db.members.retain (·.id ≠ id) }

def departMember (id : MemberCompositeKey) (pendingDeletionAt : Timestamp) (db : MemberDb) :
    MemberDb :=
  { db with members := db.members.updateMany (·.id = id) (·.depart pendingDeletionAt) fun _ => rfl }

/-- Remove the record of a member, or mark it if they are in timeout. -/
def departOrDelete (id : MemberCompositeKey) (member : Member) (now : Timestamp) :
    Request MemberDb Unit :=
  if member.inTimeout now then do
    let timeout ← ofOption member.timeout
    write fun db => .ok (departMember id timeout db)
  else write fun db => .ok (forceDeleteMember id db)

/-- Marks a member for deletion. This will remove the record if the user has no pending actions
(eg. timeout), otherwise will slate the record for deletion once the actions expire. -/
def softDeleteMember (id : MemberCompositeKey) (now : Timestamp) : Request MemberDb Unit := do
  let db ← get
  match fetchMember id.server id.user db with
  | .ok member => departOrDelete id member now
  | .error _ => fail (.databaseError "fetch_member" "server_members")

/-- Delete the records whose time has come. -/
def removeDanglingMembers (now : Timestamp) (db : MemberDb) : MemberDb :=
  { db with members := db.members.retain fun doc => !doc.pendingDeletionAt.any (· < now) }

def insertBan (ban : ServerBan) (db : MemberDb) : Result MemberDb :=
  match db.bans.get? ban.id with
  | some _ => .error (.databaseError "insert_one" "server_bans")
  | none => .ok { db with bans := db.bans.insert ban }

/-- Delete a ban from the database. -/
def deleteBan (id : MemberCompositeKey) (db : MemberDb) : MemberDb :=
  { db with bans := db.bans.retain (·.id ≠ id) }

/-- Create a new member in a server (`Member::create`), as far as members are concerned. -/
def createMember (serverId userId : String) (now : Timestamp) : Request MemberDb Member := do
  let db ← get
  throwIf (fetchBan serverId userId db).isOk .banned
  throwIf (fetchMember serverId userId db).isOk .alreadyInServer
  let member : Member := { id := ⟨serverId, userId⟩, joinedAt := now }
  let updated ← insertOrMergeMember member
  return updated.getD member

end MemberDb

/-! ### Calls -/

/-- What is done to members. -/
inductive MemberCall where
  /-- `Member::create` -/
  | create (id : MemberCompositeKey)
  /-- `Member::update` on a member that was fetched. -/
  | edit (id : MemberCompositeKey) (p : PartialMember) (clear : List FieldsMember)
  /-- `Member::remove`, by leaving or by a kick or a ban. -/
  | remove (id : MemberCompositeKey)
  | ban (b : ServerBan)
  | unban (id : MemberCompositeKey)
  | removeDangling

namespace MemberCall

def request (now : Timestamp) : MemberCall → Request MemberDb Unit
  | create id => do
      let _ ← MemberDb.createMember id.server id.user now
  | edit id p clear => do
      let member ← read (MemberDb.fetchMember id.server id.user)
      write (MemberDb.updateMember member.id p clear)
  | remove id => MemberDb.softDeleteMember id now
  | ban b => write (MemberDb.insertBan b)
  | unban id => write fun db => .ok (MemberDb.deleteBan id db)
  | removeDangling => write fun db => .ok (MemberDb.removeDanglingMembers now db)

end MemberCall

/-- A call, and when it is made. -/
structure TimedCall where
  now : Timestamp
  call : MemberCall

/-- Make a call.  One that fails leaves what it has written. -/
def MemberDb.step (db : MemberDb) (c : TimedCall) : Option MemberDb :=
  some ((c.call.request c.now).exec db).2

/-! ### What a call does to one record -/

namespace MemberDocument

/-- The document of somebody who is a member. -/
def isMember (doc : MemberDocument) : Bool := !doc.departed && doc.joinedAt.isSome

/-- The document of a new member. -/
def new (id : MemberCompositeKey) (now : Timestamp) : MemberDocument where
  id := id
  joinedAt := some now

end MemberDocument

/-- What a call does to the record of a user in a server, if there is one. -/
def MemberCall.effect (now : Timestamp) (banned : Bool) (id : MemberCompositeKey)
    (doc : Option MemberDocument) : MemberCall → Option MemberDocument
  | create id' =>
    if id' = id ∧ banned = false then
      some (doc.elim (.new id now) fun doc => if doc.departed then doc.merge now else doc)
    else doc
  | edit id' p clear =>
    if id' = id ∧ MemberDocument.conflicts p clear = false then
      doc.map fun doc => if doc.isMember then doc.update p clear else doc
    else doc
  | remove id' =>
    if id' = id then
      doc.bind fun doc =>
        if doc.isMember then
          doc.timeout.bind fun timeout =>
            if now < timeout then some (doc.depart timeout) else none
        else some doc
    else doc
  | ban _ => doc
  | unban _ => doc
  | removeDangling => doc.filter fun doc => !doc.pendingDeletionAt.any (· < now)

theorem Member.inTimeout_iff {m : Member} {now : Timestamp} :
    m.inTimeout now = true ↔ ∃ timeout, m.timeout = some timeout ∧ now < timeout := by
  rw [inTimeout]
  rcases m.timeout with - | timeout <;> simp

open MemberCall

open MemberDocument

namespace MemberDb

variable {db : MemberDb} {id : MemberCompositeKey} {member : Member} {now : Timestamp}

/-- Who is a member. -/
theorem fetchMember_ok {serverId userId : String} :
    fetchMember serverId userId db = .ok member ↔
      ∃ doc, db.members.get? ⟨serverId, userId⟩ = some doc ∧ doc.departed = false ∧
        doc.decode = some member := by
  rw [fetchMember, find?_key]
  rcases db.members.get? ⟨serverId, userId⟩ with - | doc
  · simp
  · rcases hdeparted : doc.departed <;> rcases hdecode : doc.decode <;>
      simp [filter_some, hdeparted, hdecode]

theorem isOk_fetchMember :
    (fetchMember id.server id.user db).isOk = (db.members.get? id).any (·.isMember) := by
  rw [fetchMember, find?_key]
  rcases db.members.get? id with - | doc
  · rfl
  · rcases hdeparted : doc.departed <;> rcases hjoined : doc.joinedAt <;>
      simp [filter_some, hdeparted, hjoined, decode, isMember, Except.isOk, Except.toBool]

theorem isSome_findDeparted :
    (findDeparted id db).isSome = (db.members.get? id).any (·.departed) := by
  rw [findDeparted, find?_key]
  rcases db.members.get? id with - | doc
  · rfl
  · rcases hdeparted : doc.departed <;> simp [hdeparted]

theorem isOk_fetchBan : (fetchBan id.server id.user db).isOk = (db.bans.get? id).isSome := by
  rw [fetchBan]
  rcases db.bans.get? id with - | ban <;> rfl

theorem exec_insertOrMergeMember (member : Member) :
    (insertOrMergeMember member).exec db =
      if (db.members.get? member.id).any (·.departed) then
        ((mergedMember member.id (mergeMember member.id member.joinedAt db)).mapError .error,
          mergeMember member.id member.joinedAt db)
      else
        match insertMember member db with
        | .ok db' => (.ok none, db')
        | .error e => (.error (.error e), db) := by
  rw [insertOrMergeMember, exec_get_bind, isSome_findDeparted, writeMember]
  split
  · rw [exec_bind, exec_write]
    exact exec_read _ _
  · rw [exec_bind, exec_write]
    rcases insertMember member db with e | db' <;> rfl

/-- Somebody who is banned or a member is turned away. -/
theorem store_createMember_of_turnedAway
    (h : (db.bans.get? id).isSome = true ∨ (db.members.get? id).any (·.isMember) = true) :
    ((createMember id.server id.user now).exec db).2 = db := by
  rw [createMember, exec_get_bind, isOk_fetchBan, isOk_fetchMember, throwIf,
    throwIf]
  by_cases hban : (db.bans.get? id).isSome = true
  · rw [if_pos hban]
    rfl
  · rw [if_neg hban, if_pos (h.resolve_left hban)]
    rfl

/-- For others a record is merged or inserted. -/
theorem exec_createMember (hban : (db.bans.get? id).isSome = false)
    (hmember : (db.members.get? id).any (·.isMember) = false) :
    (createMember id.server id.user now).exec db
      = (insertOrMergeMember { id := id, joinedAt := now } >>= fun updated =>
          return updated.getD { id := id, joinedAt := now } : Request MemberDb Member).exec db := by
  rw [createMember, exec_get_bind, isOk_fetchBan, isOk_fetchMember, hban, hmember]
  rfl

theorem get?_mergeMember (joinedAt : Timestamp) (k : MemberCompositeKey) :
    (mergeMember id joinedAt db).members.get? k
      = if k = id then (db.members.get? k).map (·.merge joinedAt) else db.members.get? k :=
  get?_updateMany_key db.members id (·.merge joinedAt) (fun _ => rfl) k

theorem get?_insertOrMergeMember (now : Timestamp) (k : MemberCompositeKey) :
    ((insertOrMergeMember { id := id, joinedAt := now }).exec db).2.members.get? k
      = if k = id then
          some ((db.members.get? k).elim (.new k now) fun doc =>
            if doc.departed then doc.merge now else doc)
        else db.members.get? k := by
  rw [exec_insertOrMergeMember]
  dsimp only
  rcases hdoc : db.members.get? id with - | doc
  · have hinsert : insertMember { id := id, joinedAt := now } db
        = .ok { db with
            members := db.members.insert (.ofMember { id := id, joinedAt := now }) } := by
      rw [insertMember, hdoc]
    rw [if_neg (by simp), hinsert]
    refine (get?_insert _ _ k).trans ?_
    by_cases hk : k = id
    · subst hk
      rw [if_pos rfl, hdoc]
      exact if_pos rfl
    · rw [if_neg hk]
      exact if_neg hk
  · rcases hdeparted : doc.departed with - | -
    · have hinsert : insertMember { id := id, joinedAt := now } db
          = .error (.databaseError "insert_one" "server_members") := by
        rw [insertMember, hdoc]
      rw [if_neg (by simp [hdeparted]), hinsert]
      by_cases hk : k = id
      · subst hk
        simp [hdoc, hdeparted]
      · rw [if_neg hk]
    · rw [if_pos (by simp [hdeparted]), get?_mergeMember]
      by_cases hk : k = id
      · subst hk
        simp [hdoc, hdeparted]
      · rw [if_neg hk, if_neg hk]

theorem get?_createMember (now : Timestamp) (k : MemberCompositeKey) :
    ((createMember id.server id.user now).exec db).2.members.get? k
      = (create id).effect now (db.bans.get? k).isSome k (db.members.get? k) := by
  rw [effect]
  by_cases hturned : (db.bans.get? id).isSome = true ∨
      (db.members.get? id).any (·.isMember) = true
  · rw [store_createMember_of_turnedAway hturned]
    split
    · next hk =>
      -- a member who joins again
      obtain ⟨rfl, hban⟩ := hk
      rw [hban, or_iff_right Bool.false_ne_true] at hturned
      rcases hdoc : db.members.get? id with - | doc
      · rw [hdoc] at hturned
        cases hturned
      · rw [hdoc, any_some, isMember, Bool.and_eq_true, Bool.not_eq_true'] at hturned
        simp [hturned.1]
    · rfl
  · rw [not_or, Bool.not_eq_true, Bool.not_eq_true] at hturned
    rw [exec_createMember hturned.1 hturned.2, store_bind_pure, get?_insertOrMergeMember]
    by_cases hk : k = id
    · subst hk
      rw [if_pos rfl, if_pos ⟨rfl, hturned.1⟩]
    · rw [if_neg hk, if_neg fun h => hk h.1.symm]

/-- **Whoever joins has a record**, a new one or the one they left behind. -/
theorem createMember_ok {db' : MemberDb}
    (h : (createMember id.server id.user now).exec db = (.ok member, db')) :
    ∃ doc, db'.members.get? id = some doc ∧ doc.departed = false ∧ doc.decode = some member ∧
      (db.members.get? id = none ∧ doc = .new id now ∨
        ∃ old, db.members.get? id = some old ∧ old.departed = true ∧ doc = old.merge now) := by
  rw [createMember, exec_get_bind] at h
  obtain ⟨_, -, h⟩ := exec_throwIf_bind_ok.mp h
  obtain ⟨_, -, h⟩ := exec_throwIf_bind_ok.mp h
  obtain ⟨updated, _, hinsert, h⟩ := exec_bind_ok.mp h
  obtain ⟨rfl, rfl⟩ := exec_pure_ok.mp h
  rw [exec_insertOrMergeMember] at hinsert
  split at hinsert
  · next hdeparted =>
    rcases hold : db.members.get? id with - | old
    · rw [hold] at hdeparted
      cases hdeparted
    · rw [hold] at hdeparted
      have hmerged : (mergeMember id now db).members.get? id = some (old.merge now) := by
        rw [get?_mergeMember, if_pos rfl, hold]
        rfl
      have hread : mergedMember id (mergeMember id now db) = .ok (old.merge now).decode := by
        rw [mergedMember, hmerged]
        rfl
      rw [Prod.mk.injEq, hread] at hinsert
      obtain ⟨hupdated, rfl⟩ := hinsert
      obtain rfl := Except.ok.inj hupdated
      exact ⟨_, hmerged, rfl, rfl, .inr ⟨old, rfl, hdeparted, rfl⟩⟩
  · rw [insertMember] at hinsert
    rcases hold : db.members.get? id with - | old
    · rw [hold, Prod.mk.injEq] at hinsert
      obtain ⟨hupdated, rfl⟩ := hinsert
      obtain rfl := Except.ok.inj hupdated
      refine ⟨.new id now, ?_, rfl, rfl, .inl ⟨rfl, rfl⟩⟩
      exact (get?_insert _ _ id).trans (if_pos rfl)
    · rw [hold] at hinsert
      cases hinsert

/-- Who is fetched is found under their id, and is a member. -/
theorem exists_of_fetchMember (h : fetchMember id.server id.user db = .ok member) :
    ∃ doc, db.members.get? id = some doc ∧ doc.isMember = true ∧ member.id = id ∧
      member.timeout = doc.timeout := by
  obtain ⟨doc, hdoc, hdeparted, hdecode⟩ := fetchMember_ok.mp h
  obtain ⟨joinedAt, hjoined, rfl⟩ := map_eq_some_iff.mp hdecode
  refine ⟨doc, hdoc, ?_, (get?_eq_some.mp hdoc).2, rfl⟩
  rw [isMember, hdeparted, hjoined]
  rfl

theorem not_isMember_of_fetchMember {e : ErrorType}
    (h : fetchMember id.server id.user db = .error e) :
    ∀ doc, db.members.get? id = some doc → doc.isMember = false := by
  intro doc hdoc
  have hok : (fetchMember id.server id.user db).isOk = false := by
    rw [h]
    rfl
  rw [isOk_fetchMember, hdoc] at hok
  exact hok

theorem get?_edit (now : Timestamp) (p : PartialMember) (clear : List FieldsMember)
    (k : MemberCompositeKey) :
    (((edit id p clear).request now).exec db).2.members.get? k
      = (edit id p clear).effect now (db.bans.get? k).isSome k (db.members.get? k) := by
  rw [request, effect]
  rcases hfetch : fetchMember id.server id.user db with e | member
  · rw [exec_bind_of_error (exec_read_error hfetch)]
    split
    · next hk =>
      obtain ⟨rfl, -⟩ := hk
      rcases hdoc : db.members.get? id with - | doc
      · rfl
      · simp [not_isMember_of_fetchMember hfetch doc hdoc]
    · rfl
  · obtain ⟨doc, hdoc, hmember, hid, -⟩ := exists_of_fetchMember hfetch
    rw [exec_bind_of_ok (exec_read_ok.mpr ⟨hfetch, rfl⟩), exec_write, updateMember, hid]
    rcases conflicts p clear with - | -
    · refine (get?_updateMany_key db.members id (·.update p clear) (fun _ => rfl)
        k).trans ?_
      by_cases hk : k = id
      · subst hk
        simp [hdoc, hmember]
      · rw [if_neg hk, if_neg fun h => hk h.1.symm]
    · simp

/-- A record is marked as long as the timeout lasts, and deleted otherwise. -/
theorem get?_departOrDelete (member : Member) (now : Timestamp) (k : MemberCompositeKey) :
    ((departOrDelete id member now).exec db).2.members.get? k
      = if k = id then
          member.timeout.bind fun timeout =>
            if now < timeout then (db.members.get? k).map (·.depart timeout) else none
        else db.members.get? k := by
  have hdelete : (forceDeleteMember id db).members.get? k
      = if k = id then none else db.members.get? k := get?_retain_key db.members id k
  rw [departOrDelete, Member.inTimeout]
  rcases member.timeout with - | timeout
  · exact hdelete
  · rw [bind_some]
    by_cases hnow : now < timeout
    · rw [if_pos (decide_eq_true hnow), if_pos hnow]
      exact get?_updateMany_key db.members id (·.depart timeout) (fun _ => rfl) k
    · rw [if_neg (mt of_decide_eq_true hnow), if_neg hnow]
      exact hdelete

theorem get?_softDeleteMember (now : Timestamp) (k : MemberCompositeKey) :
    ((softDeleteMember id now).exec db).2.members.get? k
      = (remove id).effect now (db.bans.get? k).isSome k (db.members.get? k) := by
  rw [softDeleteMember, exec_get_bind, effect]
  rcases hfetch : fetchMember id.server id.user db with e | member
  · show db.members.get? k = _
    split
    · next hk =>
      subst hk
      rcases hdoc : db.members.get? id with - | doc
      · rfl
      · simp [not_isMember_of_fetchMember hfetch doc hdoc]
    · rfl
  · obtain ⟨doc, hdoc, hmember, -, htimeout⟩ := exists_of_fetchMember hfetch
    refine (get?_departOrDelete member now k).trans ?_
    by_cases hk : k = id
    · subst hk
      simp [hdoc, hmember, htimeout]
    · rw [if_neg hk, if_neg (Ne.symm hk)]

/-- **What a call does**, record by record. -/
theorem get?_exec (call : MemberCall) (now : Timestamp) (k : MemberCompositeKey) :
    ((call.request now).exec db).2.members.get? k
      = call.effect now (db.bans.get? k).isSome k (db.members.get? k) := by
  cases call with
  | create id =>
    rw [request, store_bind_pure]
    exact get?_createMember now k
  | edit id p clear => exact get?_edit now p clear k
  | remove id => exact get?_softDeleteMember now k
  | ban b =>
    rw [request, exec_write, insertBan]
    rcases db.bans.get? b.id with - | ban <;> rfl
  | unban id => rfl
  | removeDangling => exact get?_retain _ _ k

end MemberDb

end DawnChat
