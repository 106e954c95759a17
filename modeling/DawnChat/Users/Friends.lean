/-
DawnChat/Users/Friends.lean

Friend requests and blocks (`core/database/src/models/users/model.rs`).

Each of the four calls looks at the status that the caller holds for the target
and, for an unblock, at the one the target holds for the caller.  From these it
decides on two new statuses or on an error, and hands the statuses to
`apply_relationship`.  The decision is separate here (`RelationshipCall.decision`)
and `RelationshipCall.run_eq` says that the calls, written as in the source, are
the decision followed by the writes.

Every decision is a symmetric pair (`symmetricPair_of_decision`), whatever the
two statuses were before.  So a history of calls that run one after another
keeps all pairs symmetric (`relationships_symmetric`), and with symmetric pairs a
block can only be lifted by the user who made it (`block_sticky_and_closes`).

The results hold for every driver that stores what it is told, which the type
`RelationshipStore` carries.  Both drivers of the repository are such stores.
-/
import DawnChat.Lib.Run
import DawnChat.Users.Relationships

namespace DawnChat

open RustStd Fallible Handler Run List Option Except

variable {σ : Type}

/-! ### The relations list -/

namespace User

variable {u : User} {userB other : String} {status : RelationshipStatus}

/-- Everyone else keeps their entry. -/
theorem relationshipWith_withRelationship_ne (h : other ≠ userB) :
    (u.withRelationship userB status).relationshipWith other = u.relationshipWith other := by
  have hfind : ∀ relations : List Relationship,
      (relations.filter (·.id ≠ userB)).find? (·.id = other)
        = relations.find? (·.id = other) := by
    intro relations
    rw [find?_filter]
    refine congrArg (fun p => List.find? p relations) (funext fun r => ?_)
    by_cases hr : r.id = other <;> simp [hr, h]
  have hne : userB ≠ other := h.symm
  rcases hrel : u.relations with - | relations <;> cases status <;>
    simp only [withRelationship, relationshipWith, hrel, map_none, map_some, getD_none, getD_some,
      hfind, find?_append, filter_nil, find?_nil, find?_cons, hne, decide_false, or_none]

/-- The new status is the one stored.  `User` is never stored. -/
theorem relationshipWith_withRelationship_self (hid : u.id ≠ userB) (hstatus : status ≠ .user) :
    (u.withRelationship userB status).relationshipWith userB = status := by
  have hfind : ∀ relations : List Relationship,
      (relations.filter (·.id ≠ userB)).find? (·.id = userB) = none := by
    intro relations
    rw [find?_eq_none]
    intro r hr
    simpa using (mem_filter.mp hr).2
  cases status
  case user => exact absurd rfl hstatus
  all_goals
    rcases hrel : u.relations with - | relations <;>
      simp only [withRelationship, relationshipWith, hid, hrel, hfind, map_none,
        map_some, getD_none, getD_some, find?_append, filter_nil,
        find?_nil, find?_cons, decide_true, none_or, if_false]

/-- The ids on a user's relations list. -/
def relationIds (u : User) : List String := (u.relations.getD []).map (·.id)

theorem relationIds_withRelationship_nodup (h : u.relationIds.Nodup) :
    (u.withRelationship userB status).relationIds.Nodup := by
  have hfilter : ((u.relations.getD []).filter (·.id ≠ userB)).map (·.id) |>.Nodup :=
    h.sublist ((filter_sublist).map _)
  have hnot : userB ∉ ((u.relations.getD []).filter (·.id ≠ userB)).map (·.id) := by
    simp
  have happend := nodup_append.mpr
    ⟨hfilter, nodup_singleton userB, fun a ha b hb => by
      rw [mem_singleton.mp hb]
      exact fun hab => hnot (hab ▸ ha)⟩
  cases status
  case none | user =>
    rcases hrel : u.relations with - | relations
    · simp [withRelationship, relationIds, hrel]
    · simpa [withRelationship, relationIds, hrel] using hfilter
  all_goals simpa [withRelationship, relationIds] using happend

end User

/-! ### Stores -/

/-- A driver that stores the relationships it is told to store. -/
structure RelationshipStore (σ : Type) extends Driver σ where
  /-- Setting a relationship on a stored user changes that user's entry and no
  other user.  (`User` is never a status between two users.) -/
  setRelationship_stored : ∀ {s : σ} {userId : String} {user : User} (targetId : String)
    {status : RelationshipStatus}, status ≠ .user → (database s).fetchUser userId = .ok user →
    ∃ s', exec (setRelationship userId targetId status) s = (.ok (), s') ∧
      ∀ id, (database s').fetchUser id =
        if id = userId then .ok (user.withRelationship targetId status)
        else (database s).fetchUser id

/-- Changing one stored value, seen through lookups. -/
theorem ReferenceDb.get_modify {K V : Type} [DecidableEq K] {m : HashMap K V} {k : K} {v : V}
    (h : m.lookup k = some v) (f : V → V) (k' : K) :
    get (m.modify k f) k' = if k' = k then .ok (f v) else get m k' := by
  by_cases hk : k' = k
  · subst hk
    rw [if_pos rfl, get_ok, HashMap.lookup_modify, h, map_some]
  · rw [if_neg hk, get, get, HashMap.lookup_modify_ne hk]

/-- The in-memory driver. -/
def ReferenceDb.relationshipStore : RelationshipStore ReferenceDb where
  toDriver := ReferenceDb.driver
  setRelationship_stored := by
    intro db userId user targetId status _ huser
    have hlookup := ReferenceDb.get_ok.mp huser
    refine ⟨{ db with users := db.users.modify userId fun _ =>
      user.withRelationship targetId status }, ?_, ReferenceDb.get_modify hlookup _⟩
    show exec (write _) db = _
    rw [Handler.exec_write, ReferenceDb.setRelationship, ReferenceDb.get_ok.mpr hlookup]
    rfl

/-! #### The MongoDB driver's users

The collections are those of `ReferenceDb`.  Only what relationships use is
taken from the MongoDB driver: the update of the relations list
and the two queries for common servers and channels. -/

namespace MongoDb

/-- The update of one user document: `$pull` for `None`, else
`$concatArrays` of the other entries and the new one. -/
def relationsAfter (targetId : String) (status : RelationshipStatus) (u : User) : User :=
  match status with
  | .none =>
    { u with relations := u.relations.map fun relations => relations.filter (·.id ≠ targetId) }
  | status =>
    { u with
      relations := some ((u.relations.getD []).filter (·.id ≠ targetId) ++ [⟨targetId, status⟩]) }

/-- Set relationship with another user.  An update that matches no document is
no error. -/
def setRelationship (userId targetId : String) (status : RelationshipStatus)
    (db : ReferenceDb) : Result ReferenceDb :=
  .ok { db with users := db.users.modify userId (relationsAfter targetId status) }

/-- Fetch ids of servers that both users share. -/
def fetchMutualServerIds (db : ReferenceDb) (userA userB : String) : List String :=
  let members := db.serverMembers.values
  ((members.filter (·.id.user = userA)).filter fun m =>
    (members.filter fun m' => m'.id.user = userB ∧ m'.id.server = m.id.server).length = 1).map
      (·.id.server)

/-- Fetch ids of channels that both users are in. -/
def fetchMutualChannelIds (db : ReferenceDb) (userA userB : String) : List String :=
  (db.channels.values.filter fun channel =>
    match channel with
    | .group c => c.recipients.contains userA && c.recipients.contains userB
    | .directMessage c => c.recipients.contains userA && c.recipients.contains userB
    | _ => false).map (·.id)

def driver : Driver ReferenceDb where
  __ := ReferenceDb.driver
  database db :=
    { db.database with
      fetchMutualServerIds := fun userA userB => some (.ok (fetchMutualServerIds db userA userB))
      fetchMutualChannelIds := fun userA userB =>
        some (.ok (fetchMutualChannelIds db userA userB)) }
  setRelationship userId targetId status := write (setRelationship userId targetId status)

theorem relationsAfter_eq {targetId : String} {status : RelationshipStatus} (h : status ≠ .user)
    (u : User) : relationsAfter targetId status u = u.withRelationship targetId status := by
  cases status
  case user => exact absurd rfl h
  all_goals rfl

/-- The MongoDB driver. -/
def relationshipStore : RelationshipStore ReferenceDb where
  toDriver := driver
  setRelationship_stored := by
    intro db userId user targetId status hstatus huser
    have hlookup := ReferenceDb.get_ok.mp huser
    refine ⟨{ db with users := db.users.modify userId (relationsAfter targetId status) }, ?_, ?_⟩
    · exact Handler.exec_write _ _
    · rw [← relationsAfter_eq hstatus user]
      exact ReferenceDb.get_modify hlookup _

end MongoDb

/-! ### The four calls -/

namespace User

variable (D : Driver σ) (isOnline : String → Bool) (clock : Stream' Timestamp)

/-- Number of friend requests the user has sent that are still open. -/
def outgoingRequests (u : User) : Nat :=
  ((u.relations.map fun relations => (relations.filter (·.status = .outgoing)).length)).getD 0

/-- Add another user as a friend.  `outgoingFriendRequests` is the limit that
applies to the caller. -/
def addFriend (outgoingFriendRequests : Nat) (self target : User) :
    Request σ RelationshipChange :=
  match self.relationshipWith target.id with
  | .user => fail .noEffect
  | .friend => fail .alreadyFriends
  | .outgoing => fail .alreadySentRequest
  | .blocked => fail .blocked
  | .blockedOther => fail .blockedByOther
  -- accept incoming friend request
  | .incoming => self.applyRelationship D isOnline clock target .friend .friend
  | .none => do
      throwIf (self.outgoingRequests ≥ outgoingFriendRequests)
        (.tooManyPendingFriendRequests outgoingFriendRequests)
      self.applyRelationship D isOnline clock target .outgoing .incoming

/-- Remove another user as a friend. -/
def removeFriend (self target : User) : Request σ RelationshipChange :=
  match self.relationshipWith target.id with
  | .friend | .outgoing | .incoming =>
    self.applyRelationship D isOnline clock target .none .none
  | _ => fail .noEffect

/-- Block another user. -/
def blockUser (self target : User) : Request σ RelationshipChange :=
  match self.relationshipWith target.id with
  | .user | .blocked => fail .noEffect
  | .blockedOther => self.applyRelationship D isOnline clock target .blocked .blocked
  | .none | .friend | .incoming | .outgoing =>
    self.applyRelationship D isOnline clock target .blocked .blockedOther

/-- Unblock another user. -/
def unblockUser (self target : User) : Request σ RelationshipChange :=
  match self.relationshipWith target.id with
  | .blocked =>
    match target.relationshipWith self.id with
    | .blocked => self.applyRelationship D isOnline clock target .blockedOther .blocked
    | .blockedOther => self.applyRelationship D isOnline clock target .none .none
    | _ => fail .internalError
  | _ => fail .noEffect

end User

/-- A call that changes the relationship with another user. -/
inductive RelationshipCall where
  /-- The limit of open requests is the caller's at that moment. -/
  | addFriend (outgoingFriendRequests : Nat)
  | removeFriend
  | blockUser
  | unblockUser
  deriving DecidableEq, Repr

namespace RelationshipCall

/-- Make the call. -/
def run (D : Driver σ) (isOnline : String → Bool) (clock : Stream' Timestamp)
    (call : RelationshipCall) (self target : User) : Request σ User.RelationshipChange :=
  match call with
  | .addFriend limit => self.addFriend D isOnline clock limit target
  | .removeFriend => self.removeFriend D isOnline clock target
  | .blockUser => self.blockUser D isOnline clock target
  | .unblockUser => self.unblockUser D isOnline clock target

/-- The statuses that a call decides to write for the caller and for the target. -/
def decision (call : RelationshipCall) (self target : User) :
    Result (RelationshipStatus × RelationshipStatus) :=
  match call, self.relationshipWith target.id with
  | .addFriend _, .user => .error .noEffect
  | .addFriend _, .friend => .error .alreadyFriends
  | .addFriend _, .outgoing => .error .alreadySentRequest
  | .addFriend _, .blocked => .error .blocked
  | .addFriend _, .blockedOther => .error .blockedByOther
  | .addFriend _, .incoming => .ok (.friend, .friend)
  | .addFriend limit, .none =>
    if self.outgoingRequests ≥ limit then .error (.tooManyPendingFriendRequests limit)
    else .ok (.outgoing, .incoming)
  | .removeFriend, .friend | .removeFriend, .outgoing | .removeFriend, .incoming =>
    .ok (.none, .none)
  | .removeFriend, _ => .error .noEffect
  | .blockUser, .user | .blockUser, .blocked => .error .noEffect
  | .blockUser, .blockedOther => .ok (.blocked, .blocked)
  | .blockUser, _ => .ok (.blocked, .blockedOther)
  | .unblockUser, .blocked =>
    match target.relationshipWith self.id with
    | .blocked => .ok (.blockedOther, .blocked)
    | .blockedOther => .ok (.none, .none)
    | _ => .error .internalError
  | .unblockUser, _ => .error .noEffect

/-- **A call is its decision, followed by the two writes.** -/
theorem run_eq (D : Driver σ) (isOnline : String → Bool) (clock : Stream' Timestamp)
    (call : RelationshipCall) (self target : User) :
    call.run D isOnline clock self target =
      (ofExcept (call.decision self target) >>= fun d =>
        self.applyRelationship D isOnline clock target d.1 d.2) := by
  cases call with
  | addFriend limit =>
    rcases h : self.relationshipWith target.id <;>
      simp only [run, decision, User.addFriend, h]
    case none =>
      by_cases hlimit : self.outgoingRequests ≥ limit <;>
        simp only [throwIf, hlimit, if_true, if_false] <;> rfl
    all_goals rfl
  | removeFriend =>
    rcases h : self.relationshipWith target.id <;>
      simp only [run, decision, User.removeFriend, h] <;> rfl
  | blockUser =>
    rcases h : self.relationshipWith target.id <;>
      simp only [run, decision, User.blockUser, h] <;> rfl
  | unblockUser =>
    rcases h : self.relationshipWith target.id <;>
      simp only [run, decision, User.unblockUser, h]
    case blocked =>
      rcases h' : target.relationshipWith self.id <;> rfl
    all_goals rfl

end RelationshipCall

/-! ### What a decision can be -/

/-- The pairs of statuses that two users can hold for each other. -/
def SymmetricPair (own other : RelationshipStatus) : Prop :=
  (own, other) ∈
    [(.none, .none), (.friend, .friend), (.outgoing, .incoming), (.incoming, .outgoing),
      (.blocked, .blockedOther), (.blockedOther, .blocked), (RelationshipStatus.blocked, .blocked)]

instance (own other : RelationshipStatus) : Decidable (SymmetricPair own other) :=
  inferInstanceAs (Decidable (_ ∈ _))

theorem SymmetricPair.symm {own other : RelationshipStatus} (h : SymmetricPair own other) :
    SymmetricPair other own := by
  revert h
  cases own <;> cases other <;> decide

theorem SymmetricPair.ne_user {own other : RelationshipStatus} (h : SymmetricPair own other) :
    own ≠ .user ∧ other ≠ .user := by
  revert h
  cases own <;> cases other <;> decide

/-- A block is seen by the other side. -/
theorem SymmetricPair.of_blocked {other : RelationshipStatus} (h : SymmetricPair .blocked other) :
    other = .blocked ∨ other = .blockedOther := by
  revert h
  cases other <;> decide

open RelationshipCall

namespace RelationshipCall

variable {call : RelationshipCall} {self target : User}
  {d : RelationshipStatus × RelationshipStatus}

/-- **What a call writes is a symmetric pair**, whatever it read. -/
theorem symmetricPair_of_decision (h : call.decision self target = .ok d) :
    SymmetricPair d.1 d.2 := by
  unfold decision at h
  split at h
  case h_7 =>
    split at h <;> cases h
    decide
  case h_16 =>
    split at h <;> cases h <;> decide
  all_goals cases h; try decide

/-- No call accepts the caller as its own target. -/
theorem ne_of_decision (h : call.decision self target = .ok d) : self.id ≠ target.id := by
  intro hid
  have hself : self.relationshipWith target.id = .user := by
    rw [User.relationshipWith, if_pos hid]
  cases call <;> simp [decision, hself] at h

/-- A user who has been blocked cannot change that. -/
theorem snd_of_decision_blocked (hother : target.relationshipWith self.id = .blocked)
    (hsym : SymmetricPair (self.relationshipWith target.id) (target.relationshipWith self.id))
    (h : call.decision self target = .ok d) : d.2 = .blocked := by
  rw [hother] at hsym
  rcases hsym.symm.of_blocked with hself | hself <;> cases call <;>
    simp [decision, hself, hother] at h <;> rw [← h]

/-- A user keeps a block that they made, unless they lift it. -/
theorem fst_of_decision_blocked (hself : self.relationshipWith target.id = .blocked)
    (hcall : call ≠ .unblockUser) : ∃ e, call.decision self target = .error e := by
  cases call with
  | unblockUser => exact absurd rfl hcall
  | addFriend _ | removeFriend | blockUser => simp [decision, hself]

/-- With symmetric statuses an unblock never ends in an internal error. -/
theorem decision_ne_internalError
    (hsym : SymmetricPair (self.relationshipWith target.id) (target.relationshipWith self.id)) :
    call.decision self target ≠ .error .internalError := by
  intro h
  cases call with
  | unblockUser =>
    rcases hself : self.relationshipWith target.id <;> simp [decision, hself] at h
    rw [hself] at hsym
    rcases hsym.of_blocked with hother | hother <;> simp [hother] at h
  | addFriend limit =>
    rcases hself : self.relationshipWith target.id <;> simp [decision, hself] at h
    split at h <;> cases h
  | removeFriend | blockUser =>
    rcases hself : self.relationshipWith target.id <;> simp [decision, hself] at h

end RelationshipCall

/-! ### Direct messages -/

/-- The channel is the one between `a` and `b`. -/
def DirectMessage.Between (c : DirectMessage) (a b : String) : Prop :=
  c.recipients = [a, b] ∨ c.recipients = [b, a]

/-- **A blocked direct message channel can only be viewed.** -/
theorem DatabasePermissionQuery.run_calculateChannelPermissions_blocked
    {q : DatabasePermissionQuery} {c : DirectMessage} {other : User}
    (hchannel : q.channel = some (.directMessage c)) (hc : c.Between q.perspective.id other.id)
    (hne : q.perspective.id ≠ other.id) (hp : q.perspective.privileged = false)
    (hother : q.database.fetchUser other.id = .ok other)
    (hbot : ∀ bot, other.bot = some bot → bot.owner ≠ q.perspective.id)
    (hblocked : q.perspective.relationshipWith other.id = .blocked ∨
      q.perspective.relationshipWith other.id = .blockedOther) :
    calculateChannelPermissions.run q
      = some (defaultPermissionViewOnly, { q with user := some other }) := by
  have hmem : q.perspective.id ∈ c.recipients := by
    rcases hc with h | h <;> simp [h]
  have hfind : c.recipients.find? (· ≠ q.perspective.id) = some other.id := by
    rcases hc with h | h <;> simp [h, hne.symm]
  have hrecipient : setRecipientAsUser.run q = some ((), { q with user := some other }) := by
    simp only [setRecipientAsUser, hchannel, hfind, hother, StateT.run_bind, StateT.run_get,
      Option.pure_def, bind_eq_bind, bind_some, StateT.run_set]
  have hnotOwner : other.bot.any (·.owner = q.perspective.id) = false := by
    rcases hb : other.bot with - | bot
    · rfl
    · simpa using hbot bot hb
  have hrelationship : userRelationship { q with user := some other }
      = q.perspective.relationshipWith other.id := by
    rcases hrel : q.perspective.relations with - | relations
    · simp [userRelationship, User.relationshipWith, hne, hnotOwner, hrel]
    · rcases hentry : relations.find? (·.id = other.id) with - | entry <;>
        simp [userRelationship, User.relationshipWith, hne, hnotOwner, hrel, hentry]
  have huser : calculateUserPermissions.run { q with user := some other }
      = some (UserPermission.access.value, { q with user := some other }) := by
    rcases hblocked with h | h <;>
      simp [calculateUserPermissions, PermissionQuery.areWePrivileged, hp,
        PermissionQuery.areTheUsersSame, hne.symm, PermissionQuery.userRelationship,
        hrelationship, h]
  have hsend : PermissionValue.hasUserPermission UserPermission.access.value .sendMessage
      = false := by decide
  rw [hchannel] at hrecipient huser
  simp [calculateChannelPermissions, PermissionQuery.areWePrivileged, hp,
    PermissionQuery.getChannelType, getChannelType, hchannel, PermissionQuery.areWePartOfTheChannel,
    areWePartOfTheChannel, hmem, PermissionQuery.setRecipientAsUser, hrecipient, huser, hsend]

/-! ### One call on the store -/

/-- A call by a user on another one, with what it depends on besides the
database. -/
structure RelationshipRequest where
  call : RelationshipCall
  user : String
  target : String
  isOnline : String → Bool
  clock : Stream' Timestamp

/-- Serve the request on freshly fetched users. -/
def RelationshipRequest.perform (D : Driver σ) (r : RelationshipRequest) :
    Request σ User.RelationshipChange := do
  let self ← read fun s => (D.database s).fetchUser r.user
  let target ← read fun s => (D.database s).fetchUser r.target
  r.call.run D r.isOnline r.clock self target

open MongoDb

namespace RelationshipStore

variable (D : RelationshipStore σ)

/-- The stored user. -/
def fetchUser (s : σ) (id : String) : Result User := (D.database s).fetchUser id

/-- The status that `a` has stored for `b`. -/
def Holds (s : σ) (a b : String) (status : RelationshipStatus) : Prop :=
  ∃ u, D.fetchUser s a = .ok u ∧ u.relationshipWith b = status

/-- Every user is stored under their own id. -/
def Keyed (s : σ) : Prop := ∀ id u, D.fetchUser s id = .ok u → u.id = id

/-- `s'` is `s` after both directions of a relationship were written. -/
def Written (s s' : σ) (self target : User) (d : RelationshipStatus × RelationshipStatus) : Prop :=
  ∀ id, D.fetchUser s' id =
    if id = self.id then .ok (self.withRelationship target.id d.1)
    else if id = target.id then .ok (target.withRelationship self.id d.2)
    else D.fetchUser s id

variable {D} {s : σ} {self target : User} {d : RelationshipStatus × RelationshipStatus}

/-- **Both directions are written**, and then the call returns the users as they
are stored, or panics while the events are put together. -/
theorem exec_applyRelationship (isOnline : String → Bool) (clock : Stream' Timestamp)
    (hself : D.fetchUser s self.id = .ok self) (htarget : D.fetchUser s target.id = .ok target)
    (hne : self.id ≠ target.id) (hd : SymmetricPair d.1 d.2) :
    ∃ s' outcome, exec (self.applyRelationship D.toDriver isOnline clock target d.1 d.2) s
        = (outcome, s') ∧
      D.Written s s' self target d ∧
      (outcome = .error .panic ∨ ∃ published, outcome = .ok
        ⟨self.withRelationship target.id d.1, target.withRelationship self.id d.2, published⟩) := by
  obtain ⟨s₁, hexec₁, hfetch₁⟩ := D.setRelationship_stored self.id hd.ne_user.2 htarget
  have hself₁ : (D.database s₁).fetchUser self.id = .ok self := by
    rw [hfetch₁, if_neg hne]
    exact hself
  obtain ⟨s₂, hexec₂, hfetch₂⟩ := D.setRelationship_stored target.id hd.ne_user.1 hself₁
  have hwritten : D.Written s s₂ self target d := by
    intro id
    rw [fetchUser, hfetch₂, hfetch₁]
    rfl
  have hget : exec (get : Request σ σ) s₂ = (.ok s₂, s₂) := rfl
  simp only [User.applyRelationship, User.setRelationship, exec_bind, hexec₁, hexec₂,
    exec_pure, User.withRelationship_id, hget]
  -- what is left reads the store and may panic
  rcases User.into _ _ isOnline clock _ with - | selfShown
  · exact ⟨s₂, _, rfl, hwritten, .inl rfl⟩
  · rw [exec_ofOption_some]
    dsimp only
    rcases User.into _ _ isOnline clock _ with - | targetShown
    · exact ⟨s₂, _, rfl, hwritten, .inl rfl⟩
    · exact ⟨s₂, _, rfl, hwritten, .inr ⟨_, rfl⟩⟩

/-- What one request does: it is rejected and nothing is written, or it writes
the pair it decided on. -/
inductive Outcome (D : RelationshipStore σ) (s : σ) (r : RelationshipRequest) :
    Except (Fault ErrorType) User.RelationshipChange × σ → Prop
  | missing (e : ErrorType)
      (h : D.fetchUser s r.user = .error e ∨ D.fetchUser s r.target = .error e) :
      Outcome D s r (.error (.error e), s)
  | rejected (self target : User) (e : ErrorType)
      (hself : D.fetchUser s r.user = .ok self) (htarget : D.fetchUser s r.target = .ok target)
      (h : r.call.decision self target = .error e) : Outcome D s r (.error (.error e), s)
  | written (self target : User) (d : RelationshipStatus × RelationshipStatus)
      (hself : D.fetchUser s r.user = .ok self) (htarget : D.fetchUser s r.target = .ok target)
      (h : r.call.decision self target = .ok d) (s' : σ) (hs' : D.Written s s' self target d)
      (outcome : Except (Fault ErrorType) User.RelationshipChange)
      (houtcome : outcome = .error .panic ∨ ∃ published, outcome = .ok
        ⟨self.withRelationship target.id d.1, target.withRelationship self.id d.2, published⟩) :
      Outcome D s r (outcome, s')

variable {id : String} {e : ErrorType} {r : RelationshipRequest}

theorem exec_readUser_ok {u : User} (h : D.fetchUser s id = .ok u) :
    exec (read fun s => (D.database s).fetchUser id : Request σ User) s
      = (.ok u, s) :=
  exec_read_ok.mpr ⟨h, rfl⟩

theorem exec_readUser_error (h : D.fetchUser s id = .error e) :
    exec (read fun s => (D.database s).fetchUser id : Request σ User) s
      = (.error (.error e), s) :=
  exec_read_error (f := fun s => (D.database s).fetchUser id) h

theorem outcome_perform (hkeyed : D.Keyed s) (r : RelationshipRequest) :
    Outcome D s r (exec (r.perform D.toDriver) s) := by
  rw [RelationshipRequest.perform]
  rcases hself : D.fetchUser s r.user with e | self
  · rw [exec_bind_of_error (exec_readUser_error hself)]
    exact .missing e (.inl hself)
  rw [exec_bind_of_ok (exec_readUser_ok hself)]
  rcases htarget : D.fetchUser s r.target with e | target
  · rw [exec_bind_of_error (exec_readUser_error htarget)]
    exact .missing e (.inr htarget)
  rw [exec_bind_of_ok (exec_readUser_ok htarget), run_eq]
  rcases hd : r.call.decision self target with e | d
  · rw [exec_bind_of_error (exec_ofExcept_error rfl s)]
    exact .rejected self target e hself htarget hd
  rw [exec_bind_of_ok (exec_ofExcept_ok.mpr ⟨rfl, rfl⟩)]
  have hself' : D.fetchUser s self.id = .ok self := by rwa [hkeyed _ _ hself]
  have htarget' : D.fetchUser s target.id = .ok target := by rwa [hkeyed _ _ htarget]
  obtain ⟨s', outcome, hexec, hwritten, houtcome⟩ := exec_applyRelationship r.isOnline r.clock
    hself' htarget' (ne_of_decision hd)
    (symmetricPair_of_decision hd)
  rw [hexec]
  exact .written self target d hself htarget hd s' hwritten outcome houtcome

/-! ### Histories -/

/-- Requests are served one after another; whatever becomes of a request, what
it has written stays. -/
def serve (D : RelationshipStore σ) (s : σ) (r : RelationshipRequest) : Option σ :=
  some (exec (r.perform D.toDriver) s).2

/-- Users are stored under their own ids and have no relations. -/
def WithoutRelations (D : RelationshipStore σ) (s : σ) : Prop :=
  ∀ id u, D.fetchUser s id = .ok u → u.id = id ∧ u.relations.getD [] = []

/-- What relationship requests keep true of the stored users. -/
structure Consistent (D : RelationshipStore σ) (s : σ) : Prop where
  keyed : D.Keyed s
  symmetric : ∀ {a b own other}, a ≠ b → D.Holds s a b own → D.Holds s b a other →
    SymmetricPair own other
  nodup : ∀ {id u}, D.fetchUser s id = .ok u → u.relationIds.Nodup

theorem Consistent.of_withoutRelations (h : D.WithoutRelations s) : D.Consistent s where
  keyed id u hu := (h id u hu).1
  symmetric := by
    have hnone : ∀ {a b status}, a ≠ b → D.Holds s a b status → status = .none := by
      rintro a b status hab ⟨u, hu, rfl⟩
      obtain ⟨rfl, hrel⟩ := h a u hu
      rcases hr : u.relations with - | relations
      · simp [User.relationshipWith, hab, hr]
      · rw [hr, getD_some] at hrel
        simp [User.relationshipWith, hab, hr, hrel]
    intro a b own other hab hown hother
    rw [hnone hab hown, hnone hab.symm hother]
    decide
  nodup {id u} hu := by
    rw [User.relationIds, (h id u hu).2]
    exact nodup_nil

/-! #### The statuses after a request has written -/

namespace Written

variable {s' : σ} (hs' : D.Written s s' self target d)

include hs'

theorem keyed (h : D.Keyed s) : D.Keyed s' := by
  intro id u hu
  rw [hs' id] at hu
  split_ifs at hu with hself htarget
  · obtain rfl := ok.inj hu
    rw [User.withRelationship_id, hself]
  · obtain rfl := ok.inj hu
    rw [User.withRelationship_id, htarget]
  · exact h id u hu

theorem nodup (h : ∀ {id u}, D.fetchUser s id = .ok u → u.relationIds.Nodup)
    (hself : D.fetchUser s self.id = .ok self) (htarget : D.fetchUser s target.id = .ok target)
    {id : String} {u : User} (hu : D.fetchUser s' id = .ok u) : u.relationIds.Nodup := by
  rw [hs' id] at hu
  split_ifs at hu with h₁ h₂
  · obtain rfl := ok.inj hu
    exact User.relationIds_withRelationship_nodup (h hself)
  · obtain rfl := ok.inj hu
    exact User.relationIds_withRelationship_nodup (h htarget)
  · exact h hu

variable (hne : self.id ≠ target.id) (hd : SymmetricPair d.1 d.2)

include hne hd

variable {status : RelationshipStatus}

theorem holds_self : D.Holds s' self.id target.id status ↔ status = d.1 := by
  rw [Holds, hs' self.id, if_pos rfl]
  simp only [ok.injEq, exists_eq_left']
  rw [User.relationshipWith_withRelationship_self hne hd.ne_user.1, eq_comm]

theorem holds_target : D.Holds s' target.id self.id status ↔ status = d.2 := by
  rw [Holds, hs' target.id, if_neg hne.symm, if_pos rfl]
  simp only [ok.injEq, exists_eq_left']
  rw [User.relationshipWith_withRelationship_self hne.symm hd.ne_user.2, eq_comm]

omit hne hd in
/-- All other pairs are left alone. -/
theorem holds_other (hself : D.fetchUser s self.id = .ok self)
    (htarget : D.fetchUser s target.id = .ok target) {a b : String}
    (hab : ¬ (a = self.id ∧ b = target.id)) (hba : ¬ (a = target.id ∧ b = self.id))
    : D.Holds s' a b status ↔ D.Holds s a b status := by
  rw [Holds, Holds, hs' a]
  split_ifs with h₁ h₂
  · subst h₁
    have hb : b ≠ target.id := fun h => hab ⟨rfl, h⟩
    simp only [hself, ok.injEq, exists_eq_left', User.relationshipWith_withRelationship_ne hb]
  · subst h₂
    have hb : b ≠ self.id := fun h => hba ⟨rfl, h⟩
    simp only [htarget, ok.injEq, exists_eq_left', User.relationshipWith_withRelationship_ne hb]
  · rfl

end Written

/-- **One request keeps the store consistent.** -/
theorem Consistent.serve (h : D.Consistent s) (r : RelationshipRequest) :
    D.Consistent (exec (r.perform D.toDriver) s).2 := by
  have hout := outcome_perform h.keyed r
  generalize exec (r.perform D.toDriver) s = result at hout ⊢
  cases hout with
  | missing e _ | rejected self target e _ _ _ => exact h
  | written self target d hself htarget hd s' hs' outcome _ =>
    have hne := ne_of_decision hd
    have hpair := symmetricPair_of_decision hd
    rw [← h.keyed _ _ hself] at hself
    rw [← h.keyed _ _ htarget] at htarget
    refine ⟨hs'.keyed h.keyed, ?_, hs'.nodup h.nodup hself htarget⟩
    intro a b own other hab hown hother
    by_cases h₁ : a = self.id ∧ b = target.id
    · obtain ⟨rfl, rfl⟩ := h₁
      rw [(hs'.holds_self hne hpair).mp hown, (hs'.holds_target hne hpair).mp hother]
      exact hpair
    by_cases h₂ : a = target.id ∧ b = self.id
    · obtain ⟨rfl, rfl⟩ := h₂
      rw [(hs'.holds_target hne hpair).mp hown, (hs'.holds_self hne hpair).mp hother]
      exact hpair.symm
    · have h₁' : ¬ (b = self.id ∧ a = target.id) := fun h => h₂ ⟨h.2, h.1⟩
      have h₂' : ¬ (b = target.id ∧ a = self.id) := fun h => h₁ ⟨h.2, h.1⟩
      exact h.symmetric hab ((hs'.holds_other hself htarget h₁ h₂).mp hown)
        ((hs'.holds_other hself htarget h₁' h₂').mp hother)

/-- **Along every history.** -/
theorem always_consistent (h : D.WithoutRelations s) (requests : List RelationshipRequest) :
    Always D.serve D.Consistent s requests := by
  refine always_of_step ?_ (.of_withoutRelations h) requests
  intro s r s' hs hstep
  obtain rfl := some.inj hstep
  exact hs.serve r

/-! #### Symmetry -/

/-- A request that returns hands out the users as they are stored. -/
theorem Consistent.stored_of_returned (h : D.Consistent s)
    {change : User.RelationshipChange} {s' : σ}
    (hr : exec (r.perform D.toDriver) s = (.ok change, s')) :
    D.fetchUser s' r.user = .ok change.self ∧ D.fetchUser s' r.target = .ok change.target := by
  have hout := outcome_perform h.keyed r
  rw [hr] at hout
  cases hout with
  | written self target d hself htarget hd s' hs' outcome houtcome =>
    have hne := ne_of_decision hd
    rcases houtcome with hpanic | ⟨published, hok⟩
    · cases hpanic
    · obtain rfl := ok.inj hok
      rw [← h.keyed _ _ hself, ← h.keyed _ _ htarget]
      exact ⟨by rw [hs', if_pos rfl], by rw [hs', if_neg hne.symm, if_pos rfl]⟩

/-- A rejected request has written nothing. -/
theorem Consistent.unchanged_of_rejected (h : D.Consistent s) {s' : σ}
    (hr : exec (r.perform D.toDriver) s = (.error (.error e), s')) : s' = s := by
  have hout := outcome_perform h.keyed r
  rw [hr] at hout
  cases hout with
  | missing e _ | rejected self target e _ _ _ => rfl
  | written self target d hself htarget hd s' hs' outcome houtcome =>
    rcases houtcome with hpanic | ⟨published, hok⟩
    · cases hpanic
    · cases hok

/-- An unblock of stored users does not end in an internal error. -/
theorem Consistent.unblockUser (h : D.Consistent s) (isOnline : String → Bool)
    (clock : Stream' Timestamp) {a b : String} (hself : D.fetchUser s a = .ok self)
    (htarget : D.fetchUser s b = .ok target) :
    (exec (self.unblockUser D.toDriver isOnline clock target) s).1
      ≠ .error (.error .internalError) := by
  rw [← h.keyed _ _ hself] at hself
  rw [← h.keyed _ _ htarget] at htarget
  show (exec (RelationshipCall.unblockUser.run D.toDriver isOnline clock self target) s).1
    ≠ _
  rw [run_eq]
  rcases hd : RelationshipCall.unblockUser.decision self target with e | d
  · rw [exec_bind_of_error (exec_ofExcept_error rfl s)]
    intro he
    cases he
    by_cases hne : self.id = target.id
    · have huser : self.relationshipWith target.id = .user := by
        rw [User.relationshipWith, if_pos hne]
      simp [decision, huser] at hd
    · exact decision_ne_internalError
        (h.symmetric hne ⟨self, hself, rfl⟩ ⟨target, htarget, rfl⟩) hd
  · rw [exec_bind_of_ok (exec_ofExcept_ok.mpr ⟨rfl, rfl⟩)]
    obtain ⟨s', outcome, hexec, -, houtcome⟩ := exec_applyRelationship isOnline clock hself htarget
      (ne_of_decision hd) (symmetricPair_of_decision hd)
    rw [hexec]
    rcases houtcome with rfl | ⟨published, rfl⟩ <;> exact nofun

/-- **Relationships stay symmetric.**  Start with users without relations and
serve any requests.  Then any two users hold symmetric statuses for each other,
no relations list names a user twice, every request returns the users as they
are stored, and no unblock ends in an internal error. -/
theorem relationships_symmetric (D : RelationshipStore σ) {s : σ} (h : D.WithoutRelations s)
    (requests : List RelationshipRequest) :
    Always D.serve (fun s' =>
      (∀ a b own other, a ≠ b → D.Holds s' a b own → D.Holds s' b a other →
        SymmetricPair own other) ∧
      (∀ id u, D.fetchUser s' id = .ok u → u.relationIds.Nodup) ∧
      (∀ r : RelationshipRequest,
        (∀ change s'', exec (r.perform D.toDriver) s' = (.ok change, s'') →
          D.fetchUser s'' r.user = .ok change.self ∧
          D.fetchUser s'' r.target = .ok change.target) ∧
        (∀ e s'', exec (r.perform D.toDriver) s' = (.error (.error e), s'') →
          s'' = s')) ∧
      (∀ a b self target isOnline clock, D.fetchUser s' a = .ok self →
        D.fetchUser s' b = .ok target →
        (exec (self.unblockUser D.toDriver isOnline clock target) s').1
          ≠ .error (.error .internalError))) s requests := by
  refine (always_consistent h requests).imp fun s' hs' => ⟨?_, ?_, ?_, ?_⟩
  · exact fun a b own other hab => hs'.symmetric hab
  · exact fun id u hu => hs'.nodup hu
  · exact fun r => ⟨fun _ _ => hs'.stored_of_returned, fun _ _ => hs'.unchanged_of_rejected⟩
  · exact fun a b self target isOnline clock => hs'.unblockUser isOnline clock

/-- A database with two users. -/
def twoUsers : ReferenceDb where
  users := HashMap.collect [("a", { id := "a" }), ("b", { id := "b" })]

theorem withoutRelations_twoUsers : relationshipStore.WithoutRelations twoUsers := by
  intro id u hu
  have hmem : (id, u) ∈ twoUsers.users.toList :=
    HashMap.mem_toList_iff.mpr (ReferenceDb.get_ok.mp hu)
  have hlist : twoUsers.users.toList = [("b", { id := "b" }), ("a", { id := "a" })] := by
    decide +kernel
  rw [hlist] at hmem
  simp only [mem_cons, Prod.mk.injEq, not_mem_nil, or_false] at hmem
  rcases hmem with ⟨rfl, rfl⟩ | ⟨rfl, rfl⟩ <;> exact ⟨rfl, rfl⟩

/-- A request between the two users. -/
def request (call : RelationshipCall) (user target : String) : RelationshipRequest where
  call := call
  user := user
  target := target
  isOnline := fun _ => false
  clock := Stream'.const 0

/-- Two users who ask each other to be friends, until one blocks the other. -/
theorem relationships_symmetric_twoUsers :
    MongoDb.relationshipStore.WithoutRelations twoUsers ∧
    Always MongoDb.relationshipStore.serve (fun s =>
      ∀ own other, MongoDb.relationshipStore.Holds s "a" "b" own →
        MongoDb.relationshipStore.Holds s "b" "a" other → SymmetricPair own other) twoUsers
      [request (.addFriend 10) "a" "b", request (.addFriend 10) "b" "a",
        request .blockUser "a" "b"] := by
  refine ⟨withoutRelations_twoUsers, ?_⟩
  exact (relationships_symmetric relationshipStore withoutRelations_twoUsers _).imp
    fun s hs own other => hs.1 "a" "b" own other (by decide)

/-! #### Blocks -/

/-- **A block can only be lifted by the user who made it.** -/
theorem always_holds_blocked (h : D.Consistent s) {a b : String} (hblocked : D.Holds s a b .blocked)
    {later : List RelationshipRequest}
    (hlater : ∀ r ∈ later, ¬ (r.call = .unblockUser ∧ r.user = a ∧ r.target = b)) :
    Always D.serve (fun s' => D.Holds s' a b .blocked) s later := by
  have hinv : Always D.serve (fun s' => D.Consistent s' ∧ D.Holds s' a b .blocked) s later := by
    refine always_of_eachStep
      (C := fun _ r => ¬ (r.call = .unblockUser ∧ r.user = a ∧ r.target = b)) ?_ ⟨h, hblocked⟩ ?_
    · rintro s r s' ⟨hs, hblocked⟩ hr hstep
      obtain rfl := some.inj hstep
      refine ⟨hs.serve r, ?_⟩
      have hout := outcome_perform hs.keyed r
      generalize exec (r.perform D.toDriver) s = result at hout ⊢
      cases hout with
      | missing e _ | rejected self target e _ _ _ => exact hblocked
      | written self target d hself htarget hd s' hs' outcome _ =>
        have hne := ne_of_decision hd
        have hpair := symmetricPair_of_decision hd
        have huser := hs.keyed _ _ hself
        have htargetId := hs.keyed _ _ htarget
        rw [← huser] at hself hr
        rw [← htargetId] at htarget hr
        by_cases h₁ : a = self.id ∧ b = target.id
        · -- the caller is the one who blocked, and only an unblock is accepted
          obtain ⟨rfl, rfl⟩ := h₁
          obtain ⟨u, hu, hstatus⟩ := hblocked
          obtain rfl := ok.inj (hself.symm.trans hu)
          obtain ⟨e, he⟩ := fst_of_decision_blocked hstatus
            fun hcall => hr ⟨hcall, rfl, rfl⟩
          rw [he] at hd
          cases hd
        by_cases h₂ : a = target.id ∧ b = self.id
        · -- the caller is the one who is blocked
          obtain ⟨rfl, rfl⟩ := h₂
          rw [hs'.holds_target hne hpair]
          obtain ⟨u, hu, hstatus⟩ := hblocked
          obtain rfl := ok.inj (htarget.symm.trans hu)
          exact (snd_of_decision_blocked hstatus
            (hs.symmetric hne ⟨self, hself, rfl⟩ ⟨target, htarget, rfl⟩) hd).symm
        · exact (hs'.holds_other hself htarget h₁ h₂).mpr hblocked
    · intro l₁ r s₁ hpre _
      exact hlater r (hpre.mem (by simp))
  exact hinv.imp fun _ hs => hs.2

/-- While one of two users blocks the other, each holds a blocking status. -/
theorem Consistent.blocked_either (h : D.Consistent s) {a b : String} (hab : a ≠ b) {ua ub : User}
    (ha : D.fetchUser s a = .ok ua) (hb : D.fetchUser s b = .ok ub)
    (hblocked : ua.relationshipWith b = .blocked ∨ ub.relationshipWith a = .blocked) :
    ua.relationshipWith b = .blocked ∨ ua.relationshipWith b = .blockedOther := by
  have hsym := h.symmetric hab ⟨ua, ha, rfl⟩ ⟨ub, hb, rfl⟩
  rcases hblocked with hown | hother
  · exact .inl hown
  · rw [hother] at hsym
    exact hsym.symm.of_blocked

/-- **Blocks last and close the channel.**  In every state that requests lead to:
a block by `a` on `b` stays until `a` lifts it; and while either of two users
blocks the other, neither may send in their direct message channel, owners of
bots and privileged users apart. -/
theorem block_sticky_and_closes (D : RelationshipStore σ) {s s₁ : σ} (h : D.WithoutRelations s)
    {requests : List RelationshipRequest} (hrun : run D.serve s requests = some s₁)
    {a b : String} :
    (∀ later : List RelationshipRequest, D.Holds s₁ a b .blocked →
      (∀ r ∈ later, ¬ (r.call = .unblockUser ∧ r.user = a ∧ r.target = b)) →
      Always D.serve (fun s₂ => D.Holds s₂ a b .blocked) s₁ later) ∧
    (∀ (ua ub : User) (c : DirectMessage) (q : DatabasePermissionQuery), a ≠ b →
      D.fetchUser s₁ a = .ok ua → D.fetchUser s₁ b = .ok ub →
      (ua.relationshipWith b = .blocked ∨ ub.relationshipWith a = .blocked) →
      c.Between a b → q.database = D.database s₁ → q.perspective = ua →
      q.channel = some (.directMessage c) →
      ua.privileged = false → (∀ bot, ub.bot = some bot → bot.owner ≠ a) →
      ∃ permissions q', calculateChannelPermissions.run q = some (permissions, q') ∧
        permissions.hasChannelPermission .sendMessage = false) := by
  have hs₁ := always_consistent h requests requests s₁ prefix_rfl hrun
  refine ⟨fun later hblocked hlater => always_holds_blocked hs₁ hblocked hlater, ?_⟩
  intro ua ub c q hab ha hb hblocked hc hdb hperspective hchannel hp hbot
  have hown := hs₁.blocked_either hab ha hb hblocked
  obtain rfl := hs₁.keyed _ _ ha
  obtain rfl := hs₁.keyed _ _ hb
  subst hperspective
  refine ⟨_, _, DatabasePermissionQuery.run_calculateChannelPermissions_blocked hchannel hc hab hp
    ?_ hbot hown, by decide⟩
  rw [hdb]
  exact hb

/-- Two users of whom one blocks the other: a friend request does not help, and
neither can write to the other. -/
theorem block_sticky_and_closes_twoUsers :
    ∃ s₁ ub, run MongoDb.relationshipStore.serve twoUsers [request .blockUser "a" "b"] = some s₁ ∧
      MongoDb.relationshipStore.fetchUser s₁ "b" = .ok ub ∧
      Always MongoDb.relationshipStore.serve
        (fun s₂ => MongoDb.relationshipStore.Holds s₂ "a" "b" .blocked) s₁
        [request (.addFriend 10) "b" "a", request .unblockUser "b" "a"] ∧
      ∃ permissions q', calculateChannelPermissions.run
          ((DatabasePermissionQuery.new (MongoDb.relationshipStore.database s₁) ub
            (Stream'.const 0)).withChannel
              (.directMessage { id := "dm", recipients := ["a", "b"] })) = some (permissions, q') ∧
        permissions.hasChannelPermission .sendMessage = false := by
  let s₁ := (exec ((request .blockUser "a" "b").perform driver) twoUsers).2
  let ua : User := { id := "a", relations := some [⟨"b", .blocked⟩] }
  let ub : User := { id := "b", relations := some [⟨"a", .blockedOther⟩] }
  have ha : relationshipStore.fetchUser s₁ "a" = .ok ua := by decide +kernel
  have hb : relationshipStore.fetchUser s₁ "b" = .ok ub := by decide +kernel
  have hrun : run relationshipStore.serve twoUsers [request .blockUser "a" "b"] = some s₁ :=
    rfl
  refine ⟨s₁, ub, hrun, hb, ?_, ?_⟩
  · exact (block_sticky_and_closes relationshipStore withoutRelations_twoUsers hrun).1 _
      ⟨ua, ha, rfl⟩ (by simp [request])
  · exact (block_sticky_and_closes relationshipStore withoutRelations_twoUsers hrun).2 ub ua
      { id := "dm", recipients := ["a", "b"] } _ (by decide) hb ha (.inr rfl) (.inr rfl) rfl rfl
      rfl rfl (fun bot hbot => by cases hbot)

end RelationshipStore

end DawnChat
