/-
DawnChat/Users/Usernames.lean

Usernames and discriminators (`core/database/src/models/users/model.rs`).

Two users may have the same name up to case as long as their discriminators differ.
`find_discriminator` takes the discriminators that are in use for a name out of a fixed
search space and returns one of the rest: the one that the caller prefers if it is free,
otherwise a random one, which for a user who changes their name is allowed once a day.
A change that only touches the case of the name keeps the discriminator and skips the
search.

Every call keeps names unique and takes discriminators from the search space
(`usernames_unique`).  The search is the only place that gives a discriminator out, so
the one fact about it that the rest needs is that the result is free for the name
(`findDiscriminator_ok`).
-/
import DawnChat.Database
import DawnChat.Lib.Run

namespace DawnChat

open RustStd Fallible Handler Run HashMap ReferenceDb List Option

/-! ### Names -/

/-- What names are checked with: Unicode tables, and the configuration. -/
structure UsernameRules where
  /-- `str::to_lowercase`. -/
  toLowercase : String → String
  /-- Simple case folding of a character, as case-insensitive patterns apply it. -/
  foldCase : Char → Char
  /-- `decancer::cure` with capitalisation retained. -/
  cure : String → Option String
  /-- `api.users.min_username_length`. -/
  minUsernameLength : Nat

def blockedUsernames : List String := ["admin", "revolt", "stoat"]

/-- The strings that the blocked patterns stand for. -/
def blockedUsernamePatterns : List String :=
  ["```", "discord.gg", "rvlt.gg", "guilded.gg", "stt.gg", "revolt.chat", "stoat.chat",
    "http://", "https://"]

namespace UsernameRules

variable (rules : UsernameRules)

/-- Check if the username is a blocked name or contains a blocked pattern. -/
def validateUsername (username : String) : Result Unit :=
  let folded := username.toList.map rules.foldCase
  if rules.toLowercase username ∈ blockedUsernames ∨
      ∃ pattern ∈ blockedUsernamePatterns, pattern.toList <:+: folded then
    .error .invalidUsername
  else .ok ()

/-- Clean up Unicode homoglyphs and pad to the min username length with underscores. -/
def sanitiseUsername (username : String) : Result String :=
  match rules.cure username with
  | none => .error .invalidUsername
  | some username =>
    .ok (username.pushn '_' (rules.minUsernameLength - username.utf8ByteSize))

end UsernameRules

/-! ### Discriminators -/

/-- `format!("{:0>4}", v)` -/
def formatDiscriminator (v : Nat) : String :=
  let digits := toString v
  "".pushn '0' (4 - digits.length) ++ digits

/-- Discriminators that nobody gets. -/
def reservedDiscriminators : List Nat :=
  [123, 1234, 1111, 2222, 3333, 4444, 5555, 6666, 7777, 8888, 9999, 1488]

def discriminatorSearchSpace : List String :=
  let set := (List.range' 2 (9999 - 2)).map formatDiscriminator
  reservedDiscriminators.foldl
    (fun set discrim => set.filter (· ≠ formatDiscriminator discrim)) set

namespace ReferenceDb

/-- Insert a new user into the database. -/
def insertUser (user : User) (db : ReferenceDb) : Result ReferenceDb :=
  if user.id ∈ db.users then .error (.databaseError "insert" "user")
  else .ok { db with users := db.users.insert user.id user }

/-- Update a user by their id given some data. -/
def updateUser (id : String) (p : PartialUser) (remove : List FieldsUser) (db : ReferenceDb) :
    Result ReferenceDb :=
  if id ∈ db.users then
    .ok { db with
      users := db.users.modify id fun user => (remove.foldl User.removeField user).applyOptions p }
  else .error .notFound

/-- Fetch all discriminators in use for a username. -/
def fetchDiscriminatorsInUse (rules : UsernameRules) (username : String) (db : ReferenceDb) :
    List String :=
  let lowercase := rules.toLowercase username
  (db.users.values.filter fun user => rules.toLowercase user.username = lowercase).map
    (·.discriminator)

/-- Insert a new ratelimit event. -/
def insertRatelimitEvent (event : RatelimitEvent) (db : ReferenceDb) : Result ReferenceDb :=
  match db.ratelimitEvents.get? event.id with
  | some _ => .error (.databaseError "insert" "message")
  | none => .ok { db with ratelimitEvents := db.ratelimitEvents.insert event }

/-- Count the events later than the given id and check if we've hit the limit. -/
def hasRatelimited (targetId : String) (eventType : RatelimitEventType) (gteCmpId : String)
    (count : Nat) (db : ReferenceDb) : Bool :=
  count ≤ (db.ratelimitEvents.documents.filter fun event =>
    gteCmpId < event.id ∧ event.targetId = targetId ∧ event.eventType = eventType).length

end ReferenceDb

/-- What a call takes from the generators and the clock. -/
structure UsernameCallContext where
  /-- The random number that picks a discriminator. -/
  choice : Nat := 0
  /-- Id of a new user. -/
  userId : String := ""
  /-- Id of a new ratelimit event. -/
  eventId : String := ""
  /-- The id of an event of a day ago. -/
  gteCmpId : String := ""
  now : Timestamp := 0

section Calls

variable (rules : UsernameRules) (ctx : UsernameCallContext)

/-- `choose(&mut rng)` -/
def choose (choice : Nat) (available : List String) : Option String :=
  available[choice % available.length]?

/-- The part of the search space that is not in use for the name. -/
def availableDiscriminators (username : String) (db : ReferenceDb) : List String :=
  let usedDiscriminators := db.fetchDiscriminatorsInUse rules username
  discriminatorSearchSpace.filter (· ∉ usedDiscriminators)

/-- Pick one of the available discriminators.  A caller who prefers one that is not
available may be given another one once a day. -/
def pickDiscriminator (available : List String) (preferred : Option (String × String)) :
    Request ReferenceDb String :=
  match preferred with
  | some (preferred, targetId) =>
    if preferred ∈ available then return preferred
    else do
      let limited ← read fun db =>
        .ok (db.hasRatelimited targetId .discriminatorChange ctx.gteCmpId 1)
      throwIf (limited = true) .discriminatorChangeRatelimited
      write (ReferenceDb.insertRatelimitEvent
        { id := ctx.eventId, targetId := targetId, eventType := .discriminatorChange })
      ofOption (choose ctx.choice available)
  | none => ofOption (choose ctx.choice available)

/-- Find a free discriminator for a given username. -/
def findDiscriminator (username : String) (preferred : Option (String × String)) :
    Request ReferenceDb String := do
  let available ← read fun db => .ok (availableDiscriminators rules username db)
  throwIf (available = []) .usernameTaken
  pickDiscriminator ctx available preferred

namespace User

/-- Update user data; the result is the changed user. -/
def update (u : User) (p : PartialUser) (remove : List FieldsUser) : Request ReferenceDb User := do
  let u := (remove.foldl removeField u).applyOptions p
  write (ReferenceDb.updateUser u.id p remove)
  return u

/-- The user that is created. -/
def initial (username discriminator : String) (accountId : Option String)
    (data : Option PartialUser) : User :=
  let user : User :=
    { id := accountId.getD ctx.userId
      discriminator := discriminator
      username := username
      lastAcknowledgedPolicyChange := ctx.now }
  match data with
  | some data => user.applyOptions data
  | none => user

/-- Create a new user. -/
def create (username : String) (accountId : Option String) (data : Option PartialUser) :
    Request ReferenceDb User := do
  let newUsername ← ofExcept (rules.sanitiseUsername username)
  ofExcept (rules.validateUsername newUsername)
  let discriminator ← findDiscriminator rules ctx newUsername none
  let user := initial ctx newUsername discriminator accountId data
  write (ReferenceDb.insertUser user)
  return user

/-- Update a user's username. -/
def updateUsername (u : User) (username : String) : Request ReferenceDb User := do
  let newUsername ← ofExcept (rules.sanitiseUsername username)
  ofExcept (rules.validateUsername newUsername)
  if rules.toLowercase u.username = rules.toLowercase newUsername then
    u.update { username := some newUsername } []
  else do
    let discriminator ← findDiscriminator rules ctx newUsername (some (u.discriminator, u.id))
    u.update { discriminator := some discriminator, username := some newUsername } []

end User

/-- Data for a new user that sets neither username nor discriminator. -/
abbrev NamelessUser := { p : PartialUser // p.username = none ∧ p.discriminator = none }

/-- The calls that set names. -/
inductive UsernameCall where
  | create (username : String) (accountId : Option String) (data : Option NamelessUser)
  /-- The user is fetched and changes their name. -/
  | updateUsername (userId username : String)

/-- Serve a call. -/
def UsernameCall.serve : UsernameCall → Request ReferenceDb User
  | .create username accountId data =>
    User.create rules ctx username accountId (data.map (·.1))
  | .updateUsername userId username => do
      let user ← read fun db => ReferenceDb.get db.users userId
      user.updateUsername rules ctx username

end Calls

/-- The database after a call, whatever the call returned. -/
def stepUsernames (rules : UsernameRules) (db : ReferenceDb)
    (call : UsernameCallContext × UsernameCall) : Option ReferenceDb :=
  some ((call.2.serve rules call.1).exec db).2

/-! ### What the search returns -/

section Search

variable {rules : UsernameRules} {ctx : UsernameCallContext} {db db' : ReferenceDb}
  {username : String} {preferred : Option (String × String)}

/-- Some user has the name, up to case, with this discriminator. -/
def InUse (rules : UsernameRules) (db : ReferenceDb) (username discriminator : String) : Prop :=
  ∃ id user, db.users.lookup id = some user ∧
    rules.toLowercase user.username = rules.toLowercase username ∧
    user.discriminator = discriminator

variable {d : String} {available : List String}

theorem mem_fetchDiscriminatorsInUse :
    d ∈ db.fetchDiscriminatorsInUse rules username ↔ InUse rules db username d := by
  simp only [fetchDiscriminatorsInUse, values, List.mem_map, mem_filter, decide_eq_true_eq]
  constructor
  · rintro ⟨user, ⟨⟨⟨id, user'⟩, hmem, rfl⟩, hname⟩, hd⟩
    exact ⟨id, user', mem_toList_iff.mp hmem, hname, hd⟩
  · rintro ⟨id, user, hlookup, hname, hd⟩
    exact ⟨user, ⟨⟨(id, user), mem_toList_iff.mpr hlookup, rfl⟩, hname⟩, hd⟩

theorem mem_availableDiscriminators :
    d ∈ availableDiscriminators rules username db ↔
      d ∈ discriminatorSearchSpace ∧ ¬ InUse rules db username d := by
  rw [availableDiscriminators, mem_filter, decide_eq_true_eq, mem_fetchDiscriminatorsInUse]

theorem availableDiscriminators_eq_nil :
    availableDiscriminators rules username db = [] ↔
      ∀ d ∈ discriminatorSearchSpace, InUse rules db username d := by
  rw [eq_nil_iff_forall_not_mem]
  simp only [mem_availableDiscriminators, not_and, not_not]

/-- A choice from a list that is not empty succeeds. -/
theorem exists_choose (choice : Nat) (h : available ≠ []) :
    ∃ d ∈ available, choose choice available = some d := by
  have hlt : choice % available.length < available.length :=
    Nat.mod_lt _ (length_pos_iff.mpr h)
  exact ⟨_, getElem_mem hlt, getElem?_eq_getElem hlt⟩

/-- How picking ends: with an available discriminator, or with an error that does not
say that the name is taken.  Users stay as they are. -/
theorem exec_pickDiscriminator (ctx : UsernameCallContext) (db : ReferenceDb)
    (preferred : Option (String × String)) (hne : available ≠ []) :
    ∃ db', db'.users = db.users ∧
      ((∃ d ∈ available, (pickDiscriminator ctx available preferred).exec db = (.ok d, db')) ∨
        ∃ e, e ≠ .usernameTaken ∧
          (pickDiscriminator ctx available preferred).exec db = (.error (.error e), db')) := by
  obtain ⟨d, hd, hchoose⟩ := exists_choose ctx.choice hne
  rcases preferred with - | ⟨preferred, targetId⟩
  · refine ⟨db, rfl, .inl ⟨d, hd, ?_⟩⟩
    rw [pickDiscriminator, hchoose, exec_ofOption_some]
  by_cases hpreferred : preferred ∈ available
  · refine ⟨db, rfl, .inl ⟨preferred, hpreferred, ?_⟩⟩
    rw [pickDiscriminator, if_pos hpreferred, exec_pure]
  rw [pickDiscriminator, if_neg hpreferred, hchoose, exec_read_bind]
  by_cases hlimited : db.hasRatelimited targetId .discriminatorChange ctx.gteCmpId 1 = true
  · refine ⟨db, rfl, .inr ⟨.discriminatorChangeRatelimited, by decide, ?_⟩⟩
    rw [exec_bind, throwIf, if_pos hlimited, exec_fail]
  rw [exec_bind_of_ok (exec_throwIf_ok (u := ()).mpr ⟨hlimited, rfl⟩),
    exec_bind, exec_write, insertRatelimitEvent]
  let event : RatelimitEvent := ⟨ctx.eventId, targetId, .discriminatorChange⟩
  rcases db.ratelimitEvents.get? ctx.eventId with - | other
  · exact ⟨{ db with ratelimitEvents := db.ratelimitEvents.insert event }, rfl, .inl ⟨d, hd, rfl⟩⟩
  · exact ⟨db, rfl, .inr ⟨.databaseError "insert" "message", by decide, rfl⟩⟩

/-- How the search ends. -/
theorem exec_findDiscriminator (rules : UsernameRules) (ctx : UsernameCallContext)
    (username : String) (preferred : Option (String × String)) (db : ReferenceDb) :
    ∃ db', db'.users = db.users ∧
      ((∃ d ∈ availableDiscriminators rules username db,
          (findDiscriminator rules ctx username preferred).exec db = (.ok d, db')) ∨
        (∃ e, e ≠ .usernameTaken ∧ availableDiscriminators rules username db ≠ [] ∧
          (findDiscriminator rules ctx username preferred).exec db = (.error (.error e), db')) ∨
        availableDiscriminators rules username db = [] ∧
          (findDiscriminator rules ctx username preferred).exec db =
            (.error (.error .usernameTaken), db')) := by
  rw [findDiscriminator, exec_read_bind]
  by_cases hnil : availableDiscriminators rules username db = []
  · refine ⟨db, rfl, .inr (.inr ⟨hnil, ?_⟩)⟩
    rw [exec_bind, throwIf, if_pos hnil, exec_fail]
  · rw [exec_bind_of_ok (exec_throwIf_ok (u := ()).mpr ⟨hnil, rfl⟩)]
    obtain ⟨db', husers, hok | ⟨e, he, herror⟩⟩ :=
      exec_pickDiscriminator ctx db preferred hnil
    · exact ⟨db', husers, .inl hok⟩
    · exact ⟨db', husers, .inr (.inl ⟨e, he, hnil, herror⟩)⟩

/-- The search gives out discriminators of the search space that are free for the name. -/
theorem findDiscriminator_ok
    (h : (findDiscriminator rules ctx username preferred).exec db = (.ok d, db')) :
    d ∈ discriminatorSearchSpace ∧ ¬ InUse rules db username d := by
  obtain ⟨db₁, -, ⟨d', hd', hexec⟩ | ⟨e, -, -, hexec⟩ | ⟨-, hexec⟩⟩ :=
    exec_findDiscriminator rules ctx username preferred db
  · cases hexec.symm.trans h
    exact mem_availableDiscriminators.mp hd'
  · cases hexec.symm.trans h
  · cases hexec.symm.trans h

theorem findDiscriminator_users {r : Except (Fault ErrorType) String}
    (h : (findDiscriminator rules ctx username preferred).exec db = (r, db')) :
    db'.users = db.users := by
  obtain ⟨db₁, husers, hcases⟩ := exec_findDiscriminator rules ctx username preferred db
  have hdb : db₁ = db' := by
    obtain ⟨d', -, hexec⟩ | ⟨e, -, -, hexec⟩ | ⟨-, hexec⟩ := hcases
    all_goals exact congrArg Prod.snd (hexec.symm.trans h)
  rw [← hdb, husers]

/-- The search reports that the name is taken exactly when the whole search space is in
use for it. -/
theorem findDiscriminator_usernameTaken :
    ((findDiscriminator rules ctx username preferred).exec db).1
        = .error (.error .usernameTaken) ↔
      ∀ d ∈ discriminatorSearchSpace, InUse rules db username d := by
  rw [← availableDiscriminators_eq_nil]
  obtain ⟨db', -, ⟨d, hd, hexec⟩ | ⟨e, he, hne, hexec⟩ | ⟨hnil, hexec⟩⟩ :=
    exec_findDiscriminator rules ctx username preferred db
  · have hne : availableDiscriminators rules username db ≠ [] := ne_nil_of_mem hd
    simp [hexec, hne]
  · simp [hexec, hne, he]
  · simp [hexec, hnil]

end Search

/-! ### Names stay unique -/

/-- Name up to case, and discriminator. -/
def UsernameRules.tag (rules : UsernameRules) (user : User) : String × String :=
  (rules.toLowercase user.username, user.discriminator)

/-- Users are stored under their ids, no two of them have the same lower-cased name and
the same discriminator, and discriminators are taken from the search space. -/
structure UsersUnique (rules : UsernameRules) (db : ReferenceDb) : Prop where
  keyed : db.users.KeyedBy User.id
  unique : db.users.UniqueBy rules.tag
  inSpace : ∀ {id user}, db.users.lookup id = some user →
    user.discriminator ∈ discriminatorSearchSpace

namespace UsersUnique

variable {rules : UsernameRules} {ctx : UsernameCallContext} {db db' : ReferenceDb}

theorem empty : UsersUnique rules {} where
  keyed := keyedBy_empty
  unique := by
    intro k₁ k₂ v₁ v₂ h
    cases h
  inSpace h := by cases h

/-- A user whose discriminator is free for their name shares them with nobody. -/
theorem tag_ne_of_free {user other : User} {id : String}
    (hfree : ¬ InUse rules db user.username user.discriminator)
    (hother : db.users.lookup id = some other) : rules.tag other ≠ rules.tag user := by
  intro htag
  obtain ⟨hname, hd⟩ := Prod.mk.inj htag
  exact hfree ⟨id, other, hother, hname, hd⟩

/-- Data without names leaves the name and the discriminator of the new user alone. -/
theorem tag_initial (ctx : UsernameCallContext) (username discriminator : String)
    (accountId : Option String) (data : Option NamelessUser) :
    (User.initial ctx username discriminator accountId (data.map (·.1))).username = username ∧
      (User.initial ctx username discriminator accountId (data.map (·.1))).discriminator
        = discriminator := by
  rcases data with - | ⟨p, hname, hdiscriminator⟩
  · exact ⟨rfl, rfl⟩
  · simp [User.initial, User.applyOptions, hname, hdiscriminator]

variable {u : User} {p : PartialUser}

/-- A user that is stored changes as the data says, and nothing else does. -/
theorem exec_update (hlookup : db.users.lookup u.id = some u) (hp : p.id = none) :
    ((u.update p []).exec db).2 =
      { db with users := db.users.modify u.id fun user => user.applyOptions p } := by
  have hid : (u.applyOptions p).id = u.id := by
    simp [User.applyOptions, hp]
  have hmem : u.id ∈ db.users := mem_iff_exists_lookup.mpr ⟨u, hlookup⟩
  have hwrite : (write (updateUser (u.applyOptions p).id p [])).exec db =
      (.ok (), { db with users := db.users.modify u.id fun user => user.applyOptions p }) := by
    rw [exec_write_ok, hid, updateUser, if_pos hmem]
    rfl
  exact congrArg Prod.snd (exec_bind_of_ok hwrite _)

variable (h : UsersUnique rules db)

include h

theorem of_users_eq (husers : db'.users = db.users) : UsersUnique rules db' := by
  refine ⟨?_, ?_, ?_⟩
  · rw [husers]
    exact h.keyed
  · rw [husers]
    exact h.unique
  · rw [husers]
    exact h.inSpace

/-- Storing a user whose name and discriminator no other user has. -/
theorem store {user : User} (hk : db'.users.lookup user.id = some user)
    (hne : ∀ id ≠ user.id, db'.users.lookup id = db.users.lookup id)
    (htag : ∀ id ≠ user.id, ∀ other, db.users.lookup id = some other →
      rules.tag other ≠ rules.tag user)
    (hspace : user.discriminator ∈ discriminatorSearchSpace) : UsersUnique rules db' where
  keyed := by
    intro id u hu
    by_cases hid : id = user.id
    · subst hid
      rw [some.inj (hu.symm.trans hk)]
    · exact h.keyed (hne id hid ▸ hu)
  unique := h.unique.replace hk hne htag
  inSpace := by
    intro id u hu
    by_cases hid : id = user.id
    · subst hid
      rwa [some.inj (hu.symm.trans hk)]
    · exact h.inSpace (hne id hid ▸ hu)

/-- Creating a user keeps names unique. -/
theorem create (username : String) (accountId : Option String) (data : Option NamelessUser) :
    UsersUnique rules
      ((User.create rules ctx username accountId (data.map (·.1))).exec db).2 := by
  refine store_of_ofExcept_bind h fun newUsername _ => ?_
  refine store_of_ofExcept_bind h fun _ _ => ?_
  refine store_of_bind (fun e db₁ hfind => ?_) (fun d db₁ hfind => ?_)
  · exact h.of_users_eq (findDiscriminator_users hfind)
  have husers : db₁.users = db.users := findDiscriminator_users hfind
  obtain ⟨hspace, hfree⟩ := findDiscriminator_ok hfind
  obtain ⟨hname, hd⟩ := tag_initial ctx newUsername d accountId data
  refine store_of_write_bind (h.of_users_eq husers) fun db₂ hinsert => ?_
  rw [insertUser, husers] at hinsert
  split at hinsert
  · cases hinsert
  obtain rfl := Except.ok.inj hinsert
  refine h.store (AList.lookup_insert _) (fun id hid => AList.lookup_insert_ne hid)
    (fun id _ other hother => ?_) (by rwa [hd])
  exact tag_ne_of_free (by rwa [hname, hd]) hother

/-- Changing a stored user keeps names unique if no other user has the new name and
discriminator. -/
theorem update (hlookup : db.users.lookup u.id = some u) (hp : p.id = none)
    (htag : ∀ id ≠ u.id, ∀ other, db.users.lookup id = some other →
      rules.tag other ≠ rules.tag (u.applyOptions p))
    (hspace : (u.applyOptions p).discriminator ∈ discriminatorSearchSpace) :
    UsersUnique rules ((u.update p []).exec db).2 := by
  have hid : (u.applyOptions p).id = u.id := by
    simp [User.applyOptions, hp]
  rw [exec_update hlookup hp]
  refine UsersUnique.store h (?_ : _ = some (u.applyOptions p)) ?_ ?_ hspace
  · rw [hid, lookup_modify, hlookup]
    rfl
  · rw [hid]
    exact fun id hne => lookup_modify_ne hne _ _
  · rw [hid]
    exact htag

/-- Changing a name keeps names unique. -/
theorem updateUsername (hlookup : db.users.lookup u.id = some u) (username : String) :
    UsersUnique rules ((u.updateUsername rules ctx username).exec db).2 := by
  refine store_of_ofExcept_bind h fun newUsername _ => ?_
  refine store_of_ofExcept_bind h fun _ _ => ?_
  by_cases hcase : rules.toLowercase u.username = rules.toLowercase newUsername
  · -- the tag of the user stays the same
    rw [if_pos hcase]
    have hspace : u.discriminator ∈ discriminatorSearchSpace := h.inSpace hlookup
    refine h.update hlookup rfl (fun id hid other hother htag => ?_) hspace
    have htag' : rules.tag other = rules.tag u := by
      rw [htag, UsernameRules.tag, UsernameRules.tag, hcase]
      rfl
    exact hid (h.unique hother hlookup htag')
  · rw [if_neg hcase]
    refine store_of_bind (fun e db₁ hfind => ?_) (fun d db₁ hfind => ?_)
    · exact h.of_users_eq (findDiscriminator_users hfind)
    have husers : db₁.users = db.users := findDiscriminator_users hfind
    obtain ⟨hspace, hfree⟩ := findDiscriminator_ok hfind
    refine (h.of_users_eq husers).update (husers ▸ hlookup) rfl (fun id _ other hother => ?_) hspace
    rw [husers] at hother
    exact tag_ne_of_free hfree hother

/-- Every call keeps names unique. -/
theorem step {call : UsernameCallContext × UsernameCall}
    (hstep : stepUsernames rules db call = some db') : UsersUnique rules db' := by
  obtain rfl := some.inj hstep
  rcases call with ⟨ctx, call⟩
  cases call with
  | create username accountId data => exact h.create username accountId data
  | updateUsername userId username =>
    refine store_of_read_bind h fun user hget => ?_
    have hlookup := get_ok.mp hget
    have hid : user.id = userId := h.keyed hlookup
    exact h.updateUsername (hid ▸ hlookup) username

end UsersUnique

/-- **Names are unique.**  Throughout every sequence of calls no two users have the same
lower-cased username and the same discriminator, and all discriminators are from the
search space.  In each state that is reached the search gives out discriminators of that
space that are free, and it reports that a name is taken exactly when the whole space is
in use for the name. -/
theorem usernames_unique (rules : UsernameRules) (db₀ : ReferenceDb) (h₀ : UsersUnique rules db₀)
    (calls : List (UsernameCallContext × UsernameCall)) :
    Always (stepUsernames rules) (fun db => UsersUnique rules db ∧
      ∀ ctx username preferred,
        (∀ d db', (findDiscriminator rules ctx username preferred).exec db = (.ok d, db') →
          d ∈ discriminatorSearchSpace ∧ ¬ InUse rules db username d) ∧
        (((findDiscriminator rules ctx username preferred).exec db).1
            = .error (.error .usernameTaken) ↔
          ∀ d ∈ discriminatorSearchSpace, InUse rules db username d)) db₀ calls := by
  have hunique : Always (stepUsernames rules) (UsersUnique rules) db₀ calls :=
    always_of_step (fun _ _ _ h hstep => h.step hstep) h₀ calls
  refine hunique.imp fun db h => ⟨h, fun ctx username preferred => ⟨?_, ?_⟩⟩
  · exact fun d db' hfind => findDiscriminator_ok hfind
  · exact findDiscriminator_usernameTaken

/-- ASCII names that need no cleaning up. -/
def asciiRules : UsernameRules where
  toLowercase := String.toLower
  foldCase := Char.toLower
  cure := some
  minUsernameLength := 2

def dawn : User := { id := "a", username := "Dawn", discriminator := "0002" }

/-- One stored user. -/
def oneNamedUser : ReferenceDb := { users := (∅ : HashMap String User).insert dawn.id dawn }

/-- Another user of the same name is created, and the first one changes the case of
their name. -/
theorem usernames_unique_sameName :
    Always (stepUsernames asciiRules) (fun db => UsersUnique asciiRules db ∧
      ∀ ctx username preferred,
        (∀ d db', (findDiscriminator asciiRules ctx username preferred).exec db = (.ok d, db') →
          d ∈ discriminatorSearchSpace ∧ ¬ InUse asciiRules db username d) ∧
        (((findDiscriminator asciiRules ctx username preferred).exec db).1
            = .error (.error .usernameTaken) ↔
          ∀ d ∈ discriminatorSearchSpace, InUse asciiRules db username d))
      oneNamedUser
      [({ userId := "b" }, .create "dawn" none none), ({}, .updateUsername "a" "DAWN")] := by
  have hspace : dawn.discriminator ∈ discriminatorSearchSpace := by decide +kernel
  have h₀ : UsersUnique asciiRules oneNamedUser :=
    UsersUnique.empty.store (AList.lookup_insert _) (fun id hid => AList.lookup_insert_ne hid)
      (fun id _ other hother => by cases hother) hspace
  exact usernames_unique asciiRules oneNamedUser h₀ _

end DawnChat
