/-
DawnChat/Users/Relationships.lean

Changing the relationship between two users
(`core/database/src/models/users/model.rs`), and how a user is shown to another
one (`core/database/src/util/bridge/v0.rs`).

`apply_relationship` writes both directions and then tells both parties, each
on their private topic.  The event for a party carries that party's id and the
*other* user, as the party may see them (`publishedTo_carries_other`).

What a user is shown depends on whether they may see the other's profile.  That
question can reach a query which the in-memory driver does not implement, so
`into` may panic.
-/
import DawnChat.Events
import DawnChat.Permissions.Query

namespace DawnChat

open Fallible Handler List Option

variable {σ : Type}

/-! ### A user as others see them -/

/-- `UserStatus::into`: an invisible user shows no presence, and a status
without content is none. -/
def UserStatus.into (status : UserStatus) (discardInvisible : Bool) : Option UserStatus :=
  let presence := status.presence.filter fun p => !(discardInvisible && p = .invisible)
  if status.text.isNone && presence.isNone then none
  else some { text := status.text, presence := presence }

namespace User

/-- The relationship that a user has stored towards another one. -/
def storedRelationship (perspective : User) (userB : String) : RelationshipStatus :=
  match perspective.relations with
  | some relations => ((relations.find? (·.id = userB)).map (·.status)).getD .none
  | none => .none

/-- The user with the given relationship and visibility of the profile. -/
def shown (u : User) (relations : List Relationship) (relationship : RelationshipStatus)
    (canSeeProfile isOnline : Bool) : V0User where
  id := u.id
  username := u.username
  discriminator := u.discriminator
  relations := relations
  status := if canSeeProfile then u.status.bind (·.into true) else none
  privileged := u.privileged
  bot := u.bot
  relationship := relationship
  online := canSeeProfile && isOnline && !u.isInvisible

/-- The relationship of the addressee and whether they may see the profile. -/
def intoVisibility (u : User) (db : Database) (clock : Stream' Timestamp)
    (perspective : Option User) : Option (RelationshipStatus × Bool) :=
  if u.bot.isSome then some (.none, true)
  else
    match perspective with
    | some perspective =>
      if perspective.id = u.id then some (.user, true)
      else do
        let query := (DatabasePermissionQuery.new db perspective clock).withUser u
        let permissions ← calculateUserPermissions.run query
        some (perspective.storedRelationship u.id,
          permissions.1.hasUserPermission .viewProfile)
    | none => some (.none, false)

/-- Convert user object into user model. -/
def into (u : User) (db : Database) (isOnline : String → Bool) (clock : Stream' Timestamp)
    (perspective : Option User) : Option V0User := do
  let visibility ← u.intoVisibility db clock perspective
  let relations :=
    if perspective.any (·.id = u.id) then u.relations.getD [] else []
  some (u.shown relations visibility.1 visibility.2 (isOnline u.id))

/-- Convert user object into user model assuming mutual connection. -/
def intoKnown (u : User) (perspective : Option User) (isOnline : Bool) : V0User :=
  let visibility : RelationshipStatus × Bool :=
    if u.bot.isSome then (.none, true)
    else
      match perspective with
      | some perspective =>
        if perspective.id = u.id then (.user, true)
        else
          let relationship := perspective.storedRelationship u.id
          (relationship, relationship ≠ .blockedOther)
      | none => (.none, false)
  u.shown [] visibility.1 visibility.2 isOnline

/-- Convert user object into user model for the user themselves. -/
def intoSelf (u : User) (forceOnline isOnline : Bool) : V0User :=
  u.shown (u.relations.getD []) .user true (forceOnline || isOnline)

theorem into_id {u : User} {db : Database} {isOnline : String → Bool}
    {clock : Stream' Timestamp} {perspective : Option User} {v : V0User}
    (h : u.into db isOnline clock perspective = some v) : v.id = u.id := by
  obtain ⟨visibility, -, hv⟩ := bind_eq_some_iff.mp h
  obtain rfl := some.inj hv
  rfl

/-! ### Relationships -/

/-- Set a relationship to another user, in the database and in the record at
hand. -/
def setRelationship (D : Driver σ) (u : User) (userB : User) (status : RelationshipStatus) :
    Request σ User := do
  D.setRelationship u.id userB.id status
  pure (u.withRelationship userB.id status)

/-- The users after the change, and the events that were published. -/
structure RelationshipChange where
  self : User
  target : User
  published : List Publication

/-- Apply a certain relationship between two users. -/
def applyRelationship (D : Driver σ) (isOnline : String → Bool) (clock : Stream' Timestamp)
    (self target : User) (localStatus remoteStatus : RelationshipStatus) :
    Request σ RelationshipChange := do
  let target ← target.setRelationship D self remoteStatus
  let self ← self.setRelationship D target localStatus
  let s ← get
  let selfShown ← ofOption (self.into (D.database s) isOnline clock (some target))
  let targetShown ← ofOption (target.into (D.database s) isOnline clock (some self))
  pure ⟨self, target,
    [(EventV1.userRelationship target.id selfShown).private target.id,
      (EventV1.userRelationship self.id targetShown).private self.id]⟩

end User

/-- An event that a change of the relationship between `userId` and another
user publishes to the private topic of `userId`. -/
def PublishedTo (userId : String) (event : EventV1) : Prop :=
  ∃ (σ : Type) (D : Driver σ) (isOnline : String → Bool) (clock : Stream' Timestamp)
    (self target : User) (localStatus remoteStatus : RelationshipStatus)
    (s s' : σ) (change : User.RelationshipChange),
    self.id ≠ target.id ∧
    exec (self.applyRelationship D isOnline clock target localStatus remoteStatus) s
      = (.ok change, s') ∧
    ⟨privateTopic userId, event⟩ ∈ change.published

/-- **The event for a user names that user and carries the other one.** -/
theorem publishedTo_carries_other {userId : String} {event : EventV1}
    (h : PublishedTo userId event) :
    ∃ other : V0User, event = .userRelationship userId other ∧ other.id ≠ userId := by
  obtain ⟨σ, D, isOnline, clock, self, target, localStatus, remoteStatus, s, s', change, hne,
    hexec, hmem⟩ := h
  simp only [User.applyRelationship, User.setRelationship, exec_bind_ok,
    exec_pure_ok, exec_get_ok, exec_ofOption_ok] at hexec
  obtain ⟨_, _, ⟨_, _, -, rfl, -⟩, _, _, ⟨_, _, -, rfl, -⟩, _, _, -, selfShown, _, ⟨hself, -⟩,
    targetShown, _, ⟨htarget, -⟩, rfl, -⟩ := hexec
  have hselfId := User.into_id hself
  have htargetId := User.into_id htarget
  rw [User.withRelationship_id] at hselfId htargetId
  simp only [mem_cons, not_mem_nil, or_false, EventV1.private, Publication.mk.injEq,
    User.withRelationship_id] at hmem
  rcases hmem with ⟨htopic, rfl⟩ | ⟨htopic, rfl⟩
  · obtain rfl := privateTopic_injective htopic
    exact ⟨selfShown, rfl, hselfId ▸ hne⟩
  · obtain rfl := privateTopic_injective htopic
    exact ⟨targetShown, rfl, htargetId ▸ hne.symm⟩

end DawnChat
