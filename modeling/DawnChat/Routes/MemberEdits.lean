/-
DawnChat/Routes/MemberEdits.lean

What an edit of a member needs
(`delta/src/routes/servers/member_edit.rs`).

Every field of a member has its permission, and `Guards` says that an accepted
edit had the permission for each field it sets.  That is not the same as having
it for each field that changes, because a field also changes when it is on the
list of fields to reset.  `edit_gated_iff` finds the ways around: nothing is
asked for lifting a mute or a deafen through that list, nor for taking the join
date of a member away where the database does so, and a request that both
resets and sets the avatar of another member replaces it.
-/
import DawnChat.Routes.Members

namespace DawnChat

open RustStd Fallible Handler Except

/-- Each field of a member changes only with the permission for it. -/
structure FieldsGated (has : ChannelPermission → Prop) (isSelf : Prop) (m m' : Member) : Prop where
  canPublish : m'.canPublish ≠ m.canPublish → has .muteMembers
  canReceive : m'.canReceive ≠ m.canReceive → has .deafenMembers
  roles : m'.roles ≠ m.roles → has .assignRoles
  timeout : m'.timeout ≠ m.timeout → has .timeoutMembers
  nickname : m'.nickname ≠ m.nickname →
    (isSelf → has .changeNickname) ∧ (¬ isSelf → has .manageNicknames)
  avatar : m'.avatar ≠ m.avatar →
    (isSelf → has .changeAvatar) ∧ (¬ isSelf → has .removeAvatars ∧ m'.avatar = none)
  joinedAt : m'.joinedAt = m.joinedAt

variable {has : ChannelPermission → Prop}

/-- Nothing changes through someone without permissions. -/
theorem FieldsGated.eq_of_none {isSelf : Prop} {m m' : Member}
    (h : FieldsGated has isSelf m m') (hid : m'.id = m.id) (hnone : ∀ p, ¬ has p) : m' = m := by
  have hpublish : m'.canPublish = m.canPublish :=
    not_not.mp fun hne => hnone _ (h.canPublish hne)
  have hreceive : m'.canReceive = m.canReceive :=
    not_not.mp fun hne => hnone _ (h.canReceive hne)
  have hroles : m'.roles = m.roles := not_not.mp fun hne => hnone _ (h.roles hne)
  have htimeout : m'.timeout = m.timeout := not_not.mp fun hne => hnone _ (h.timeout hne)
  have hnickname : m'.nickname = m.nickname := by
    by_contra hne
    obtain ⟨hself, hother⟩ := h.nickname hne
    by_cases hs : isSelf
    · exact hnone _ (hself hs)
    · exact hnone _ (hother hs)
  have havatar : m'.avatar = m.avatar := by
    by_contra hne
    obtain ⟨hself, hother⟩ := h.avatar hne
    by_cases hs : isSelf
    · exact hnone _ (hself hs)
    · exact hnone _ (hother hs).1
  have hjoined := h.joinedAt
  cases m
  cases m'
  simp_all

/-- Besides, nothing changes through someone who is not a member. -/
structure Gated (has : ChannelPermission → Prop) (isSelf isMember : Prop) (m m' : Member) : Prop
    extends FieldsGated has isSelf m m' where
  stranger : ¬ isMember → m' = m

/-- An unchanged record. -/
theorem Gated.refl (has : ChannelPermission → Prop) (isSelf isMember : Prop) (m : Member) :
    Gated has isSelf isMember m m where
  canPublish hne := absurd rfl hne
  canReceive hne := absurd rfl hne
  roles hne := absurd rfl hne
  timeout hne := absurd rfl hne
  nickname hne := absurd rfl hne
  avatar hne := absurd rfl hne
  joinedAt := rfl
  stranger _ := rfl

/-- A request that lifts a mute or a deafen through the list of fields to reset. -/
def DataMemberEdit.LiftsMute (data : DataMemberEdit) (m : Member) : Prop :=
  .canPublish ∈ data.remove ∧ data.canPublish = none ∧ m.canPublish = false

@[inherit_doc DataMemberEdit.LiftsMute]
def DataMemberEdit.LiftsDeafen (data : DataMemberEdit) (m : Member) : Prop :=
  .canReceive ∈ data.remove ∧ data.canReceive = none ∧ m.canReceive = false

/-- A request asks for another value of a field: it gives one, or resets the field. -/
def AsksFor {α : Type} (new : Option α) (unset : Prop) (reset old : α) : Prop :=
  (∃ value, new = some value ∧ value ≠ old) ∨ new = none ∧ unset ∧ reset ≠ old

section AsksFor

variable {α : Type} {unset : Prop} [Decidable unset]

theorem getD_ne_iff {new : Option α} {reset old : α} :
    new.getD (if unset then reset else old) ≠ old ↔ AsksFor new unset reset old := by
  rcases new with - | value
  · by_cases hunset : unset <;> simp [AsksFor, hunset]
  · simp [AsksFor]

/-- The same for a field that may be empty. -/
theorem or_ne_iff {new old : Option α} :
    new.or (if unset then none else old) ≠ old ↔ AsksFor (new.map some) unset none old := by
  rw [← getD_ne_iff]
  rcases new with - | value <;> rfl

omit [Decidable unset] in
theorem AsksFor.isSome_or {new : Option α} {reset old : α} (h : AsksFor new unset reset old) :
    new.isSome ∨ unset := by
  rcases h with ⟨value, rfl, -⟩ | ⟨-, hunset, -⟩
  · exact .inl rfl
  · exact .inr hunset

theorem or_changed {new old : Option α} (h : new.or (if unset then none else old) ≠ old) :
    new.isSome ∨ unset := by
  simpa using (or_ne_iff.mp h).isSome_or

end AsksFor

/-- The checks of an edit gate every field, but for the two ways around them. -/
theorem Guards.fieldsGated {services : Services} {user : User} {server : Server} {c : EditContext}
    {data : DataMemberEdit} {avatar : Option File} (h : Guards user server c data)
    (hhas : ∀ p, has p ↔ c.permissions.hasChannelPermission p = true)
    (havatar : resolveAvatar services user data.avatar = .ok avatar)
    (hmute : data.LiftsMute c.member → has .muteMembers)
    (hdeafen : data.LiftsDeafen c.member → has .deafenMembers)
    (hreplace : c.member.id.user ≠ user.id → ∀ id file, data.avatar = some id →
      services.useUserAvatar id user.id user.id = .ok file → c.member.avatar = some file) :
    FieldsGated has (c.member.id.user = user.id) c.member (data.applyTo avatar c.member) := by
  rw [DataMemberEdit.applyTo_eq]
  constructor
  case canPublish =>
    intro hne
    rcases getD_ne_iff.mp hne with ⟨value, hset, -⟩ | ⟨hnew, hremove, hold⟩
    · exact (hhas _).mpr (h.canPublish (Option.isSome_of_eq_some hset))
    · exact hmute ⟨hremove, hnew, Bool.eq_false_iff.mpr hold.symm⟩
  case canReceive =>
    intro hne
    rcases getD_ne_iff.mp hne with ⟨value, hset, -⟩ | ⟨hnew, hremove, hold⟩
    · exact (hhas _).mpr (h.canReceive (Option.isSome_of_eq_some hset))
    · exact hdeafen ⟨hremove, hnew, Bool.eq_false_iff.mpr hold.symm⟩
  case roles =>
    intro hne
    exact (hhas _).mpr (h.roles (getD_ne_iff.mp hne).isSome_or)
  case timeout =>
    intro hne
    exact (hhas _).mpr (h.timeout (or_changed hne))
  case nickname =>
    intro hne
    have hn := h.nickname (or_changed hne)
    constructor
    · intro hs
      rw [if_pos hs.symm] at hn
      exact (hhas _).mpr hn
    · intro hs
      rw [if_neg (Ne.symm hs)] at hn
      exact (hhas _).mpr hn
  case avatar =>
    intro hne
    have ha := h.avatar ((or_changed hne).imp_left (resolveAvatar_isSome havatar).mp)
    constructor
    · intro hs
      rw [if_pos hs.symm] at ha
      exact (hhas _).mpr ha
    · intro hs
      rw [if_neg (Ne.symm hs)] at ha
      refine ⟨(hhas _).mpr ha.2, ?_⟩
      rcases hid : data.avatar with - | id
      · rw [hid] at havatar
        obtain rfl := ok.inj havatar
        simp [ha.1]
      · -- a new avatar is no change, as it is the old one
        rw [hid, resolveAvatar] at havatar
        rcases hfile : services.useUserAvatar id user.id user.id with e | file
        · rw [hfile] at havatar
          cases havatar
        · rw [hfile] at havatar
          obtain rfl := ok.inj havatar
          exact absurd (hreplace hs id file hid hfile).symm hne
  case joinedAt => rfl

namespace MemberStore

variable {σ : Type} {D : MemberStore σ} {services : Services} {user : User}
  {clock : Stream' Timestamp} {serverId memberId : String} {data : DataMemberEdit}
  {server : Server} {m : Member} {s s' : σ}

/-- The member is still there after an edit, and each field has changed only with the permission
for it. -/
def EditGated (D : MemberStore σ) (user : User) (clock : Stream' Timestamp) (server : Server)
    (memberId : String) (m : Member) (s s' : σ) : Prop :=
  ∃ m', (D.database s').fetchMember server.id memberId = .ok m' ∧
    Gated (ActorHas (D.database s) user clock server) (memberId = user.id)
      (∃ a, (D.database s).fetchMember server.id user.id = .ok a) m m'

/-- A request with no way around the checks. -/
structure Covered (D : MemberStore σ) (services : Services) (user : User)
    (has : ChannelPermission → Prop) (memberId : String) (m : Member) (data : DataMemberEdit) :
    Prop where
  mute : data.LiftsMute m → has .muteMembers
  deafen : data.LiftsDeafen m → has .deafenMembers
  joinedAt : ¬ D.Forgets data
  /-- The avatar of another member is not replaced by another one. -/
  avatar : memberId ≠ user.id → ∀ id file, data.avatar = some id →
    services.useUserAvatar id user.id user.id = .ok file → m.avatar = some file

section Stored

variable {c : EditContext} {avatar : Option File} {q : DatabasePermissionQuery}
  (hid : m.id = ⟨server.id, memberId⟩)
  (h : D.EditStored services user clock server memberId data m s s' c avatar q)

include h

theorem EditStored.covered (hgated : D.EditGated user clock server memberId m s s') :
    D.Covered services user (ActorHas (D.database s) user clock server) memberId m data := by
  obtain ⟨m', hm', hgated⟩ := hgated
  have hkept : ¬ D.Forgets data := by
    intro hforgets
    obtain ⟨e, he⟩ := h.forgotten hforgets
    cases he.symm.trans hm'
  obtain rfl := ok.inj ((h.stored hkept).symm.trans hm')
  rw [DataMemberEdit.applyTo_eq] at hgated
  refine ⟨?_, ?_, hkept, ?_⟩
  · rintro ⟨hremove, hnew, hold⟩
    apply hgated.canPublish
    simp [hremove, hnew, hold]
  · rintro ⟨hremove, hnew, hold⟩
    apply hgated.canReceive
    simp [hremove, hnew, hold]
  · intro hother id file hid hfile
    -- the new avatar is stored, so it must have been there before
    have hav : avatar = some file := by
      have hresolved := h.resolved
      rw [hid, resolveAvatar, hfile] at hresolved
      exact (ok.inj hresolved).symm
    by_contra hne
    have hnone := (hgated.avatar ?_).2 hother
    · simp [hav] at hnone
    · rw [hav]
      exact fun heq => hne heq.symm

include hid

theorem EditStored.editGated (hp : user.privileged = false) (howner : server.owner ≠ user.id)
    (hcovered : D.Covered services user (ActorHas (D.database s) user clock server) memberId m
      data) : D.EditGated user clock server memberId m s s' := by
  obtain rfl := h.member
  have hself : c.member.id.user = memberId := by rw [hid]
  have hfields := h.guards.fieldsGated (actorHas_iff h.actor) h.resolved hcovered.mute
    hcovered.deafen (by rw [hself]; exact hcovered.avatar)
  rw [hself] at hfields
  refine ⟨_, h.stored hcovered.joinedAt, hfields, fun hstranger =>
    hfields.eq_of_none (by simp) fun permission => ?_⟩
  rcases hactorMember : (D.database s).fetchMember server.id user.id with e | a
  · exact not_actorHas_stranger hp howner hactorMember permission
  · exact absurd ⟨a, hactorMember⟩ hstranger

end Stored

/-- **Edits are gated by permissions** when they have no way around the checks, and a
successful edit is gated only then.  An edit may have its effect and still end with an
error. -/
theorem edit_gated_iff (hp : user.privileged = false)
    (hserver : (D.database s).fetchServer serverId = .ok server) (howner : server.owner ≠ user.id)
    (hm : (D.database s).fetchMember server.id memberId = .ok m)
    (hid : m.id = ⟨server.id, memberId⟩) {outcome : Except (Fault ErrorType) Member}
    (h : exec (edit D.toDriver services user clock serverId memberId data) s = (outcome, s')) :
    (D.Covered services user (ActorHas (D.database s) user clock server) memberId m data →
        D.EditGated user clock server memberId m s s') ∧
      (∀ edited, outcome = .ok edited → D.EditGated user clock server memberId m s s' →
        D.Covered services user (ActorHas (D.database s) user clock server) memberId m data) := by
  rcases edit_cases hserver hm hid h with ⟨rfl, e, rfl⟩ | ⟨c, avatar, q, hstored⟩
  · refine ⟨fun _ => ⟨m, hm, .refl _ _ _ m⟩, fun edited hok => ?_⟩
    cases hok
  · exact ⟨hstored.editGated hid hp howner, fun _ _ => hstored.covered⟩

end MemberStore

namespace ReferenceDb

/-! #### A server with a moderator -/

/-- A server whose moderators may mute, kick and rename. -/
def moderatedServer : Server where
  id := "server"
  owner := "owner"
  roles := HashMap.collect [("moderator",
    { id := "moderator"
      permissions :=
        { a := ChannelPermission.muteMembers.value ||| ChannelPermission.kickMembers.value |||
            ChannelPermission.manageNicknames.value } })]

/-- The owner, a moderator and a member who is muted. -/
def moderatedDb : ReferenceDb where
  users := HashMap.collect
    [("owner", { id := "owner" }), ("mod", { id := "mod" }), ("member", { id := "member" })]
  servers := HashMap.collect [("server", moderatedServer)]
  serverMembers := HashMap.collect
    [(⟨"server", "owner"⟩, { id := ⟨"server", "owner"⟩ }),
      (⟨"server", "mod"⟩, { id := ⟨"server", "mod"⟩, roles := ["moderator"] }),
      (⟨"server", "member"⟩, { id := ⟨"server", "member"⟩, canPublish := false })]

/-- Services without files and without voice. -/
def noServices : Services where
  markAttachmentAsDeleted _ := .error .notFound
  useUserAvatar _ _ _ := .error .notFound
  bulkDeleteByAuthorSince _ _ _ := .ok ()
  voiceEnabled := false
  getUserVoiceChannelInServer _ _ := .ok none
  moveToVoiceChannel _ _ _ := some (.ok ())
  syncUserVoicePermissions _ _ := some (.ok ())
  removeFromVoiceChannel _ _ := some (.ok ())

theorem fetchServer_moderatedDb :
    (memberStore.database moderatedDb).fetchServer "server" = .ok moderatedServer := rfl

/-- The moderator and the muted member in MongoDB. -/
def moderatedMembers : MemberDb where
  members := ((∅ : Collection MemberDocument.id).insert
    { id := ⟨"server", "mod"⟩, joinedAt := some 0, roles := ["moderator"] }).insert
    { id := ⟨"server", "member"⟩, joinedAt := some 0, canPublish := false }

/-- The MongoDB driver on the server with a moderator. -/
def moderatedStore : MemberStore MemberDb :=
  MemberDb.memberStore
    { database := fun _ => moderatedDb.database
      updateServer := fun _ _ _ => pure ()
      insertRole := fun _ _ => pure ()
      updateRole := fun _ _ _ _ => pure ()
      deleteRole := fun _ _ => pure ()
      setChannelRolePermission := fun _ _ _ => pure ()
      setRelationship := fun _ _ _ => pure ()
      updateMember := fun _ _ _ => pure ()
      softDeleteMember := fun _ _ => pure ()
      insertBan := fun _ => pure () }

/-- A moderator lifts a mute by setting the flag, and the edit is gated. -/
theorem edit_gated_iff_moderator :
    ∃ edited db', exec (edit driver noServices { id := "mod" } (Stream'.const 0) "server"
        "member" { canPublish := some true }) moderatedDb = (.ok edited, db') ∧
      memberStore.EditGated { id := "mod" } (Stream'.const 0) moderatedServer "member"
        { id := ⟨"server", "member"⟩, canPublish := false } moderatedDb db' := by
  refine exists_exec_ok_of (fun _ _ => True) (by decide +kernel) fun _ _ hexec _ =>
    (MemberStore.edit_gated_iff (D := memberStore) rfl fetchServer_moderatedDb (by decide)
      (by decide +kernel) rfl hexec).1 ⟨?_, ?_, ?_, ?_⟩
  · rintro ⟨hremove, -⟩
    exact absurd hremove List.not_mem_nil
  · rintro ⟨hremove, -⟩
    exact absurd hremove List.not_mem_nil
  · rintro ⟨hunset, -⟩
    cases hunset
  · intro _ id file hid
    cases hid

/-- **A stranger lifts a mute** by resetting the flag, and in MongoDB takes the join date of a
member away, who is none any more. -/
theorem edit_stranger_unmutes :
    (∃ edited db', exec (edit driver noServices { id := "stranger" } (Stream'.const 0)
        "server" "member" { remove := [.canPublish] }) moderatedDb = (.ok edited, db') ∧
      moderatedDb.fetchMember "server" "stranger" = .error .notFound ∧
      moderatedDb.fetchMember "server" "member"
        = .ok { id := ⟨"server", "member"⟩, canPublish := false } ∧
      db'.fetchMember "server" "member" = .ok { id := ⟨"server", "member"⟩, canPublish := true } ∧
      ¬ ActorHas moderatedDb.database { id := "stranger" } (Stream'.const 0) moderatedServer
        .muteMembers) ∧
    ∃ edited db', exec (edit moderatedStore.toDriver noServices { id := "stranger" }
        (Stream'.const 0) "server" "member" { remove := [.joinedAt] }) moderatedMembers
          = (.ok edited, db') ∧
      moderatedMembers.fetchMember "server" "stranger" = .error .notFound ∧
      moderatedMembers.fetchMember "server" "member"
        = .ok { id := ⟨"server", "member"⟩, canPublish := false } ∧
      db'.fetchMember "server" "member"
        = .error (.databaseError "find_one" "server_members") := by
  have hstranger : moderatedDb.fetchMember "server" "stranger" = .error .notFound := by
    decide +kernel
  refine ⟨exists_exec_ok_of (fun _ db' => db'.fetchMember "server" "member"
    = .ok { id := ⟨"server", "member"⟩, canPublish := true }) (by decide +kernel)
    fun _ _ _ hmember => ⟨hstranger, by decide +kernel, hmember,
      not_actorHas_stranger rfl (by decide) hstranger .muteMembers⟩, ?_⟩
  exact exists_exec_ok_decide (by decide +kernel)

end ReferenceDb

end DawnChat
