/-
DawnChat/Routes/Moderation.lean

Moderation and the ranks of a server
(`delta/src/routes/servers/member_edit.rs`, `member_remove.rs`, `ban_create.rs`).

The ranking of a member is the smallest rank among their roles, so a member
without roles stands lowest, and that includes the owner.  Removing and banning
name the owner as an exception.  Editing does not, and for someone who is not a
member it compares with a ranking above everyone.  `moderation_hierarchy_iff`
says that these are the only gaps, whether members are in memory or in MongoDB.
-/
import DawnChat.Routes.MemberEdits

namespace DawnChat

open RustStd Fallible Handler Option Except

variable {σ : Type}

/-- A moderation action on a member. -/
inductive Moderation where
  | edit (data : DataMemberEdit)
  | kick
  | ban (data : DataBanCreate)

namespace Moderation

/-- Request the action. -/
def perform (D : Driver σ) (services : Services) (user : User) (clock : Stream' Timestamp)
    (serverId memberId : String) : Moderation → Request σ Unit
  | .edit data => do
      let _ ← DawnChat.edit D services user clock serverId memberId data
      pure ()
  | .kick => DawnChat.kick D services user clock serverId memberId
  | .ban data => do
      let _ ← DawnChat.ban D services user clock serverId memberId data
      pure ()

/-- Whether an action has done something to the member.  An edit may have, even when
it ends with an error. -/
def Affects (server : Server) (memberId : String) (m : Member)
    (outcome : Except (Fault ErrorType) Unit) (after : Database) : Moderation → Prop
  | .edit _ => after.fetchMember server.id memberId ≠ .ok m
  | .kick | .ban _ => outcome = .ok ()

end Moderation

/-- Someone acts on a member who is not the owner, as a member above them. -/
def ActsBelow (db : Database) (user : User) (server : Server) (memberId : String) (m : Member) :
    Prop :=
  memberId ≠ server.owner ∧ ∃ a, db.fetchMember server.id user.id = .ok a ∧
    a.getRanking server < m.getRanking server

section Removal

variable {D : Driver σ} {services : Services} {user : User} {clock : Stream' Timestamp}
  {serverId memberId : String} {server : Server} {query : DatabasePermissionQuery} {s s' : σ}
  {m : Member}

/-- Requesting an edit. -/
theorem perform_edit {data : DataMemberEdit} {outcome : Except (Fault ErrorType) Unit}
    (h : exec ((Moderation.edit data).perform D services user clock serverId memberId) s
      = (outcome, s')) :
    ∃ edited, exec (edit D services user clock serverId memberId data) s = (edited, s') ∧
      ∀ e, edited = .error e → outcome = .error e := by
  rw [Moderation.perform, exec_bind] at h
  rcases hedit : exec (edit D services user clock serverId memberId data) s with ⟨e | m, s₁⟩
  · rw [hedit] at h
    obtain ⟨rfl, rfl⟩ := Prod.mk.inj h
    exact ⟨_, rfl, fun e' he => by rw [error.inj he]⟩
  · rw [hedit] at h
    obtain ⟨rfl, rfl⟩ := Prod.mk.inj h
    exact ⟨_, rfl, fun e' he => nomatch he⟩

variable {permission : ChannelPermission} {u : Unit}

theorem removalChecks_ok (h : exec (removalChecks D user clock serverId memberId permission) s
      = (.ok (server, query), s')) :
    s' = s ∧ (D.database s).fetchServer serverId = .ok server ∧ memberId ≠ server.owner ∧
      ∃ p, actorPermissions (D.database s) user clock server = some (p, query) ∧
        p.hasChannelPermission permission = true := by
  simp only [removalChecks, requestServerPermissions, exec_bind_ok, exec_read_ok, exec_throwIf_ok,
    exec_get_ok, exec_ofOption_ok, exec_ofExcept_ok, exec_pure_ok, Prod.mk.injEq] at h
  obtain ⟨_, _, ⟨hserver, rfl⟩, _, _, ⟨-, rfl⟩, _, _, ⟨howner, rfl⟩, r, _,
    ⟨_, _, ⟨rfl, rfl⟩, hr, rfl⟩, _, _, ⟨hperm, rfl⟩, ⟨rfl, rfl⟩, rfl⟩ := h
  exact ⟨rfl, hserver, howner, r.1, hr,
    PermissionValue.throwIfLackingChannelPermission_ok.mp hperm⟩

theorem removeBelowUs_ok (h : exec (removeBelowUs D server query m) s = (.ok u, s')) :
    ∃ rank, DatabasePermissionQuery.getMemberRank.run query = some rank ∧
      rank.1.getD i64Min < m.getRanking server := by
  simp only [removeBelowUs, exec_bind_ok, exec_ofOption_ok, exec_throwIf_ok] at h
  obtain ⟨rank, _, ⟨hrank, rfl⟩, _, _, ⟨hlt, rfl⟩, -⟩ := h
  exact ⟨rank, hrank, lt_of_not_ge hlt⟩

variable (hp : user.privileged = false) (howner : server.owner ≠ user.id)

include hp howner

/-- **Removing and banning spare the owner and respect the ranks.** -/
theorem removal_hierarchy
    (hchecks : exec (removalChecks D user clock serverId memberId permission) s
      = (.ok (server, query), s))
    (hremove : exec (removeBelowUs D server query m) s = (.ok u, s')) :
    ActsBelow (D.database s) user server memberId m := by
  obtain ⟨-, -, hne, p, hactor, hhas⟩ := removalChecks_ok hchecks
  obtain ⟨a, ha, hrank⟩ := actor_of_permission hp howner hactor hhas
  obtain ⟨rank, hrank', hlt⟩ := removeBelowUs_ok hremove
  obtain rfl := some.inj (hrank.symm.trans hrank')
  exact ⟨hne, a, ha, hlt⟩

variable (hserver : (D.database s).fetchServer serverId = .ok server)
  (hm : (D.database s).fetchMember server.id memberId = .ok m)

include hserver hm

theorem kick_hierarchy (h : exec (kick D services user clock serverId memberId) s = (.ok u, s')) :
    ActsBelow (D.database s) user server memberId m := by
  simp only [kick, exec_bind_ok, exec_read_ok] at h
  obtain ⟨checked, _, hchecks, member, _, ⟨hmember, rfl⟩, _, _, hremove, -⟩ := h
  obtain ⟨rfl, hserver', -⟩ := removalChecks_ok hchecks
  obtain rfl := ok.inj (hserver.symm.trans hserver')
  obtain rfl := ok.inj (hm.symm.trans hmember)
  exact removal_hierarchy hp howner hchecks hremove

theorem ban_hierarchy {data : DataBanCreate} {b : ServerBan}
    (h : exec (ban D services user clock serverId memberId data) s = (.ok b, s')) :
    ActsBelow (D.database s) user server memberId m := by
  simp only [ban, exec_bind_ok, exec_ofExcept_ok, exec_get_ok] at h
  obtain ⟨_, _, ⟨-, rfl⟩, checked, _, hchecks, _, _, ⟨rfl, rfl⟩, _, _, hremove, -⟩ := h
  obtain ⟨rfl, hserver', -⟩ := removalChecks_ok hchecks
  obtain rfl := ok.inj (hserver.symm.trans hserver')
  rw [hm, removeIfMember, exec_bind_ok] at hremove
  obtain ⟨_, _, hremove, -⟩ := hremove
  exact removal_hierarchy hp howner hchecks hremove

end Removal

/-- A request that asks for another value of some field. -/
def DataMemberEdit.Touches (services : Services) (user : User) (m : Member)
    (data : DataMemberEdit) : Prop :=
  AsksFor (data.nickname.map some) (.nickname ∈ data.remove) none m.nickname ∨
  AsksFor ((data.avatar.bind fun id =>
    (services.useUserAvatar id user.id user.id).toOption).map some)
    (.avatar ∈ data.remove) none m.avatar ∨
  AsksFor data.roles (.roles ∈ data.remove) [] m.roles ∨
  AsksFor (data.timeout.map some) (.timeout ∈ data.remove) none m.timeout ∨
  AsksFor data.canPublish (.canPublish ∈ data.remove) true m.canPublish ∨
  AsksFor data.canReceive (.canReceive ∈ data.remove) true m.canReceive

theorem DataMemberEdit.applyTo_ne_iff {services : Services} {user : User} {data : DataMemberEdit}
    {avatar : Option File} {m : Member}
    (havatar : resolveAvatar services user data.avatar = .ok avatar) :
    data.applyTo avatar m ≠ m ↔ data.Touches services user m := by
  have hnew : (data.avatar.bind fun id =>
      (services.useUserAvatar id user.id user.id).toOption) = avatar := by
    rcases hid : data.avatar with - | id
    · rw [hid] at havatar
      exact ok.inj havatar
    · rw [hid, resolveAvatar] at havatar
      rw [bind_some]
      rcases hfile : services.useUserAvatar id user.id user.id with e | file
      · rw [hfile] at havatar
        cases havatar
      · rw [hfile] at havatar
        exact ok.inj havatar
  rw [Touches, hnew, applyTo_eq, ← or_ne_iff, ← or_ne_iff, ← or_ne_iff, ← getD_ne_iff,
    ← getD_ne_iff, ← getD_ne_iff]
  cases m
  simp only [ne_eq, Member.mk.injEq, true_and]
  tauto

namespace MemberStore

/-- An action that affects another member spares the owner, is made by a member and goes down
the ranks, and only roles below the one who acts are handed out. -/
structure Hierarchy (D : MemberStore σ) (user : User) (server : Server) (memberId : String)
    (m : Member) (s s' : σ) (outcome : Except (Fault ErrorType) Unit) (action : Moderation) :
    Prop where
  affected : memberId ≠ user.id →
    action.Affects server memberId m outcome (D.database s') →
    ActsBelow (D.database s) user server memberId m
  addedRoles : ∀ data m', action = .edit data →
    (D.database s').fetchMember server.id memberId = .ok m' →
    ∀ roleId ∈ m'.roles, roleId ∉ m.roles →
      ∃ a role, (D.database s).fetchMember server.id user.id = .ok a ∧
        server.roles.lookup roleId = some role ∧ a.getRanking server < role.rank

/-- An action that edits nobody else, or asks for nothing of the owner, and is made by a member
or asks for nothing that a stranger can change. -/
def Spares (D : MemberStore σ) (services : Services) (user : User) (server : Server)
    (memberId : String) (m : Member) (s : σ) : Moderation → Prop
  | .edit data => memberId ≠ user.id →
    (memberId = server.owner → ¬ data.Touches services user m ∧ ¬ D.Forgets data) ∧
    ((∃ a, (D.database s).fetchMember server.id user.id = .ok a) ∨
      ¬ data.LiftsMute m ∧ ¬ data.LiftsDeafen m ∧ ¬ D.Forgets data)
  | .kick | .ban _ => True

variable {D : MemberStore σ} {services : Services} {user : User} {clock : Stream' Timestamp}
  {serverId memberId : String} {data : DataMemberEdit} {server : Server} {m m' : Member}
  {s s' : σ} {outcome : Except (Fault ErrorType) Unit}

section Edits

variable {c : EditContext} {avatar : Option File} {q : DatabasePermissionQuery}
  (h : D.EditStored services user clock server memberId data m s s' c avatar q)

include h

/-- Which edits leave the record as it is. -/
theorem EditStored.unchanged_iff : (D.database s').fetchMember server.id memberId = .ok m ↔
    ¬ data.Touches services user m ∧ ¬ D.Forgets data := by
  by_cases hforgets : D.Forgets data
  · obtain ⟨e, he⟩ := h.forgotten hforgets
    rw [he]
    refine iff_of_false ?_ fun hkept => hkept.2 hforgets
    intro heq
    cases heq
  · rw [h.stored hforgets, ← DataMemberEdit.applyTo_ne_iff h.resolved, not_not]
    exact ⟨fun heq => ⟨ok.inj heq, hforgets⟩, fun hsame => congrArg ok hsame.1⟩

variable (hp : user.privileged = false) (howner : server.owner ≠ user.id)

include hp howner

/-- **An edit only adds roles below the one who makes it.** -/
theorem EditStored.addedRoles (hm' : (D.database s').fetchMember server.id memberId = .ok m')
    {roleId : String} (hnew : roleId ∈ m'.roles) (hold : roleId ∉ m.roles) :
    ∃ a role, (D.database s).fetchMember server.id user.id = .ok a ∧
      server.roles.lookup roleId = some role ∧ a.getRanking server < role.rank := by
  obtain rfl := h.member
  have hkept : ¬ D.Forgets data := by
    intro hforgets
    obtain ⟨e, he⟩ := h.forgotten hforgets
    cases he.symm.trans hm'
  obtain rfl := ok.inj ((h.stored hkept).symm.trans hm')
  rw [DataMemberEdit.applyTo_eq] at hnew
  rcases hroles : data.roles with - | roles
  · -- without new roles, roles can only be taken away
    simp only [hroles, getD_none] at hnew
    split at hnew
    · exact absurd hnew List.not_mem_nil
    · exact absurd hnew hold
  · simp only [hroles, getD_some] at hnew
    obtain ⟨role, hlookup, hlt⟩ := h.guards.addedRoles roles hroles roleId hnew hold
    have hhas := h.guards.roles (.inl (by rw [hroles]; rfl))
    obtain ⟨a, ha, hrank'⟩ := actor_of_permission hp howner h.actor hhas
    obtain ⟨rank, q', hrank, hranking⟩ := h.ranking
    obtain ⟨rfl, -⟩ := Prod.mk.inj (some.inj (hrank.symm.trans hrank'))
    rw [hranking] at hlt
    exact ⟨a, role, ha, hlookup, hlt⟩

/-- What someone who is not a member can change: they can lift a mute and a deafen, and take
the join date away. -/
theorem EditStored.stranger_iff {e : ErrorType}
    (ha : (D.database s).fetchMember server.id user.id = .error e) :
    (D.database s').fetchMember server.id memberId = .ok m ↔
      ¬ data.LiftsMute m ∧ ¬ data.LiftsDeafen m ∧ ¬ D.Forgets data := by
  obtain ⟨hzero, -⟩ := Prod.mk.inj
    (some.inj ((actorPermissions_stranger hp howner ha).symm.trans h.actor))
  have hnone : ∀ p, ¬ c.permissions.hasChannelPermission p = true := by
    intro p
    rw [← hzero, not_hasChannelPermission_zero]
    exact Bool.false_ne_true
  rw [h.unchanged_iff, ← DataMemberEdit.applyTo_ne_iff h.resolved, not_not]
  obtain rfl := h.member
  constructor
  · rintro ⟨hsame, hkept⟩
    rw [DataMemberEdit.applyTo_eq] at hsame
    refine ⟨?_, ?_, hkept⟩
    · rintro ⟨hremove, hnew, hold⟩
      have hflag := congrArg Member.canPublish hsame
      simp [hremove, hnew, hold] at hflag
    · rintro ⟨hremove, hnew, hold⟩
      have hflag := congrArg Member.canReceive hsame
      simp [hremove, hnew, hold] at hflag
  · rintro ⟨hmute, hdeafen, hkept⟩
    refine ⟨(h.guards.fieldsGated (fun p => Iff.rfl) h.resolved
      (fun hlift => absurd hlift hmute) (fun hlift => absurd hlift hdeafen) ?_).eq_of_none
      (by simp) hnone, hkept⟩
    -- a stranger may not touch the avatar either
    intro hother id file hid _
    have havatar' := h.guards.avatar (.inl (by rw [hid]; rfl))
    rw [if_neg (Ne.symm hother)] at havatar'
    exact absurd havatar'.2 (hnone _)

variable (hid : m.id = ⟨server.id, memberId⟩)

include hid

/-- An edit of another member by a member respects the ranks. -/
theorem EditStored.below (hother : memberId ≠ user.id) {a : Member}
    (ha : (D.database s).fetchMember server.id user.id = .ok a) :
    a.getRanking server < m.getRanking server := by
  obtain rfl := h.member
  have hlt := h.guards.ranking (by rwa [hid])
  obtain ⟨-, rfl⟩ := Prod.mk.inj
    (some.inj ((actorPermissions_member hp howner ha).symm.trans h.actor))
  obtain ⟨rank, q', hrank, hranking⟩ := h.ranking
  obtain ⟨rfl, -⟩ := Prod.mk.inj (some.inj hrank)
  rwa [hranking] at hlt

/-- An edit that is carried out keeps to the hierarchy exactly when it spares the owner and what
a stranger can change. -/
theorem EditStored.hierarchy_iff :
    D.Hierarchy user server memberId m s s' outcome (.edit data) ↔
      D.Spares services user server memberId m s (.edit data) := by
  rw [Spares, ← h.unchanged_iff]
  constructor
  · intro hkept hother
    have haffects := hkept.affected hother
    constructor
    · intro hself
      by_contra hchanged
      exact (haffects hchanged).1 hself
    · rcases ha : (D.database s).fetchMember server.id user.id with e | a
      · refine .inr ((h.stranger_iff hp howner ha).mp ?_)
        by_contra hchanged
        obtain ⟨-, a, ha', -⟩ := haffects hchanged
        rw [ha] at ha'
        cases ha'
      · exact .inl ⟨a, rfl⟩
  · refine fun hspares => ⟨fun hother hchanged => ?_, fun _ _ _ hm' _ => h.addedRoles hp howner hm'⟩
    obtain ⟨hspare, hstranger⟩ := hspares hother
    refine ⟨fun hself => hchanged (hspare hself), ?_⟩
    rcases ha : (D.database s).fetchMember server.id user.id with e | a
    · rcases hstranger with ⟨a, ha'⟩ | hlifts
      · rw [ha] at ha'
        cases ha'
      · exact absurd ((h.stranger_iff hp howner ha).mpr hlifts) hchanged
    · exact ⟨a, rfl, h.below hp howner hid hother ha⟩

end Edits

/-- **The hierarchy of moderation** is kept by removals and bans, and by the edits that spare
the owner and what strangers can change; a successful edit keeps it only then. -/
theorem moderation_hierarchy_iff (hp : user.privileged = false)
    (hserver : (D.database s).fetchServer serverId = .ok server) (howner : server.owner ≠ user.id)
    (hm : (D.database s).fetchMember server.id memberId = .ok m)
    (hid : m.id = ⟨server.id, memberId⟩) (action : Moderation)
    (h : exec (action.perform D.toDriver services user clock serverId memberId) s
      = (outcome, s')) :
    (D.Spares services user server memberId m s action →
        D.Hierarchy user server memberId m s s' outcome action) ∧
      (outcome = .ok () → D.Hierarchy user server memberId m s s' outcome action →
        D.Spares services user server memberId m s action) := by
  cases action with
  | kick =>
    refine ⟨fun _ => ⟨fun _ hok => ?_, fun _ _ hedit => nomatch hedit⟩, fun _ _ => trivial⟩
    obtain rfl := hok
    exact kick_hierarchy hp howner hserver hm h
  | ban data =>
    refine ⟨fun _ => ⟨fun _ hok => ?_, fun _ _ hedit => nomatch hedit⟩, fun _ _ => trivial⟩
    obtain rfl := hok
    simp only [Moderation.perform, exec_bind_ok, exec_pure_ok] at h
    obtain ⟨b, _, hban, -⟩ := h
    exact ban_hierarchy hp howner hserver hm hban
  | edit data =>
    obtain ⟨edited, hexec, hfails⟩ := perform_edit h
    rcases edit_cases hserver hm hid hexec with ⟨rfl, e, rfl⟩ | ⟨c, avatar, q, hstored⟩
    · -- nothing has changed
      refine ⟨fun _ => ⟨fun _ hchanged => absurd hm hchanged, ?_⟩, fun hok => ?_⟩
      · intro _ m' _ hm' roleId hnew hold
        obtain rfl := ok.inj (hm.symm.trans hm')
        exact absurd hnew hold
      · cases (hfails e rfl).symm.trans hok
    · exact ⟨(hstored.hierarchy_iff hp howner hid).mpr,
        fun _ => (hstored.hierarchy_iff hp howner hid).mp⟩

end MemberStore

namespace ReferenceDb

/-- A moderator kicks a member without roles, or renames them in MongoDB. -/
theorem moderation_hierarchy_iff_moderator :
    (∃ u db', exec (Moderation.kick.perform driver noServices { id := "mod" }
        (Stream'.const 0) "server" "member") moderatedDb = (.ok u, db') ∧
      memberStore.Hierarchy { id := "mod" } moderatedServer "member"
        { id := ⟨"server", "member"⟩, canPublish := false } moderatedDb db' (.ok u) .kick) ∧
    ∃ u db', exec ((Moderation.edit { nickname := some "renamed" }).perform
        moderatedStore.toDriver noServices { id := "mod" } (Stream'.const 0) "server" "member")
        moderatedMembers = (.ok u, db') ∧
      moderatedStore.Hierarchy { id := "mod" } moderatedServer "member"
        { id := ⟨"server", "member"⟩, canPublish := false } moderatedMembers db' (.ok u)
        (.edit { nickname := some "renamed" }) := by
  refine ⟨exists_exec_ok_of (fun _ _ => True) (by decide +kernel) fun _ _ hexec _ => ?_,
    exists_exec_ok_of (fun _ _ => True) (by decide +kernel) fun _ _ hexec _ => ?_⟩
  · exact (MemberStore.moderation_hierarchy_iff (D := memberStore) rfl fetchServer_moderatedDb
      (by decide) (by decide +kernel) rfl .kick hexec).1 trivial
  · have hmod : (moderatedStore.database moderatedMembers).fetchMember "server" "mod"
        = .ok { id := ⟨"server", "mod"⟩, roles := ["moderator"] } := by decide +kernel
    exact (MemberStore.moderation_hierarchy_iff (D := moderatedStore) rfl rfl (by decide)
      (by decide +kernel) rfl _ hexec).1
      fun _ => ⟨fun howner => absurd howner (by decide), .inl ⟨_, hmod⟩⟩

/-- **A moderator renames the owner**, who has no roles and therefore the lowest
ranking. -/
theorem edit_renames_owner :
    ∃ edited db', exec (edit driver noServices { id := "mod" } (Stream'.const 0) "server"
        "owner" { nickname := some "renamed" }) moderatedDb = (.ok edited, db') ∧
      moderatedServer.owner = "owner" ∧
      moderatedDb.fetchMember "server" "owner" = .ok { id := ⟨"server", "owner"⟩ } ∧
      db'.fetchMember "server" "owner"
        = .ok { id := ⟨"server", "owner"⟩, nickname := some "renamed" } := by
  exact exists_exec_ok_decide (by decide +kernel)

end ReferenceDb

end DawnChat
