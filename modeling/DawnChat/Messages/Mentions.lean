/-
DawnChat/Messages/Mentions.lean

Whom a message mentions.

A message should mention only users who may see it and roles of its server: in a text
channel, members with `ViewChannel` and roles that exist; in a direct message or a group,
recipients and no roles; in the saved messages, nobody.

For users this always holds, since the second filter of `create_from_api` covers every
kind of channel, and its bulk permission query answers as the single one does
(`mayView_of_canSee`).  For roles it does not: the second filter is only run if a user is
mentioned, in the saved messages it leaves the roles alone, and without mentions being
allowed the roles of a text channel are never looked up.  `mentions_confined_iff` says
exactly for which requests the roles are right.
-/
import DawnChat.Messages.Create

namespace DawnChat

open RustStd Fallible Handler DatabasePermissionQuery List Option

variable {σ : Type}

/-! ### Databases that answer consistently -/

/-- Queries for many records answer with the records that queries for one record give, and
a server is found under its id. -/
structure Database.AnswersAgree (db : Database) : Prop where
  users : ∀ {ids users}, db.fetchUsers ids = .ok users →
    ∀ user ∈ users, db.fetchUser user.id = .ok user
  members : ∀ {serverId ids members}, db.fetchMembers serverId ids = .ok members →
    ∀ m ∈ members, db.fetchMember serverId m.id.user = .ok m
  server : ∀ {id server}, db.fetchServer id = .ok server → server.id = id

/-- They also answer with all the records that there are for the ids. -/
structure Database.AnswersFully (db : Database) : Prop extends db.AnswersAgree where
  allUsers : ∀ {ids users}, db.fetchUsers ids = .ok users →
    ∀ {id user}, id ∈ ids → db.fetchUser id = .ok user → user ∈ users ∧ user.id = id
  allMembers : ∀ {serverId ids members}, db.fetchMembers serverId ids = .ok members →
    ∀ {id m}, id ∈ ids → db.fetchMember serverId id = .ok m → m ∈ members ∧ m.id.user = id

/-- Users, servers and members are stored under their ids. -/
structure ReferenceDb.RecordsUnderIds (db : ReferenceDb) : Prop where
  users : db.users.KeyedBy User.id
  servers : db.servers.KeyedBy Server.id
  members : db.serverMembers.KeyedBy Member.id

theorem ReferenceDb.RecordsUnderIds.answersAgree {db : ReferenceDb} (h : db.RecordsUnderIds) :
    db.database.AnswersAgree where
  users := by
    intro ids users hfetch user huser
    obtain ⟨id, -, hid⟩ := (mem_of_mapM hfetch).mp huser
    have hkey : user.id = id := h.users (get_ok.mp hid)
    rw [hkey]
    exact hid
  members := by
    intro serverId ids members hfetch m hm
    obtain rfl := Except.ok.inj hfetch
    obtain ⟨id, -, hid⟩ := mem_filterMap.mp hm
    have hkey : m.id = ⟨serverId, id⟩ := h.members hid
    rw [hkey]
    exact get_ok.mpr hid
  server := fun hfetch => h.servers (get_ok.mp hfetch)

theorem ReferenceDb.RecordsUnderIds.answersFully {db : ReferenceDb} (h : db.RecordsUnderIds) :
    db.database.AnswersFully where
  toAnswersAgree := h.answersAgree
  allUsers := fun hfetch _ _ hid hget =>
    ⟨(mem_of_mapM hfetch).mpr ⟨_, hid, hget⟩, h.users (get_ok.mp hget)⟩
  allMembers := by
    intro serverId ids members hfetch id m hid hget
    obtain rfl := Except.ok.inj hfetch
    have hlookup := get_ok.mp hget
    exact ⟨mem_filterMap.mpr ⟨id, hid, hlookup⟩, congrArg (·.user) (h.members hlookup)⟩

/-! ### Who may be mentioned -/

/-- A member of the server with `ViewChannel` in the channel. -/
def MayView (db : Database) (c : TextChannel) (userId : String) : Prop :=
  ∃ user member, db.fetchUser userId = .ok user ∧ db.fetchMember c.server userId = .ok member ∧
    ∀ clock, ∃ v q, calculateChannelPermissions.run
      ((DatabasePermissionQuery.new db user clock).withChannel (.textChannel c)) = some (v, q) ∧
        PermissionValue.hasChannelPermission v .viewChannel = true

/-- The server of the channel has the role. -/
def RoleExists (db : Database) (c : TextChannel) (role : String) : Prop :=
  ∃ server, db.fetchServer c.server = .ok server ∧ role ∈ server.roles

/-- The users that a message in the channel may mention. -/
def UserMentionable (db : Database) : Channel → String → Prop
  | .textChannel c, user => MayView db c user
  | .directMessage c, user => user ∈ c.recipients
  | .group c, user => user ∈ c.recipients
  | .savedMessages _, _ => False

/-- The roles that a message in the channel may mention. -/
def RoleMentionable (db : Database) : Channel → String → Prop
  | .textChannel c, role => RoleExists db c role
  | _, _ => False

/-- The message mentions only users and roles that it may mention. -/
structure MentionsConfined (db : Database) (channel : Channel) (message : Message) : Prop where
  users : ∀ user ∈ message.mentions.getD [], UserMentionable db channel user
  roles : ∀ role ∈ message.roleMentions.getD [], RoleMentionable db channel role

/-! ### Users -/

section Users

variable {db : Database} {c : TextChannel} {server : Server} {members : List Member}
  {clock : Stream' Timestamp} {canSee : HashMap String Bool × BulkDatabasePermissionQuery}


/-- For a user with a member record, the bulk calculation decides as the single one. -/
theorem seesChannel_eq_sees (hdb : db.AnswersAgree) (hserver : db.fetchServer c.server = .ok server)
    {user : User} {m : Member} (hmember : db.fetchMember c.server user.id = .ok m)
    (hrecord : recordOf (·.id.user) members user.id = some m) :
    ((new db user clock).withChannel (.textChannel c)).seesChannel c
      = Bulk.sees server c (HashMap.collect (members.map fun m => (m.id.user, m))) user := by
  have hchannelServer : ((new db user clock).withChannel
      (.textChannel c)).channelServer c = some server := by
    simp [channelServer, new, withChannel, hserver, Except.toOption]
  have hourMember : ((new db user clock).withChannel
      (.textChannel c)).ourMember server = some m := by
    simp [ourMember, new, withChannel, hdb.server hserver, hmember, Except.toOption]
  rw [Bulk.sees, lookup_collect_eq_recordOf, hrecord, seesChannel, hchannelServer]
  dsimp only
  rw [hourMember, Bool.or_assoc]
  rfl

variable (h : (((BulkDatabasePermissionQuery.new db server).withChannel
    (.textChannel c)).withMembers members).membersCanSeeChannel clock = some canSee)

include h

/-- A bulk query that answers has fetched the users and decides for each of them. -/
theorem canSee_lookup : ∃ users, db.fetchUsers (members.map (·.id.user)) = .ok users ∧
    ∀ id, canSee.1.lookup id = (recordOf (·.id) users id).map
      (Bulk.sees server c (HashMap.collect (members.map fun m => (m.id.user, m)))) := by
  rcases hfetch : db.fetchUsers (members.map (·.id.user)) with e | users
  · simp [BulkDatabasePermissionQuery.membersCanSeeChannel,
      BulkDatabasePermissionQuery.calculateMembersPermissions,
      BulkDatabasePermissionQuery.loadUsers, BulkDatabasePermissionQuery.withMembers,
      BulkDatabasePermissionQuery.withChannel, BulkDatabasePermissionQuery.new, hfetch,
      Except.toOption] at h
  · obtain ⟨result, q, hresult, hlookup⟩ :=
      membersCanSeeChannel_lookup (.members hfetch : BulkRecords db server (.textChannel c) _ _ _)
        clock
    obtain rfl := some.inj (h.symm.trans hresult)
    exact ⟨users, hfetch, hlookup⟩

variable {ids : List String} (hmembers : db.fetchMembers c.server ids = .ok members)
  (hserver : db.fetchServer c.server = .ok server) {userId : String}

include hmembers hserver

/-- Whoever the bulk query lets see the channel may view it. -/
theorem mayView_of_canSee (hdb : db.AnswersAgree) (hsee : canSee.1.lookup userId = some true) :
    MayView db c userId := by
  obtain ⟨users, husers, hlookup⟩ := canSee_lookup h
  obtain ⟨user, huser, hsees⟩ := map_eq_some_iff.mp ((hlookup userId).symm.trans hsee)
  obtain ⟨huserMem, rfl⟩ := key_of_recordOf huser
  rcases hrecord : recordOf (·.id.user) members user.id with - | m
  · rw [Bulk.sees, lookup_collect_eq_recordOf, hrecord] at hsees
    cases hsees
  obtain ⟨hm, hkey⟩ := key_of_recordOf hrecord
  have hmember : db.fetchMember c.server user.id = .ok m := hkey ▸ hdb.members hmembers m hm
  refine ⟨user, m, hdb.users husers user huserMem, hmember, fun clock' => ?_⟩
  obtain ⟨v, q', hrun, hv⟩ := run_calculateChannelPermissions_viewChannel
    (q := (new db user clock').withChannel (.textChannel c)) rfl
  exact ⟨v, q', hrun, (hv.trans (seesChannel_eq_sees hdb hserver hmember hrecord)).trans hsees⟩

/-- Conversely, the bulk query finds everyone asked for who may view the channel. -/
theorem canSee_of_mayView (hdb : db.AnswersFully) (hid : userId ∈ ids)
    (hview : MayView db c userId) : canSee.1.lookup userId = some true := by
  obtain ⟨user, m, huser, hmember, hperms⟩ := hview
  obtain ⟨users, husers, hlookup⟩ := canSee_lookup h
  obtain ⟨hmem, hkey⟩ := hdb.allMembers hmembers hid hmember
  obtain ⟨huserMem, rfl⟩ := hdb.allUsers husers (mem_map.mpr ⟨m, hmem, hkey⟩) huser
  -- all records that the lists have for the id are the ones that are stored
  have huserRecord : recordOf (·.id) users user.id = some user :=
    recordOf_of_unique huserMem rfl fun other hother hid =>
      Except.ok.inj ((hdb.users husers other hother).symm.trans (hid ▸ huser))
  have hrecord : recordOf (·.id.user) members user.id = some m :=
    recordOf_of_unique hmem hkey fun other hother hid =>
      Except.ok.inj ((hdb.members hmembers other hother).symm.trans (hid ▸ hmember))
  obtain ⟨v, q', hrun, hv⟩ := hperms clock
  obtain ⟨v', q'', hrun', hsees⟩ := run_calculateChannelPermissions_viewChannel
    (q := (new db user clock).withChannel (.textChannel c)) rfl
  obtain ⟨rfl, rfl⟩ := Prod.mk.inj (some.inj (hrun.symm.trans hrun'))
  rw [hlookup, huserRecord, map_some,
    ← seesChannel_eq_sees hdb.toAnswersAgree hserver hmember hrecord, ← hsees, hv]

end Users

section Confined

variable {D : MessageDriver σ} {call : MessageSend} {channel : Channel} {s s' : σ}

section Filter

variable {users roles : List String} {r : List String × List String} {user : String}
  (h : (call.confineMentions D channel users roles).exec s = (.ok r, s'))

include h

/-- The second filter keeps only users who may be mentioned, whatever was mentioned before. -/
theorem MessageSend.userMentionable_of_confineMentions (hdb : (D.database s).AnswersAgree)
    (huser : user ∈ r.1) : user ∈ users ∧ UserMentionable (D.database s) channel user := by
  rcases channel with c | c | c | c
  case textChannel =>
    obtain ⟨-, -, ⟨-, hnil⟩ | ⟨members, hmembers,
      ⟨-, hnil⟩ | ⟨server, canSee, hserver, hquery, hsee⟩⟩⟩ := confineMentions_textChannel h
    · rw [hnil] at huser
      cases huser
    · rw [hnil] at huser
      cases huser
    · obtain ⟨⟨hmem, -⟩, hvisible⟩ := (hsee user).mp huser
      exact ⟨hmem, mayView_of_canSee hquery hmembers hserver hdb hvisible⟩
  all_goals
    unfold confineMentions at h
    split at h
    next hnil =>
      obtain ⟨rfl, -⟩ := exec_pure_ok.mp h
      rw [hnil] at huser
      cases huser
    next =>
      obtain ⟨rfl, -⟩ := exec_pure_ok.mp h
      simp_all [UserMentionable]

/-- It keeps everyone who may be mentioned. -/
theorem MessageSend.mem_confineMentions (hdb : (D.database s).AnswersFully) (huser : user ∈ users)
    (hmentionable : UserMentionable (D.database s) channel user) : user ∈ r.1 := by
  rcases channel with c | c | c | c
  case textChannel =>
    obtain ⟨_, m, -, hmember, -⟩ := id hmentionable
    obtain ⟨-, -, ⟨hnil, -⟩ | ⟨members, hmembers, hrest⟩⟩ := confineMentions_textChannel h
    · rw [hnil] at huser
      cases huser
    · obtain ⟨hm, hkey⟩ := hdb.allMembers hmembers huser hmember
      have hlisted : user ∈ members.map (·.id.user) := mem_map.mpr ⟨m, hm, hkey⟩
      obtain ⟨hnone, -⟩ | ⟨server, canSee, hserver, hquery, hsee⟩ := hrest
      · exact absurd hlisted (hnone user huser)
      · exact (hsee user).mpr ⟨⟨huser, hlisted⟩,
          canSee_of_mayView hquery hmembers hserver hdb huser hmentionable⟩
  case savedMessages => exact hmentionable.elim
  all_goals
    rw [confineMentions, if_neg (ne_nil_of_mem huser)] at h
    obtain ⟨rfl, -⟩ := exec_pure_ok.mp h
    exact mem_filter.mpr ⟨huser, decide_eq_true hmentionable⟩

end Filter

/-! ### Roles -/

/-- When the roles of a request end up where they may. -/
def MessageSend.RolesConfined (D : MessageDriver σ) (call : MessageSend) (channel : Channel)
    (s : σ) : Prop :=
  call.massMentionsEnabled = true →
    match channel with
    | .textChannel c => call.allowMentions = false →
        ∀ role ∈ call.parsed.roleMentions, RoleExists (D.database s) c role
    | .savedMessages _ => call.parsed.roleMentions = []
    | _ => call.parsed.roleMentions = [] ∨ call.mentionedUsers D s ≠ []

theorem MessageSend.serverHasRole_iff {db : Database} {c : TextChannel} {role : String} :
    serverHasRole db c role = true ↔ RoleExists db c role := by
  rw [serverHasRole, Option.any_eq_true]
  simp only [toOption_eq_some, decide_eq_true_eq]
  rfl

/-- No role may be mentioned outside of a server. -/
theorem forall_not_mentionable {roles : List String} :
    (∀ role ∈ roles, False) ↔ roles = [] := eq_nil_iff_forall_not_mem.symm

theorem MessageSend.roleMentionable_iff {flags : RequestedFlags} {resolved : ResolvedMentions}
    (h : call.ResolvesTo D channel s flags resolved) :
    (∀ role ∈ resolved.mass.roles, RoleMentionable (D.database s) channel role) ↔
      call.RolesConfined D channel s := by
  have hroles := (confineMentions_ok h.confined).2
  dsimp only at hroles
  rw [hroles]
  unfold RolesConfined
  by_cases henabled : call.massMentionsEnabled = true
  · simp only [henabled, forall_const]
    rcases channel with c | c | c | c
    case textChannel =>
      rw [if_neg (by simp [Channel.isDmOrGroup])]
      simp only [keptRoles, henabled, if_true, RoleMentionable]
      rcases call.allowMentions with - | -
      · simp
      · -- every role was looked up
        simp [mem_filter, serverHasRole_iff]
    case savedMessages =>
      rw [if_neg (by simp [Channel.isDmOrGroup])]
      simp only [keptRoles, henabled, if_true, RoleMentionable]
      exact forall_not_mentionable
    all_goals
      by_cases husers : call.mentionedUsers D s = []
      · simp only [husers, keptRoles, henabled, if_true, RoleMentionable, ne_eq,
          not_true_eq_false, false_and, if_false, or_false]
        exact forall_not_mentionable
      · simp [husers, Channel.isDmOrGroup]
  · -- with mass mentions switched off no role is left
    have hnil : call.keptRoles D channel s = [] := if_neg henabled
    rw [hnil, ite_self]
    simp [henabled]

theorem MessageSend.getD_nonempty {α : Type} (l : List α) : (nonempty l).getD [] = l := by
  cases l <;> rfl

/-- **Mention confinement.**  Of a message that was created, the users are always such that
may be mentioned, and the roles are exactly if nothing lets them past the filters. -/
theorem mentions_confined_iff (hdb : (D.database s).AnswersAgree) {sent : SentMessage}
    (h : (Message.createFromApi D call channel).exec s = (.ok sent, s')) :
    (∃ s₁, (D.insertMessage sent.message).exec s₁ = (.ok (), s')) ∧
      (∀ user ∈ sent.message.mentions.getD [], UserMentionable (D.database s) channel user) ∧
      (MentionsConfined (D.database s) channel sent.message ↔ call.RolesConfined D channel s) := by
  obtain ⟨checked, resolved, files, embeds, -, hresolved, hmessage, -, hinsert⟩ :=
    Message.createFromApi_ok h
  have hmentions : sent.message.mentions.getD [] = resolved.users := by
    rw [hmessage]
    exact MessageSend.getD_nonempty resolved.users
  have hroles : sent.message.roleMentions.getD [] = resolved.mass.roles := by
    rw [hmessage]
    exact MessageSend.getD_nonempty resolved.mass.roles
  have husers : ∀ user ∈ resolved.users, UserMentionable (D.database s) channel user :=
    fun user huser =>
      (MessageSend.userMentionable_of_confineMentions hresolved.confined hdb huser).2
  rw [← MessageSend.roleMentionable_iff hresolved]
  refine ⟨hinsert, hmentions ▸ husers, fun hconfined => ?_, fun hconfined => ⟨?_, ?_⟩⟩
  · rw [← hroles]
    exact hconfined.roles
  · rw [hmentions]
    exact husers
  · rw [hroles]
    exact hconfined

end Confined

/-- A channel that everybody on the server can see. -/
def openChannel : TextChannel where
  id := "channel"
  server := "server"

/-- A server whose members can see its channels. -/
def mentionServer : Server where
  id := "server"
  owner := "owner"
  defaultPermissions := defaultPermissionServer

/-- The user who is mentioned, and the membership. -/
def mentionUser : User where
  id := "01FD58YK5W7QRV5H3D64KTQYX3"

def mentionMember : Member where
  id := ⟨"server", "01FD58YK5W7QRV5H3D64KTQYX3"⟩

/-- A server with one member. -/
def mentionDb : ReferenceDb where
  users := (∅ : HashMap String User).insert mentionUser.id mentionUser
  servers := (∅ : HashMap String Server).insert mentionServer.id mentionServer
  serverMembers := (∅ : HashMap MemberCompositeKey Member).insert mentionMember.id mentionMember

theorem recordsUnderIds_mentionDb : mentionDb.RecordsUnderIds where
  users := HashMap.keyedBy_empty.insert mentionUser
  servers := HashMap.keyedBy_empty.insert mentionServer
  members := HashMap.keyedBy_empty.insert mentionMember

/-- A member and a stranger are mentioned; the member remains. -/
theorem mentions_confined_iff_member : ∃ sent db',
    (Message.createFromApi ReferenceDb.messageDriver (.ofText "owner"
      "<@01FD58YK5W7QRV5H3D64KTQYX3> <@01FD58YK5W7QRV5H3D64KTQYX4>")
      (.textChannel openChannel)).exec mentionDb = (.ok sent, db') ∧
    sent.message.mentions = some ["01FD58YK5W7QRV5H3D64KTQYX3"] ∧
    MentionsConfined mentionDb.database (.textChannel openChannel) sent.message := by
  refine exists_exec_ok_of
    (fun sent _ => sent.message.mentions = some ["01FD58YK5W7QRV5H3D64KTQYX3"])
    (by decide +kernel) fun sent db' hrun hmentions => ⟨hmentions, ?_⟩
  refine (mentions_confined_iff recordsUnderIds_mentionDb.answersAgree hrun).2.2.mpr ?_
  -- mentions are allowed, so roles are looked up
  intro _ hallow
  cases hallow

/-- The owner of a group mentions a role. -/
def mentionGroup : Channel := .group { id := "group", owner := "owner", recipients := ["owner"] }

/-- **A role is mentioned in a group.**  The text mentions no user, so the filter that
clears the roles is not run. -/
theorem mentions_confined_fails : ∃ sent db',
    (Message.createFromApi ReferenceDb.messageDriver
      (.ofText "owner" "<%01FD58YK5W7QRV5H3D64KTQYX3>") mentionGroup).exec mentionDb
        = (.ok sent, db') ∧
    sent.message.roleMentions = some ["01FD58YK5W7QRV5H3D64KTQYX3"] ∧
    ¬ MentionsConfined mentionDb.database mentionGroup sent.message := by
  refine exists_exec_ok_of
    (fun sent _ => sent.message.roleMentions = some ["01FD58YK5W7QRV5H3D64KTQYX3"])
    (by decide +kernel) fun sent db' _ hroles => ⟨hroles, fun hconfined => ?_⟩
  exact hconfined.roles "01FD58YK5W7QRV5H3D64KTQYX3" (by rw [hroles]; simp)

end DawnChat
