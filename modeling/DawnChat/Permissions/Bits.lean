/-
DawnChat/Permissions/Bits.lean

The calculations for a plain member, one bit at a time.

`Query.lean` gives the calculated values in closed form, as folds over sorted
override lists.  Here each bit of such a value is the result of a sequence of
optional writes, and the last write decides.  The sequence is stated over the
roles the member holds, listed from the largest rank number to the smallest:
when ranks are distinct there is exactly one such list (`HeldByRank`), and it
mentions neither the sort nor the iteration order of a hash map.

Two bits get lemmas of their own.  `ViewChannel` survives both timeout
restrictions and is not a voice flag, so only overrides decide it
(`getLsbD_viewChannel`).  A voice flag that the member's record revokes is
cleared before the channel's overrides are applied, so those alone decide it
(`getLsbD_of_mem_revokedBits`).
-/
import DawnChat.Permissions.Query

namespace DawnChat

open RustStd LastWrite DatabasePermissionQuery PermissionValue List HashMap ChannelPermission

/-! ### Roles by rank -/

/-- `held` lists the roles of the server that are named in `memberRoles`, from
the largest rank number to the smallest. -/
structure HeldByRank (server : Server) (memberRoles : List String)
    (held : List (String × Role)) : Prop where
  mem_iff : ∀ e, e ∈ held ↔ server.roles.lookup e.1 = some e.2 ∧ e.1 ∈ memberRoles
  descending : held.Pairwise fun a b => b.2.rank < a.2.rank

variable {server : Server} {memberRoles : List String} {m : Member} {roleId : String}
  {c : TextChannel} {b : Nat}

/-- With distinct ranks the rank identifies the role. -/
theorem Server.DistinctRanks.entry_inj (h : server.DistinctRanks)
    {e e' : String × Role} (he : server.roles.lookup e.1 = some e.2)
    (he' : server.roles.lookup e'.1 = some e'.2) (hrank : e.2.rank = e'.2.rank) : e = e' := by
  have hnodup : (server.roles.toList.map fun e => e.2.rank).Nodup := by
    rw [DistinctRanks, values, map_map] at h
    exact h
  exact inj_on_of_nodup_map hnodup (mem_toList_iff.mpr he)
    (mem_toList_iff.mpr he') hrank

/-- The roles of a member as the calculators sort them; roles of equal rank are
in iteration order. -/
def heldRoles (server : Server) (memberRoles : List String) : List (String × Role) :=
  sortByKeyDesc (fun e => e.2.rank)
    (server.roles.toList.filter fun e => memberRoles.contains e.1)

theorem mem_heldRoles {e : String × Role} :
    e ∈ heldRoles server memberRoles ↔
      server.roles.lookup e.1 = some e.2 ∧ e.1 ∈ memberRoles := by
  rw [heldRoles, (sortByKeyDesc_perm _ _).mem_iff, mem_filter, mem_toList_iff]
  simp

theorem serverRoleOverrides_eq_map (server : Server) (memberRoles : List String) :
    serverRoleOverrides server memberRoles
      = (heldRoles server memberRoles).map fun e => e.2.permissions.toOverride := by
  rw [serverRoleOverrides, sortByKeyDesc, sortByKey_map, map_map]
  rfl

/-- With distinct ranks the roles of a member can be listed by rank. -/
theorem exists_heldByRank (h : server.DistinctRanks)
    (memberRoles : List String) : ∃ held, HeldByRank server memberRoles held := by
  refine ⟨heldRoles server memberRoles, fun e => mem_heldRoles, ?_⟩
  -- a tie between two listed roles would make them the same role, listed twice
  have hsorted : (heldRoles server memberRoles).Pairwise fun a b => b.2.rank ≤ a.2.rank :=
    sortByKeyDesc_pairwise _ _
  have hnodup : (heldRoles server memberRoles).Nodup :=
    (sortByKeyDesc_perm _ _).nodup_iff.mpr ((server.roles.nodup_toList).filter _)
  refine List.Pairwise.imp_of_mem ?_ (hsorted.and hnodup)
  intro a b ha hb ⟨hle, hne⟩
  refine lt_of_le_of_ne hle fun heq => hne ?_
  exact h.entry_inj (mem_heldRoles.mp ha).1 (mem_heldRoles.mp hb).1 heq.symm

namespace HeldByRank

variable {server : Server} {memberRoles : List String} {held : List (String × Role)}
  (h : HeldByRank server memberRoles held)

include h

theorem ranks_nodup : (held.map fun e => e.2.rank).Nodup :=
  pairwise_map.mpr (h.descending.imp fun hlt => hlt.ne')

theorem nodup : held.Nodup :=
  List.Nodup.of_map _ h.ranks_nodup

theorem perm_filter : held.Perm (server.roles.toList.filter fun e => memberRoles.contains e.1) := by
  refine (perm_ext_iff_of_nodup h.nodup ((server.roles.nodup_toList).filter _)).mpr ?_
  intro e
  rw [h.mem_iff, mem_filter, mem_toList_iff]
  simp

/-- The collected server overrides are those of the held roles in that order. -/
theorem serverRoleOverrides_eq :
    serverRoleOverrides server memberRoles = held.map fun e => e.2.permissions.toOverride := by
  have hkeys := (h.perm_filter.map fun e => e.2.rank).nodup_iff.mp h.ranks_nodup
  have hsort : held = heldRoles server memberRoles :=
    eq_sortByKeyDesc h.perm_filter hkeys (h.descending.imp fun hlt => hlt.le)
  rw [serverRoleOverrides_eq_map, ← hsort]

/-- The collected channel overrides are those of the held roles in that order,
roles without one skipped. -/
theorem channelRoleOverrides_eq (hranks : server.DistinctRanks)
    (rolePermissions : HashMap String OverrideField) :
    channelRoleOverrides server rolePermissions memberRoles =
      (held.filterMap fun e => rolePermissions.lookup e.1).map (·.toOverride) := by
  let ranked := held.filterMap fun e =>
    (rolePermissions.lookup e.1).map fun o => (e.2.rank, o.toOverride)
  let collected := (rolePermissions.toList.filter fun e => memberRoles.contains e.1).filterMap
    fun e => (server.roles.lookup e.1).map fun role => (role.rank, e.2.toOverride)
  have hdesc : ranked.Pairwise fun a b => b.1 < a.1 := by
    refine h.descending.filterMap _ ?_
    intro a a' hlt b hb b' hb'
    obtain ⟨o, -, rfl⟩ := Option.map_eq_some_iff.mp hb
    obtain ⟨o', -, rfl⟩ := Option.map_eq_some_iff.mp hb'
    exact hlt
  have hkeys : (ranked.map (·.1)).Nodup :=
    pairwise_map.mpr (hdesc.imp fun hlt => hlt.ne')
  -- a collected pair determines its role by the rank, hence its entry
  have hcollected : collected.Nodup := by
    refine ((rolePermissions.nodup_toList).filter _).filterMap ?_
    intro e e' b hb hb'
    obtain ⟨role, hrole, rfl⟩ := Option.map_eq_some_iff.mp hb
    obtain ⟨role', hrole', heq⟩ := Option.map_eq_some_iff.mp hb'
    obtain ⟨hrank, hov⟩ := Prod.mk.inj heq
    have hid : (e.1, role) = (e'.1, role') := hranks.entry_inj hrole hrole' hrank.symm
    have hfield : e'.2 = e.2 := congrArg Override.toField hov
    exact Prod.ext (Prod.mk.inj hid).1 hfield.symm
  have hperm : ranked.Perm collected := by
    refine (perm_ext_iff_of_nodup (List.Nodup.of_map _ hkeys) hcollected).mpr ?_
    intro p
    simp only [ranked, collected, mem_filterMap, mem_filter, Option.map_eq_some_iff,
      h.mem_iff, mem_toList_iff, contains_iff_mem]
    constructor
    · rintro ⟨⟨id, role⟩, ⟨hrole, hid⟩, o, ho, rfl⟩
      exact ⟨(id, o), ⟨ho, hid⟩, role, hrole, rfl⟩
    · rintro ⟨⟨id, o⟩, ⟨ho, hid⟩, role, hrole, rfl⟩
      exact ⟨(id, role), ⟨hrole, hid⟩, o, ho, rfl⟩
  have hsort := eq_sortByKeyDesc hperm ((hperm.map (·.1)).nodup_iff.mp hkeys)
    (hdesc.imp fun hlt => hlt.le)
  rw [channelRoleOverrides, ← hsort, map_filterMap, map_filterMap]
  simp only [Option.map_map]
  rfl

end HeldByRank

/-! ### Writes -/

/-- Clearing of the voice flags: `Speak` and `Video` when the member may not
publish, `Listen` when the member may not receive. -/
def Member.voiceWrites (m : Member) (b : Nat) : List (Option Bool) :=
  [if m.canPublish then none else revokeMention ChannelPermission.speak.value b,
    if m.canPublish then none else revokeMention ChannelPermission.video.value b,
    if m.canReceive then none else revokeMention ChannelPermission.listen.value b]

/-- Restriction to `ALLOW_IN_TIMEOUT` while the member is timed out. -/
def Member.timeoutWrite (m : Member) (now : Timestamp) (b : Nat) : Option Bool :=
  if m.inTimeout now then restrictMention allowInTimeout b else none

theorem getLsbD_restrictFlags (m : Member) (now : Timestamp) (p : PermissionValue) (b : Nat) :
    (m.restrictFlags now p).getLsbD b
      = applyWrites (p.getLsbD b) (m.voiceWrites b ++ [m.timeoutWrite now b]) := by
  simp only [Member.restrictFlags, Member.voiceWrites, Member.timeoutWrite]
  cases m.canPublish <;> cases m.canReceive <;> cases m.inTimeout now <;>
    simp [getLsbD_revoke, getLsbD_restrict]

/-- The server permissions of a plain member, bit by bit. -/
theorem getLsbD_serverPermissions (server : Server) (m : Member) (now : Timestamp) (b : Nat) :
    (serverPermissions server m now).getLsbD b
      = applyWrites (server.defaultPermissions.getLsbD b)
          ((serverRoleOverrides server m.roles).map (·.mention b)
            ++ m.voiceWrites b ++ [m.timeoutWrite now b]) := by
  rw [serverPermissions, getLsbD_restrictFlags, getLsbD_foldl_apply,
    ← applyWrites_append, append_assoc]

/-- All overrides a channel has for a member, in the order they are applied. -/
def channelOverrides (server : Server) (c : TextChannel) (memberRoles : List String) :
    List Override :=
  (c.defaultPermissions.getD {}).toOverride
    :: channelRoleOverrides server c.rolePermissions memberRoles

/-- The channel permissions of a plain member before gating, bit by bit. -/
theorem getLsbD_ungatedPermissions (server : Server) (c : TextChannel) (m : Member)
    (now now' : Timestamp) (b : Nat) :
    (ungatedPermissions server c m now now').getLsbD b
      = applyWrites ((serverPermissions server m now).getLsbD b)
          ((channelOverrides server c m.roles).map (·.mention b) ++ [m.timeoutWrite now' b]) := by
  have hfold := getLsbD_foldl_apply (serverPermissions server m now)
    (channelOverrides server c m.roles) b
  rw [applyWrites_append, ← hfold]
  simp only [ungatedPermissions, channelOverrides, foldl_cons, Member.timeoutWrite]
  cases m.inTimeout now' <;> simp [getLsbD_restrict]

/-- The steps that can change bit `b` of a member's channel permissions, from
first to last, for a member who holds the roles `held`. -/
def channelSteps (server : Server) (c : TextChannel) (m : Member)
    (held : List (String × Role)) (now now' : Timestamp) (b : Nat) : List (Option Bool) :=
  [some (server.defaultPermissions.getLsbD b)]
    ++ held.map (fun e => e.2.permissions.toOverride.mention b)
    ++ m.voiceWrites b
    ++ [m.timeoutWrite now b]
    ++ [c.defaultPermissions.bind fun o => o.toOverride.mention b]
    ++ held.map (fun e => (c.rolePermissions.lookup e.1).bind fun o => o.toOverride.mention b)
    ++ [m.timeoutWrite now' b]

/-- The bits before gating are decided by the last step that mentions them. -/
theorem lastWrite_channelSteps {held : List (String × Role)}
    (h : HeldByRank server m.roles held) (hranks : server.DistinctRanks) (c : TextChannel)
    (now now' : Timestamp) (b : Nat) :
    lastWrite (channelSteps server c m held now now' b)
      = some ((ungatedPermissions server c m now now').getLsbD b) := by
  have hdefault : (c.defaultPermissions.bind fun o => o.toOverride.mention b)
      = (c.defaultPermissions.getD {}).toOverride.mention b := by
    cases c.defaultPermissions <;> simp [OverrideField.toOverride, Override.mention]
  rw [getLsbD_ungatedPermissions, getLsbD_serverPermissions, channelOverrides,
    h.serverRoleOverrides_eq, h.channelRoleOverrides_eq hranks, channelSteps, hdefault]
  -- the first step always writes, so the sequence has a last write
  simp only [append_assoc, cons_append, lastWrite_some_cons, applyWrites_append, applyWrites_cons,
    applyWrites_nil, applyWrites_map_bind, map_cons, map_map]
  rfl

/-! ### Order of enumeration -/

/-- The same server, channel and member, whose maps are iterated in another
order and whose role list is another list of the same roles. -/
structure Reordered (server server' : Server) (c c' : TextChannel) (m m' : Member) : Prop where
  roles : server'.roles.entries.Perm server.roles.entries
  server : server' = { server with roles := server'.roles }
  rolePermissions : c'.rolePermissions.entries.Perm c.rolePermissions.entries
  channel : c' = { c with rolePermissions := c'.rolePermissions }
  memberRoles : ∀ id, id ∈ m'.roles ↔ id ∈ m.roles
  member : m' = { m with roles := m'.roles }

section Reordered

variable {server server' : Server} {c c' : TextChannel} {m m' : Member}
  (h : Reordered server server' c c' m m')

include h

theorem Reordered.distinctRanks (hranks : server.DistinctRanks) : server'.DistinctRanks := by
  have hperm : server'.roles.values.Perm server.roles.values := (h.roles.map _).map _
  exact (hperm.map _).nodup_iff.mpr hranks

theorem Reordered.heldByRank {held : List (String × Role)}
    (hheld : HeldByRank server m.roles held) : HeldByRank server' m'.roles held where
  mem_iff := by
    intro e
    rw [hheld.mem_iff, AList.perm_lookup h.roles, h.memberRoles]
  descending := hheld.descending

/-- The order of enumeration does not change what a member may do. -/
theorem Reordered.ungatedPermissions_eq (hranks : server.DistinctRanks) (now now' : Timestamp) :
    ungatedPermissions server' c' m' now now' = ungatedPermissions server c m now now' := by
  obtain ⟨held, hheld⟩ := exists_heldByRank hranks m.roles
  refine BitVec.eq_of_getLsbD_eq fun b _ => Option.some.inj ?_
  rw [← lastWrite_channelSteps (h.heldByRank hheld) (h.distinctRanks hranks),
    ← lastWrite_channelSteps hheld hranks]
  have hlookup : ∀ id, c'.rolePermissions.lookup id = c.rolePermissions.lookup id :=
    fun _ => AList.perm_lookup h.rolePermissions
  rw [channelSteps, channelSteps]
  simp only [hlookup]
  rw [h.server, h.channel, h.member]
  rfl

end Reordered

/-! ### A muted member -/

/-- A server with two roles, one of which allows `Connect`. -/
def mutedServer : Server where
  id := "server"
  owner := "owner"
  roles := HashMap.collect [("mod", { id := "mod", rank := 0 }),
    ("dj", { id := "dj", permissions := ⟨ChannelPermission.connect.value, 0⟩, rank := 1 })]
  defaultPermissions := ChannelPermission.viewChannel.value

/-- A voice channel that allows `Speak` to everyone. -/
def mutedChannel : TextChannel where
  id := "stage"
  server := "server"
  defaultPermissions := some ⟨ChannelPermission.speak.value, 0⟩
  voice := some {}

/-- A member who was muted, and names a role twice and a role that is gone. -/
def mutedMember : Member where
  id := ⟨"server", "user"⟩
  roles := ["dj", "gone", "dj"]
  canPublish := false

def mutedQuery : DatabasePermissionQuery :=
  (((DatabasePermissionQuery.new (ReferenceDb.database {}) { id := "user" }
    (Stream'.const 0)).withChannel (.textChannel mutedChannel)).withServer
      mutedServer).withMember mutedMember

/-! ### The channel calculation -/

section Calculation

variable {q : DatabasePermissionQuery} {c : TextChannel} {server : Server} {m : Member}

/-- **The last step that mentions a bit decides it.**  On a text channel a plain
member gets the value whose bits are the last writes of `channelSteps`, or
nothing when `ViewChannel` is not among them.  Enumerating the same roles and
overrides in another order gives the same value. -/
theorem calculateChannelPermissions_bits (hranks : server.DistinctRanks)
    (hchannel : q.channel = some (.textChannel c)) (hserver : q.channelServer c = some server)
    (hp : q.perspective.privileged = false) (ho : server.owner ≠ q.perspective.id)
    (hm : q.ourMember server = some m) :
    (∃ held v, HeldByRank server m.roles held ∧
      (∀ b, lastWrite (channelSteps server c m held q.clock.head q.clock.tail.head b)
        = some (v.getLsbD b)) ∧
      (calculateChannelPermissions.run q).map (·.1)
        = some (if PermissionValue.hasChannelPermission v .viewChannel then v else 0)) ∧
    ∀ (q' : DatabasePermissionQuery) c' server' m', Reordered server server' c c' m m' →
      q'.channel = some (.textChannel c') → q'.channelServer c' = some server' →
      q'.ourMember server' = some m' → q'.perspective = q.perspective → q'.clock = q.clock →
      (calculateChannelPermissions.run q').map (·.1)
        = (calculateChannelPermissions.run q).map (·.1) := by
  have hrun := run_calculateChannelPermissions_member hchannel hserver
    hp ho hm
  constructor
  · obtain ⟨held, hheld⟩ := exists_heldByRank hranks m.roles
    refine ⟨held, ungatedPermissions server c m q.clock.head q.clock.tail.head, hheld, ?_, ?_⟩
    · intro b
      exact lastWrite_channelSteps hheld hranks c _ _ b
    · rw [hrun]
      rfl
  · intro q' c' server' m' hre hchannel' hserver' hm' hpersp hclock
    have ho' : server'.owner ≠ q'.perspective.id := by
      rw [hre.server, hpersp]
      exact ho
    have hrun' := run_calculateChannelPermissions_member hchannel' hserver'
      (by rw [hpersp]; exact hp) ho' hm'
    rw [hrun, hrun', hclock, Option.map_some, Option.map_some, channelPermissions,
      hre.ungatedPermissions_eq hranks]
    rfl

theorem calculateChannelPermissions_bits_muted :
    mutedServer.DistinctRanks ∧
    ∃ held v, HeldByRank mutedServer mutedMember.roles held ∧
      (∀ b, lastWrite (channelSteps mutedServer mutedChannel mutedMember held 0 0 b)
        = some (v.getLsbD b)) ∧
      (calculateChannelPermissions.run mutedQuery).map (·.1)
        = some (if PermissionValue.hasChannelPermission v .viewChannel then v else 0) :=
  ⟨by decide, (calculateChannelPermissions_bits (q := mutedQuery) (by decide) rfl rfl rfl
    (by decide) rfl).1⟩

end Calculation

/-! ### Visibility -/

/-- Index of `ViewChannel`. -/
def viewBit : Nat := 20

theorem hasChannelPermission_viewChannel (p : PermissionValue) :
    p.hasChannelPermission .viewChannel = p.getLsbD viewBit :=
  has_twoPow (by decide)

/-- What the overrides of the server and the channel say about `ViewChannel`
together. -/
def viewGranted (server : Server) (c : TextChannel) (memberRoles : List String) : Bool :=
  applyWrites (server.defaultPermissions.getLsbD viewBit)
    ((serverRoleOverrides server memberRoles ++ channelOverrides server c memberRoles).map
      (·.mention viewBit))

/-- The view depends on the roles and the default permissions. -/
theorem viewGranted_congr {server' : Server} (hroles : server'.roles = server.roles)
    (hdefault : server'.defaultPermissions = server.defaultPermissions) (c : TextChannel)
    (memberRoles : List String) :
    viewGranted server' c memberRoles = viewGranted server c memberRoles := by
  simp only [viewGranted, serverRoleOverrides, channelOverrides, channelRoleOverrides, hroles,
    hdefault]

/-- Beside its own overrides, a channel only asks a server for the ranks of the roles held. -/
theorem viewGranted_of_roles {roles : HashMap String Role} (c : TextChannel)
    (hserver : serverRoleOverrides { server with roles := roles } memberRoles
      = serverRoleOverrides server memberRoles) (hranks : ∀ id ∈ memberRoles,
      (roles.lookup id).map (·.rank) = (server.roles.lookup id).map (·.rank)) :
    viewGranted { server with roles := roles } c memberRoles
      = viewGranted server c memberRoles := by
  have hchannel : channelOverrides { server with roles := roles } c memberRoles
      = channelOverrides server c memberRoles := by
    rw [channelOverrides, channelOverrides, channelRoleOverrides, channelRoleOverrides]
    refine congrArg (List.cons _) (congrArg (fun l : List (Int × Override) =>
      (sortByKeyDesc (·.1) l).map (·.2)) (filterMap_congr fun e he => ?_))
    have hheld : e.1 ∈ memberRoles := by simpa using (mem_filter.mp he).2
    have hrank := congrArg (Option.map (·, e.2.toOverride)) (hranks e.1 hheld)
    rwa [Option.map_map, Option.map_map] at hrank
  rw [viewGranted, viewGranted, hserver, hchannel]

/-- Changing a role does not matter for the view of those who do not hold it,
nor when rank and permissions stay. -/
theorem viewGranted_modifyRole (server : Server) (c : TextChannel) {f : Role → Role}
    (h : roleId ∈ memberRoles → ∀ role, (f role).rank = role.rank ∧
      (f role).permissions = role.permissions) :
    viewGranted { server with roles := server.roles.modify roleId f } c memberRoles
      = viewGranted server c memberRoles := by
  refine viewGranted_of_roles c ?_ fun id hheld => ?_
  · rw [serverRoleOverrides, serverRoleOverrides, HashMap.modify, HashMap.toList_mapValues,
      filter_map, map_map]
    refine congrArg (fun l : List (Int × Override) => (sortByKeyDesc (·.1) l).map (·.2))
      (map_congr_left fun e he => ?_)
    have hheld : e.1 ∈ memberRoles := by simpa using (mem_filter.mp he).2
    by_cases hrole : e.1 = roleId
    · obtain ⟨hrank, hperms⟩ := h (hrole ▸ hheld) e.2
      simp [hrole, hrank, hperms]
    · simp [hrole]
  · rw [lookup_modify_eq]
    split
    next hrole =>
      rw [Option.map_map]
      exact congrArg (Option.map · _) (funext fun role => (h (hrole ▸ hheld) role).1)
    next => rfl

theorem viewGranted_eraseRole (server : Server) (c : TextChannel) (h : roleId ∉ memberRoles) :
    viewGranted { server with roles := server.roles.erase roleId } c memberRoles
      = viewGranted server c memberRoles := by
  refine viewGranted_of_roles c ?_ fun id hheld => ?_
  · rw [serverRoleOverrides, serverRoleOverrides,
      filter_toList_erase server.roles fun role => by simpa using h]
  · rw [AList.lookup_erase_ne fun hrole : id = roleId => h (hrole ▸ hheld)]

theorem Member.timeoutWrite_viewBit (m : Member) (now : Timestamp) :
    m.timeoutWrite now viewBit = none := by
  have h : restrictMention allowInTimeout viewBit = none := by decide
  rw [timeoutWrite, h, ite_self]

theorem Member.voiceWrites_viewBit (m : Member) : m.voiceWrites viewBit = [none, none, none] := by
  have hspeak : revokeMention speak.value viewBit = none := by decide
  have hvideo : revokeMention video.value viewBit = none := by decide
  have hlisten : revokeMention listen.value viewBit = none := by decide
  rw [voiceWrites, hspeak, hvideo, hlisten, ite_self, ite_self]

/-- Timeouts and voice flags do not touch `ViewChannel`: it is a matter of
overrides alone, whatever the clock says. -/
theorem getLsbD_viewChannel (server : Server) (c : TextChannel) (m : Member)
    (now now' : Timestamp) :
    (ungatedPermissions server c m now now').getLsbD viewBit
      = viewGranted server c m.roles := by
  rw [getLsbD_ungatedPermissions, getLsbD_serverPermissions, m.timeoutWrite_viewBit,
    m.timeoutWrite_viewBit, m.voiceWrites_viewBit, viewGranted, map_append]
  simp only [applyWrites_append, applyWrites_cons, applyWrites_nil, Option.getD_none]

/-- A plain member sees a channel exactly when the overrides grant it. -/
theorem hasViewChannel_channelPermissions (server : Server) (c : TextChannel) (m : Member)
    (now now' : Timestamp) :
    (channelPermissions server c m now now').hasChannelPermission .viewChannel
      = viewGranted server c m.roles := by
  rw [channelPermissions, hasChannelPermission_viewChannel, hasChannelPermission_viewChannel,
    getLsbD_viewChannel]
  cases h : viewGranted server c m.roles with
  | false => simp
  | true =>
    rw [if_pos rfl, getLsbD_viewChannel]
    exact h

theorem hasViewChannel_grantAllSafe :
    PermissionValue.hasChannelPermission grantAllSafe.value .viewChannel
      = true := by decide

/-- Whether the user of a query sees a text channel.  The clock is not read. -/
def DatabasePermissionQuery.seesChannel (q : DatabasePermissionQuery) (c : TextChannel) : Bool :=
  q.perspective.privileged ||
    match q.channelServer c with
    | some server =>
      decide (server.owner = q.perspective.id) ||
        (q.ourMember server).any fun m => viewGranted server c m.roles
    | none => false

/-- On a text channel the calculation always ends, and it grants `ViewChannel`
to those who see the channel. -/
theorem run_calculateChannelPermissions_viewChannel {q : DatabasePermissionQuery}
    (hchannel : q.channel = some (.textChannel c)) :
    ∃ v q', calculateChannelPermissions.run q = some (v, q') ∧
      PermissionValue.hasChannelPermission v .viewChannel = q.seesChannel c := by
  rw [seesChannel]
  rcases hp : q.perspective.privileged with - | -
  · rcases hserver : q.channelServer c with - | server
    · refine ⟨_, _, run_calculateChannelPermissions_noServer hchannel
        hserver hp, ?_⟩
      simp [hasChannelPermission_viewChannel]
    · by_cases ho : server.owner = q.perspective.id
      · refine ⟨_, _, run_calculateChannelPermissions_owner hchannel
          hserver hp ho, ?_⟩
        simp [hasViewChannel_grantAllSafe, ho]
      · rcases hm : q.ourMember server with - | m
        · refine ⟨_, _, run_calculateChannelPermissions_stranger
            hchannel hserver hp ho hm, ?_⟩
          simp [ho, hm, hasChannelPermission_viewChannel]
        · refine ⟨_, _, run_calculateChannelPermissions_member hchannel
            hserver hp ho hm, ?_⟩
          simp [hasViewChannel_channelPermissions, ho, hm]
  · refine ⟨_, _, run_calculateChannelPermissions_privileged hp, ?_⟩
    simp [hasViewChannel_grantAllSafe]

/-! ### Voice flags -/

/-- Index of `Speak`. -/
def speakBit : Nat := 31

/-- Index of `Video`. -/
def videoBit : Nat := 32

/-- Index of `Listen`. -/
def listenBit : Nat := 36

/-- The flags that the member's record takes away in voice. -/
def Member.revokedBits (m : Member) : List Nat :=
  (if m.canPublish then [] else [speakBit, videoBit]) ++ (if m.canReceive then [] else [listenBit])

theorem Member.mem_revokedBits :
    b ∈ m.revokedBits ↔
      (m.canPublish = false ∧ (b = speakBit ∨ b = videoBit)) ∨
        (m.canReceive = false ∧ b = listenBit) := by
  rw [revokedBits]
  cases m.canPublish <;> cases m.canReceive <;> simp [or_assoc]

/-- Server-wide, a revoked flag is gone. -/
theorem getLsbD_serverPermissions_of_mem_revokedBits (server : Server)
    (hb : b ∈ m.revokedBits) (now : Timestamp) :
    (serverPermissions server m now).getLsbD b = false := by
  have hvoice : lastWrite (m.voiceWrites b) = some false := by
    rcases Member.mem_revokedBits.mp hb with ⟨hpub, rfl | rfl⟩ | ⟨hrec, rfl⟩
    · rw [Member.voiceWrites, hpub]
      cases m.canReceive <;> decide
    · rw [Member.voiceWrites, hpub]
      cases m.canReceive <;> decide
    · rw [Member.voiceWrites, hrec]
      cases m.canPublish <;> decide
  have htimeout : m.timeoutWrite now b = none ∨ m.timeoutWrite now b = some false := by
    rw [Member.timeoutWrite, restrictMention]
    cases m.inTimeout now <;> cases allowInTimeout.getLsbD b <;> simp
  rw [getLsbD_serverPermissions, applyWrites_eq, lastWrite_append, lastWrite_append, hvoice]
  rcases htimeout with h | h <;> simp [h]

/-- In a channel, the channel's overrides alone decide about a revoked flag. -/
theorem getLsbD_of_mem_revokedBits (server : Server) (c : TextChannel)
    (hb : b ∈ m.revokedBits) (now now' : Timestamp) :
    (channelPermissions server c m now now').getLsbD b = true ↔
      m.inTimeout now' = false ∧ viewGranted server c m.roles = true ∧
        lastWrite ((channelOverrides server c m.roles).map (·.mention b)) = some true := by
  have hrestrict : restrictMention allowInTimeout b = some false := by
    rcases Member.mem_revokedBits.mp hb with ⟨-, rfl | rfl⟩ | ⟨-, rfl⟩ <;> decide
  rw [channelPermissions, hasChannelPermission_viewChannel, getLsbD_viewChannel]
  rcases hview : viewGranted server c m.roles with - | -
  · simp
  · rw [if_pos rfl, getLsbD_ungatedPermissions,
      getLsbD_serverPermissions_of_mem_revokedBits server hb, applyWrites_eq, lastWrite_append]
    rcases ht : m.inTimeout now' with - | -
    · rcases hl : lastWrite ((channelOverrides server c m.roles).map (·.mention b)) with - | v <;>
        simp [Member.timeoutWrite, ht, hl]
    · simp [Member.timeoutWrite, ht, hrestrict]

/-- The channel leaves the member's voice flags revoked: the member is timed
out, cannot see the channel, or the channel's last override that mentions a
revoked flag does not allow it. -/
def VoiceFlagsHold (server : Server) (c : TextChannel) (m : Member) (now' : Timestamp) : Prop :=
  m.inTimeout now' = true ∨ viewGranted server c m.roles = false ∨
    ∀ b ∈ m.revokedBits,
      lastWrite ((channelOverrides server c m.roles).map (·.mention b)) ≠ some true

theorem voiceFlagsHold_iff (now now' : Timestamp) :
    VoiceFlagsHold server c m now' ↔
      ∀ b ∈ m.revokedBits, (channelPermissions server c m now now').getLsbD b = false := by
  constructor
  · intro h b hb
    rw [Bool.eq_false_iff]
    intro hset
    obtain ⟨ht, hview, hlast⟩ := (getLsbD_of_mem_revokedBits server c hb now now').mp hset
    rcases h with h | h | h
    · rw [ht] at h
      exact Bool.false_ne_true h
    · rw [hview] at h
      exact Bool.false_ne_true h.symm
    · exact h b hb hlast
  · intro h
    by_contra hno
    simp only [VoiceFlagsHold, not_or, not_forall, not_not, Bool.not_eq_true,
      Bool.not_eq_false] at hno
    obtain ⟨ht, hview, b, hb, hlast⟩ := hno
    have hset := (getLsbD_of_mem_revokedBits server c hb now now').mpr ⟨ht, hview, hlast⟩
    rw [h b hb] at hset
    exact Bool.false_ne_true hset

/-- The flags a muted or deafened member should not have are the revoked bits. -/
theorem revokedBits_clear_iff (m : Member) (v : PermissionValue) :
    ((m.canPublish = false →
        v.hasChannelPermission .speak = false ∧ v.hasChannelPermission .video = false) ∧
      (m.canReceive = false → v.hasChannelPermission .listen = false)) ↔
      ∀ b ∈ m.revokedBits, v.getLsbD b = false := by
  have hspeak : v.hasChannelPermission .speak = v.getLsbD speakBit :=
    has_twoPow (by decide)
  have hvideo : v.hasChannelPermission .video = v.getLsbD videoBit :=
    has_twoPow (by decide)
  have hlisten : v.hasChannelPermission .listen = v.getLsbD listenBit :=
    has_twoPow (by decide)
  rw [hspeak, hvideo, hlisten]
  constructor
  · rintro ⟨hpublish, hreceive⟩ b hb
    rcases Member.mem_revokedBits.mp hb with ⟨hpub, rfl | rfl⟩ | ⟨hrec, rfl⟩
    · exact (hpublish hpub).1
    · exact (hpublish hpub).2
    · exact hreceive hrec
  · intro h
    refine ⟨fun hpub => ⟨h _ ?_, h _ ?_⟩, fun hrec => h _ ?_⟩
    · exact Member.mem_revokedBits.mpr (.inl ⟨hpub, .inl rfl⟩)
    · exact Member.mem_revokedBits.mpr (.inl ⟨hpub, .inr rfl⟩)
    · exact Member.mem_revokedBits.mpr (.inr ⟨hrec, rfl⟩)

/-- **Voice mute and deafen hold in a channel exactly when the channel does not
grant the flags back.**  The calculation clears the flags before it applies
the channel's overrides, and unlike the timeout it does not do so again
afterwards. -/
theorem calculateChannelPermissions_voice_iff {q : DatabasePermissionQuery} {c : TextChannel}
    {server : Server} {m : Member} (hchannel : q.channel = some (.textChannel c))
    (hserver : q.channelServer c = some server) (hp : q.perspective.privileged = false)
    (ho : server.owner ≠ q.perspective.id) (hm : q.ourMember server = some m) :
    (∃ v q', calculateChannelPermissions.run q = some (v, q') ∧
      (m.canPublish = false → PermissionValue.hasChannelPermission v .speak = false ∧
        PermissionValue.hasChannelPermission v .video = false) ∧
      (m.canReceive = false → PermissionValue.hasChannelPermission v .listen = false)) ↔
    VoiceFlagsHold server c m q.clock.tail.head := by
  rw [run_calculateChannelPermissions_member hchannel hserver hp ho hm,
    voiceFlagsHold_iff q.clock.head q.clock.tail.head, ← revokedBits_clear_iff]
  constructor
  · rintro ⟨v, q', hrun, hflags⟩
    cases hrun
    exact hflags
  · intro hflags
    exact ⟨_, _, rfl, hflags⟩

/-- The channel's default override gives `Speak` back to a muted member. -/
theorem mutedQuery_speaks :
    ¬ ∃ v q', calculateChannelPermissions.run mutedQuery = some (v, q') ∧
      (mutedMember.canPublish = false →
        PermissionValue.hasChannelPermission v .speak = false ∧
        PermissionValue.hasChannelPermission v .video = false) ∧
      (mutedMember.canReceive = false →
        PermissionValue.hasChannelPermission v .listen = false) := by
  rintro ⟨v, q', hrun, hpublish, -⟩
  have hv : (calculateChannelPermissions.run mutedQuery).map
      (fun r => r.1.hasChannelPermission .speak) = some true := by decide
  rw [hrun] at hv
  exact Bool.false_ne_true ((hpublish rfl).1.symm.trans (Option.some.inj hv))

theorem calculateChannelPermissions_voice_iff_muted :
    (∃ v q', calculateChannelPermissions.run mutedQuery = some (v, q') ∧
      (mutedMember.canPublish = false →
        PermissionValue.hasChannelPermission v .speak = false ∧
        PermissionValue.hasChannelPermission v .video = false) ∧
      (mutedMember.canReceive = false →
        PermissionValue.hasChannelPermission v .listen = false)) ↔
    VoiceFlagsHold mutedServer mutedChannel mutedMember 0 :=
  calculateChannelPermissions_voice_iff (q := mutedQuery) rfl rfl rfl (by decide) rfl

end DawnChat
