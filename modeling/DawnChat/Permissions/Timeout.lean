/-
DawnChat/Permissions/Timeout.lean

What timed out members are left with.

A timeout restricts a member to `ALLOW_IN_TIMEOUT`.  The single calculator restricts
last, after every override.  The bulk calculator restricts the server permissions and
then applies the overrides of the channel, so that these can give back what the timeout
has taken.  It stays within `ALLOW_IN_TIMEOUT` exactly if for no other bit the last
override of the channel that mentions it allows it (`timeout_contained_iff`).
-/
import DawnChat.Permissions.Bulk

namespace DawnChat

open RustStd LastWrite PermissionValue

/-- A value is contained in another one if it has no bit outside. -/
theorem PermissionValue.has_iff_outside {p v : U64} :
    PermissionValue.has p v = true ↔ ∀ b, p.getLsbD b = false → v.getLsbD b = false := by
  rw [has_iff]
  refine forall_congr' fun b => ?_
  cases p.getLsbD b <;> cases v.getLsbD b <;> simp

section SingleMember

variable (server : Server) (c : TextChannel) {m : Member}

/-- The overrides of the channel allow nothing that a timeout takes away. -/
def GivesNothingBack (memberRoles : List String) : Prop :=
  ∀ b, allowInTimeout.getLsbD b = false →
    lastWrite ((channelOverrides server c memberRoles).map (·.mention b)) ≠ some true

/-- The single calculator restricts last. -/
theorem channelPermissions_contained (now : Timestamp) {now' : Timestamp}
    (htimeout : m.inTimeout now' = true) :
    PermissionValue.has allowInTimeout (channelPermissions server c m now now') = true := by
  rw [has_iff_outside]
  intro b hb
  have hungated : (ungatedPermissions server c m now now').getLsbD b = false := by
    rw [getLsbD_ungatedPermissions, applyWrites_append, Member.timeoutWrite, if_pos htimeout,
      restrictMention, hb]
    rfl
  rw [channelPermissions]
  split
  · exact hungated
  · exact BitVec.getLsbD_zero

namespace Bulk

variable {user : User} {members : HashMap String Member} (hp : user.privileged = false)
  (ho : server.owner ≠ user.id)

include hp ho

/-- The bulk calculator restricts the server permissions. -/
theorem getLsbD_calculateServerPermissions_timeout {now : Timestamp}
    (htimeout : m.inTimeout now = true) {b : Nat} (hb : allowInTimeout.getLsbD b = false) :
    (calculateServerPermissions server user m now).getLsbD b = false := by
  have hplain : (user.privileged || decide (server.owner = user.id)) = false := by
    rw [hp, decide_eq_false ho]
    rfl
  simp only [calculateServerPermissions, hplain, htimeout, Bool.false_eq_true, if_false, if_true,
    getLsbD_restrict, restrictMention, hb]
  rfl

theorem getLsbD_calculateMemberPermissions (hm : members.lookup user.id = some m)
    (now : Timestamp) (b : Nat) :
    (calculateMemberPermissions server c members user now).getLsbD b
      = applyWrites ((calculateServerPermissions server user m now).getLsbD b)
          ((channelOverrides server c m.roles).map (·.mention b)) := by
  rw [calculateMemberPermissions, hm]
  dsimp only
  rw [hp, if_neg Bool.false_ne_true, if_neg (Ne.symm ho), apply_defaults,
    ← getLsbD_foldl_apply, channelOverrides, List.foldl_cons]

/-- **The bulk calculator restricts before the channel speaks.** -/
theorem calculateMemberPermissions_contained_iff (hm : members.lookup user.id = some m)
    {now : Timestamp} (htimeout : m.inTimeout now = true) :
    PermissionValue.has allowInTimeout (calculateMemberPermissions server c members user now)
        = true ↔ GivesNothingBack server c m.roles := by
  have hlast : ∀ write : Option Bool, write.getD false = false ↔ write ≠ some true := by
    rintro (- | - | -) <;> simp
  rw [has_iff_outside, GivesNothingBack]
  refine forall_congr' fun b => imp_congr_right fun hb => ?_
  rw [getLsbD_calculateMemberPermissions server c hp ho hm,
    getLsbD_calculateServerPermissions_timeout server hp ho htimeout hb, applyWrites_eq, hlast]

end Bulk

end SingleMember

/-- **Timed out members.**  For a member who is neither privileged nor the owner and is timed out
whenever the clock is read, the single calculator stays within `ALLOW_IN_TIMEOUT`, and the bulk
calculator does exactly if the overrides of the channel give nothing back. -/
theorem timeout_contained_iff {server : Server} {c : TextChannel} {user : User} {m : Member}
    (hp : user.privileged = false) (ho : server.owner ≠ user.id)
    {single : DatabasePermissionQuery} (hchannel : single.channel = some (.textChannel c))
    (hserver : single.channelServer c = some server) (hsingle : single.perspective = user)
    (hmember : single.ourMember server = some m)
    (htimeout : ∀ n, m.inTimeout (single.clock.get n) = true)
    {db : Database} {bulk : BulkDatabasePermissionQuery} {users : List User} {members : List Member}
    (hbulk : BulkRecords db server (.textChannel c) bulk users members)
    (huser : recordOf (·.id) users user.id = some user)
    (hm : recordOf (·.id.user) members user.id = some m)
    {clock : Stream' Timestamp} (htimeout' : ∀ n, m.inTimeout (clock.get n) = true) :
    (∃ v q, calculateChannelPermissions.run single = some (v, q) ∧
      PermissionValue.has allowInTimeout v = true) ∧
    ∃ values q v, bulk.calculateMembersPermissions clock = some (values, q) ∧
      values.lookup user.id = some v ∧
      (PermissionValue.has allowInTimeout v = true ↔ GivesNothingBack server c m.roles) := by
  subst hsingle
  constructor
  · have hrun := DatabasePermissionQuery.run_calculateChannelPermissions_member hchannel hserver
      hp ho hmember
    exact ⟨_, _, hrun, channelPermissions_contained server c _ (htimeout 1)⟩
  · obtain ⟨q, hrun⟩ := hbulk.run_calculateMembersPermissions clock
    obtain ⟨n, hn⟩ := Bulk.exists_lookup_foldl_step server c
      (HashMap.collect (members.map fun m => (m.id.user, m))) users (∅, clock)
      single.perspective.id
    rw [huser] at hn
    refine ⟨_, q, _, hrun, hn, ?_⟩
    refine Bulk.calculateMemberPermissions_contained_iff server c hp ho ?_ (htimeout' n)
    rw [lookup_collect_eq_recordOf, hm]

/-! ### A timed out member in a channel that allows messages -/

/-- A channel that allows everyone to send messages. -/
def lobbyChannel : TextChannel where
  id := "lobby"
  server := "server"
  defaultPermissions := some ⟨ChannelPermission.sendMessage.value, 0⟩

def timedOutMember : Member where
  id := ⟨"server", "user"⟩
  timeout := some 10

def timedOutUser : User := { id := "user" }

def timedOutQuery : DatabasePermissionQuery :=
  (((DatabasePermissionQuery.new mutedDb.database timedOutUser (Stream'.const 0)).withChannel
    (.textChannel lobbyChannel)).withServer mutedServer).withMember timedOutMember

def timedOutBulk : BulkDatabasePermissionQuery :=
  ((BulkDatabasePermissionQuery.new mutedDb.database mutedServer).withChannel
    (.textChannel lobbyChannel)).withMembers [timedOutMember]

theorem timeout_contained_iff_open :
    ∃ values q v,
      timedOutBulk.calculateMembersPermissions (Stream'.const 0) = some (values, q) ∧
      values.lookup "user" = some v ∧
      (PermissionValue.has allowInTimeout v = true ↔
        GivesNothingBack mutedServer lobbyChannel []) := by
  have hprivileged : timedOutUser.privileged = false := rfl
  have howner : mutedServer.owner ≠ timedOutUser.id := by decide
  have hchannel : timedOutQuery.channel = some (.textChannel lobbyChannel) := rfl
  have hmember : timedOutQuery.ourMember mutedServer = some timedOutMember := rfl
  have hrecords : BulkRecords mutedDb.database mutedServer (.textChannel lobbyChannel) timedOutBulk
      [timedOutUser] [timedOutMember] := .members rfl
  exact (timeout_contained_iff hprivileged howner hchannel rfl rfl hmember (fun _ => rfl) hrecords
    rfl rfl fun _ => rfl).2

/-- The member is timed out, and the bulk calculator lets them send messages. -/
theorem timed_out_sends :
    ∃ values q v,
      timedOutBulk.calculateMembersPermissions (Stream'.const 0) = some (values, q) ∧
      values.lookup "user" = some v ∧ timedOutMember.inTimeout 0 = true ∧
      PermissionValue.hasChannelPermission v .sendMessage = true ∧
      PermissionValue.has allowInTimeout v = false :=
  ⟨_, _, _, rfl, rfl, by decide +kernel⟩

end DawnChat
