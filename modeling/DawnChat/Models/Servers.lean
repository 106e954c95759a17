/-
DawnChat/Models/Servers.lean

Servers, roles and members (`core/database/src/models/servers`,
`core/database/src/models/server_members`).

`Partial…` records list new values for some of the fields; applying one keeps
every field it does not mention, and for an optional field a missing new value
keeps the old one (`opt_some_priority`).  `Fields…` enumerations name the
fields that can be removed.

Roles are ranked: a smaller rank stands higher in the hierarchy.  The roles of
a server are a hash map, so their order only exists after sorting by rank.

Documents of the API (`v0`) have the same fields as the stored ones and are
not modelled twice.
-/
import DawnChat.Lib.Sort
import DawnChat.Models.Files
import DawnChat.Models.Users
import DawnChat.Permissions.Value

namespace DawnChat

open RustStd

/-! ### Roles -/

/-- Role. -/
structure Role where
  id : String
  name : String := ""
  permissions : OverrideField := {}
  colour : Option String := none
  hoist : Bool := false
  /-- Ranking of this role, an `i64`. -/
  rank : Int := 0
  deriving DecidableEq, Repr, Inhabited

structure PartialRole where
  id : Option String := none
  name : Option String := none
  permissions : Option OverrideField := none
  colour : Option String := none
  hoist : Option Bool := none
  rank : Option Int := none
  deriving DecidableEq, Repr, Inhabited

/-- Optional fields on role object. -/
inductive FieldsRole where
  | colour
  deriving DecidableEq, Repr

namespace Role

/-- Into optional struct. -/
def intoOptional (r : Role) : PartialRole where
  id := some r.id
  name := some r.name
  permissions := some r.permissions
  colour := r.colour
  hoist := some r.hoist
  rank := some r.rank

/-- Remove field from Role. -/
def removeField (r : Role) : FieldsRole → Role
  | .colour => { r with colour := none }

def applyOptions (r : Role) (p : PartialRole) : Role where
  id := p.id.getD r.id
  name := p.name.getD r.name
  permissions := p.permissions.getD r.permissions
  colour := p.colour.or r.colour
  hoist := p.hoist.getD r.hoist
  rank := p.rank.getD r.rank

/-- Removing fields of a role keeps what permissions depend on. -/
theorem foldl_removeField_keeps (r : Role) (clear : List FieldsRole) :
    (clear.foldl removeField r).id = r.id ∧ (clear.foldl removeField r).rank = r.rank ∧
      (clear.foldl removeField r).permissions = r.permissions := by
  induction clear generalizing r with
  | nil => exact ⟨rfl, rfl, rfl⟩
  | cons field clear ih =>
    obtain ⟨hid, hrank, hpermissions⟩ := ih (r.removeField field)
    rw [List.foldl_cons, hid, hrank, hpermissions]
    cases field
    exact ⟨rfl, rfl, rfl⟩

end Role

/-! ### Servers -/

/-- Channel category. -/
structure Category where
  id : String
  title : String
  channels : List String
  deriving DecidableEq, Repr, Inhabited

/-- System message channel assignments. -/
structure SystemMessageChannels where
  userJoined : Option String := none
  userLeft : Option String := none
  userKicked : Option String := none
  userBanned : Option String := none
  deriving DecidableEq, Repr, Inhabited

/-- Server. -/
structure Server where
  id : String
  owner : String
  name : String := ""
  description : Option String := none
  channels : List String := []
  categories : Option (List Category) := none
  systemMessages : Option SystemMessageChannels := none
  roles : HashMap String Role := ∅
  /-- Default set of server and channel permissions. -/
  defaultPermissions : U64 := 0
  icon : Option File := none
  banner : Option File := none
  nsfw : Bool := false
  discoverable : Bool := false
  deriving Inhabited

structure PartialServer where
  id : Option String := none
  owner : Option String := none
  name : Option String := none
  description : Option String := none
  channels : Option (List String) := none
  categories : Option (List Category) := none
  systemMessages : Option SystemMessageChannels := none
  roles : Option (HashMap String Role) := none
  defaultPermissions : Option U64 := none
  icon : Option File := none
  banner : Option File := none
  nsfw : Option Bool := none
  discoverable : Option Bool := none
  deriving Inhabited

/-- Optional fields on server object. -/
inductive FieldsServer where
  | description
  | categories
  | systemMessages
  | icon
  | banner
  deriving DecidableEq, Repr

namespace Server

/-- Remove a field from Server. -/
def removeField (s : Server) : FieldsServer → Server
  | .description => { s with description := none }
  | .categories => { s with categories := none }
  | .systemMessages => { s with systemMessages := none }
  | .icon => { s with icon := none }
  | .banner => { s with banner := none }

def applyOptions (s : Server) (p : PartialServer) : Server where
  id := p.id.getD s.id
  owner := p.owner.getD s.owner
  name := p.name.getD s.name
  description := p.description.or s.description
  channels := p.channels.getD s.channels
  categories := p.categories.or s.categories
  systemMessages := p.systemMessages.or s.systemMessages
  roles := p.roles.getD s.roles
  defaultPermissions := p.defaultPermissions.getD s.defaultPermissions
  icon := p.icon.or s.icon
  banner := p.banner.or s.banner
  nsfw := p.nsfw.getD s.nsfw
  discoverable := p.discoverable.getD s.discoverable

/-- Removing fields keeps what permissions depend on. -/
theorem foldl_removeField_keeps (s : Server) (clear : List FieldsServer) :
    (clear.foldl removeField s).id = s.id ∧ (clear.foldl removeField s).owner = s.owner ∧
      (clear.foldl removeField s).roles = s.roles ∧
      (clear.foldl removeField s).defaultPermissions = s.defaultPermissions := by
  induction clear generalizing s with
  | nil => exact ⟨rfl, rfl, rfl, rfl⟩
  | cons field clear ih =>
    obtain ⟨hid, howner, hroles, hdefault⟩ := ih (s.removeField field)
    rw [List.foldl_cons, hid, howner, hroles, hdefault]
    cases field <;> exact ⟨rfl, rfl, rfl, rfl⟩

/-- Ordered roles list. -/
def orderedRoles (s : Server) : List (String × Role) :=
  sortByKey (fun e => e.2.rank) s.roles.toList

/-- No two roles of the server have the same rank. -/
def DistinctRanks (s : Server) : Prop := (s.roles.values.map (·.rank)).Nodup

instance (s : Server) : Decidable s.DistinctRanks :=
  inferInstanceAs (Decidable (List.Nodup _))

end Server

/-! ### Members -/

/-- Composite primary key consisting of server and user id. -/
structure MemberCompositeKey where
  server : String
  user : String
  deriving DecidableEq, Repr, Inhabited

/-- Server Member. -/
structure Member where
  id : MemberCompositeKey
  joinedAt : Timestamp := 0
  nickname : Option String := none
  avatar : Option File := none
  roles : List String := []
  /-- Timestamp this member is timed out until. -/
  timeout : Option Timestamp := none
  /-- Whether the member may speak; `false` is a server-wide voice mute. -/
  canPublish : Bool := true
  /-- Whether the member may listen; `false` is a server-wide voice deafen. -/
  canReceive : Bool := true
  deriving DecidableEq, Repr, Inhabited

structure PartialMember where
  id : Option MemberCompositeKey := none
  joinedAt : Option Timestamp := none
  nickname : Option String := none
  avatar : Option File := none
  roles : Option (List String) := none
  timeout : Option Timestamp := none
  canPublish : Option Bool := none
  canReceive : Option Bool := none
  deriving DecidableEq, Repr, Inhabited

/-- Optional fields on server member object. -/
inductive FieldsMember where
  | nickname
  | avatar
  | roles
  | timeout
  | canReceive
  | canPublish
  | joinedAt
  | voiceChannel
  deriving DecidableEq, Repr

/-- Server Ban. -/
structure ServerBan where
  id : MemberCompositeKey
  reason : Option String := none
  deriving DecidableEq, Repr, Inhabited

/-- `i64::MAX` -/
def i64Max : Int := 2 ^ 63 - 1

/-- `i64::MIN` -/
def i64Min : Int := -2 ^ 63

namespace Member

def removeField (m : Member) : FieldsMember → Member
  | .joinedAt => m
  | .avatar => { m with avatar := none }
  | .nickname => { m with nickname := none }
  | .roles => { m with roles := [] }
  | .timeout => { m with timeout := none }
  | .canReceive => { m with canReceive := true }
  | .canPublish => { m with canPublish := true }
  | .voiceChannel => m

def applyOptions (m : Member) (p : PartialMember) : Member where
  id := p.id.getD m.id
  joinedAt := p.joinedAt.getD m.joinedAt
  nickname := p.nickname.or m.nickname
  avatar := p.avatar.or m.avatar
  roles := p.roles.getD m.roles
  timeout := p.timeout.or m.timeout
  canPublish := p.canPublish.getD m.canPublish
  canReceive := p.canReceive.getD m.canReceive

/-- A member with some fields reset. -/
theorem foldl_removeField (m : Member) (remove : List FieldsMember) :
    remove.foldl removeField m =
      { m with
        nickname := if .nickname ∈ remove then none else m.nickname
        avatar := if .avatar ∈ remove then none else m.avatar
        roles := if .roles ∈ remove then [] else m.roles
        timeout := if .timeout ∈ remove then none else m.timeout
        canReceive := if .canReceive ∈ remove then true else m.canReceive
        canPublish := if .canPublish ∈ remove then true else m.canPublish } := by
  induction remove generalizing m with
  | nil => simp
  | cons field remove ih =>
    rw [List.foldl_cons, ih]
    cases field <;> simp [removeField]

/-- Get this user's current ranking: the smallest rank among their roles. -/
def getRanking (m : Member) (server : Server) : Int :=
  m.roles.foldl
    (fun value role =>
      match server.roles.lookup role with
      | some role => if role.rank < value then role.rank else value
      | none => value)
    i64Max

/-- Check whether this member is in timeout at the given time. -/
def inTimeout (m : Member) (now : Timestamp) : Bool :=
  match m.timeout with
  | some timeout => now < timeout
  | none => false

end Member

end DawnChat
