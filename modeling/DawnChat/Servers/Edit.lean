/-
DawnChat/Servers/Edit.lean

The route that edits a server (`delta/src/routes/servers/server_edit.rs`).

The route looks at every field of the request before it writes, and then it makes one update.
`editChecks` is everything up to the update, and `editChecks_ok` says what is known of the
update then: the channels that are assigned for system messages belong to the server, the
categories share no channel and list none that the server does not have, and a new owner is a
member.

The files are outside the model.  What the route uses of them (`ServerFiles`) can fail, and it
does not touch the modelled collections.  So are the flags and the analytics of a server, but
not the checks on them.
-/
import DawnChat.Routes.Servers

namespace DawnChat

open RustStd Fallible Handler List Option Except

variable {σ : Type}

/-- The channels that system messages are sent in. -/
def SystemMessageChannels.channelIds (sys : SystemMessageChannels) : List String :=
  [sys.userJoined, sys.userLeft, sys.userKicked, sys.userBanned].filterMap fun assigned => assigned

theorem SystemMessageChannels.mem_channelIds {sys : SystemMessageChannels} {channel : String} :
    channel ∈ sys.channelIds ↔ sys.userJoined = some channel ∨ sys.userLeft = some channel ∨
      sys.userKicked = some channel ∨ sys.userBanned = some channel := by
  rw [channelIds, mem_filterMap]
  simp [eq_comm]

/-- New server information. -/
structure DataEditServer where
  name : Option String := none
  description : Option String := none
  /-- Attachment Id for icon -/
  icon : Option String := none
  /-- Attachment Id for banner -/
  banner : Option String := none
  categories : Option (List Category) := none
  systemMessages : Option SystemMessageChannels := none
  flags : Option Int := none
  discoverable : Option Bool := none
  analytics : Option Bool := none
  /-- User id of the new owner -/
  owner : Option String := none
  remove : List FieldsServer := []
  deriving DecidableEq, Repr

/-! ### The checks -/

/-- The loop over the channels of a category, with the channels that were seen before. -/
def seeChannels : List String → List String → Result (List String)
  | seen, [] => .ok seen
  | seen, channel :: channels =>
    if channel ∈ seen then .error .invalidOperation
    else seeChannels (channel :: seen) channels

/-- The loop over the categories.  Channels that are not in the server are dropped. -/
def checkCategories (serverChannels : List String) :
    List String → List Category → Result (List Category)
  | _, [] => .ok []
  | seen, category :: categories => do
      let seen ← seeChannels seen category.channels
      let categories ← checkCategories serverChannels seen categories
      return { category with channels := category.channels.filter (· ∈ serverChannels) }
        :: categories

namespace DataEditServer

variable (data : DataEditServer)

def validate : Result Unit :=
  if (data.name.all fun name => 1 ≤ name.length ∧ name.length ≤ 32) ∧
      (data.description.all fun description => description.length ≤ 1024) ∧
      (data.categories.all fun categories => categories.all fun category =>
        (1 ≤ category.id.length ∧ category.id.length ≤ 32) ∧
          1 ≤ category.title.length ∧ category.title.length ≤ 32) then .ok ()
  else .error .failedValidation

/-- The request changes nothing. -/
def isEmpty : Bool :=
  data.name.isNone && data.description.isNone && data.icon.isNone && data.banner.isNone &&
    data.systemMessages.isNone && data.categories.isNone && data.flags.isNone &&
    data.analytics.isNone && data.discoverable.isNone && data.owner.isNone && data.remove.isEmpty

/-- The request changes what `ManageServer` is for. -/
def managesServer : Bool :=
  data.name.isSome || data.description.isSome || data.icon.isSome || data.banner.isSome ||
    data.systemMessages.isSome || data.analytics.isSome || !data.remove.isEmpty

/-- Who may make the request.  A new owner needs a ticket of multi-factor authentication. -/
def checkPermissions (permissions : PermissionValue) (user : User) (server : Server)
    (validatedTicket : Bool) : Result Unit := do
  if data.managesServer then permissions.throwIfLackingChannelPermission .manageServer
  if data.owner.isSome then
    if user.id ≠ server.owner ∧ user.privileged = false then throw .notOwner
    if validatedTicket = false then throw .invalidCredentials
  if (data.flags.isSome ∨ data.discoverable.isSome) ∧ user.privileged = false then
    throw .notPrivileged
  if data.categories.isSome then permissions.throwIfLackingChannelPermission .manageChannel

def checkSystemMessages (server : Server) : Result Unit :=
  if data.systemMessages.all fun sys => sys.channelIds.all fun id => id ∈ server.channels then
    .ok ()
  else .error .notFound

/-- The categories that are stored. -/
def newCategories (server : Server) : Result (Option (List Category)) :=
  match data.categories with
  | some categories => do
      let categories ← checkCategories server.channels [] categories
      return some categories
  | none => return none

/-- The update, once its parts have been checked. -/
def changes (categories : Option (List Category)) (icon banner : Option File) :
    PartialServer where
  name := data.name
  description := data.description
  categories := categories
  systemMessages := data.systemMessages
  discoverable := data.discoverable
  owner := data.owner
  icon := icon
  banner := banner

end DataEditServer

/-- What the route uses of the files. -/
structure ServerFiles where
  /-- `mark_attachment_as_deleted` -/
  markAttachmentAsDeleted : String → Result Unit
  /-- `File::use_server_icon` for a file, its parent and its uploader -/
  useServerIcon : String → String → String → Result File
  /-- `File::use_server_banner` for a file, its parent and its uploader -/
  useServerBanner : String → String → String → Result File

namespace ServerFiles

variable (files : ServerFiles)

/-- The file of a field that is removed is marked. -/
def release (remove : List FieldsServer) (field : FieldsServer) (file : Option File) :
    Result Unit :=
  match file with
  | some file => if field ∈ remove then files.markAttachmentAsDeleted file.id else .ok ()
  | none => .ok ()

end ServerFiles

/-- The file of a new icon or banner. -/
def useServerFile (use : String → String → String → Result File) (id : Option String)
    (serverId userId : String) : Result (Option File) :=
  match id with
  | some id => do
      let file ← use id serverId userId
      return some file
  | none => return none

namespace Servers

/-- A new owner is a member of the server and not a bot. -/
def checkNewOwner (D : Driver σ) (serverId : String) : Option String → Request σ Unit
  | some owner => do
      let _ ← read fun s => (D.database s).fetchMember serverId owner
      let ownerUser ← read fun s => (D.database s).fetchUser owner
      throwIf (ownerUser.bot.isSome = true) .invalidOperation
  | none => pure ()

/-- The route up to the update: the server, and the update if there is to be one. -/
def editChecks (D : Driver σ) (files : ServerFiles) (user : User) (clock : Stream' Timestamp)
    (validatedTicket : Bool) (target : String) (data : DataEditServer) :
    Request σ (Server × Option PartialServer) := do
  ofExcept data.validate
  let server ← read fun s => (D.database s).fetchServer target
  let query ← requestServerPermissions D user clock server
  if data.isEmpty then return (server, none)
  else do
    ofExcept (data.checkPermissions query.1 user server validatedTicket)
    -- 1. remove fields from object
    ofExcept (files.release data.remove .banner server.banner)
    ofExcept (files.release data.remove .icon server.icon)
    -- 2. validate changes
    ofExcept (data.checkSystemMessages server)
    let categories ← ofExcept (data.newCategories server)
    -- 3. and 4. apply new icon and banner
    let icon ← ofExcept (useServerFile files.useServerIcon data.icon server.id user.id)
    let banner ← ofExcept
      (useServerFile files.useServerBanner data.banner server.id user.id)
    -- 5. transfer ownership
    checkNewOwner D server.id data.owner
    return (server, some (data.changes categories icon banner))

/-- Edit a server by its id. -/
def edit (D : Driver σ) (files : ServerFiles) (user : User) (clock : Stream' Timestamp)
    (validatedTicket : Bool) (target : String) (data : DataEditServer) : Request σ Server := do
  let checked ← editChecks D files user clock validatedTicket target data
  match checked.2 with
  | some changes => checked.1.update D changes data.remove
  | none => return checked.1

end Servers

/-! ### What the checks establish -/

/-- Categories list channels of the server, and none of them twice. -/
structure CategoriesOk (serverChannels : List String) (categories : List Category) : Prop where
  listed : ∀ category ∈ categories, ∀ channel ∈ category.channels, channel ∈ serverChannels
  disjoint : categories.Pairwise fun c c' => c.channels.Disjoint c'.channels

theorem seeChannels_ok {seen seen' channels : List String}
    (h : seeChannels seen channels = .ok seen') :
    (∀ channel ∈ channels, channel ∉ seen) ∧
      ∀ channel, channel ∈ seen' ↔ channel ∈ channels ∨ channel ∈ seen := by
  induction channels generalizing seen with
  | nil =>
    obtain rfl := ok.inj h
    simp
  | cons first channels ih =>
    rw [seeChannels] at h
    split at h
    · cases h
    · next hfirst =>
      obtain ⟨hnew, hmem⟩ := ih h
      refine ⟨forall_mem_cons.mpr ⟨hfirst, fun channel hchannel hseen => ?_⟩,
        fun channel => ?_⟩
      · exact hnew channel hchannel (mem_cons_of_mem _ hseen)
      · rw [hmem, mem_cons, mem_cons]
        tauto

/-- What the loop over the categories lets through, for any channels seen before. -/
theorem checkCategories_ok {serverChannels seen : List String} {categories checked : List Category}
    (h : checkCategories serverChannels seen categories = .ok checked) :
    CategoriesOk serverChannels checked ∧
      ∀ category ∈ checked, ∀ channel ∈ category.channels, channel ∉ seen := by
  induction categories generalizing seen checked with
  | nil =>
    obtain rfl := ok.inj h
    exact ⟨⟨by simp, .nil⟩, by simp⟩
  | cons category categories ih =>
    obtain ⟨seen', hseen, h⟩ := bind_eq_ok.mp h
    obtain ⟨rest, hrest, h⟩ := bind_eq_ok.mp h
    obtain rfl := ok.inj h
    obtain ⟨hnew, hmem⟩ := seeChannels_ok hseen
    obtain ⟨hok, hunseen⟩ := ih hrest
    refine ⟨⟨forall_mem_cons.mpr ⟨fun channel hchannel => ?_, hok.listed⟩,
      .cons (fun other hother channel hchannel hchannel' => ?_) hok.disjoint⟩,
      forall_mem_cons.mpr ⟨fun channel hchannel => ?_,
        fun other hother channel hchannel hbefore => ?_⟩⟩
    · exact of_decide_eq_true (mem_filter.mp hchannel).2
    · -- a channel of this category has been seen when the later ones are checked
      exact hunseen other hother channel hchannel'
        ((hmem channel).mpr (.inl (mem_filter.mp hchannel).1))
    · exact hnew channel (mem_filter.mp hchannel).1
    · exact hunseen other hother channel hchannel ((hmem channel).mpr (.inr hbefore))

namespace Servers

variable {D : Driver σ} {files : ServerFiles} {user : User} {clock : Stream' Timestamp}
  {validatedTicket : Bool} {target : String} {data : DataEditServer} {s s' : σ}

/-- What is known of an update that the route makes. -/
structure Checked (db : Database) (server : Server) (changes : PartialServer) : Prop where
  id : changes.id = none
  channels : changes.channels = none
  categories : ∀ categories, changes.categories = some categories →
    CategoriesOk server.channels categories
  systemMessages : ∀ sys, changes.systemMessages = some sys →
    ∀ channel ∈ sys.channelIds, channel ∈ server.channels
  owner : ∀ owner, changes.owner = some owner →
    ∃ member, db.fetchMember server.id owner = .ok member

instance (D : Driver σ) (serverId : String) (owner : Option String) :
    ReadOnly (checkNewOwner D serverId owner) := by
  unfold checkNewOwner
  split <;> infer_instance

instance : ReadOnly (editChecks D files user clock validatedTicket target data) := by
  refine .andThen fun _ => .andThen fun _ => .andThen fun _ => ?_
  split
  · infer_instance
  · repeat refine .andThen fun _ => ?_
    infer_instance

theorem checkNewOwner_ok {serverId owner : String} {u : Unit}
    (h : exec (checkNewOwner D serverId (some owner)) s = (.ok u, s')) :
    ∃ member, (D.database s).fetchMember serverId owner = .ok member := by
  obtain ⟨member, _, hread, -⟩ := exec_bind_ok.mp h
  exact ⟨member, (exec_read_ok.mp hread).1⟩

variable {server : Server}

theorem newCategories_ok {stored : Option (List Category)}
    (h : data.newCategories server = .ok stored) (categories : List Category)
    (hcategories : stored = some categories) : CategoriesOk server.channels categories := by
  subst hcategories
  rw [DataEditServer.newCategories] at h
  split at h
  · obtain ⟨checked, hchecked, h⟩ := bind_eq_ok.mp h
    obtain rfl := some.inj (ok.inj h)
    exact (checkCategories_ok hchecked).1
  · cases h

theorem checkSystemMessages_ok (h : data.checkSystemMessages server = .ok ())
    (sys : SystemMessageChannels) (hsys : data.systemMessages = some sys) :
    ∀ channel ∈ sys.channelIds, channel ∈ server.channels := by
  rw [DataEditServer.checkSystemMessages, hsys] at h
  split at h
  · next hall => simpa using hall
  · cases h

/-- An update is only made after all checks. -/
theorem editChecks_ok {changes : PartialServer}
    (h : exec (editChecks D files user clock validatedTicket target data) s
      = (.ok (server, some changes), s')) :
    (D.database s).fetchServer target = .ok server ∧ Checked (D.database s) server changes := by
  obtain ⟨_, -, hfetched⟩ := exec_ofExcept_bind_ok.mp h
  obtain ⟨stored, hfetch, hqueried⟩ := exec_read_bind_ok.mp hfetched
  obtain ⟨query, s₁, hquery, hrest⟩ := exec_bind_ok.mp hqueried
  obtain rfl := ReadOnly.of_exec hquery
  split at hrest
  · cases (exec_pure_ok.mp hrest).1
  simp only [exec_bind_ok, exec_ofExcept_ok] at hrest
  obtain ⟨_, _, ⟨-, rfl⟩, _, _, ⟨-, rfl⟩, _, _, ⟨-, rfl⟩, _, _, ⟨hsystem, rfl⟩, categories, _,
    ⟨hcategories, rfl⟩, icon, _, ⟨-, rfl⟩, banner, _, ⟨-, rfl⟩, _, _, howner, hpure⟩ := hrest
  obtain ⟨heq, -⟩ := exec_pure_ok.mp hpure
  obtain ⟨rfl, hchanges⟩ := Prod.mk.inj heq
  obtain rfl := some.inj hchanges
  refine ⟨hfetch, rfl, rfl, newCategories_ok hcategories, checkSystemMessages_ok hsystem,
    fun owner hsome => ?_⟩
  have hdata : data.owner = some owner := hsome
  rw [hdata] at howner
  exact checkNewOwner_ok howner

/-- **What a request to edit a server leaves**: the store, or the store after one update that
has passed all checks. -/
theorem store_of_edit {P : σ → Prop} (hs : P s)
    (hupdate : ∀ server changes, (D.database s).fetchServer target = .ok server →
      Checked (D.database s) server changes →
      P (exec (D.updateServer server.id changes data.remove) s).2) :
    P (exec (edit D files user clock validatedTicket target data) s).2 := by
  refine ReadOnly.store_of_bind hs fun checked hchecks => ?_
  obtain ⟨server, - | changes⟩ := checked
  · exact hs
  · obtain ⟨hfetch, hchecked⟩ := editChecks_ok hchecks
    have hid : ((data.remove.foldl Server.removeField server).applyOptions changes).id
        = server.id := by
      rw [Server.applyOptions, hchecked.id]
      exact (Server.foldl_removeField_keeps server data.remove).1
    refine (congrArg P (store_bind_pure _ _ s)).mpr ?_
    rw [hid]
    exact hupdate server changes hfetch hchecked

end Servers

end DawnChat
