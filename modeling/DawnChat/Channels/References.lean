/-
DawnChat/Channels/References.lean

References to channels, on the MongoDB driver (`delete_channel` and
`delete_associated_channel_objects` in `core/database/src/models/channels/ops/mongodb.rs`, and
the routes that create channels, webhooks and invites and that edit servers).

A server refers to its channels in three places: in the list of its channels, in its
categories and in the assignment of system messages.  Invites, unreads and webhooks refer to
channels from outside.  Deleting a channel leaves two of these: the categories are not
touched, and webhooks are looked for in a collection that does not exist.

All other requests come to a sequence of writes that add something or change a server
(`RefWrite`), and none of those breaks a reference.  So references hold along a history exactly
if no channel is deleted while it is in a category or has a webhook (`refsOk_always_iff`).
-/
import DawnChat.Servers.Mongo
import Mathlib.Logic.Relation

namespace DawnChat

open RustStd Fallible Handler Run Relation HashMap MongoStore List Option MongoDb ReferenceDb

/-! ### The requests -/

/-- `DEFAULT_WEBHOOK_PERMISSIONS` -/
def defaultWebhookPermissions : U64 :=
  ChannelPermission.sendMessage.value ||| ChannelPermission.sendEmbeds.value |||
    ChannelPermission.masquerade.value ||| ChannelPermission.react.value

/-- Information for the webhook. -/
structure CreateWebhookBody where
  name : String
  avatar : Option String := none
  deriving DecidableEq, Repr

def CreateWebhookBody.validate (data : CreateWebhookBody) : Result Unit :=
  if (1 ≤ data.name.length ∧ data.name.length ≤ 32) ∧
      data.avatar.all fun avatar => 1 ≤ avatar.length ∧ avatar.length ≤ 128 then .ok ()
  else .error .failedValidation

/-- What the requests use of the files. -/
structure ReferenceFiles extends ServerFiles where
  /-- `File::use_webhook_avatar` for a file, its parent and its uploader -/
  useWebhookAvatar : String → String → String → Result File

namespace MongoStore

def insertWebhook (webhook : StoredWebhook) (s : MongoStore) : Result MongoStore :=
  if webhook.id ∈ s.channelWebhooks then .error (.databaseError "insert_one" "channel_webhooks")
  else .ok { s with channelWebhooks := s.channelWebhooks.insert webhook.id webhook }

def insertInvite (invite : StoredInvite) (s : MongoStore) : Result MongoStore :=
  if invite.code ∈ s.channelInvites then .error (.databaseError "insert_one" "channel_invites")
  else .ok { s with channelInvites := s.channelInvites.insert invite.code invite }

section Routes

variable (settings : Settings) (files : ReferenceFiles) (rest : Driver MongoStore) (user : User)
  (clock : Stream' Timestamp)

/-- Calculate the channel permissions of the user who makes the request. -/
def checkChannelPermission (channel : Channel) (permission : ChannelPermission) :
    Request MongoStore Unit := do
  let s ← get
  let query ← ofOption (calculateChannelPermissions.run
    ((DatabasePermissionQuery.new (database rest s) user clock).withChannel channel))
  ofExcept (query.1.throwIfLackingChannelPermission permission)

/-- Create a new Text or Voice channel. -/
def createChannel (target : String) (data : DataCreateServerChannel) (id : String) :
    Request MongoStore Unit := do
  ofExcept data.validate
  let server ← read fun s => s.db.fetchServer target
  let query ← requestServerPermissions (driver rest) user clock server
  ofExcept (query.1.throwIfLackingChannelPermission .manageChannel)
  let _ ← createServerChannel settings rest server id data true

/-- Creates a webhook which 3rd party platforms can use to send messages. -/
def createWebhook (channelId : String) (data : CreateWebhookBody) (webhookId token : String) :
    Request MongoStore Unit := do
  ofExcept data.validate
  let channel ← read fun s => ReferenceDb.get s.db.channels channelId
  Handler.ofExcept (match channel with
    | .textChannel _ => .ok ()
    | .group _ => .ok ()
    | _ => .error .invalidOperation)
  checkChannelPermission rest user clock channel .manageWebhooks
  let avatar ← ofExcept
    (useServerFile files.useWebhookAvatar data.avatar webhookId user.id)
  write (insertWebhook
    { id := webhookId
      name := data.name
      avatar := avatar
      creatorId := user.id
      channelId := channel.id
      permissions := defaultWebhookPermissions
      token := some token })

/-- The invite to a channel. -/
def channelInvite (code creator : String) : Channel → Result StoredInvite
  | .group c => .ok (.group code creator c.id)
  | .textChannel c => .ok (.server code c.server creator c.id)
  | _ => .error .invalidOperation

/-- Creates an invite to this channel. -/
def createInvite (target code : String) : Request MongoStore Unit := do
  throwIf (user.bot.isSome = true) .isBot
  let channel ← read fun s => ReferenceDb.get s.db.channels target
  checkChannelPermission rest user clock channel .inviteOthers
  let invite ← ofExcept (channelInvite code user.id channel)
  write (insertInvite invite)

end Routes

end MongoStore

/-- A request that adds or removes references. -/
inductive ReferenceRequest where
  | createChannel (user : User) (clock : Stream' Timestamp) (target : String)
      (data : DataCreateServerChannel) (id : String)
  | edit (user : User) (clock : Stream' Timestamp) (validatedTicket : Bool) (target : String)
      (data : DataEditServer)
  | createWebhook (user : User) (clock : Stream' Timestamp) (channel : String)
      (data : CreateWebhookBody) (id token : String)
  | createInvite (user : User) (clock : Stream' Timestamp) (channel code : String)
  | deleteChannel (id : String)

namespace ReferenceRequest

section Defs

variable (settings : Settings) (files : ReferenceFiles) (rest : Driver MongoStore)

def perform : ReferenceRequest → Request MongoStore Unit
  | createChannel user clock target data id =>
    MongoStore.createChannel settings rest user clock target data id
  | edit user clock validatedTicket target data => do
      let _ ← Servers.edit (MongoStore.driver rest) files.toServerFiles user clock validatedTicket
        target data
  | createWebhook user clock channel data id token =>
    MongoStore.createWebhook files rest user clock channel data id token
  | createInvite user clock channel code =>
    MongoStore.createInvite rest user clock channel code
  | deleteChannel id => do
      let channel ← read fun s => ReferenceDb.get s.db.channels id
      MongoStore.deleteChannel channel

/-- Serve a request.  One that fails leaves what it has written. -/
def step (s : MongoStore) (r : ReferenceRequest) : Option MongoStore :=
  some (exec (r.perform settings files rest) s).2

end Defs

end ReferenceRequest

/-! ### References -/

/-- A server refers to channels in its own list only. -/
structure Server.RefsOk (server : Server) : Prop where
  categories : CategoriesOk server.channels (server.categories.getD [])
  systemMessages : ∀ sys, server.systemMessages = some sys →
    ∀ channel ∈ sys.channelIds, channel ∈ server.channels

namespace MongoStore

/-- No reference to a channel is broken. -/
structure RefsOk (s : MongoStore) : Prop where
  servers : ∀ id server, s.db.servers.lookup id = some server → server.RefsOk
  invites : ∀ code invite, s.channelInvites.lookup code = some invite →
    invite.channel ∈ s.db.channels
  unreads : ∀ id unread, s.db.channelUnreads.lookup id = some unread → id.channel ∈ s.db.channels
  webhooks : ∀ id webhook, s.channelWebhooks.lookup id = some webhook →
    webhook.channelId ∈ s.db.channels

/-- Documents are stored under their ids, and channels belong to servers that exist. -/
structure Keyed (s : MongoStore) : Prop where
  channels : s.db.channels.KeyedBy Channel.id
  servers : s.db.servers.KeyedBy Server.id
  parents : ∀ id channel serverId, s.db.channels.lookup id = some channel →
    channel.server = some serverId → serverId ∈ s.db.servers

end MongoStore

/-! ### Writes that add something or change a server -/

/-- One write. -/
inductive RefWrite (s : MongoStore) : MongoStore → Prop
  | addChannel (c : TextChannel) (hserver : c.server ∈ s.db.servers) :
      RefWrite s { s with
        db := { s.db with channels := s.db.channels.insert c.id (.textChannel c) } }
  | changeServer (id : String) (f : Server → Server)
      (hid : ∀ server, s.db.servers.lookup id = some server → (f server).id = server.id)
      (hrefs : ∀ server, s.db.servers.lookup id = some server → server.RefsOk →
        (f server).RefsOk) :
      RefWrite s { s with db := { s.db with servers := s.db.servers.modify id f } }
  | addWebhook (webhook : StoredWebhook) (hchannel : webhook.channelId ∈ s.db.channels) :
      RefWrite s { s with channelWebhooks := s.channelWebhooks.insert webhook.id webhook }
  | addInvite (invite : StoredInvite) (hchannel : invite.channel ∈ s.db.channels) :
      RefWrite s { s with channelInvites := s.channelInvites.insert invite.code invite }

namespace RefWrite

variable {s s' : MongoStore}

theorem keyed (h : RefWrite s s') (hs : s.Keyed) : s'.Keyed := by
  cases h with
  | addChannel c hserver =>
    refine ⟨hs.channels.insert (.textChannel c), hs.servers,
      fun id channel serverId hlookup => ?_⟩
    rcases lookup_insert_eq_some.mp hlookup with ⟨-, rfl⟩ | ⟨-, hbefore⟩
    · rintro hsome
      obtain rfl := some.inj hsome
      exact hserver
    · exact hs.parents id channel serverId hbefore
  | changeServer id f hid hrefs =>
    refine ⟨hs.channels, hs.servers.modify hid, fun cid channel serverId hlookup hserver => ?_⟩
    exact mem_modify.mpr (hs.parents cid channel serverId hlookup hserver)
  | addWebhook | addInvite => exact ⟨hs.channels, hs.servers, hs.parents⟩

theorem refsOk (h : RefWrite s s') (hs : s.RefsOk) : s'.RefsOk := by
  cases h with
  | addChannel c hserver =>
    have hmore : ∀ {id}, id ∈ s.db.channels → id ∈ s.db.channels.insert c.id (.textChannel c) :=
      fun hid => AList.mem_insert _ |>.mpr (.inr hid)
    exact ⟨hs.servers, fun code invite hlookup => hmore (hs.invites code invite hlookup),
      fun id unread hlookup => hmore (hs.unreads id unread hlookup),
      fun id webhook hlookup => hmore (hs.webhooks id webhook hlookup)⟩
  | changeServer id f hid hrefs =>
    refine ⟨fun sid server hlookup => ?_, hs.invites, hs.unreads, hs.webhooks⟩
    rw [lookup_modify_eq] at hlookup
    split at hlookup
    · next heq =>
      obtain ⟨before, hbefore, rfl⟩ := map_eq_some_iff.mp hlookup
      exact hrefs before (heq ▸ hbefore) (hs.servers sid before hbefore)
    · exact hs.servers sid server hlookup
  | addWebhook webhook hchannel =>
    refine ⟨hs.servers, hs.invites, hs.unreads, fun id other hlookup => ?_⟩
    rcases lookup_insert_eq_some.mp hlookup with ⟨-, rfl⟩ | ⟨-, hbefore⟩
    · exact hchannel
    · exact hs.webhooks id other hbefore
  | addInvite invite hchannel =>
    refine ⟨hs.servers, fun code other hlookup => ?_, hs.unreads, hs.webhooks⟩
    rcases lookup_insert_eq_some.mp hlookup with ⟨-, rfl⟩ | ⟨-, hbefore⟩
    · exact hchannel
    · exact hs.invites code other hbefore

end RefWrite

/-- Several writes keep what each of them keeps. -/
theorem keyed_of_writes {s s' : MongoStore} (h : ReflTransGen RefWrite s s') (hs : s.Keyed) :
    s'.Keyed := by
  induction h with
  | refl => exact hs
  | tail _ hwrite ih => exact hwrite.keyed ih

theorem refsOk_of_writes {s s' : MongoStore} (h : ReflTransGen RefWrite s s') (hs : s.RefsOk) :
    s'.RefsOk := by
  induction h with
  | refl => exact hs
  | tail _ hwrite ih => exact hwrite.refsOk ih

/-! ### Which writes the requests make -/

/-- Removing fields keeps references or drops them. -/
theorem Server.foldl_removeField_refs (server : Server) (remove : List FieldsServer) :
    (remove.foldl removeField server).channels = server.channels ∧
      ((remove.foldl removeField server).categories = none ∨
        (remove.foldl removeField server).categories = server.categories) ∧
      ((remove.foldl removeField server).systemMessages = none ∨
        (remove.foldl removeField server).systemMessages = server.systemMessages) := by
  induction remove generalizing server with
  | nil => exact ⟨rfl, .inr rfl, .inr rfl⟩
  | cons field remove ih =>
    obtain ⟨hchannels, hcategories, hsystem⟩ := ih (server.removeField field)
    rw [foldl_cons]
    cases field with
    | categories => exact ⟨hchannels, .inl (or_self_iff.mp hcategories), hsystem⟩
    | systemMessages => exact ⟨hchannels, hcategories, .inl (or_self_iff.mp hsystem)⟩
    | _ => exact ⟨hchannels, hcategories, hsystem⟩

variable {server : Server}

/-- An update that has passed the checks of the route keeps the references of the server. -/
theorem Server.RefsOk.update (h : server.RefsOk) {db : Database} {changes : PartialServer}
    (hchecked : Servers.Checked db server changes) (remove : List FieldsServer) :
    ((remove.foldl removeField server).applyOptions changes).RefsOk := by
  obtain ⟨hchannels, hcategories, hsystem⟩ := foldl_removeField_refs server remove
  have hlist : ((remove.foldl removeField server).applyOptions changes).channels
      = server.channels := by
    rw [applyOptions, hchecked.channels]
    exact hchannels
  refine ⟨?_, fun sys hsys => ?_⟩
  · rw [hlist, applyOptions]
    rcases hnew : changes.categories with - | categories
    · rcases hcategories with hnone | hsame
      · rw [hnone]
        exact ⟨fun _ hmem => absurd hmem not_mem_nil, .nil⟩
      · rw [hsame]
        exact h.categories
    · exact hchecked.categories categories hnew
  · rw [hlist]
    rw [applyOptions] at hsys
    rcases hnew : changes.systemMessages with - | newSys
    · rcases hsystem with hnone | hsame
      · rw [hnew, hnone] at hsys
        cases hsys
      · rw [hnew, hsame] at hsys
        exact h.systemMessages sys hsys
    · rw [hnew] at hsys
      obtain rfl := some.inj hsys
      exact hchecked.systemMessages newSys hnew

/-- A longer list of channels keeps the references of the server. -/
theorem Server.RefsOk.addChannel (h : server.RefsOk) (id : String) :
    (server.applyOptions { channels := some (server.channels ++ [id]) }).RefsOk :=
  ⟨⟨fun category hcategory channel hchannel =>
      mem_append_left _ (h.categories.listed category hcategory channel hchannel),
      h.categories.disjoint⟩,
    fun sys hsys channel hchannel =>
      mem_append_left _ (h.systemMessages sys hsys channel hchannel)⟩

namespace MongoStore

variable {settings : Settings} {files : ReferenceFiles} {rest : Driver MongoStore} {user : User}
  {clock : Stream' Timestamp} {s₀ s : MongoStore}

instance (channel : Channel) (permission : ChannelPermission) :
    ReadOnly (checkChannelPermission rest user clock channel permission) := by
  unfold checkChannelPermission
  infer_instance

/-- The server as it was fetched is the one that is stored. -/
theorem lookup_of_fetchServer {target : String} {server : Server} (hs : s.Keyed)
    (h : s.db.fetchServer target = .ok server) : s.db.servers.lookup server.id = some server := by
  have hlookup : s.db.servers.lookup target = some server := get_ok.mp h
  rw [hs.servers hlookup]
  exact hlookup

theorem writes_createChannel (hs : s.Keyed) (target : String) (data : DataCreateServerChannel)
    (id : String) :
    ReflTransGen RefWrite s
      (exec (createChannel settings rest user clock target data id) s).2 := by
  refine store_of_ofExcept_bind .refl fun _ _ => ?_
  refine store_of_read_bind .refl fun server hfetch => ?_
  have hserver := lookup_of_fetchServer hs hfetch
  refine ReadOnly.store_of_bind .refl fun query _ => ?_
  refine store_of_ofExcept_bind .refl fun _ _ => ?_
  rw [store_bind_pure, createServerChannel]
  refine store_of_throwIf_bind .refl fun _ => ?_
  refine store_of_onDb_write_bind .refl fun db' hinsert => ?_
  obtain rfl : { s.db with channels := s.db.channels.insert id (.textChannel
      (data.channel id server.id)) } = db' := (ite_error_eq_ok.mp hinsert).2
  have hadd := ReflTransGen.single (RefWrite.addChannel (s := s) (data.channel id server.id)
    (mem_iff_exists_lookup.mpr ⟨server, hserver⟩))
  rw [if_pos rfl, store_bind_pure, Server.update, store_bind_pure]
  refine store_of_onDb_write hadd fun db'' hupdate => hadd.tail ?_
  obtain rfl := Except.ok.inj hupdate
  refine .changeServer server.id _ (fun stored _ => rfl) fun stored hstored hrefs => ?_
  obtain rfl : server = stored := some.inj (hserver.symm.trans hstored)
  exact hrefs.addChannel id

theorem writes_edit (hs : s.Keyed) (validatedTicket : Bool) (target : String)
    (data : DataEditServer) :
    ReflTransGen RefWrite s (exec (Servers.edit (driver rest) files.toServerFiles user
      clock validatedTicket target data) s).2 := by
  refine Servers.store_of_edit .refl fun server changes hfetch hchecked => ?_
  have hserver := lookup_of_fetchServer hs hfetch
  refine store_of_onDb_write .refl fun db' hupdate => .single ?_
  obtain ⟨-, rfl⟩ := ite_error_eq_ok.mp hupdate
  refine .changeServer server.id _ (fun stored hstored => ?_) fun stored hstored hrefs => ?_
  · rw [Server.applyOptions, hchecked.id]
    exact (Server.foldl_removeField_keeps stored data.remove).1
  · obtain rfl : server = stored := some.inj (hserver.symm.trans hstored)
    exact hrefs.update hchecked data.remove

variable {channel : Channel}

theorem mem_of_get {id : String} (hs : s.Keyed)
    (h : get s.db.channels id = .ok channel) : channel.id ∈ s.db.channels := by
  have hlookup := get_ok.mp h
  rw [hs.channels hlookup]
  exact mem_iff_exists_lookup.mpr ⟨channel, hlookup⟩

theorem writes_createWebhook (hs : s.Keyed) (channelId : String) (data : CreateWebhookBody)
    (webhookId token : String) :
    ReflTransGen RefWrite s (exec
      (createWebhook files rest user clock channelId data webhookId token) s).2 := by
  refine store_of_ofExcept_bind .refl fun _ _ => ?_
  refine store_of_read_bind .refl fun channel hchannel => ?_
  refine store_of_ofExcept_bind .refl fun _ _ => ?_
  refine ReadOnly.store_of_bind .refl fun _ _ => ?_
  refine store_of_ofExcept_bind .refl fun avatar _ => ?_
  refine store_of_write .refl fun s' hinsert => .single ?_
  obtain ⟨-, rfl⟩ := ite_error_eq_ok.mp hinsert
  exact .addWebhook _ (mem_of_get hs hchannel)

theorem channel_channelInvite {code creator : String} {invite : StoredInvite}
    (h : channelInvite code creator channel = .ok invite) : invite.channel = channel.id := by
  cases channel <;> cases h <;> rfl

theorem writes_createInvite (hs : s.Keyed) (target code : String) :
    ReflTransGen RefWrite s (exec (createInvite rest user clock target code) s).2 := by
  refine store_of_throwIf_bind .refl fun _ => ?_
  refine store_of_read_bind .refl fun channel hchannel => ?_
  refine ReadOnly.store_of_bind .refl fun _ _ => ?_
  refine store_of_ofExcept_bind .refl fun invite hinvite => ?_
  refine store_of_write .refl fun s' hinsert => .single ?_
  obtain ⟨-, rfl⟩ := ite_error_eq_ok.mp hinsert
  exact .addInvite invite (channel_channelInvite hinvite ▸ mem_of_get hs hchannel)

/-! ### Deleting a channel -/

/-- What is left when a channel has been deleted. -/
structure ChannelGone (channel : Channel) (s s' : MongoStore) : Prop where
  channels : s'.db.channels = s.db.channels.erase channel.id
  servers : ∀ id, s'.db.servers.lookup id =
    if channel.server = some id then
      (s.db.servers.lookup id).map (MongoDb.withoutChannel channel.id)
    else s.db.servers.lookup id
  unreads : s'.db.channelUnreads
    = s.db.channelUnreads.retain fun key _ => !decide (key.channel = channel.id)
  invites : s'.channelInvites
    = s.channelInvites.retain fun _ invite => invite.channel ≠ channel.id
  webhooks : s'.channelWebhooks = s.channelWebhooks

/-- What `pullChannel` does when the server of the channel is there. -/
theorem exec_pullChannel {db : ReferenceDb} (hservers : db.servers.KeyedBy Server.id)
    (hparent : ∀ serverId, channel.server = some serverId → serverId ∈ db.servers) :
    ∃ servers, exec (pullChannel channel) db
        = (.ok (), { db with servers := servers }) ∧
      ∀ id, servers.lookup id =
        if channel.server = some id then
          (db.servers.lookup id).map (withoutChannel channel.id)
        else db.servers.lookup id := by
  rw [pullChannel]
  rcases hserver : channel.server with - | serverId
  · exact ⟨db.servers, rfl, fun id => (if_neg (some_ne_none id).symm).symm⟩
  · obtain ⟨server, hlookup⟩ := mem_iff_exists_lookup.mp (hparent serverId hserver)
    have hfetch : exec (read fun db => db.fetchServer serverId) db
        = (.ok server, db) := exec_read_ok.mpr ⟨get_ok.mpr hlookup, rfl⟩
    refine ⟨db.servers.modify server.id (withoutChannel channel.id),
      (exec_bind_of_ok hfetch _).trans rfl, fun id => ?_⟩
    rw [hservers hlookup, lookup_modify_eq]
    simp only [some.injEq, eq_comm]

theorem channelGone_deleteChannel (hs : s.Keyed)
    (hchannel : s.db.channels.lookup channel.id = some channel) :
    ChannelGone channel s (exec (deleteChannel channel) s).2 := by
  let db₁ := deleteBulkMessages (·.channel = channel.id)
    (deleteAssociatedChannelObjects (· = channel.id) s.db)
  have hkept : MongoDb.RecordsKept (deleteAssociatedChannelObjects (· = channel.id) s.db)
      db₁ := deleteBulkMessages_keeps ..
  have hservers : db₁.servers = s.db.servers := hkept.servers
  have hkeyed : db₁.servers.KeyedBy Server.id := hservers ▸ hs.servers
  have hparent : ∀ serverId, channel.server = some serverId → serverId ∈ db₁.servers :=
    fun serverId hserver => hservers ▸ hs.parents channel.id channel serverId hchannel hserver
  obtain ⟨servers, hpull, hlookup⟩ := exec_pullChannel hkeyed hparent
  have hexec : (exec (MongoDb.deleteChannel channel) s.db).2
      = { deleteManyAttachments (·.usedFor.any (·.id = channel.id))
            { db₁ with servers := servers } with
          channels := db₁.channels.erase channel.id } := by
    have hfirst : exec (MongoDb.deleteChannel channel) s.db = exec (do
        MongoDb.pullChannel channel
        write fun db => .ok
          (MongoDb.deleteManyAttachments (·.usedFor.any (·.id = channel.id)) db)
        write fun db => .ok { db with channels := db.channels.erase channel.id }) db₁ := rfl
    rw [hfirst, exec_bind_of_ok hpull]
    rfl
  have hdb : (exec (deleteChannel channel) s).2.db
      = (exec (MongoDb.deleteChannel channel) s.db).2 := rfl
  refine ⟨?_, fun id => ?_, ?_, rfl, rfl⟩ <;> rw [hdb, hexec]
  · exact congrArg (AList.erase channel.id) hkept.channels
  · exact (hlookup id).trans (by rw [hservers])
  · exact hkept.channelUnreads

end MongoStore

/-- Taking a channel out of a server keeps its references exactly if no category lists it. -/
theorem Server.RefsOk.withoutChannel_iff (h : server.RefsOk) (id : String) :
    (withoutChannel id server).RefsOk ↔
      ∀ category ∈ server.categories.getD [], id ∉ category.channels := by
  constructor
  · intro hgone category hcategory hid
    have hlisted : id ∈ server.channels.filter (· ≠ id) :=
      hgone.categories.listed category hcategory id hid
    simp at hlisted
  · intro hfree
    refine ⟨⟨fun category hcategory channel hchannel => ?_, h.categories.disjoint⟩,
      fun sys hsys channel hchannel => ?_⟩
    · have hne : channel ≠ id := fun heq => hfree category hcategory (heq ▸ hchannel)
      exact mem_filter.mpr ⟨h.categories.listed category hcategory channel hchannel,
        decide_eq_true hne⟩
    · obtain ⟨before, hbefore, rfl⟩ := map_eq_some_iff.mp hsys
      -- an assignment that is left was there before, and is not to the channel
      have hunset : ∀ assigned : Option String,
          (if assigned = some id then none else assigned) = some channel ↔
            assigned = some channel ∧ channel ≠ id := by
        intro assigned
        by_cases heq : assigned = some id
        · simp [heq, eq_comm]
        · rw [if_neg heq]
          exact ⟨fun hsome => ⟨hsome, fun hid => heq (hid ▸ hsome)⟩, And.left⟩
      have hleft : channel ∈ before.channelIds ∧ channel ≠ id := by
        simp only [SystemMessageChannels.mem_channelIds, hunset] at hchannel ⊢
        tauto
      exact mem_filter.mpr ⟨h.systemMessages before hbefore channel hleft.1,
        decide_eq_true hleft.2⟩

namespace MongoStore

variable {s s' : MongoStore}

/-- No category of its server lists the channel, and it has no webhook. -/
structure Unlisted (s : MongoStore) (channel : Channel) : Prop where
  categories : ∀ id server, channel.server = some id → s.db.servers.lookup id = some server →
    ∀ category ∈ server.categories.getD [], channel.id ∉ category.channels
  webhooks : ∀ id webhook, s.channelWebhooks.lookup id = some webhook →
    webhook.channelId ≠ channel.id

theorem ChannelGone.keyed {channel : Channel} (h : ChannelGone channel s s') (hs : s.Keyed) :
    s'.Keyed := by
  refine ⟨fun id other hother => ?_, fun id server hserver => ?_,
    fun id other serverId hother hserver => ?_⟩
  · rw [h.channels] at hother
    exact hs.channels (lookup_erase_eq_some.mp hother).2
  · rw [h.servers] at hserver
    split at hserver
    · obtain ⟨before, hbefore, rfl⟩ := map_eq_some_iff.mp hserver
      show before.id = id
      exact hs.servers hbefore
    · exact hs.servers hserver
  · rw [h.channels] at hother
    obtain ⟨server, hlookup⟩ := mem_iff_exists_lookup.mp
      (hs.parents id other serverId (lookup_erase_eq_some.mp hother).2 hserver)
    rw [mem_iff_exists_lookup, h.servers, hlookup]
    split <;> exact ⟨_, rfl⟩

/-- **When deleting a channel breaks no reference.** -/
theorem ChannelGone.refsOk_iff {channel : Channel} (h : ChannelGone channel s s')
    (hs : s.RefsOk) : s'.RefsOk ↔ s.Unlisted channel := by
  have hstays : ∀ {id}, id ∈ s.db.channels → id ≠ channel.id → id ∈ s'.db.channels :=
    fun hid hne => h.channels ▸ AList.mem_erase.mpr ⟨hne, hid⟩
  constructor
  · intro hs'
    refine ⟨fun id server hparent hserver => ?_, fun id webhook hwebhook heq => ?_⟩
    · have hlookup : s'.db.servers.lookup id
          = some (withoutChannel channel.id server) := by
        rw [h.servers, if_pos hparent, hserver]
        rfl
      exact ((hs.servers id server hserver).withoutChannel_iff channel.id).mp
        (hs'.servers id _ hlookup)
    · have hmem := hs'.webhooks id webhook (h.webhooks ▸ hwebhook)
      rw [h.channels, heq] at hmem
      exact (AList.mem_erase.mp hmem).1 rfl
  · intro hfree
    refine ⟨fun id server hserver => ?_, fun code invite hinvite => ?_,
      fun id unread hunread => ?_, fun id webhook hwebhook => ?_⟩
    · rw [h.servers] at hserver
      split at hserver
      · next hparent =>
        obtain ⟨before, hbefore, rfl⟩ := map_eq_some_iff.mp hserver
        exact ((hs.servers id before hbefore).withoutChannel_iff channel.id).mpr
          (hfree.categories id before hparent hbefore)
      · exact hs.servers id server hserver
    · rw [h.invites, lookup_retain, filter_eq_some_iff] at hinvite
      exact hstays (hs.invites code invite hinvite.1) (of_decide_eq_true hinvite.2)
    · rw [h.unreads, lookup_retain, filter_eq_some_iff] at hunread
      exact hstays (hs.unreads id unread hunread.1) (by simpa using hunread.2)
    · rw [h.webhooks] at hwebhook
      exact hstays (hs.webhooks id webhook hwebhook) (hfree.webhooks id webhook hwebhook)

end MongoStore

namespace ReferenceRequest

variable {settings : Settings} {files : ReferenceFiles} {rest : Driver MongoStore}

/-- A channel that is deleted is in no category and has no webhook. -/
def DeletesUnlisted (s : MongoStore) : ReferenceRequest → Prop
  | deleteChannel id => ∀ channel, s.db.channels.lookup id = some channel → s.Unlisted channel
  | _ => True

variable {s : MongoStore}

/-- All requests but deletions come to writes that break no reference. -/
theorem writes_perform (hs : s.Keyed) (r : ReferenceRequest) (h : ∀ id, r ≠ .deleteChannel id) :
    ReflTransGen RefWrite s (exec (r.perform settings files rest) s).2 := by
  cases r with
  | createChannel user clock target data id =>
    exact writes_createChannel hs target data id
  | edit user clock validatedTicket target data =>
    rw [perform, store_bind_pure]
    exact writes_edit hs validatedTicket target data
  | createWebhook user clock channel data id token =>
    exact writes_createWebhook hs channel data id token
  | createInvite user clock channel code => exact writes_createInvite hs channel code
  | deleteChannel id => exact absurd rfl (h id)

/-- A deletion finds no channel and leaves the store, or the channel is gone. -/
theorem deleteChannel_cases (hs : s.Keyed) (id : String) :
    (s.db.channels.lookup id = none ∧
      (exec ((deleteChannel id).perform settings files rest) s).2 = s) ∨
    ∃ channel, s.db.channels.lookup id = some channel ∧ MongoStore.ChannelGone channel s
      (exec ((deleteChannel id).perform settings files rest) s).2 := by
  rw [perform]
  rcases hlookup : s.db.channels.lookup id with - | channel
  · have hget : exec (read fun s : MongoStore => get s.db.channels id) s
        = (.error (.error .notFound), s) := by
      refine exec_read_error ?_
      rw [ReferenceDb.get, hlookup]
    rw [exec_bind_of_error hget]
    exact .inl ⟨rfl, rfl⟩
  · have hget : exec (read fun s : MongoStore => get s.db.channels id) s
        = (.ok channel, s) := exec_read_ok.mpr ⟨get_ok.mpr hlookup, rfl⟩
    rw [exec_bind_of_ok hget]
    refine .inr ⟨channel, rfl, channelGone_deleteChannel hs ?_⟩
    rw [hs.channels hlookup]
    exact hlookup

theorem keyed_step {s' : MongoStore} (hs : s.Keyed) {r : ReferenceRequest}
    (hstep : step settings files rest s r = some s') : s'.Keyed := by
  obtain rfl := some.inj hstep
  by_cases hdelete : ∃ id, r = .deleteChannel id
  · obtain ⟨id, rfl⟩ := hdelete
    obtain ⟨-, hsame⟩ | ⟨channel, -, hgone⟩ := deleteChannel_cases hs id
    · rw [hsame]
      exact hs
    · exact hgone.keyed hs
  · exact keyed_of_writes (writes_perform hs r (not_exists.mp hdelete)) hs

theorem refsOk_step_iff (hs : s.Keyed) (hrefs : s.RefsOk) (r : ReferenceRequest) :
    (∀ s', step settings files rest s r = some s' → s'.RefsOk) ↔ r.DeletesUnlisted s := by
  have hnext : (∀ s', step settings files rest s r = some s' → s'.RefsOk) ↔
      (exec (r.perform settings files rest) s).2.RefsOk :=
    ⟨fun h => h _ rfl, fun h s' hs' => some.inj hs' ▸ h⟩
  rw [hnext]
  by_cases hdelete : ∃ id, r = .deleteChannel id
  · obtain ⟨id, rfl⟩ := hdelete
    obtain ⟨hnone, hsame⟩ | ⟨channel, hchannel, hgone⟩ := deleteChannel_cases hs id
    · rw [hsame]
      exact iff_of_true hrefs fun channel hchannel => (by cases hnone.symm.trans hchannel)
    · rw [hgone.refsOk_iff hrefs]
      refine ⟨fun hfree other hother => ?_, fun hfree => hfree channel hchannel⟩
      rwa [← some.inj (hchannel.symm.trans hother)]
  · have hwrites : ReflTransGen RefWrite s (exec (r.perform settings files rest) s).2 :=
      writes_perform hs r (not_exists.mp hdelete)
    refine iff_of_true (refsOk_of_writes hwrites hrefs) ?_
    cases r with
    | deleteChannel id => exact absurd ⟨id, rfl⟩ hdelete
    | _ => trivial

/-- **References to channels along a history.**  They hold throughout exactly if they hold at
the start and no channel is deleted while a category lists it or a webhook belongs to it. -/
theorem refsOk_always_iff (settings : Settings) (files : ReferenceFiles) (rest : Driver MongoStore)
    {s : MongoStore} (hs : s.Keyed) (requests : List ReferenceRequest) :
    Always (step settings files rest) MongoStore.RefsOk s requests ↔
      s.RefsOk ∧ EachStep (step settings files rest) (fun s r => r.DeletesUnlisted s) s
        requests :=
  always_iff_eachStep (Q := MongoStore.Keyed) (W := fun _ _ => True)
    (fun _ _ _ hs _ hstep => keyed_step hs hstep) (fun _ r hs _ hrefs => refsOk_step_iff hs hrefs r)
    hs fun _ _ _ _ _ => trivial

/-- A server without channels. -/
def exampleServer : MongoStore where
  db := { servers := (∅ : HashMap String Server).insert "s" { id := "s", owner := "a" } }

theorem keyed_exampleServer : exampleServer.Keyed where
  channels := keyedBy_empty
  servers := keyedBy_empty.insert ({ id := "s", owner := "a" } : Server)
  parents _ _ _ h := by cases h

/-- Every file is found. -/
def exampleFiles : ReferenceFiles where
  markAttachmentAsDeleted _ := .ok ()
  useServerIcon id _ _ := .ok { id := id }
  useServerBanner id _ _ := .ok { id := id }
  useWebhookAvatar id _ _ := .ok { id := id }

/-- A channel is created, put into a category, and deleted. -/
def exampleHistory : List ReferenceRequest :=
  [.createChannel { id := "a" } (Stream'.const 0) "s" { name := "channel" } "c",
    .edit { id := "a" } (Stream'.const 0) false "s"
      { categories := some [{ id := "k", title := "category", channels := ["c"] }] },
    .createWebhook { id := "a" } (Stream'.const 0) "c" { name := "webhook" } "w" "token",
    .deleteChannel "c"]

theorem refsOk_always_iff_created :
    Always (step Settings.shipped exampleFiles MongoStore.exampleRest) MongoStore.RefsOk
        exampleServer (exampleHistory.take 3) ↔
      exampleServer.RefsOk ∧ EachStep (step Settings.shipped exampleFiles MongoStore.exampleRest)
        (fun s r => r.DeletesUnlisted s) exampleServer (exampleHistory.take 3) :=
  refsOk_always_iff Settings.shipped exampleFiles exampleRest keyed_exampleServer
    (exampleHistory.take 3)

/-- The category and the webhook are left, and refer to a channel that is gone. -/
theorem refsOk_left_behind :
    ∃ s, run (step Settings.shipped exampleFiles MongoStore.exampleRest) exampleServer
        exampleHistory = some s ∧
      "c" ∉ s.db.channels ∧
      (s.db.servers.lookup "s").map (fun server => (server.channels, server.categories))
        = some ([], some [{ id := "k", title := "category", channels := ["c"] }]) ∧
      (s.channelWebhooks.lookup "w").map (·.channelId) = some "c" ∧ ¬ s.RefsOk := by
  refine exists_run_of (fun s => "c" ∉ s.db.channels ∧
    (s.db.servers.lookup "s").map (fun server => (server.channels, server.categories))
      = some ([], some [{ id := "k", title := "category", channels := ["c"] }]) ∧
    (s.channelWebhooks.lookup "w").map (·.channelId) = some "c") (by decide +kernel) ?_
  rintro s - ⟨hgone, hserver, hwebhook⟩
  refine ⟨hgone, hserver, hwebhook, fun hrefs => hgone ?_⟩
  obtain ⟨webhook, hlookup, hchannel⟩ := Option.map_eq_some_iff.mp hwebhook
  rw [← hchannel]
  exact hrefs.webhooks "w" webhook hlookup

end ReferenceRequest

end DawnChat
