/-
DawnChat/Channels/Groups.lean

Groups on the MongoDB driver (`Channel::create_group`, `add_user_to_group`,
`remove_user_from_group`, and the route that edits a channel).

A group has an owner and recipients, and every request checks them on the copy that it
has fetched before it writes.  The writes are updates of one field each: `$push` and
`$pull` on the recipients, `$set` of the owner, and the deletion of the document.  What
they do is read off the roster, which is the owner with the recipients.

Here requests come one after the other.  What one of them does to a roster is a
`RosterStep`, with the check that was made, and `groups_always` follows: the owner is
among the recipients, who are different and not too many.
-/
import DawnChat.Files.Use
import DawnChat.Messages.Delete
import DawnChat.Routes.Limits
import Mathlib.Data.Finset.Sort

namespace DawnChat

open RustStd Fallible Handler Run ReferenceDb List MongoDb Except AList

/-! ### The MongoDB driver -/

namespace MongoDb

/-- Insert a user to a group: `$push` to the recipients. -/
def addUserToGroup (channel user : String) (db : ReferenceDb) : Result ReferenceDb :=
  .ok { db with
    channels := db.channels.modify channel fun data =>
      data.withRecipients (data.recipients ++ [user]) }

/-- `$set` of the fields that are given, as they are read back for each kind of channel.
Unlike `apply_options` it does not leave out fields. -/
def setFields (p : PartialChannel) : Channel → Channel
  | .savedMessages c => .savedMessages c
  | .directMessage c =>
    .directMessage { c with
      active := p.active.getD c.active
      lastMessageId := p.lastMessageId.or c.lastMessageId }
  | .group c =>
    .group { c with
      name := p.name.getD c.name
      owner := p.owner.getD c.owner
      description := p.description.or c.description
      icon := p.icon.or c.icon
      lastMessageId := p.lastMessageId.or c.lastMessageId
      permissions := p.permissions.or c.permissions
      nsfw := p.nsfw.getD c.nsfw }
  | .textChannel c =>
    .textChannel { c with
      name := p.name.getD c.name
      description := p.description.or c.description
      icon := p.icon.or c.icon
      lastMessageId := p.lastMessageId.or c.lastMessageId
      defaultPermissions := p.defaultPermissions.or c.defaultPermissions
      rolePermissions := p.rolePermissions.getD c.rolePermissions
      nsfw := p.nsfw.getD c.nsfw
      voice := p.voice.or c.voice
      slowmode := p.slowmode.or c.slowmode }

/-- The field is set by an update. -/
def sets (p : PartialChannel) : FieldsChannel → Bool
  | .description => p.description.isSome
  | .icon => p.icon.isSome
  | .defaultPermissions => p.defaultPermissions.isSome
  | .voice => p.voice.isSome

/-- Update channel (`update_channel` for stored channels of any kind).  An update cannot set and
unset the same field. -/
def updateStoredChannel (id : String) (p : PartialChannel) (remove : List FieldsChannel)
    (db : ReferenceDb) : Result ReferenceDb :=
  if remove.any (sets p) then .error (.databaseError "update_one_by_id" "channels")
  else .ok { db with
    channels := db.channels.modify id fun data =>
      setFields p (remove.foldl Channel.removeField data) }

end MongoDb

/-! ### Requests -/

/-- The order in which a hash set is iterated. -/
structure SetOrder where
  toList : Finset String → List String
  nodup : ∀ S, (toList S).Nodup
  mem_toList : ∀ S a, a ∈ toList S ↔ a ∈ S

/-- Create new group. -/
structure DataCreateGroup where
  name : String
  description : Option String := none
  icon : Option String := none
  users : Finset String := ∅
  nsfw : Option Bool := none

structure DataEditChannel where
  name : Option String := none
  description : Option String := none
  owner : Option String := none
  icon : Option String := none
  nsfw : Option Bool := none
  voice : Option VoiceInformation := none
  slowmode : Option Nat := none
  remove : List FieldsChannel := []
  deriving DecidableEq

namespace DataEditChannel

def validate (data : DataEditChannel) : Result Unit :=
  if (data.name.all fun name => 1 ≤ name.length && name.length ≤ 32) ∧
      (data.description.all fun description => description.length ≤ 1024) ∧
      (data.icon.all fun icon => 1 ≤ icon.length && icon.length ≤ 128) ∧
      data.slowmode.all (· ≤ 21600) then .ok ()
  else .error .failedValidation

/-- Whether the group can be handed over to the new owner, if one is given. -/
def checkOwner (data : DataEditChannel) (user : User) (channel : Channel) : Result Unit :=
  match data.owner, channel with
  | none, _ => .ok ()
  | some newOwner, .group c =>
    -- make sure we are the owner of this group
    if c.owner ≠ user.id then .error .notOwner
    -- ensure user is part of group
    else if newOwner ∉ c.recipients then .error .notInGroup
    else .ok ()
  | some _, _ => .error .invalidOperation

/-- What is written, with the icon that has been looked up. -/
def changes (data : DataEditChannel) (icon : Option File) : Channel → Result PartialChannel
  | .group _ => .ok
      { owner := data.owner, icon := icon, name := data.name, description := data.description
        nsfw := data.nsfw }
  | .textChannel _ => .ok
      { owner := data.owner, icon := icon, name := data.name, description := data.description
        nsfw := data.nsfw, voice := data.voice, slowmode := data.slowmode }
  | _ => .error .invalidOperation

end DataEditChannel

namespace Channel

def icon : Channel → Option File
  | group c => c.icon
  | textChannel c => c.icon
  | _ => none

end Channel

/-- Use a file for a channel icon. -/
def File.useChannelIcon (id parent uploaderId : String) : Request ReferenceDb File :=
  MongoDb.findAndUseAttachment id "icons" ⟨.channelIcon, parent⟩ uploaderId

namespace Groups

/-- Use the icon that is asked for, if there is one. -/
def useIcon (iconId : Option String) (parent uploaderId : String) :
    Request ReferenceDb (Option File) :=
  match iconId with
  | some iconId => some <$> File.useChannelIcon iconId parent uploaderId
  | none => pure none

/-- Mark the icon of a channel as deleted if it is to be removed. -/
def releaseIcon (channel : Channel) (remove : List FieldsChannel) : Request ReferenceDb Unit :=
  match channel.icon with
  | some icon =>
    if .icon ∈ remove then
      write fun db => .ok (MongoDb.markAttachmentsAsDeleted [icon.id] db)
    else pure ()
  | none => pure ()

section Requests

variable (settings : Settings)

/-- Create a group. -/
def createGroup (order : SetOrder) (data : DataCreateGroup) (ownerId id : String) :
    Request ReferenceDb Channel := do
  let users := insert ownerId data.users
  let max := settings.features.limits.global.groupSize
  throwIf (users.card > max) (.groupTooLarge max)
  let icon ← useIcon data.icon id ownerId
  let channel := Channel.group
    { id := id
      name := data.name
      owner := ownerId
      description := data.description
      recipients := order.toList users
      icon := icon
      nsfw := data.nsfw.getD false }
  write (MongoDb.insertChannel channel)
  return channel

/-- Whether a user can be added to the group. -/
def checkAdd (user : User) (c : Group) : Result Unit :=
  let max := settings.features.limits.global.groupSize
  if user.id ∈ c.recipients then .error .alreadyInGroup
  else if c.recipients.length ≥ max then .error (.groupTooLarge max)
  else .ok ()

/-- Add user to a group. -/
def addUserToGroup (channel : Channel) (user : User) : Request ReferenceDb Unit :=
  match channel with
  | .group c => do
      ofExcept (checkAdd settings user c)
      write (MongoDb.addUserToGroup c.id user.id)
  | _ => fail .invalidOperation

/-- Remove user from a group. -/
def removeUserFromGroup (channel : Channel) (user : User) : Request ReferenceDb Unit :=
  match channel with
  | .group c =>
    if user.id = c.owner then
      match c.recipients.find? (· ≠ user.id) with
      | some newOwner => do
          write (MongoDb.updateStoredChannel c.id { owner := some newOwner } [])
          write (MongoDb.removeUserFromGroup c.id user.id)
      | none => MongoDb.deleteChannel channel
    else write (MongoDb.removeUserFromGroup c.id user.id)
  | _ => fail .invalidOperation

/-- Write what an edit asks for. -/
def editFields (user : User) (channel : Channel) (data : DataEditChannel) :
    Request ReferenceDb Channel := do
  -- channels of other kinds are refused before anything is written
  let _ ← ofExcept (data.changes none channel)
  releaseIcon channel data.remove
  let icon ← useIcon data.icon channel.id user.id
  let p ← ofExcept (data.changes icon channel)
  write (MongoDb.updateStoredChannel channel.id p data.remove)
  return MongoDb.setFields p (data.remove.foldl Channel.removeField channel)

/-- Edit a channel object by its id. -/
def edit (user : User) (clock : Stream' Timestamp) (target : String) (data : DataEditChannel) :
    Request ReferenceDb Channel := do
  ofExcept data.validate
  let channel ← read fun db => ReferenceDb.get db.channels target
  let db ← get
  let query ← ofOption (calculateChannelPermissions.run
    ((DatabasePermissionQuery.new db.database user clock).withChannel channel))
  ofExcept (query.1.throwIfLackingChannelPermission .manageChannel)
  if data = {} then return channel
  else
    ofExcept (data.checkOwner user channel)
    editFields user channel data

end Requests

end Groups

/-! ### Rosters -/

/-- The owner and the recipients of a group. -/
structure Roster where
  owner : String
  recipients : List String
  deriving DecidableEq, Repr

/-- The updates that change a roster. -/
inductive RosterWrite where
  /-- `$push` -/
  | push (user : String)
  /-- `$pull` -/
  | pull (user : String)
  /-- `$set` -/
  | setOwner (user : String)
  | delete
  deriving DecidableEq, Repr

/-- The roster afterwards; `none` if there is no group. -/
def RosterWrite.apply (r : Option Roster) : RosterWrite → Option Roster
  | push user => r.map fun r => { r with recipients := r.recipients ++ [user] }
  | pull user => r.map fun r => { r with recipients := r.recipients.filter (· ≠ user) }
  | setOwner user => r.map fun r => { r with owner := user }
  | delete => none

def Group.roster (c : Group) : Roster := ⟨c.owner, c.recipients⟩

def Channel.roster : Channel → Option Roster
  | group c => some c.roster
  | _ => none

/-- The roster that is stored under an id. -/
def ReferenceDb.roster (db : ReferenceDb) (id : String) : Option Roster :=
  (db.channels.lookup id).bind Channel.roster

open Groups

open RosterWrite

section Writes

variable {db db' : ReferenceDb} {id user : String}

theorem ReferenceDb.roster_eq_some {r : Roster} :
    db.roster id = some r ↔ ∃ c, db.channels.lookup id = some (.group c) ∧ c.roster = r := by
  rw [roster, Option.bind_eq_some_iff]
  constructor
  · rintro ⟨channel, hlookup, hr⟩
    cases channel with
    | group c => exact ⟨c, hlookup, Option.some.inj hr⟩
    | _ => cases hr
  · rintro ⟨c, hlookup, rfl⟩
    exact ⟨.group c, hlookup, rfl⟩

/-- An update of one channel is one of its roster. -/
theorem ReferenceDb.roster_modify {f : Channel → Channel} {g : Roster → Roster}
    (h : ∀ channel, (f channel).roster = channel.roster.map g) (db : ReferenceDb)
    (id other : String) :
    { db with channels := db.channels.modify id f }.roster other
      = if other = id then (db.roster id).map g else db.roster other := by
  rw [roster, roster, roster, HashMap.lookup_modify_eq]
  by_cases hid : other = id
  · rw [if_pos hid, if_pos hid, ← hid]
    rcases db.channels.lookup other with - | channel
    · rfl
    · exact h channel
  · rw [if_neg hid, if_neg hid]

theorem MongoDb.roster_addUserToGroup (h : addUserToGroup id user db = .ok db') (other : String) :
    db'.roster other
      = if other = id then (push user).apply (db.roster id) else db.roster other := by
  obtain rfl := ok.inj h
  exact roster_modify (fun channel => by cases channel <;> rfl) db id other

theorem MongoDb.roster_removeUserFromGroup (h : removeUserFromGroup id user db = .ok db')
    (other : String) :
    db'.roster other
      = if other = id then (pull user).apply (db.roster id) else db.roster other := by
  obtain rfl := ok.inj h
  exact roster_modify (fun channel => by cases channel <;> rfl) db id other

theorem roster_removeField (channel : Channel) (field : FieldsChannel) :
    (channel.removeField field).roster = channel.roster := by
  cases channel <;> cases field <;> rfl

theorem MongoDb.roster_setFields (p : PartialChannel) (channel : Channel)
    (remove : List FieldsChannel) :
    (setFields p (remove.foldl Channel.removeField channel)).roster
      = channel.roster.map fun r => { r with owner := p.owner.getD r.owner } := by
  have hremove : (remove.foldl Channel.removeField channel).roster = channel.roster := by
    induction remove generalizing channel with
    | nil => rfl
    | cons field remove ih => rw [foldl_cons, ih, roster_removeField]
  rw [← hremove]
  cases remove.foldl Channel.removeField channel <;> rfl

/-- An update changes the owner, if one is given. -/
theorem MongoDb.roster_updateStoredChannel {p : PartialChannel} {remove : List FieldsChannel}
    (h : updateStoredChannel id p remove db = .ok db') (other : String) :
    db'.roster other
      = if other = id then (db.roster id).map fun r => { r with owner := p.owner.getD r.owner }
        else db.roster other := by
  obtain ⟨-, rfl⟩ := ite_error_eq_ok.mp h
  exact roster_modify (fun channel => roster_setFields p channel remove) db id other

/-- The deletion of a channel outside of servers, and what it leaves of the channels. -/
theorem MongoDb.exec_deleteChannel {channel : Channel} (h : channel.server = none)
    (db : ReferenceDb) :
    ∃ db', exec (deleteChannel channel) db = (.ok (), db') ∧
      db'.channels = db.channels.erase channel.id := by
  simp only [deleteChannel, pullChannel, h, exec_bind, exec_write, exec_pure]
  refine ⟨_, rfl, ?_⟩
  show (deleteBulkMessages _ (deleteAssociatedChannelObjects _ db)).channels.erase channel.id = _
  rw [(deleteBulkMessages_keeps _ _).channels]
  rfl

/-- The channels stay as they are. -/
abbrev KeepsChannels {α : Type} (x : Request ReferenceDb α) : Prop :=
  Handler.Relates (fun db db' : ReferenceDb => db'.channels = db.channels) x

/-- Icons are files. -/
theorem keepsChannels_useIcon (iconId : Option String) (parent uploaderId : String) :
    KeepsChannels (useIcon iconId parent uploaderId) := by
  rcases iconId with - | iconId
  · exact fun db => rfl
  · intro db
    rw [useIcon, map_eq_pure_bind, store_bind_pure, File.useChannelIcon,
      MongoDb.findAndUseAttachment]
    exact store_of_read_bind (P := fun db' : ReferenceDb => db'.channels = db.channels) rfl
      fun _ _ => rfl

theorem keepsChannels_releaseIcon (channel : Channel) (remove : List FieldsChannel) :
    KeepsChannels (releaseIcon channel remove) := by
  intro db
  rw [releaseIcon]
  split
  · split <;> rfl
  · rfl

end Writes

/-! ### What a request does to a roster -/

namespace Roster

/-- The owner is among the recipients, who are different and not too many. -/
structure Ok (max : Nat) (r : Roster) : Prop where
  owner : r.owner ∈ r.recipients
  nodup : r.recipients.Nodup
  size : r.recipients.length ≤ max

end Roster

/-- One request changes one roster in one of these ways. -/
inductive RosterStep (max : Nat) : Option Roster → Option Roster → Prop
  | same (r : Option Roster) : RosterStep max r r
  | created {r : Roster} (hok : r.Ok max) : RosterStep max none (some r)
  | added {r : Roster} {user : String} (huser : user ∉ r.recipients)
      (hsize : r.recipients.length < max) :
      RosterStep max (some r) ((RosterWrite.push user).apply (some r))
  | removed {r : Roster} {user : String} (howner : user ≠ r.owner) :
      RosterStep max (some r) ((RosterWrite.pull user).apply (some r))
  | transferred {r : Roster} {user : String} (huser : user ∈ r.recipients) :
      RosterStep max (some r) ((RosterWrite.setOwner user).apply (some r))
  /-- The owner leaves. -/
  | left {r : Roster} {user : String} (huser : user ∈ r.recipients) (howner : user ≠ r.owner) :
      RosterStep max (some r)
        ((RosterWrite.pull r.owner).apply ((RosterWrite.setOwner user).apply (some r)))
  /-- The owner leaves and nobody is left. -/
  | deleted {r : Roster} (halone : ∀ user ∈ r.recipients, user = r.owner) :
      RosterStep max (some r) (RosterWrite.delete.apply (some r))

/-- Every way of changing a roster keeps it in order. -/
theorem RosterStep.ok {max : Nat} {before after : Option Roster} (h : RosterStep max before after)
    (hbefore : ∀ r, before = some r → r.Ok max) {r : Roster} (hr : after = some r) : r.Ok max := by
  cases h with
  | same => exact hbefore r hr
  | created hok =>
    obtain rfl := Option.some.inj hr
    exact hok
  | @added r₀ user huser hsize =>
    obtain rfl := Option.some.inj hr
    have hok := hbefore r₀ rfl
    refine ⟨mem_append_left _ hok.owner, ?_, ?_⟩
    · have hnodup := hok.nodup.concat huser
      rwa [concat_eq_append] at hnodup
    · rw [length_append, length_singleton]
      exact hsize
  | @removed r₀ user howner =>
    obtain rfl := Option.some.inj hr
    have hok := hbefore r₀ rfl
    refine ⟨?_, hok.nodup.filter _, (length_filter_le _ _).trans hok.size⟩
    exact mem_filter.mpr ⟨hok.owner, decide_eq_true howner.symm⟩
  | @transferred r₀ user huser =>
    obtain rfl := Option.some.inj hr
    have hok := hbefore r₀ rfl
    exact ⟨huser, hok.nodup, hok.size⟩
  | @left r₀ user huser howner =>
    obtain rfl := Option.some.inj hr
    have hok := hbefore r₀ rfl
    refine ⟨?_, hok.nodup.filter _, (length_filter_le _ _).trans hok.size⟩
    exact mem_filter.mpr ⟨huser, decide_eq_true howner⟩
  | deleted => cases hr

/-- What a request does to the channels. -/
structure GroupsChange (max : Nat) (db db' : ReferenceDb) : Prop where
  keyed : db'.channels.KeyedBy Channel.id
  rosters : ∀ id, RosterStep max (db.roster id) (db'.roster id)

namespace Groups

section Changes

variable {settings : Settings} {db db' : ReferenceDb} {max : Nat}
  {id : String} {c : Group} {channel : Channel} {user : User}

/-- One roster is changed. -/
theorem change_of_roster {r : Option Roster} (hkeyed : db'.channels.KeyedBy Channel.id)
    (hroster : ∀ other, db'.roster other = if other = id then r else db.roster other)
    (hstep : RosterStep max (db.roster id) r) : GroupsChange max db db' where
  keyed := hkeyed
  rosters other := by
    rw [hroster]
    split
    · next hid =>
      rw [hid]
      exact hstep
    · exact .same _

theorem id_withRecipients (channel : Channel) (recipients : List String) :
    (channel.withRecipients recipients).id = channel.id := by
  cases channel <;> rfl

theorem id_setFields (p : PartialChannel) (channel : Channel) (remove : List FieldsChannel) :
    (setFields p (remove.foldl Channel.removeField channel)).id = channel.id := by
  rw [← (Channel.update_keeps channel p remove).1]
  cases remove.foldl Channel.removeField channel <;> rfl

theorem length_toList (order : SetOrder) (S : Finset String) :
    (order.toList S).length = S.card := by
  have htoFinset : (order.toList S).toFinset = S :=
    Finset.ext fun a => mem_toFinset.trans (order.mem_toList S a)
  rw [← toFinset_card_of_nodup (order.nodup S), htoFinset]

/-- The owner leaves, and nobody is left. -/
theorem exec_removeUserFromGroup_alone (howner : user.id = c.owner)
    (hfind : c.recipients.find? (· ≠ user.id) = none) (db : ReferenceDb) :
    (exec (removeUserFromGroup (.group c) user) db).2.channels
      = db.channels.erase c.id := by
  rw [removeUserFromGroup, if_pos howner, hfind]
  have hserver : (Channel.group c).server = none := rfl
  obtain ⟨db', hexec, hchannels⟩ := exec_deleteChannel hserver db
  dsimp only
  rw [hexec]
  exact hchannels

theorem roster_of_erase (h : db'.channels = db.channels.erase id) (other : String) :
    db'.roster other = if other = id then none else db.roster other := by
  rw [roster, h]
  by_cases hid : other = id
  · rw [if_pos hid, hid, lookup_erase]
    rfl
  · rw [if_neg hid, lookup_erase_ne hid]
    rfl

theorem checkOwner_ok {data : DataEditChannel} (h : data.checkOwner user (.group c) = .ok ()) :
    ∀ newOwner ∈ data.owner,
      newOwner ∈ c.recipients := by
  intro newOwner hdata
  simp only [DataEditChannel.checkOwner, Option.mem_def.mp hdata] at h
  split at h
  · cases h
  · split at h
    · cases h
    · next hmem => exact not_not.mp hmem

variable (h : db.channels.KeyedBy Channel.id)

include h

/-- Channels are left alone. -/
theorem change_of_channels (hchannels : db'.channels = db.channels) :
    GroupsChange max db db' where
  keyed := hchannels ▸ h
  rosters id := by
    rw [roster, roster, hchannels]
    exact .same _

theorem change_refl : GroupsChange max db db :=
  change_of_channels h rfl

/-- Statements that leave the channels alone can come first. -/
theorem change_bind {α β : Type} {x : Request ReferenceDb α} {f : α → Request ReferenceDb β}
    (hx : KeepsChannels x)
    (hf : ∀ a s₁, exec x db = (.ok a, s₁) → s₁.channels.KeyedBy Channel.id →
      GroupsChange max s₁ (exec (f a) s₁).2) :
    GroupsChange max db (exec (x >>= f) db).2 := by
  have hchannels := hx db
  refine store_of_bind (fun e s₁ hexec => ?_) (fun a s₁ hexec => ?_)
  · rw [hexec] at hchannels
    exact change_of_channels h hchannels
  · rw [hexec] at hchannels
    have hchange := hf a s₁ hexec (hchannels ▸ h)
    refine ⟨hchange.keyed, fun id => ?_⟩
    have hroster : db.roster id = s₁.roster id := by
      rw [roster, roster, hchannels]
    rw [hroster]
    exact hchange.rosters id

theorem keyed_updateStoredChannel {p : PartialChannel} {remove : List FieldsChannel}
    (hupdate : updateStoredChannel id p remove db = .ok db') :
    db'.channels.KeyedBy Channel.id := by
  obtain ⟨-, rfl⟩ := ite_error_eq_ok.mp hupdate
  exact h.modify fun channel _ => id_setFields p channel remove

theorem keyed_addUserToGroup {user : String}
    (hadd : MongoDb.addUserToGroup id user db = .ok db') : db'.channels.KeyedBy Channel.id := by
  obtain rfl := ok.inj hadd
  exact h.modify fun channel _ => id_withRecipients channel _

theorem keyed_removeUserFromGroup {user : String}
    (hremove : MongoDb.removeUserFromGroup id user db = .ok db') :
    db'.channels.KeyedBy Channel.id := by
  obtain rfl := ok.inj hremove
  exact h.modify fun channel _ => id_withRecipients channel _

theorem change_insertChannel (hok : c.roster.Ok max)
    (hinsert : MongoDb.insertChannel (.group c) db = .ok db') : GroupsChange max db db' := by
  rw [MongoDb.insertChannel] at hinsert
  split at hinsert
  · cases hinsert
  next hnew =>
  obtain rfl := ok.inj hinsert
  have hstep : RosterStep max (db.roster c.id) (some c.roster) := by
    have hnone : db.channels.lookup c.id = none := lookup_eq_none.mpr hnew
    rw [roster, hnone]
    exact .created hok
  refine change_of_roster (h.insert (.group c)) (fun other => ?_) hstep
  show Option.bind ((db.channels.insert c.id (.group c)).lookup other) Channel.roster = _
  by_cases hid : other = c.id
  · rw [if_pos hid, hid, lookup_insert]
    rfl
  · rw [if_neg hid, lookup_insert_ne hid]
    rfl

theorem change_createGroup (order : SetOrder) (data : DataCreateGroup) (ownerId id : String) :
    GroupsChange settings.features.limits.global.groupSize db
      (exec (createGroup settings order data ownerId id) db).2 := by
  rw [createGroup]
  refine store_of_throwIf_bind (change_refl h) fun hsize => ?_
  refine change_bind h (keepsChannels_useIcon data.icon id ownerId) fun icon s₁ _ hs₁ => ?_
  rw [store_bind_pure]
  refine store_of_write (change_refl hs₁) fun s₂ hinsert => ?_
  refine change_insertChannel hs₁ ?_ hinsert
  exact
    { owner := (order.mem_toList _ _).mpr (Finset.mem_insert_self _ _)
      nodup := order.nodup _
      size := (length_toList order _).trans_le (not_lt.mp hsize) }

theorem change_addUserToGroup (hstored : db.channels.lookup channel.id = some channel)
    (user : User) :
    GroupsChange settings.features.limits.global.groupSize db
      (exec (addUserToGroup settings channel user) db).2 := by
  cases channel with
  | group c =>
    have hroster : db.roster c.id = some c.roster :=
      roster_eq_some.mpr ⟨c, hstored, rfl⟩
    refine store_of_ofExcept_bind (change_refl h) fun _ hcheck => ?_
    refine store_of_write (change_refl h) fun db' hadd => ?_
    rw [checkAdd] at hcheck
    split at hcheck
    · cases hcheck
    next hmem =>
    split at hcheck
    · cases hcheck
    next hsize =>
    refine change_of_roster (keyed_addUserToGroup h hadd) (roster_addUserToGroup hadd) ?_
    rw [hroster]
    exact .added hmem (not_le.mp hsize)
  | _ => exact change_refl h

/-- The owner leaves, and somebody else takes over. -/
theorem exec_removeUserFromGroup_left (howner : user.id = c.owner) {newOwner : String}
    (hfind : c.recipients.find? (· ≠ user.id) = some newOwner) :
    let db' := (exec (removeUserFromGroup (.group c) user) db).2
    db'.channels.KeyedBy Channel.id ∧ ∀ other, db'.roster other
      = if other = c.id then (pull c.owner).apply
          ((setOwner newOwner).apply (db.roster c.id))
        else db.roster other := by
  obtain ⟨db₁, hupdate⟩ : ∃ db₁, updateStoredChannel c.id { owner := some newOwner } [] db
      = .ok db₁ := ⟨_, rfl⟩
  obtain ⟨db₂, hremove⟩ : ∃ db₂, MongoDb.removeUserFromGroup c.id c.owner db₁ = .ok db₂ :=
    ⟨_, rfl⟩
  have hexec : exec (removeUserFromGroup (.group c) user) db = (.ok (), db₂) := by
    rw [removeUserFromGroup, if_pos howner, hfind, howner]
    dsimp only
    rw [exec_bind_of_ok (exec_write_ok (u := ()) |>.mpr hupdate), exec_write_ok]
    exact hremove
  rw [hexec]
  refine ⟨keyed_removeUserFromGroup (keyed_updateStoredChannel h hupdate) hremove, fun other => ?_⟩
  rw [roster_removeUserFromGroup hremove, roster_updateStoredChannel hupdate,
    roster_updateStoredChannel hupdate, if_pos rfl]
  split <;> rfl

theorem keyed_erase (hchannels : db'.channels = db.channels.erase id) :
    db'.channels.KeyedBy Channel.id := by
  rw [hchannels]
  exact fun k channel hlookup => h (HashMap.lookup_erase_eq_some.mp hlookup).2

theorem change_removeUserFromGroup (hstored : db.channels.lookup channel.id = some channel)
    (user : User) :
    GroupsChange max db (exec (removeUserFromGroup channel user) db).2 := by
  cases channel with
  | group c =>
    have hroster : db.roster c.id = some c.roster :=
      roster_eq_some.mpr ⟨c, hstored, rfl⟩
    by_cases howner : user.id = c.owner
    · rcases hfind : c.recipients.find? (· ≠ user.id) with - | newOwner
      · have hchannels := exec_removeUserFromGroup_alone howner hfind db
        refine change_of_roster (keyed_erase h hchannels) (roster_of_erase hchannels) ?_
        rw [hroster]
        refine .deleted fun other hother => ?_
        have hall := find?_eq_none.mp hfind other hother
        rw [decide_eq_true_iff, not_not] at hall
        exact hall.trans howner
      · obtain ⟨hkeyed, hrosters⟩ := exec_removeUserFromGroup_left h howner hfind
        refine change_of_roster hkeyed hrosters ?_
        rw [hroster]
        have hne := find?_some hfind
        rw [howner] at hne
        exact .left (mem_of_find?_eq_some hfind) (of_decide_eq_true hne)
    · rw [removeUserFromGroup, if_neg howner]
      refine store_of_write (change_refl h) fun db' hremove => ?_
      refine change_of_roster (keyed_removeUserFromGroup h hremove)
        (roster_removeUserFromGroup hremove) ?_
      rw [hroster]
      exact .removed howner
  | _ => exact change_refl h

theorem change_editFields {data : DataEditChannel}
    (hstored : db.channels.lookup channel.id = some channel)
    (hcheck : data.checkOwner user channel = .ok ()) :
    GroupsChange max db (exec (editFields user channel data) db).2 := by
  rw [editFields]
  refine store_of_ofExcept_bind (change_refl h) fun _ _ => ?_
  have hkeeps : KeepsChannels (do
      releaseIcon channel data.remove
      useIcon data.icon channel.id user.id) :=
    (keepsChannels_releaseIcon channel data.remove).bind (fun h h' => h'.trans h)
      fun _ => keepsChannels_useIcon data.icon channel.id user.id
  rw [← bind_assoc]
  refine change_bind h hkeeps fun icon s₁ hexec hs₁ => ?_
  have hchannels := hkeeps db
  rw [hexec] at hchannels
  refine store_of_ofExcept_bind (change_refl hs₁) fun p hp => ?_
  rw [store_bind_pure]
  refine store_of_write (change_refl hs₁) fun db' hupdate => ?_
  refine change_of_roster (keyed_updateStoredChannel hs₁ hupdate)
    (roster_updateStoredChannel hupdate) ?_
  rw [roster, hchannels, hstored]
  cases channel with
  | group c =>
    obtain rfl := ok.inj hp
    rcases howner : data.owner with - | newOwner
    · exact .same _
    · exact .transferred (checkOwner_ok hcheck newOwner howner)
  | _ => exact .same _

theorem change_edit (user : User) (clock : Stream' Timestamp) (target : String)
    (data : DataEditChannel) :
    GroupsChange max db (exec (edit user clock target data) db).2 := by
  rw [edit]
  refine store_of_ofExcept_bind (change_refl h) fun _ _ => ?_
  refine store_of_read_bind (change_refl h) fun channel hget => ?_
  refine store_of_get_bind ?_
  refine store_of_ofOption_bind (change_refl h) fun query _ => ?_
  refine store_of_ofExcept_bind (change_refl h) fun _ _ => ?_
  split
  · exact change_refl h
  · refine store_of_ofExcept_bind (change_refl h) fun _ hcheck => ?_
    have hlookup := get_ok.mp hget
    rw [← h hlookup] at hlookup
    exact change_editFields h hlookup hcheck

end Changes

end Groups

/-! ### One request after the other -/

/-- A request on groups.  Members of groups are added and removed on the channel as it is
fetched. -/
inductive GroupRequest where
  | create (data : DataCreateGroup) (ownerId id : String)
  | add (channel : String) (user : User)
  | remove (channel : String) (user : User)
  | edit (user : User) (clock : Stream' Timestamp) (target : String) (data : DataEditChannel)

namespace GroupRequest

section Runs

variable (settings : Settings) (order : SetOrder)

def perform : GroupRequest → Request ReferenceDb Unit
  | create data ownerId id => do
      let _ ← Groups.createGroup settings order data ownerId id
  | add channel user => do
      let channel ← read fun db => ReferenceDb.get db.channels channel
      Groups.addUserToGroup settings channel user
  | remove channel user => do
      let channel ← read fun db => ReferenceDb.get db.channels channel
      Groups.removeUserFromGroup channel user
  | edit user clock target data => do
      let _ ← Groups.edit user clock target data

/-- The database after a request, whether it is successful or not. -/
def step (db : ReferenceDb) (request : GroupRequest) : Option ReferenceDb :=
  some (exec (request.perform settings order) db).2

end Runs

variable {settings : Settings} {order : SetOrder} {db : ReferenceDb}

theorem change_perform (h : db.channels.KeyedBy Channel.id) (request : GroupRequest) :
    GroupsChange settings.features.limits.global.groupSize db
      (exec (request.perform settings order) db).2 := by
  cases request with
  | create data ownerId id =>
    rw [perform, store_bind_pure]
    exact change_createGroup h order data ownerId id
  | add channel user =>
    refine store_of_read_bind (change_refl h) fun c hget => ?_
    have hlookup := get_ok.mp hget
    rw [← h hlookup] at hlookup
    exact change_addUserToGroup h hlookup user
  | remove channel user =>
    refine store_of_read_bind (change_refl h) fun c hget => ?_
    have hlookup := get_ok.mp hget
    rw [← h hlookup] at hlookup
    exact change_removeUserFromGroup h hlookup user
  | edit user clock target data =>
    rw [perform, store_bind_pure]
    exact change_edit h user clock target data

end GroupRequest

/-- All groups are in order. -/
structure ReferenceDb.GroupsOk (max : Nat) (db : ReferenceDb) : Prop where
  keyed : db.channels.KeyedBy Channel.id
  rosters : ∀ id r, db.roster id = some r → r.Ok max ∧ r.recipients ≠ []

/-- When the owner leaves, one of the others takes over; the group is gone if there is nobody. -/
def GroupRequest.OwnerReplaced (settings : Settings) (order : SetOrder) (db : ReferenceDb)
    (request : GroupRequest) : Prop :=
  ∀ channel user r, request = .remove channel user → db.roster channel = some r →
    user.id = r.owner →
    let db' := (exec (request.perform settings order) db).2
    (r.recipients = [r.owner] → db'.channels.lookup channel = none) ∧
    (r.recipients ≠ [r.owner] → ∃ newOwner ∈ r.recipients, newOwner ≠ r.owner ∧
      db'.roster channel = some ⟨newOwner, r.recipients.filter (· ≠ r.owner)⟩)

namespace GroupRequest

variable {settings : Settings} {order : SetOrder} {db : ReferenceDb}

theorem groupsOk_step (h : db.GroupsOk settings.features.limits.global.groupSize)
    {request : GroupRequest} {db' : ReferenceDb}
    (hstep : step settings order db request = some db') :
    db'.GroupsOk settings.features.limits.global.groupSize := by
  obtain rfl := Option.some.inj hstep
  have hchange : GroupsChange settings.features.limits.global.groupSize db
      (exec (request.perform settings order) db).2 := change_perform h.keyed request
  refine ⟨hchange.keyed, fun id r hr => ?_⟩
  have hok := (hchange.rosters id).ok (fun r₀ hr₀ => (h.rosters id r₀ hr₀).1) hr
  exact ⟨hok, ne_nil_of_mem hok.owner⟩

theorem eq_singleton_of_nodup {l : List String} {a : String} (hnodup : l.Nodup) (ha : a ∈ l)
    (hall : ∀ b ∈ l, b = a) : l = [a] := by
  obtain ⟨l₁, l₂, rfl⟩ := append_of_mem ha
  have hdisjoint := nodup_middle.mp hnodup
  have hempty : l₁ ++ l₂ = [] := eq_nil_iff_forall_not_mem.mpr fun b hb => by
    obtain rfl : b = a := hall b (perm_middle.mem_iff.mpr (mem_cons_of_mem a hb))
    exact (nodup_cons.mp hdisjoint).1 hb
  obtain ⟨rfl, rfl⟩ := append_eq_nil_iff.mp hempty
  rfl

theorem ownerReplaced (h : db.GroupsOk settings.features.limits.global.groupSize)
    (request : GroupRequest) : OwnerReplaced settings order db request := by
  rintro channel user r rfl hr howner
  obtain ⟨c, hlookup, rfl⟩ := roster_eq_some.mp hr
  obtain rfl : c.id = channel := h.keyed hlookup
  obtain ⟨hok, -⟩ := h.rosters c.id c.roster hr
  have hread : exec (read fun db : ReferenceDb => get db.channels c.id :
      Request ReferenceDb Channel) db = (.ok (.group c), db) :=
    exec_read_ok.mpr ⟨get_ok.mpr hlookup, rfl⟩
  rw [perform, exec_bind_of_ok hread]
  constructor
  · intro halone
    have hfind : c.recipients.find? (· ≠ user.id) = none := by
      rw [show c.recipients = [c.owner] from halone, howner]
      simp [Group.roster]
    rw [exec_removeUserFromGroup_alone howner hfind, lookup_erase]
  · intro hothers
    rcases hfind : c.recipients.find? (· ≠ user.id) with - | newOwner
    · -- all recipients are the owner, and there are no two of them
      refine absurd (eq_singleton_of_nodup hok.nodup hok.owner fun other hother => ?_) hothers
      have hall := find?_eq_none.mp hfind other hother
      rw [decide_eq_true_iff, not_not] at hall
      exact hall.trans howner
    · obtain ⟨-, hroster⟩ := exec_removeUserFromGroup_left h.keyed howner hfind
      have hfound := find?_some hfind
      have hne : newOwner ≠ c.roster.owner := howner ▸ of_decide_eq_true hfound
      refine ⟨newOwner, mem_of_find?_eq_some hfind, hne, ?_⟩
      rw [hroster, if_pos rfl, hr]
      rfl

/-- **Groups stay in order.**  After any requests the owner is among the recipients, who are
different, at least one and not too many; and whenever the owner leaves, one of the others takes
over, or the group is deleted if there is nobody else. -/
theorem groups_always (settings : Settings) (order : SetOrder) (db : ReferenceDb)
    (h : db.GroupsOk settings.features.limits.global.groupSize) (requests : List GroupRequest) :
    Always (step settings order) (ReferenceDb.GroupsOk settings.features.limits.global.groupSize) db
      requests ∧
    EachStep (step settings order) (OwnerReplaced settings order) db requests := by
  have halways : Always (step settings order)
      (ReferenceDb.GroupsOk settings.features.limits.global.groupSize) db requests :=
    always_of_step (fun _ _ _ hs hstep => groupsOk_step hs hstep) h requests
  refine ⟨halways, fun l request db₁ hl hrun => ownerReplaced ?_ request⟩
  exact halways l db₁ ((prefix_append l [request]).trans hl) hrun

/-- Sets are iterated in alphabetical order. -/
def exampleOrder : SetOrder where
  toList S := S.sort (· ≤ ·)
  nodup S := S.sort_nodup (· ≤ ·)
  mem_toList S _ := S.mem_sort (· ≤ ·)

/-- Somebody opens a group, adds a friend and leaves. -/
def exampleRequests : List GroupRequest :=
  [.create { name := "group" } "a" "g", .add "g" { id := "b" }, .remove "g" { id := "a" }]

theorem groups_always_owner_leaves :
    Always (step Settings.shipped exampleOrder) (ReferenceDb.GroupsOk 100) {} exampleRequests ∧
      EachStep (step Settings.shipped exampleOrder) (OwnerReplaced Settings.shipped exampleOrder) {}
        exampleRequests :=
  groups_always Settings.shipped exampleOrder {}
    ⟨HashMap.keyedBy_empty, fun _ _ hr => by cases hr⟩ exampleRequests

/-- The friend has the group now. -/
example : ((run (step Settings.shipped exampleOrder) {} exampleRequests).bind (·.roster "g"))
    = some ⟨"b", ["b"]⟩ := by
  decide +kernel

end GroupRequest

end DawnChat
