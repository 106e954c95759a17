/-
DawnChat/Channels/Update.lean

Updates of a channel in memory and in the in-memory driver (`Channel::update`, `update_channel`).

`apply_options` leaves out the last message id and the slowmode.  In memory the fields to remove
are removed first, in the driver they are removed last, so that the two channels differ in every
field that is both set and removed.
-/
import DawnChat.Channels.Groups
import DawnChat.Routes.ChannelDefaults

namespace DawnChat

open RustStd Fallible Handler HashMap MongoDb List Option ReferenceDb

/-- Update channel. -/
def ReferenceDb.updateChannel : UpdateChannel ReferenceDb := fun id p remove =>
  write fun db =>
    if id ∈ db.channels then
      .ok { db with
        channels := db.channels.modify id fun data =>
          remove.foldl Channel.removeField (data.applyOptions p) }
    else .error .notFound

namespace Channel

/-- Channels of this kind have the field. -/
def carries : Channel → FieldsChannel → Bool
  | group _, .description | group _, .icon | textChannel _, _ => true
  | _, _ => false

/-- The field has a value. -/
def holds : Channel → FieldsChannel → Bool
  | group c, .description => c.description.isSome
  | group c, .icon => c.icon.isSome
  | textChannel c, .description => c.description.isSome
  | textChannel c, .icon => c.icon.isSome
  | textChannel c, .defaultPermissions => c.defaultPermissions.isSome
  | textChannel c, .voice => c.voice.isSome
  | _, _ => false

/-- The values that `apply_options` leaves out are those of the channel. -/
def Agrees (p : PartialChannel) : Channel → Prop
  | savedMessages _ => True
  | directMessage c => ∀ id ∈ p.lastMessageId, c.lastMessageId = some id
  | group c => ∀ id ∈ p.lastMessageId, c.lastMessageId = some id
  | textChannel c => (∀ id ∈ p.lastMessageId, c.lastMessageId = some id) ∧
      ∀ delay ∈ p.slowmode, c.slowmode = some delay

variable (channel : Channel) (p : PartialChannel) (field : FieldsChannel)

theorem applyOptions_eq_setFields_iff :
    channel.applyOptions p = setFields p channel ↔ channel.Agrees p := by
  have hor {α : Type} (x y : Option α) : y = x.or y ↔ ∀ v ∈ x, y = some v := by
    cases x <;> simp
  cases channel <;> simp [applyOptions, setFields, Agrees, hor]

theorem holds_foldl_removeField (remove : List FieldsChannel) :
    (remove.foldl removeField channel).holds field = true
      ↔ channel.holds field = true ∧ field ∉ remove := by
  induction remove generalizing channel with
  | nil => simp
  | cons removed remove ih =>
    have hstep : (channel.removeField removed).holds field = true
        ↔ channel.holds field = true ∧ field ≠ removed := by
      cases channel <;> cases removed <;> cases field <;> simp [removeField, holds]
    rw [foldl_cons, ih, hstep, mem_cons, not_or, and_assoc]

theorem holds_applyOptions (hcarries : channel.carries field = true)
    (hsets : sets p field = true) : (channel.applyOptions p).holds field = true := by
  cases channel <;> cases field <;> simp_all [carries, sets, applyOptions, holds]

theorem applyOptions_removeField (h : ¬ (channel.carries field ∧ sets p field)) :
    (channel.removeField field).applyOptions p = (channel.applyOptions p).removeField field := by
  cases channel <;> cases field <;> simp_all [carries, sets, applyOptions, removeField]

theorem carries_foldl_removeField (remove : List FieldsChannel) :
    (remove.foldl removeField channel).carries field = channel.carries field := by
  induction remove generalizing channel with
  | nil => rfl
  | cons removed remove ih =>
    rw [foldl_cons, ih]
    cases channel <;> cases removed <;> cases field <;> rfl

/-- **The order matters for the fields that are both set and removed.** -/
theorem applyOptions_foldl_removeField_iff (remove : List FieldsChannel) :
    remove.foldl removeField (channel.applyOptions p)
        = (remove.foldl removeField channel).applyOptions p
      ↔ ∀ field ∈ remove, ¬ (channel.carries field ∧ sets p field) := by
  constructor
  · rintro h field hmem ⟨hcarries, hsets⟩
    have hmemory := holds_applyOptions (remove.foldl removeField channel) p field
      (by rwa [carries_foldl_removeField]) hsets
    rw [← h, holds_foldl_removeField] at hmemory
    exact hmemory.2 hmem
  · intro h
    induction remove using reverseRecOn with
    | nil => rfl
    | append_singleton remove last ih =>
      have hlast := h last (mem_append_right _ mem_cons_self)
      rw [foldl_concat, foldl_concat, ih fun field hmem => h field (mem_append_left _ hmem),
        applyOptions_removeField _ _ _ (by rwa [carries_foldl_removeField])]

/-- **`apply_options` is complete unless a value it leaves out is new, and an update leaves the
same channel in memory and in the driver exactly if no field is both set and removed.** -/
theorem update_stored_iff {db : ReferenceDb}
    (hstored : db.channels.lookup channel.id = some channel) (remove : List FieldsChannel) :
    (channel.applyOptions p = setFields p channel ↔ channel.Agrees p) ∧
      ∃ updated db', exec (channel.update ReferenceDb.updateChannel p remove) db
          = (.ok updated, db') ∧
        (db'.channels.lookup channel.id = some updated
          ↔ ∀ field ∈ remove, ¬ (channel.carries field ∧ sets p field)) := by
  have hmem : channel.id ∈ db.channels := mem_iff_exists_lookup.mpr ⟨_, hstored⟩
  have hupdate : exec (channel.update updateChannel p remove) db
      = (.ok ((remove.foldl removeField channel).applyOptions p), { db with
        channels := db.channels.modify channel.id fun data =>
          remove.foldl removeField (data.applyOptions p) }) := by
    rw [update, (update_keeps channel p remove).1, updateChannel, exec_bind, exec_write,
      if_pos hmem]
    rfl
  refine ⟨channel.applyOptions_eq_setFields_iff p, _, _, hupdate, ?_⟩
  rw [lookup_modify, hstored]
  exact some_inj.trans (channel.applyOptions_foldl_removeField_iff p remove)

/-- A group gets a description and loses its icon. -/
theorem update_stored_iff_used :
    let channel := group { id := "g", owner := "u", icon := some { id := "i", tag := "icons" } }
    let p : PartialChannel := { name := some "n", description := some "d" }
    let db : ReferenceDb := { channels := collect [("g", channel)] }
    db.channels.lookup "g" = some channel ∧ channel.applyOptions p = setFields p channel ∧
      ∃ updated db', exec (channel.update updateChannel p [.icon]) db
          = (.ok updated, db') ∧
        db'.channels.lookup "g" = some updated := by
  intro channel p db
  obtain ⟨happlied, updated, db', hrun, hiff⟩ := @update_stored_iff channel p db rfl [.icon]
  exact ⟨rfl, happlied.mpr nofun, updated, db', hrun, hiff.mpr (by decide)⟩

/-- A description that is set and removed stays in memory and is removed in the driver, and a
slowmode is not applied. -/
theorem description_differs :
    let channel := textChannel { id := "c", server := "s" }
    let p : PartialChannel := { description := some "d", slowmode := some 5 }
    let db : ReferenceDb := { channels := collect [("c", channel)] }
    (∃ updated db' stored, exec (channel.update updateChannel p [.description]) db
          = (.ok updated, db') ∧
        db'.channels.lookup "c" = some stored ∧
        updated.holds .description = true ∧ stored.holds .description = false ∧
        stored ≠ updated) ∧
      (∃ c, channel.applyOptions p = textChannel c ∧ c.slowmode = none) ∧
      channel.applyOptions p ≠ setFields p channel := by
  intro channel p db
  refine ⟨⟨_, _, _, rfl, rfl, rfl, rfl, fun h => ?_⟩, ⟨_, rfl, rfl⟩, fun h => ?_⟩
  · exact absurd (congrArg (·.holds .description) h) (by decide)
  · exact absurd ((channel.applyOptions_eq_setFields_iff p).mp h).2 (by decide)

end Channel

end DawnChat
