/-
DawnChat/Bonfire/Handshake.lean

What a client asks for when it connects (`bonfire/src/config.rs`).

The query of the request may name the parts of the Ready payload, as `ready=users` or
`ready=user_settings[key]`.  Such a value is matched with `^(\w+)(?:\[(\S+)\])?$`, and the
groups of the match are read one too low: group 0 is the whole value and not the name, and
group 1 the name and not the key.  So the settings are asked for only by the bare name, which
is then taken for the key (`ready_fields_iff`).
-/
import Mathlib.Data.List.TakeWhile
import DawnChat.Events

namespace DawnChat

open List ReadyPayloadFields

/-- The classes of characters `\w` and `\s`.  Letters and `_`, which occur in names, are words. -/
structure CharClasses where
  isWord : Char → Bool
  isSpace : Char → Bool
  isWord_of_name {c : Char} : c.isLower ∨ c = '_' → isWord c = true

/-- The groups of a match. -/
structure Captures where
  whole : String
  word : String
  key : Option String

/-- The group with the given number; the whole match is the first. -/
def Captures.get (c : Captures) : Nat → Option String
  | 0 => some c.whole
  | 1 => some c.word
  | 2 => c.key
  | _ => none

inductive ProtocolFormat where
  | json | msgpack
  deriving DecidableEq, Repr

/-- User-provided protocol configuration. -/
structure ProtocolConfiguration where
  protocolVersion : Int := 1
  format : ProtocolFormat := .json
  sessionToken : Option String := none
  readyPayloadFields : ReadyPayloadFields

namespace ReadyPayloadFields

/-- All fields off. -/
def off : ReadyPayloadFields :=
  { users := false, servers := false, channels := false, members := false, emojis := false,
    voiceStates := false, policyChanges := false }

/-- Re-enable the field with a name. -/
def enable (fields : ReadyPayloadFields) (captures : Captures) : String → ReadyPayloadFields
  | "users" => { fields with users := true }
  | "servers" => { fields with servers := true }
  | "channels" => { fields with channels := true }
  | "members" => { fields with members := true }
  | "emojis" => { fields with emojis := true }
  | "voice_states" => { fields with voiceStates := true }
  | "channel_unreads" => { fields with channelUnreads := true }
  | "user_settings" =>
    match captures.get 1 with
    | some subkey => { fields with userSettings := fields.userSettings ++ [subkey] }
    | none => fields
  | "policy_changes" => { fields with policyChanges := true }
  | _ => fields

/-- What the parameters of a query add: each part that is named, and an entry of the settings
for each bare `user_settings`. -/
def named (fields : ReadyPayloadFields) (params : List (String × String)) :
    ReadyPayloadFields where
  users := fields.users || params.contains ("ready", "users")
  servers := fields.servers || params.contains ("ready", "servers")
  channels := fields.channels || params.contains ("ready", "channels")
  members := fields.members || params.contains ("ready", "members")
  emojis := fields.emojis || params.contains ("ready", "emojis")
  voiceStates := fields.voiceStates || params.contains ("ready", "voice_states")
  userSettings := fields.userSettings
    ++ .replicate (params.count ("ready", "user_settings")) "user_settings"
  channelUnreads := fields.channelUnreads || params.contains ("ready", "channel_unreads")
  policyChanges := fields.policyChanges || params.contains ("ready", "policy_changes")

theorem named_enable (fields : ReadyPayloadFields) (value : String)
    (params : List (String × String)) :
    (fields.enable ⟨value, value, none⟩ value).named params
      = fields.named (("ready", value) :: params) := by
  unfold enable
  split
  case h_10 => simp_all [named, eq_comm (b := value)]
  all_goals simp [named, Captures.get, replicate_succ]

end ReadyPayloadFields

variable (classes : CharClasses) (parse : String → Option Int) (params : List (String × String))

/-- `READY_PAYLOAD_FIELD_REGEX`: a word, or a word and a key in brackets.  A word ends before
the bracket, and the last bracket ends the value. -/
def captures (value : String) : Option Captures :=
  let word := value.toList.takeWhile classes.isWord
  let rest := value.toList.dropWhile classes.isWord
  let key := rest.tail.dropLast
  if word = [] then none
  else if rest = [] then some ⟨value, value, none⟩
  else if rest = ['['] ++ key ++ [']'] ∧ key ≠ [] ∧ key.all (!classes.isSpace ·) then
    some ⟨value, .ofList word, some (.ofList key)⟩
  else none

/-- Parse one parameter; `parse` reads a version. -/
def ProtocolConfiguration.read (config : ProtocolConfiguration) :
    String × String → ProtocolConfiguration
  | ("version", value) => { config with
      protocolVersion := (parse value).getD config.protocolVersion }
  | ("format", "json") => { config with format := .json }
  | ("format", "msgpack") => { config with format := .msgpack }
  | ("token", value) => { config with sessionToken := some value }
  | ("ready", value) =>
    match captures classes value with
    | some captures =>
      match captures.get 0 with
      | some field =>
        { config with
          readyPayloadFields := config.readyPayloadFields.enable captures field }
      | none => config
    | none => config
  | _ => config

/-- Handle request to create a new WebSocket connection: the configuration that is sent on. -/
def onRequest : ProtocolConfiguration :=
  let fields := if params.any (·.1 = "ready") then ReadyPayloadFields.off else {}
  params.foldl (ProtocolConfiguration.read classes parse) { readyPayloadFields := fields }

/-- The key of a value `user_settings[key]`. -/
def settingsKey (value : String) : Option String :=
  let key := (value.toList.drop 14).dropLast
  if value.toList = "user_settings[".toList ++ key ++ [']'] ∧ key ≠ [] ∧
      key.all (!classes.isSpace ·) then
    some (.ofList key)
  else none

/-- The keys that a query asks for. -/
def settingsKeys : List String :=
  params.filterMap fun param => if param.1 = "ready" then settingsKey classes param.2 else none

variable {classes}

theorem captures_whole {value : String} {c : Captures} (h : captures classes value = some c) :
    c.whole = value := by
  simp only [captures] at h
  split_ifs at h <;> cases h <;> rfl

theorem captures_of_name {value : String} (hne : value.toList ≠ [])
    (h : ∀ c ∈ value.toList, c.isLower ∨ c = '_') :
    captures classes value = some ⟨value, value, none⟩ := by
  have hword : ∀ c ∈ value.toList, classes.isWord c = true := fun c hc =>
    classes.isWord_of_name (h c hc)
  simp [captures, takeWhile_eq_self_iff.mpr hword, dropWhile_eq_nil_iff.mpr hword, hne]

/-- The name in the groups does not matter, nor does whether there is a match: all names match. -/
theorem readyPayloadFields_read (config : ProtocolConfiguration) (value : String) :
    (config.read classes parse ("ready", value)).readyPayloadFields
      = config.readyPayloadFields.enable ⟨value, value, none⟩ value := by
  by_cases hname : value.toList ≠ [] ∧ ∀ c ∈ value.toList, c.isLower ∨ c = '_'
  · simp only [ProtocolConfiguration.read, captures_of_name hname.1 hname.2, Captures.get]
  · have hunknown : ∀ c, config.readyPayloadFields.enable c value = config.readyPayloadFields := by
      intro c
      unfold enable
      split
      all_goals first | rfl | exact absurd (by simp) hname
    rw [hunknown]
    rcases hc : captures classes value with - | c
    · simp only [ProtocolConfiguration.read, hc]
    · simp only [ProtocolConfiguration.read, hc, Captures.get, captures_whole hc, hunknown]

theorem readyPayloadFields_foldl (config : ProtocolConfiguration) :
    (params.foldl (.read classes parse) config).readyPayloadFields
      = config.readyPayloadFields.named params := by
  induction params generalizing config with
  | nil => simp [named]
  | cons param params ih =>
    rw [foldl_cons, ih]
    obtain ⟨key, value⟩ := param
    by_cases hready : key = "ready"
    · subst hready
      rw [readyPayloadFields_read, named_enable]
    · have hread : (config.read classes parse (key, value)).readyPayloadFields
          = config.readyPayloadFields := by
        unfold ProtocolConfiguration.read
        split <;> simp_all
      simp [hread, named, hready, Ne.symm hready]

/-- **Fields of the Ready payload.**  Every part is on exactly if it is named.  The settings
are the keys that are asked for exactly if all of these are `user_settings` and there are as
many of them as bare names. -/
theorem ready_fields_iff (hready : ∃ value, ("ready", value) ∈ params) :
    let fields := (onRequest classes parse params).readyPayloadFields
    (fields.userSettings = settingsKeys classes params ↔
      (settingsKeys classes params).length = params.count ("ready", "user_settings") ∧
        ∀ key ∈ settingsKeys classes params, key = "user_settings") ∧
    fields = off.named params := by
  obtain ⟨value, hvalue⟩ := hready
  have hany : params.any (·.1 = "ready") = true :=
    any_eq_true.mpr ⟨_, hvalue, by simp⟩
  dsimp only
  rw [onRequest, if_pos hany, readyPayloadFields_foldl]
  refine ⟨?_, rfl⟩
  rw [← eq_replicate_iff]
  exact eq_comm

/-- The classes of ASCII characters. -/
def asciiClasses : CharClasses where
  isWord c := c.isUpper || c.isLower || c.isDigit || c = '_'
  isSpace c := c.isWhitespace
  isWord_of_name h := by
    rcases h with h | rfl
    · simp [h]
    · rfl

theorem ready_fields_iff_users :
    (onRequest asciiClasses String.toInt? [("ready", "users")]).readyPayloadFields.users
      = true := by
  rw [(ready_fields_iff _ [("ready", "users")] ⟨_, .head _⟩).2]
  rfl

/-- **A key that is not asked for.**  The key in brackets is lost, and the bare name is taken
for one. -/
theorem ready_key_lost :
    (onRequest asciiClasses String.toInt?
        [("ready", "user_settings[theme]"), ("ready", "user_settings")]
      ).readyPayloadFields.userSettings = ["user_settings"] ∧
    settingsKeys asciiClasses [("ready", "user_settings[theme]"), ("ready", "user_settings")]
      = ["theme"] := by
  decide +kernel

end DawnChat
