/-
DawnChat/Voice/State.lean

Who is in which voice channel, as it is kept in Redis.

The members of a channel are a set of their own.  What is known about a user in a call
lies under keys that are made of the user and the server (or the channel, outside of a
server), so all channels of a server share them.

When a user moves from one channel to another the voice server sends two events, that the
user has joined the new channel and that the user has left the old one.  The handler of the
second one deletes the shared keys, also when they belong to the new channel by then.
`Trip.moved_iff`: a trip through any number of channels leaves the user connected to the
last one exactly when the event that is handled last is the arrival there.
-/
import DawnChat.Lib.LastWrite
import DawnChat.Result
import Mathlib.Data.Fin.VecNotation
import Mathlib.Data.List.Nodup
import Mathlib.Logic.Function.Basic

namespace DawnChat.Voice

open Fallible Handler LastWrite Function List Option Except

/-! ### Voice state -/

structure UserVoiceChannel where
  id : String
  serverId : Option String
  deriving DecidableEq, Repr

/-- The part of the keys that stands for the channel. -/
def UserVoiceChannel.parent (channel : UserVoiceChannel) : String :=
  channel.serverId.getD channel.id

structure UserVoiceState where
  /-- Milliseconds since the epoch. -/
  joinedAt : Int
  id : String
  isReceiving : Bool
  isPublishing : Bool
  screensharing : Bool
  camera : Bool
  deriving DecidableEq, Repr

structure ChannelVoiceState where
  id : String
  participants : List UserVoiceState
  deriving DecidableEq, Repr

/-- The values under the keys of a user and a parent. -/
structure VoiceKeys where
  /-- Under the key that has nothing in front of the user. -/
  channel : Option String := none
  joinedAt : Option Int := none
  isPublishing : Option Bool := none
  isReceiving : Option Bool := none
  screensharing : Option Bool := none
  camera : Option Bool := none
  deriving DecidableEq, Repr

structure Redis where
  /-- `vc_members:{channel}` -/
  vcMembers : String → List String := fun _ => []
  /-- `vc:{user}` -/
  vc : String → List UserVoiceChannel := fun _ => []
  /-- `{user}:{parent}`, `joined_at:{user}:{parent}` and so on -/
  voice : String × String → VoiceKeys := fun _ => {}
  /-- `moved_from:{user}:{channel}` -/
  movedFrom : String × String → Option UserVoiceChannel := fun _ => none
  /-- `moved_to:{user}:{channel}` -/
  movedTo : String × String → Option UserVoiceChannel := fun _ => none
  /-- `call_notification_recipients:{channel}-{user}` -/
  callRecipients : String × String → Option (List String) := fun _ => none

/-- Add an element to a set. -/
def sadd {α : Type} [DecidableEq α] (set : List α) (a : α) : List α :=
  if a ∈ set then set else set ++ [a]

/-- Remove an element from a set. -/
def srem {α : Type} [DecidableEq α] (set : List α) (a : α) : List α := set.filter (· ≠ a)

/-- The state of a user who has just joined. -/
def UserVoiceState.new (userId : String) (joinedAt : Int) : UserVoiceState where
  joinedAt := joinedAt
  id := userId
  isReceiving := true
  isPublishing := false
  screensharing := false
  camera := false

def createVoiceState (channel : UserVoiceChannel) (userId : String) (joinedAt : Int) :
    Request Redis UserVoiceState := do
  let uniqueKey := (userId, channel.parent)
  let voiceState := UserVoiceState.new userId joinedAt
  write fun s => .ok
    { s with
      vcMembers := Function.update s.vcMembers channel.id (sadd (s.vcMembers channel.id) userId)
      vc := Function.update s.vc userId (sadd (s.vc userId) channel)
      voice := Function.update s.voice uniqueKey
        { channel := channel.id
          joinedAt := joinedAt
          isPublishing := voiceState.isPublishing
          isReceiving := voiceState.isReceiving
          screensharing := voiceState.screensharing
          camera := voiceState.camera } }
  return voiceState

def deleteVoiceState (channel : UserVoiceChannel) (userId : String) : Request Redis Unit :=
  let uniqueKey := (userId, channel.parent)
  write fun s => .ok
    { s with
      vcMembers := Function.update s.vcMembers channel.id (srem (s.vcMembers channel.id) userId)
      vc := Function.update s.vc userId (srem (s.vc userId) channel)
      voice := Function.update s.voice uniqueKey {} }

/-- The state is there if all of its keys are. -/
def VoiceKeys.voiceState (keys : VoiceKeys) (userId : String) : Option UserVoiceState := do
  let joinedAt ← keys.joinedAt
  let isPublishing ← keys.isPublishing
  let isReceiving ← keys.isReceiving
  let screensharing ← keys.screensharing
  let camera ← keys.camera
  return { joinedAt, id := userId, isReceiving, isPublishing, screensharing, camera }

def Redis.voiceState (s : Redis) (channel : UserVoiceChannel) (userId : String) :
    Option UserVoiceState :=
  (s.voice (userId, channel.parent)).voiceState userId

def getVoiceState (channel : UserVoiceChannel) (userId : String) :
    Request Redis (Option UserVoiceState) :=
  read fun s => .ok (s.voiceState channel userId)

def getVoiceChannelMembers (channel : UserVoiceChannel) : Request Redis (Option (List String)) :=
  read fun s => .ok
    (if s.vcMembers channel.id = [] then none else some (s.vcMembers channel.id))

/-- The loop over the members.  Members without a state are removed. -/
def getParticipants (channel : UserVoiceChannel) : List String → Request Redis (List UserVoiceState)
  | [] => return []
  | userId :: members => do
      match ← getVoiceState channel userId with
      | some voiceState => return voiceState :: (← getParticipants channel members)
      | none =>
        deleteVoiceState channel userId
        getParticipants channel members

def getChannelVoiceState (channel : UserVoiceChannel) :
    Request Redis (Option ChannelVoiceState) := do
  match ← getVoiceChannelMembers channel with
  | some members => return some ⟨channel.id, ← getParticipants channel members⟩
  | none => return none

def getUserVoiceChannelInServer (userId serverId : String) : Request Redis (Option String) :=
  read fun s => .ok (s.voice (userId, serverId)).channel

def getUserMovedFromVoice (channelId userId : String) :
    Request Redis (Option UserVoiceChannel) := do
  let movedFrom ← read fun s => .ok (s.movedFrom (userId, channelId))
  write fun s => .ok
    { s with movedFrom := Function.update s.movedFrom (userId, channelId) none }
  return movedFrom

def getUserMovedToVoice (channelId userId : String) :
    Request Redis (Option UserVoiceChannel) := do
  let movedTo ← read fun s => .ok (s.movedTo (userId, channelId))
  write fun s => .ok
    { s with movedTo := Function.update s.movedTo (userId, channelId) none }
  return movedTo

def getCallNotificationRecipients (channelId userId : String) :
    Request Redis (Option (List String)) := do
  let recipients ← read fun s => .ok (s.callRecipients (channelId, userId))
  write fun s => .ok
    { s with callRecipients := Function.update s.callRecipients (channelId, userId) none }
  return recipients

/-! ### Events of the voice server -/

/-- What a handler sends to clients and to the push daemon. -/
inductive Published where
  | voiceChannelMove (user source target : String) (state : UserVoiceState)
  | voiceChannelJoin (id : String) (state : UserVoiceState)
  | voiceChannelLeave (id user : String)
  | dmCallUpdated (user channel : String) (startedAt : Option Int) (ended : Bool)
      (recipients : Option (List String))
  | dmCallRingingUpdate (channelId initiatorId : String) (startedAt : Option Int) (ended : Bool)
      (recipients : Option (List String))
  deriving DecidableEq, Repr

inductive EventKind where
  | participantJoined
  | participantLeft
  deriving DecidableEq, Repr

structure RoomMetadata where
  server : Option String
  deriving DecidableEq, Repr

structure Room where
  name : String
  /-- `none` if the text is not that of metadata. -/
  metadata : Option RoomMetadata
  deriving DecidableEq, Repr

structure WebhookEvent where
  event : EventKind
  room : Option Room
  /-- The identity of the participant. -/
  participant : Option String
  /-- Seconds since the epoch. -/
  createdAt : Int
  deriving DecidableEq, Repr

/-- `to_internal_error` -/
def toInternalError {α : Type} (a : Option α) : Request Redis α :=
  Handler.ofExcept (a.elim (.error .internalError) .ok)

def participantJoined (channel : UserVoiceChannel) (userId : String) (joinedAt : Int) :
    Request Redis (List Published) := do
  let voiceState ← createVoiceState channel userId joinedAt
  let moved ← getUserMovedToVoice channel.id userId
  let announced := match moved with
    | some movedFrom => .voiceChannelMove userId movedFrom.id channel.id voiceState
    | none => .voiceChannelJoin channel.id voiceState
  if channel.serverId = none then
    match ← getVoiceChannelMembers channel with
    | some [_] =>
      let recipients ← getCallNotificationRecipients channel.id userId
      return [announced, .dmCallUpdated userId channel.id joinedAt false recipients,
        .dmCallRingingUpdate channel.id userId joinedAt false recipients]
    | _ => return [announced]
  else return [announced]

def participantLeft (channel : UserVoiceChannel) (userId : String) :
    Request Redis (List Published) := do
  deleteVoiceState channel userId
  let moved ← getUserMovedFromVoice channel.id userId
  let announced := if moved = none then [.voiceChannelLeave channel.id userId] else []
  if channel.serverId = none then
    match ← getVoiceChannelMembers channel with
    | none =>
      return announced ++ [.dmCallUpdated userId channel.id none true none,
        .dmCallRingingUpdate channel.id userId none true none]
    | some _ => return announced
  else return announced

def ingress (event : WebhookEvent) : Request Redis (List Published) := do
  -- the metadata of a room is read before it is clear whether it is needed
  let room ← match event.room with
    | some room => do
        let metadata ← toInternalError room.metadata
        pure (some (room.name, metadata))
    | none => pure none
  let (channelId, metadata) ← toInternalError room
  let userId ← toInternalError event.participant
  let channel : UserVoiceChannel := ⟨channelId, metadata.server⟩
  match event.event with
  | .participantJoined => participantJoined channel userId (event.createdAt * 1000)
  | .participantLeft => participantLeft channel userId

/-! ### What the statements do -/

@[simp] theorem mem_sadd {α : Type} [DecidableEq α] {set : List α} {a b : α} :
    b ∈ sadd set a ↔ b = a ∨ b ∈ set := by
  rw [sadd]
  split
  · next ha =>
    refine ⟨.inr, ?_⟩
    rintro (rfl | hb)
    · exact ha
    · exact hb
  · rw [mem_append, mem_singleton, or_comm]

@[simp] theorem mem_srem {α : Type} [DecidableEq α] {set : List α} {a b : α} :
    b ∈ srem set a ↔ b ∈ set ∧ b ≠ a := by
  rw [srem, mem_filter, decide_eq_true_iff]

/-- The two pipelines. -/
inductive Pipeline where
  | create (channel : UserVoiceChannel) (userId : String) (joinedAt : Int)
  | delete (channel : UserVoiceChannel) (userId : String)
  deriving DecidableEq, Repr

namespace Pipeline

def channel : Pipeline → UserVoiceChannel
  | create channel _ _ => channel
  | delete channel _ => channel

def userId : Pipeline → String
  | create _ userId _ => userId
  | delete _ userId => userId

def joins : Pipeline → Bool
  | create .. => true
  | delete .. => false

/-- What the keys of the user hold afterwards. -/
def keys : Pipeline → VoiceKeys
  | create channel _ joinedAt =>
    { channel := channel.id, joinedAt := joinedAt, isPublishing := false, isReceiving := true
      screensharing := false, camera := false }
  | delete .. => {}

def apply (s : Redis) : Pipeline → Redis
  | create channel userId joinedAt => (exec (createVoiceState channel userId joinedAt) s).2
  | delete channel userId => (exec (deleteVoiceState channel userId) s).2

theorem voice_apply (p : Pipeline) (s : Redis) :
    (p.apply s).voice = Function.update s.voice (p.userId, p.channel.parent) p.keys := by
  cases p <;> rfl

theorem vcMembers_apply (p : Pipeline) (s : Redis) :
    (p.apply s).vcMembers = Function.update s.vcMembers p.channel.id
      (bif p.joins then sadd (s.vcMembers p.channel.id) p.userId
        else srem (s.vcMembers p.channel.id) p.userId) := by
  cases p <;> rfl

theorem mem_vcMembers_apply (p : Pipeline) (s : Redis) (channelId : String) :
    p.userId ∈ (p.apply s).vcMembers channelId ↔
      if p.channel.id = channelId then p.joins = true else p.userId ∈ s.vcMembers channelId := by
  rw [vcMembers_apply]
  by_cases h : p.channel.id = channelId
  · rw [if_pos h, ← h, update_self]
    cases p.joins <;> simp
  · rw [if_neg h, update_of_ne (Ne.symm h)]

theorem mem_vcMembers_apply_ne {p : Pipeline} {userId : String} (h : p.userId ≠ userId) (s : Redis)
    (channelId : String) :
    userId ∈ (p.apply s).vcMembers channelId ↔ userId ∈ s.vcMembers channelId := by
  rw [vcMembers_apply]
  by_cases hid : p.channel.id = channelId
  · rw [← hid, update_self]
    cases p.joins <;> simp [Ne.symm h]
  · rw [update_of_ne (Ne.symm hid)]

end Pipeline

variable {channel : UserVoiceChannel} {userId : String}

/-- Deleting what is not there changes no state. -/
theorem voiceState_delete {s : Redis} (h : s.voiceState channel userId = none) :
    ((Pipeline.delete channel userId).apply s).voiceState channel = s.voiceState channel := by
  funext other
  rw [Redis.voiceState, Pipeline.voice_apply]
  show (update s.voice (userId, channel.parent) {} (other, channel.parent)).voiceState
    other = _
  by_cases ho : other = userId
  · subst ho
    rw [update_self, h]
    rfl
  · rw [update_of_ne fun heq => ho (Prod.mk.inj heq).1]
    rfl

/-- The loop over the members returns the states that are there. -/
theorem exec_getParticipants (channel : UserVoiceChannel) (members : List String) (s : Redis) :
    (exec (getParticipants channel members) s).1
      = .ok (members.filterMap (s.voiceState channel)) := by
  induction members generalizing s with
  | nil => rfl
  | cons userId members ih =>
    rw [getParticipants, getVoiceState, exec_read_bind]
    rcases h : s.voiceState channel userId with - | state
    · rw [filterMap_cons_none h, ← voiceState_delete h]
      exact ih ((Pipeline.delete channel userId).apply s)
    · rw [filterMap_cons_some h, exec_bind]
      rcases hexec : exec (getParticipants channel members) s with ⟨r, s'⟩
      have hr := ih s
      rw [hexec] at hr
      dsimp only at hr
      rw [hr]
      rfl

/-- The user is listed for the channel. -/
def Listed (channel : UserVoiceChannel) (userId : String) (s : Redis) : Prop :=
  ∃ state, (exec (getChannelVoiceState channel) s).1 = .ok (some state) ∧
    ∃ participant ∈ state.participants, participant.id = userId

theorem id_of_voiceState {keys : VoiceKeys} {state : UserVoiceState}
    (h : keys.voiceState userId = some state) : state.id = userId := by
  simp only [VoiceKeys.voiceState, bind_eq_bind, bind_eq_some_iff, Option.pure_def, some.injEq] at h
  obtain ⟨_, -, _, -, _, -, _, -, _, -, rfl⟩ := h
  rfl

/-- **Who is listed**: the members whose state is there. -/
theorem listed_iff {s : Redis} :
    Listed channel userId s ↔ userId ∈ s.vcMembers channel.id ∧
      (s.voiceState channel userId).isSome = true := by
  rw [Listed, getChannelVoiceState, getVoiceChannelMembers, exec_read_bind]
  by_cases hempty : s.vcMembers channel.id = []
  · rw [if_pos hempty, hempty]
    refine ⟨fun ⟨state, h, _⟩ => ?_, fun h => absurd h.1 not_mem_nil⟩
    cases h
  rw [if_neg hempty]
  dsimp only
  rw [exec_bind]
  rcases hexec : exec (getParticipants channel (s.vcMembers channel.id)) s with ⟨r, s'⟩
  have hr := exec_getParticipants channel (s.vcMembers channel.id) s
  rw [hexec] at hr
  dsimp only at hr
  subst hr
  constructor
  · rintro ⟨state, h, participant, hmem, hid⟩
    obtain rfl := some.inj (ok.inj h)
    obtain ⟨member, hmember, hstate⟩ := mem_filterMap.mp hmem
    obtain rfl : member = userId := (id_of_voiceState hstate).symm.trans hid
    exact ⟨hmember, isSome_of_eq_some hstate⟩
  · rintro ⟨hmember, hsome⟩
    obtain ⟨state, hstate⟩ := isSome_iff_exists.mp hsome
    exact ⟨_, rfl, state, mem_filterMap.mpr ⟨userId, hmember, hstate⟩, id_of_voiceState hstate⟩

/-! ### Any number of handlers at the same time -/

/-- The commands of the handlers that change something. -/
inductive Command where
  | pipeline (p : Pipeline)
  | getUserMovedFromVoice (channelId userId : String)
  | getUserMovedToVoice (channelId userId : String)
  | getCallNotificationRecipients (channelId userId : String)
  deriving DecidableEq, Repr

namespace Command

def apply (s : Redis) : Command → Redis
  | pipeline p => p.apply s
  | getUserMovedFromVoice channelId userId =>
    (exec (Voice.getUserMovedFromVoice channelId userId) s).2
  | getUserMovedToVoice channelId userId =>
    (exec (Voice.getUserMovedToVoice channelId userId) s).2
  | getCallNotificationRecipients channelId userId =>
    (exec (Voice.getCallNotificationRecipients channelId userId) s).2

/-- The pipelines among the commands. -/
def pipeline? : Command → Option Pipeline
  | pipeline p => some p
  | _ => none

/-- The pipelines of one user. -/
def pipelineOf (userId : String) (command : Command) : Option Pipeline :=
  command.pipeline?.filter (·.userId = userId)

end Command

/-- Carry out commands of any handlers, in the order in which they reach Redis. -/
def applyAll (s : Redis) (commands : List Command) : Redis := commands.foldl Command.apply s

/-- What an event does to the voice state, if it is complete. -/
def WebhookEvent.pipeline (event : WebhookEvent) : Option Pipeline := do
  let room ← event.room
  let metadata ← room.metadata
  let userId ← event.participant
  let channel : UserVoiceChannel := ⟨room.name, metadata.server⟩
  match event.event with
  | .participantJoined => some (.create channel userId (event.createdAt * 1000))
  | .participantLeft => some (.delete channel userId)

/-- The handler carries out these pipelines, and other commands between them. -/
def Issues {α : Type} (pipelines : List Pipeline) (x : Request Redis α) : Prop :=
  ∀ s, ∃ commands, (exec x s).2 = applyAll s commands ∧
    commands.filterMap Command.pipeline? = pipelines

theorem issues_of_readOnly {α : Type} {x : Request Redis α} [h : ReadOnly x] : Issues [] x :=
  fun s => ⟨[], h.store s, rfl⟩

instance (channel : UserVoiceChannel) : ReadOnly (getVoiceChannelMembers channel) := by
  unfold getVoiceChannelMembers
  infer_instance

/-- After its pipeline a handler carries out other commands only. -/
theorem Issues.andThen {α β : Type} {pipelines : List Pipeline} {x : Request Redis α}
    {f : α → Request Redis β} (hx : Issues pipelines x) (hf : ∀ a, Issues [] (f a)) :
    Issues pipelines (x >>= f) := by
  intro s
  obtain ⟨commands, hstore, hpipelines⟩ := hx s
  rcases hexec : exec x s with ⟨e | a, s₁⟩
  · rw [exec_bind_of_error hexec]
    rw [hexec] at hstore
    exact ⟨commands, hstore, hpipelines⟩
  · rw [exec_bind_of_ok hexec]
    rw [hexec] at hstore
    obtain rfl : s₁ = applyAll s commands := hstore
    obtain ⟨rest, hrest, hnone⟩ := hf a (applyAll s commands)
    refine ⟨commands ++ rest, ?_, ?_⟩
    · rw [hrest, applyAll, applyAll, applyAll, foldl_append]
    · rw [filterMap_append, hpipelines, hnone, append_nil]

theorem issues_participantJoined (channel : UserVoiceChannel) (userId : String) (joinedAt : Int) :
    Issues [.create channel userId joinedAt] (participantJoined channel userId joinedAt) := by
  have hcreate : Issues [.create channel userId joinedAt]
      (createVoiceState channel userId joinedAt) :=
    fun s => ⟨[.pipeline (.create channel userId joinedAt)], rfl, rfl⟩
  have hmoved : Issues [] (getUserMovedToVoice channel.id userId) :=
    fun s => ⟨[.getUserMovedToVoice channel.id userId], rfl, rfl⟩
  have hrecipients : Issues [] (getCallNotificationRecipients channel.id userId) :=
    fun s => ⟨[.getCallNotificationRecipients channel.id userId], rfl, rfl⟩
  refine hcreate.andThen fun voiceState => hmoved.andThen fun moved => ?_
  dsimp only
  split
  · refine issues_of_readOnly.andThen fun members => ?_
    split
    · exact hrecipients.andThen fun _ => issues_of_readOnly
    · exact issues_of_readOnly
  · exact issues_of_readOnly

theorem issues_participantLeft (channel : UserVoiceChannel) (userId : String) :
    Issues [.delete channel userId] (participantLeft channel userId) := by
  have hdelete : Issues [.delete channel userId] (deleteVoiceState channel userId) :=
    fun s => ⟨[.pipeline (.delete channel userId)], rfl, rfl⟩
  have hmoved : Issues [] (getUserMovedFromVoice channel.id userId) :=
    fun s => ⟨[.getUserMovedFromVoice channel.id userId], rfl, rfl⟩
  refine hdelete.andThen fun _ => hmoved.andThen fun moved => ?_
  dsimp only
  split
  · refine issues_of_readOnly.andThen fun members => ?_
    split <;> exact issues_of_readOnly
  · exact issues_of_readOnly

/-- **A handler carries out the pipeline of its event**, or nothing if the event is not complete. -/
theorem issues_ingress (event : WebhookEvent) : Issues event.pipeline.toList (ingress event) := by
  obtain ⟨kind, room, participant, createdAt⟩ := event
  rcases room with - | ⟨name, - | metadata⟩
  · exact fun s => ⟨[], rfl, rfl⟩
  · exact fun s => ⟨[], rfl, rfl⟩
  rcases participant with - | userId
  · exact fun s => ⟨[], rfl, rfl⟩
  cases kind with
  | participantJoined => exact issues_participantJoined ⟨name, metadata.server⟩ userId _
  | participantLeft => exact issues_participantLeft ⟨name, metadata.server⟩ userId

/-! #### What a user's pipelines leave behind -/

open Command

theorem pipelineOf_eq_some {command : Command} {p : Pipeline} :
    command.pipelineOf userId = some p ↔ command = .pipeline p ∧ p.userId = userId := by
  rw [pipelineOf, filter_eq_some_iff, decide_eq_true_iff]
  refine and_congr_left fun _ => ?_
  cases command <;> simp [pipeline?]

/-- The keys of a user are written by the pipelines of this user only. -/
theorem voice_apply (command : Command) (s : Redis) (userId serverId : String) :
    (command.apply s).voice (userId, serverId)
      = ((command.pipelineOf userId).bind fun p =>
          if p.channel.parent = serverId then some p.keys else none).getD
        (s.voice (userId, serverId)) := by
  rcases hp : command.pipelineOf userId with - | p
  · cases command with
    | pipeline p =>
      have hne : p.userId ≠ userId := fun heq => by
        cases hp.symm.trans (pipelineOf_eq_some.mpr ⟨rfl, heq⟩)
      show (p.apply s).voice (userId, serverId) = _
      rw [Pipeline.voice_apply, update_of_ne fun heq => hne (Prod.mk.inj heq).1.symm]
      rfl
    | _ => rfl
  · obtain ⟨rfl, rfl⟩ := pipelineOf_eq_some.mp hp
    show (p.apply s).voice (p.userId, serverId) = _
    rw [Pipeline.voice_apply, bind_some]
    by_cases hparent : p.channel.parent = serverId
    · rw [if_pos hparent, hparent, update_self]
      rfl
    · rw [if_neg hparent, update_of_ne fun heq => hparent (Prod.mk.inj heq).2.symm]
      rfl

/-- Whether a user is a member of a channel changes with the pipelines of this user only. -/
theorem mem_vcMembers_apply (command : Command) (s : Redis) (userId channelId : String) :
    decide (userId ∈ (command.apply s).vcMembers channelId)
      = ((command.pipelineOf userId).bind fun p =>
          if p.channel.id = channelId then some p.joins else none).getD
        (decide (userId ∈ s.vcMembers channelId)) := by
  rcases hp : command.pipelineOf userId with - | p
  · cases command with
    | pipeline p =>
      have hne : p.userId ≠ userId := fun heq => by
        cases hp.symm.trans (pipelineOf_eq_some.mpr ⟨rfl, heq⟩)
      exact decide_eq_decide.mpr (Pipeline.mem_vcMembers_apply_ne hne s channelId)
    | _ => rfl
  · obtain ⟨rfl, rfl⟩ := pipelineOf_eq_some.mp hp
    show decide (p.userId ∈ (p.apply s).vcMembers channelId) = _
    have hmem := Pipeline.mem_vcMembers_apply p s channelId
    by_cases hid : p.channel.id = channelId
    · rw [if_pos hid] at hmem
      simp [hid, hmem]
    · rw [if_neg hid] at hmem
      simp [hid, hmem]

theorem voice_applyAll (commands : List Command) (s : Redis) (userId serverId : String) :
    (applyAll s commands).voice (userId, serverId)
      = applyWrites (s.voice (userId, serverId))
        ((commands.filterMap (pipelineOf userId)).map fun p =>
          if p.channel.parent = serverId then some p.keys else none) := by
  rw [← applyWrites_map_bind]
  exact obs_foldl (·.voice (userId, serverId))
    (fun s command => voice_apply command s userId serverId) s commands

theorem mem_vcMembers_applyAll (commands : List Command) (s : Redis) (userId channelId : String) :
    decide (userId ∈ (applyAll s commands).vcMembers channelId)
      = applyWrites (decide (userId ∈ s.vcMembers channelId))
        ((commands.filterMap (pipelineOf userId)).map fun p =>
          if p.channel.id = channelId then some p.joins else none) := by
  rw [← applyWrites_map_bind]
  exact obs_foldl (fun s => decide (userId ∈ s.vcMembers channelId))
    (fun s command => mem_vcMembers_apply command s userId channelId) s commands

/-! ### Trips -/

/-- A user goes from channel to channel in a server, and comes to each one at some time. -/
structure Trip (n : ℕ) where
  userId : String
  serverId : String
  channel : Fin (n + 2) → String
  joinedAt : Fin (n + 2) → Int

/-- The events of a trip, by the place of the channel in it. -/
inductive TripEvent (n : ℕ) where
  | joined (i : Fin (n + 2))
  | left (i : Fin (n + 2))
  deriving DecidableEq, Repr

namespace TripEvent

def place {n : ℕ} : TripEvent n → Fin (n + 2)
  | joined i => i
  | left i => i

end TripEvent

/-- An order in which the events of a trip are handled.  The user is in the first channel when
the trip begins, and stays in the last one; on the way channels are joined before they are
left. -/
structure Delivery (n : ℕ) where
  events : List (TripEvent n)
  nodup : events.Nodup
  mem_joined : ∀ i, .joined i ∈ events ↔ i ≠ 0
  mem_left : ∀ i, .left i ∈ events ↔ i ≠ Fin.last (n + 1)
  ordered : ∀ i, i ≠ 0 → i ≠ Fin.last (n + 1) → [.joined i, .left i].Sublist events

namespace Trip

variable {n : ℕ}

def voiceChannel (trip : Trip n) (i : Fin (n + 2)) : UserVoiceChannel :=
  ⟨trip.channel i, trip.serverId⟩

/-- The pipeline that an event leads to. -/
def pipeline (trip : Trip n) : TripEvent n → Pipeline
  | .joined i => .create (trip.voiceChannel i) trip.userId (trip.joinedAt i)
  | .left i => .delete (trip.voiceChannel i) trip.userId

/-- The user is connected to the last channel and to no other one. -/
structure Moved (trip : Trip n) (s : Redis) : Prop where
  state : ∃ state, (exec
    (getVoiceState (trip.voiceChannel (Fin.last (n + 1))) trip.userId) s).1 = .ok (some state)
  channel : (exec (getUserVoiceChannelInServer trip.userId trip.serverId) s).1
    = .ok (some (trip.channel (Fin.last (n + 1))))
  listed : Listed (trip.voiceChannel (Fin.last (n + 1))) trip.userId s
  others : ∀ i, trip.channel i ≠ trip.channel (Fin.last (n + 1)) →
    ¬ Listed (trip.voiceChannel i) trip.userId s

variable {trip : Trip n} {d : Delivery n} {commands : List Command} {s : Redis}

theorem channel_pipeline (trip : Trip n) (e : TripEvent n) :
    (trip.pipeline e).channel = trip.voiceChannel e.place := by
  cases e <;> rfl

/-- The last event decides what is known about the user. -/
theorem voice_applyAll_last {l : List (TripEvent n)} {e : TripEvent n}
    (h : commands.filterMap (pipelineOf trip.userId) = (l ++ [e]).map trip.pipeline) (s : Redis) :
    (applyAll s commands).voice (trip.userId, trip.serverId) = (trip.pipeline e).keys := by
  rw [voice_applyAll, h, map_append, map_append, applyWrites_append, map_singleton,
    map_singleton, applyWrites_cons, applyWrites_nil, channel_pipeline]
  exact congrArg (Option.getD · _) (if_pos rfl)

/-- The last event of a channel decides whether the user is a member. -/
theorem mem_vcMembers_applyAll
    (h : commands.filterMap (pipelineOf trip.userId) = d.events.map trip.pipeline)
    (s : Redis) (channelId : String) :
    decide (trip.userId ∈ (applyAll s commands).vcMembers channelId)
      = (lastWrite (d.events.map fun e =>
          if trip.channel e.place = channelId then some (trip.pipeline e).joins else none)).getD
        (decide (trip.userId ∈ s.vcMembers channelId)) := by
  rw [Voice.mem_vcMembers_applyAll, h, applyWrites_eq, List.map_map]
  refine congrArg (fun ws => (lastWrite ws).getD _) (map_congr_left fun e _ => ?_)
  show (if (trip.pipeline e).channel.id = channelId then _ else _) = _
  rw [channel_pipeline]
  rfl

end Trip

/-- A channel that is not the last one is left after it was joined. -/
theorem Delivery.left_after {n : ℕ} (d : Delivery n) {i : Fin (n + 2)}
    {l₁ l₂ : List (TripEvent n)} (h : d.events = l₁ ++ .joined i :: l₂)
    (hi : i ≠ Fin.last (n + 1)) : .left i ∈ l₂ := by
  have hzero : i ≠ 0 := (d.mem_joined i).mp (by rw [h]; simp)
  have hl₁ : .joined i ∉ l₁ := by
    have hnodup := d.nodup
    rw [h] at hnodup
    exact fun hmem => (nodup_append.mp hnodup).2.2 _ hmem _ mem_cons_self rfl
  obtain ⟨r₁, r₂, hr, hjoined, hleft⟩ := cons_sublist_iff.mp (d.ordered i hzero hi)
  rw [h] at hr
  obtain ⟨mid, rfl, hmid⟩ | ⟨mid, rfl, -⟩ := append_eq_append_iff.mp hr
  · rcases mid with - | ⟨e, mid⟩
    · rw [append_nil] at hjoined
      exact absurd hjoined hl₁
    · rw [cons_append, cons.injEq] at hmid
      rw [hmid.2]
      exact mem_append_right mid (singleton_sublist.mp hleft)
  · exact absurd (mem_append_left mid hjoined) hl₁

namespace Trip

variable {n : ℕ} {trip : Trip n} {d : Delivery n} {commands : List Command} {s : Redis}

/-- Behind the user the doors are closed: only the last channel can be one that was joined and
not left. -/
theorem not_mem_vcMembers_of_ne
    (h : commands.filterMap (pipelineOf trip.userId) = d.events.map trip.pipeline)
    (s : Redis) {i : Fin (n + 2)} (hi : trip.channel i ≠ trip.channel (Fin.last (n + 1))) :
    trip.userId ∉ (applyAll s commands).vcMembers (trip.channel i) := by
  rw [← decide_eq_false_iff_not, mem_vcMembers_applyAll h]
  have hlast : ∀ {j}, trip.channel j = trip.channel i → j ≠ Fin.last (n + 1) := by
    rintro j hj rfl
    exact hi hj.symm
  rcases hw : lastWrite (d.events.map fun e => if trip.channel e.place = trip.channel i
    then some (trip.pipeline e).joins else none) with - | joins
  · -- the channel was left at some time
    have hnone := lastWrite_map_eq_none hw _ ((d.mem_left i).mpr (hlast rfl))
    rw [TripEvent.place, if_pos rfl] at hnone
    cases hnone
  · rw [hw]
    obtain ⟨l₁, e, l₂, hevents, he, hnone⟩ := lastWrite_map_eq_some hw
    split at he
    · next hplace =>
      obtain rfl := some.inj he
      cases e with
      | left j => rfl
      | joined j =>
        have hafter := hnone _ (d.left_after hevents (hlast hplace))
        cases hafter.symm.trans (if_pos hplace)
    · cases he

theorem mem_vcMembers_last
    (h : commands.filterMap (pipelineOf trip.userId) = d.events.map trip.pipeline)
    (s : Redis) {l : List (TripEvent n)} (hl : d.events = l ++ [.joined (Fin.last (n + 1))]) :
    trip.userId ∈ (applyAll s commands).vcMembers (trip.channel (Fin.last (n + 1))) := by
  rw [← decide_eq_true_iff (p := trip.userId ∈ _), mem_vcMembers_applyAll h, hl, map_append,
    lastWrite_append, map_singleton, lastWrite_cons, lastWrite_nil, none_or,
    TripEvent.place, if_pos rfl]
  rfl

/-- **A trip ends in the last channel exactly when the arrival there is handled last.**  The
events of a trip are handled in any order in which channels are joined before they are left, and
other commands can come between them, such as those for other users. -/
theorem moved_iff (trip : Trip n) (d : Delivery n) (commands : List Command)
    (h : commands.filterMap (Command.pipelineOf trip.userId) = d.events.map trip.pipeline)
    (s : Redis) :
    trip.Moved (applyAll s commands) ↔
      d.events.getLast? = some (.joined (Fin.last (n + 1))) := by
  constructor
  · intro hmoved
    obtain ⟨state, hstate⟩ := hmoved.state
    rcases eq_nil_or_concat d.events with hnil | ⟨l, e, hevents⟩
    · have hlast := (d.mem_joined (Fin.last (n + 1))).mpr (Fin.ne_of_gt Fin.last_pos)
      rw [hnil] at hlast
      cases hlast
    rw [concat_eq_append] at hevents
    have hvoice := voice_applyAll_last (hevents ▸ h) s
    cases e with
    | left i =>
      -- nothing is left under the shared keys
      have hkeys : (applyAll s commands).voiceState (trip.voiceChannel (Fin.last (n + 1)))
          trip.userId = some state := ok.inj hstate
      rw [Redis.voiceState] at hkeys
      cases (congrArg (VoiceKeys.voiceState · trip.userId) hvoice).symm.trans hkeys
    | joined i =>
      by_cases hi : i = Fin.last (n + 1)
      · rw [hevents, getLast?_concat, hi]
      · cases d.left_after hevents hi
  · intro hlast
    obtain ⟨l, hl⟩ := getLast?_eq_some_iff.mp hlast
    have hvoice := voice_applyAll_last (hl ▸ h) s
    have hstate : (applyAll s commands).voiceState (trip.voiceChannel (Fin.last (n + 1)))
        trip.userId = some (.new trip.userId (trip.joinedAt (Fin.last (n + 1)))) :=
      congrArg (VoiceKeys.voiceState · trip.userId) hvoice
    have hchannel : ((applyAll s commands).voice (trip.userId, trip.serverId)).channel
        = some (trip.channel (Fin.last (n + 1))) := congrArg VoiceKeys.channel hvoice
    refine ⟨⟨_, congrArg ok hstate⟩, congrArg ok hchannel, ?_, fun i hi => ?_⟩
    · exact listed_iff.mpr ⟨mem_vcMembers_last h s hl, isSome_of_eq_some hstate⟩
    · exact fun hlisted => not_mem_vcMembers_of_ne h s hi (listed_iff.mp hlisted).1

/-- From one channel to another and to a third one. -/
def exampleTrip : Trip 1 where
  userId := "user"
  serverId := "server"
  channel := !["c1", "c2", "c3"]
  joinedAt _ := 0

/-- All goes well although the first channel is left late. -/
theorem moved_iff_arrival_last :
    exampleTrip.Moved (applyAll {} ([.joined 1, .left 0, .left 1, .joined 2].map fun e =>
      .pipeline (exampleTrip.pipeline e))) :=
  (moved_iff exampleTrip
    { events := [.joined 1, .left 0, .left 1, .joined 2]
      nodup := by decide
      mem_joined := by decide
      mem_left := by decide
      ordered := by decide }
    _ (by decide +kernel) {}).mpr (by decide)

/-- The user is in the first channel and goes to the second one.  After both events nothing is
known about the user any more. -/
theorem moved_left_last :
    let trip : Trip 0 :=
      { userId := "user", serverId := "server", channel := !["c1", "c2"], joinedAt := fun _ => 0 }
    let room (id : String) : Option Room := some ⟨id, some ⟨some "server"⟩⟩
    ¬ trip.Moved (exec (do
      let _ ← ingress ⟨.participantJoined, room "c1", some "user", 0⟩
      let _ ← ingress ⟨.participantJoined, room "c2", some "user", 0⟩
      ingress ⟨.participantLeft, room "c1", some "user", 0⟩) {}).2 := by
  intro trip room hmoved
  obtain ⟨state, hstate⟩ := hmoved.state
  cases hstate

end Trip

end DawnChat.Voice
