/-
DawnChat/Voice/Indexes.lean

Who is in a voice channel is kept twice: as the members of the channel, and as the
channels of the user.

The members lie under the id of the channel.  The channels of a user are entries that
also name the server.  Joining adds on both sides and leaving removes on both sides.
A channel as a whole is deleted with a list of users: its members go, and the listed
users lose their entry.  When the voice server reports that a room has finished, this
list is empty.

`VoiceState.indexes_consistent_iff`: any number of calls run at the same time, and every
pipeline is one step.  Both sides agree throughout, and no one who is in no channel is
refused, exactly if whenever a channel is deleted all of its members are listed, and a
channel is taken away under the server it was entered with.  A room that finishes
while someone is in it leaves an entry behind that keeps this user out of every call
(`VoiceState.refused_after_room_finished`).
-/
import DawnChat.Lib.Interleave
import DawnChat.Lib.TwoWay
import DawnChat.Models.Users
import DawnChat.Voice.State

namespace DawnChat.Voice

open Fallible Handler Run Interleave TwoWay Function List

/-! ### Nodes, and deleting a channel -/

/-- The keys of the voice state, with those of the nodes. -/
structure VoiceRedis extends Redis where
  /-- `node:{channel}` -/
  node : String → Option String := fun _ => none

/-- Statements that do not concern nodes. -/
def onRedis {α : Type} (x : Request Redis α) : Request VoiceRedis α :=
  Handler.on VoiceRedis.toRedis (fun redis s => { s with toRedis := redis }) x

def setChannelNode (channelId node : String) : Request VoiceRedis Unit :=
  write fun s => .ok { s with node := Function.update s.node channelId (some node) }

def getChannelNode (channelId : String) : Request VoiceRedis (Option String) :=
  read fun s => .ok (s.node channelId)

def getUserVoiceChannels (userId : String) : Request VoiceRedis (List UserVoiceChannel) :=
  read fun s => .ok (s.vc userId)

def raiseIfInVoice (user : User) (channel : UserVoiceChannel) : Request VoiceRedis Unit := do
  if user.bot.isSome then
    -- bots can be in any number of channels
    let connected ← read fun s => .ok (decide (channel ∈ s.vc user.id))
    throwIf (connected = true) .alreadyConnected
  else
    let size ← read fun s => .ok (s.vc user.id).length
    throwIf (size > 0) .alreadyConnected

def deleteChannelVoiceState (channel : UserVoiceChannel) (userIds : List String) :
    Request VoiceRedis Unit :=
  write fun s => .ok
    { s with
      vcMembers := Function.update s.vcMembers channel.id []
      node := Function.update s.node channel.id none
      vc := userIds.foldl (fun vc userId =>
        Function.update vc userId (srem (vc userId) channel)) s.vc
      voice := userIds.foldl (fun voice userId =>
        Function.update voice (userId, channel.parent) {}) s.voice }

/-- The voice server is asked to remove the user too, and its answer is ignored. -/
def removeUserFromVoiceChannel (channel : UserVoiceChannel) (userId : String) :
    Request VoiceRedis Unit := do
  let _ ← getChannelNode channel.id
  onRedis (deleteVoiceState channel userId)

/-- What `delete_voice_channel` asks for before the channel is deleted.  `deleteRoom` is what the
voice server answers. -/
def deleteRoomOf (channel : UserVoiceChannel) (deleteRoom : Result Unit) :
    Request VoiceRedis Unit := do
  let node ← getChannelNode channel.id
  let _ ← ofOption node
  ofExcept deleteRoom

def deleteVoiceChannel (channel : UserVoiceChannel) (deleteRoom : Result Unit) :
    Request VoiceRedis Unit := do
  match ← onRedis (getVoiceChannelMembers channel) with
  | some users =>
    deleteRoomOf channel deleteRoom
    deleteChannelVoiceState channel users
  | none => return ()

/-! ### Tracks -/

structure PartialUserVoiceState where
  isReceiving : Option Bool := none
  isPublishing : Option Bool := none
  screensharing : Option Bool := none
  camera : Option Bool := none
  deriving DecidableEq, Repr

def updateVoiceState (channel : UserVoiceChannel) (userId : String)
    (data : PartialUserVoiceState) : Request VoiceRedis Unit :=
  let uniqueKey := (userId, channel.parent)
  write fun s => .ok
    { s with
      voice := Function.update s.voice uniqueKey
        { s.voice uniqueKey with
          camera := data.camera.or (s.voice uniqueKey).camera
          isPublishing := data.isPublishing.or (s.voice uniqueKey).isPublishing
          isReceiving := data.isReceiving.or (s.voice uniqueKey).isReceiving
          screensharing := data.screensharing.or (s.voice uniqueKey).screensharing } }

/-- What a track says about the user, by its source; `none` where the source is `unreachable!`. -/
def PartialUserVoiceState.ofTrack (added : Bool) : Int → Option PartialUserVoiceState
  | 0 => some {}
  | 1 => some { camera := added }
  | 2 => some { isPublishing := added }
  | 3 => some { screensharing := added }
  | 4 => some { screensharing := added }
  | _ => none

def updateVoiceStateTracks (channel : UserVoiceChannel) (userId : String) (added : Bool)
    (track : Int) : Request VoiceRedis PartialUserVoiceState := do
  let data ← ofOption (PartialUserVoiceState.ofTrack added track)
  updateVoiceState channel userId data
  return data

structure TrackInfo where
  /-- `type`: 0 audio, 1 video, 2 data -/
  kind : Int
  source : Int
  width : UInt32
  height : UInt32
  deriving DecidableEq, Repr

structure VideoLimits where
  videoResolution : UInt32 × UInt32
  /-- The quotient of width and height is not within the bounds for it. -/
  aspectForbidden : UInt32 → UInt32 → Bool

/-- A published track for which the user is disconnected.  The products wrap around. -/
def forbiddenTrack (limits : VideoLimits) (track : TrackInfo) : Bool :=
  track.kind = 2 ∨ track.kind = 1 ∧
    ((limits.videoResolution.1 ≠ 0 ∧ limits.videoResolution.2 ≠ 0 ∧
      track.width * track.height > limits.videoResolution.1 * limits.videoResolution.2) ∨
    limits.aspectForbidden track.width track.height = true)

inductive TrackEvent where
  | published
  | unpublished
  | unmuted
  | muted
  deriving DecidableEq, Repr

/-- What becomes of a track. -/
inductive TrackOutcome where
  /-- `remove_user` was called; its answer is ignored. -/
  | removedUser (node userId channelId : String)
  | takenUp (data : PartialUserVoiceState)
  deriving DecidableEq, Repr

/-- `user` is what the database says about the user. -/
def trackChanged (event : TrackEvent) (node : String) (channel : UserVoiceChannel)
    (userId : String) (track : TrackInfo) (user : Result VideoLimits) :
    Request VoiceRedis TrackOutcome := do
  let limits ← ofExcept user
  if event = .published ∧ forbiddenTrack limits track = true then
    onRedis (deleteVoiceState channel userId)
    return .removedUser node userId channel.id
  else
    let data ← updateVoiceStateTracks channel userId
      (decide (event = .published ∨ event = .unmuted)) track.source
    return .takenUp data

section Resolution

variable {limits : VideoLimits} {track : TrackInfo} {node : String} {channel : UserVoiceChannel}
  {userId : String} {s : VoiceRedis}

/-- The voice server is asked to remove the user from the channel, the voice state of the user
is deleted, and the track is not taken up. -/
def Disconnects (limits : VideoLimits) (track : TrackInfo) (node : String)
    (channel : UserVoiceChannel) (userId : String) (s : VoiceRedis) : Prop :=
  exec (trackChanged .published node channel userId track (.ok limits)) s
    = (.ok (.removedUser node userId channel.id),
      (exec (onRedis (deleteVoiceState channel userId)) s).2)

theorem disconnects_iff_forbidden :
    Disconnects limits track node channel userId s ↔ forbiddenTrack limits track = true := by
  have hlimits : exec (Handler.ofExcept (.ok limits) : Request VoiceRedis _) s
      = (.ok limits, s) := rfl
  rw [Disconnects, trackChanged, exec_bind_of_ok hlimits]
  by_cases hforbidden : forbiddenTrack limits track = true
  · rw [if_pos ⟨rfl, hforbidden⟩]
    exact iff_of_true rfl hforbidden
  · rw [if_neg fun h => hforbidden h.2, updateVoiceStateTracks]
    refine iff_of_false ?_ hforbidden
    cases PartialUserVoiceState.ofTrack _ track.source <;>
      exact fun h => nomatch congrArg Prod.fst h

/-- **A video is refused by its products in 32 bits**, which are right if neither overflows. -/
theorem resolution_limit_iff (hvideo : track.kind = 1) (hwidth : limits.videoResolution.1 ≠ 0)
    (hheight : limits.videoResolution.2 ≠ 0) :
    let pixels := track.width.toNat * track.height.toNat
    let limit := limits.videoResolution.1.toNat * limits.videoResolution.2.toNat
    (Disconnects limits track node channel userId s ↔ limit % UInt32.size < pixels % UInt32.size ∨
        limits.aspectForbidden track.width track.height = true) ∧
      (pixels < UInt32.size → limit < UInt32.size → limit < pixels →
        Disconnects limits track node channel userId s) := by
  intro pixels limit
  rw [disconnects_iff_forbidden, forbiddenTrack, decide_eq_true_eq]
  refine ⟨?_, fun hpixels hlimit hlt => .inr ⟨hvideo, .inl ⟨hwidth, hheight, ?_⟩⟩⟩
  · simp [hvideo, hwidth, hheight, UInt32.lt_iff_toNat_lt, pixels, limit, UInt32.size]
  · rw [gt_iff_lt, UInt32.lt_iff_toNat_lt, UInt32.toNat_mul, UInt32.toNat_mul]
    show limit % UInt32.size < pixels % UInt32.size
    rwa [Nat.mod_eq_of_lt hpixels, Nat.mod_eq_of_lt hlimit]

/-- Used for a video that is too large by one line. -/
theorem resolution_limit_iff_used :
    let track : TrackInfo := ⟨1, 1, 1280, 721⟩
    let limits : VideoLimits := ⟨(1280, 720), fun _ _ => false⟩
    (track.kind = 1 ∧ limits.videoResolution.1 ≠ 0 ∧ limits.videoResolution.2 ≠ 0) ∧
      Disconnects limits track "n" ⟨"c", none⟩ "u" {} :=
  ⟨by decide, (resolution_limit_iff rfl (by decide) (by decide)).2 (by decide) (by decide)
    (by decide)⟩

/-- The number of pixels wraps around: a video of `2 ^ 32` pixels is not refused. -/
theorem pixels_wrap_around :
    let limits : VideoLimits := ⟨(1280, 720), fun _ _ => false⟩
    1280 * 720 < 65536 * 65536 ∧
      ¬ Disconnects limits ⟨1, 1, 65536, 65536⟩ "n" ⟨"c", none⟩ "u" {} :=
  ⟨by decide, fun h => absurd (disconnects_iff_forbidden.mp h) (by decide)⟩

end Resolution

/-! ### All events of the voice server -/

inductive Webhook where
  | participant (event : WebhookEvent)
  | track (event : TrackEvent) (node : String) (room : Option Room) (participant : Option String)
      (track : Option TrackInfo) (user : Result VideoLimits)
  | roomFinished (room : Option Room)
  /-- Any other event is accepted and ignored. -/
  | other (room : Option Room)

/-- The channel that a room belongs to, if its metadata can be read. -/
def channelOf (room : Option Room) : Option UserVoiceChannel := do
  let room ← room
  let metadata ← room.metadata
  return ⟨room.name, metadata.server⟩

def require {α : Type} (a : Option α) : Request VoiceRedis α := onRedis (toInternalError a)

/-- `ingress`, for every kind of event. -/
def receive : Webhook → Request VoiceRedis Unit
  | .participant event => do
      let _ ← onRedis (ingress event)
      return ()
  | .track event node room participant track user => do
      let channel ← require (channelOf room)
      let userId ← require participant
      let track ← require track
      let _ ← trackChanged event node channel userId track user
      return ()
  | .roomFinished room => do
      let channel ← require (channelOf room)
      deleteChannelVoiceState channel []
  | .other none => return ()
  | .other (some room) => do
      let _ ← require room.metadata
      return ()

/-! ### Joining a call -/

structure JoinCall where
  user : User
  channel : UserVoiceChannel
  node : Option String
  forceDisconnect : Bool
  /-- The nodes that are configured. -/
  hosts : List String
  /-- What the voice server answers when a token and the room are asked for. -/
  createRoom : Result Unit

def JoinCall.chooseNode (call : JoinCall) : Request VoiceRedis (Option String × String) := do
  throwIf (call.user.bot.isSome = true ∧ call.forceDisconnect = true) .isBot
  let existingNode ← getChannelNode call.channel.id
  let node ← Handler.ofExcept ((existingNode.or call.node).elim (.error .unknownNode) .ok)
  throwIf (node ∉ call.hosts) .unknownNode
  return (existingNode, node)

/-- The loop over the channels that the user is in. -/
def disconnectFrom (userId : String) : List UserVoiceChannel → Request VoiceRedis Unit
  | [] => return ()
  | previousChannel :: channels => do
      removeUserFromVoiceChannel previousChannel userId
      disconnectFrom userId channels

def JoinCall.enter (call : JoinCall) (nodes : Option String × String) :
    Request VoiceRedis Unit := do
  ofExcept call.createRoom
  if nodes.1 = none then setChannelNode call.channel.id nodes.2

def joinCall (call : JoinCall) : Request VoiceRedis Unit := do
  let nodes ← call.chooseNode
  if call.forceDisconnect then
    let channels ← getUserVoiceChannels call.user.id
    disconnectFrom call.user.id channels
    call.enter nodes
  else
    raiseIfInVoice call.user call.channel
    call.enter nodes

/-! ### Calls in steps -/

inductive VoiceCall where
  | webhook (hook : Webhook)
  | removeUser (channel : UserVoiceChannel) (userId : String)
  | deleteChannel (channel : UserVoiceChannel) (deleteRoom : Result Unit)
  | join (call : JoinCall)

/-- What a call does next, and what it knows by then. -/
inductive Phase where
  | webhook (hook : Webhook)
  | removeUser (channel : UserVoiceChannel) (userId : String)
  -- delete_voice_channel
  | members (channel : UserVoiceChannel) (deleteRoom : Result Unit)
  | room (channel : UserVoiceChannel) (deleteRoom : Result Unit) (users : List String)
  | channelState (channel : UserVoiceChannel) (users : List String)
  -- join_call
  | node (call : JoinCall)
  | channels (call : JoinCall) (nodes : Option String × String)
  | disconnect (call : JoinCall) (nodes : Option String × String)
      (channels : List UserVoiceChannel)
  | raise (call : JoinCall) (nodes : Option String × String)
  | enter (call : JoinCall) (nodes : Option String × String)
  | ended

namespace VoiceCall

def handler : VoiceCall → Request VoiceRedis Unit
  | webhook hook => receive hook
  | removeUser channel userId => removeUserFromVoiceChannel channel userId
  | deleteChannel channel deleteRoom => deleteVoiceChannel channel deleteRoom
  | join call => joinCall call

def first : VoiceCall → Phase
  | webhook hook => .webhook hook
  | removeUser channel userId => .removeUser channel userId
  | deleteChannel channel deleteRoom => .members channel deleteRoom
  | join call => .node call

end VoiceCall

namespace Phase

/-- The statements up to the next pipeline or read that other calls can come between. -/
def next : Phase → Request VoiceRedis Phase
  | webhook hook => do
      let _ ← receive hook
      return ended
  | removeUser channel userId => do
      let _ ← removeUserFromVoiceChannel channel userId
      return ended
  | members channel deleteRoom => do
      let users ← onRedis (getVoiceChannelMembers channel)
      return users.elim ended (room channel deleteRoom)
  | room channel deleteRoom users => do
      let _ ← deleteRoomOf channel deleteRoom
      return channelState channel users
  | channelState channel users => do
      let _ ← deleteChannelVoiceState channel users
      return ended
  | node call => do
      let nodes ← call.chooseNode
      return if call.forceDisconnect then channels call nodes else raise call nodes
  | channels call nodes => do
      let previous ← getUserVoiceChannels call.user.id
      return disconnect call nodes previous
  | disconnect call nodes [] => return enter call nodes
  | disconnect call nodes (previous :: rest) => do
      let _ ← removeUserFromVoiceChannel previous call.user.id
      return disconnect call nodes rest
  | raise call nodes => do
      let _ ← raiseIfInVoice call.user call.channel
      return enter call nodes
  | enter call nodes => do
      let _ ← call.enter nodes
      return ended
  | ended => return ended

def advance : Phase × VoiceRedis → Phase × VoiceRedis := Interleave.advance next fun _ => ended

end Phase

/-- The call comes to its end on its own, and then the store is `s'`. -/
abbrev EndsIn (phase : Phase) (s s' : VoiceRedis) : Prop :=
  Finishes Phase.next (fun _ => .ended) (· = .ended) (phase, s) s'

theorem endsIn_bind {α : Type} {phase : Phase} {after : α → Phase} (x : Request VoiceRedis α)
    (f : α → Request VoiceRedis Unit) (s : VoiceRedis)
    (hnext : phase.next = do
      let a ← x
      return after a) (hrest : ∀ a s₁, EndsIn (after a) s₁ (exec (f a) s₁).2) :
    EndsIn phase s (exec (x >>= f) s).2 := by
  refine finishes_bind ?_ hnext fun a s₁ _ => hrest a s₁
  exact fun _ => rfl

/-- A phase whose statements are the last ones of the call. -/
theorem endsIn_last {phase : Phase} (x : Request VoiceRedis Unit) (s : VoiceRedis)
    (hnext : phase.next = do
      let _ ← x
      return .ended) : EndsIn phase s (exec x s).2 := by
  have h := endsIn_bind x (fun _ => pure ()) s hnext fun _ _ => finishes_of_ended rfl
  rwa [bind_pure_unit] at h

theorem endsIn_disconnect (call : JoinCall) (nodes : Option String × String)
    (previous : List UserVoiceChannel) (s : VoiceRedis) :
    EndsIn (.disconnect call nodes previous) s
      (exec (do disconnectFrom call.user.id previous; call.enter nodes) s).2 := by
  induction previous generalizing s with
  | nil =>
    have henter : EndsIn (.enter call nodes) s (exec (call.enter nodes) s).2 :=
      endsIn_last (call.enter nodes) s rfl
    obtain ⟨n, hn⟩ := henter
    exact ⟨n + 1, hn⟩
  | cons channel previous ih =>
    rw [disconnectFrom, bind_assoc]
    exact endsIn_bind (removeUserFromVoiceChannel channel call.user.id) _ s rfl fun _ => ih

/-- **The steps are a call** that is not interrupted. -/
theorem VoiceCall.endsIn (call : VoiceCall) (s : VoiceRedis) :
    EndsIn call.first s (exec call.handler s).2 := by
  cases call with
  | webhook hook => exact endsIn_last (receive hook) s rfl
  | removeUser channel userId => exact endsIn_last (removeUserFromVoiceChannel channel userId) s rfl
  | deleteChannel channel deleteRoom =>
    refine endsIn_bind (onRedis (getVoiceChannelMembers channel)) _ s rfl fun users s₁ => ?_
    rcases users with - | users
    · exact finishes_of_ended rfl
    · exact endsIn_bind (deleteRoomOf channel deleteRoom) _ s₁ rfl fun _ s₂ =>
        endsIn_last (deleteChannelVoiceState channel users) s₂ rfl
  | join call =>
    refine endsIn_bind call.chooseNode _ s rfl fun nodes s₁ => ?_
    rcases hforce : call.forceDisconnect
    · exact endsIn_bind (raiseIfInVoice call.user call.channel) _ s₁ rfl fun _ s₂ =>
        endsIn_last (call.enter nodes) s₂ rfl
    · exact endsIn_bind (getUserVoiceChannels call.user.id) _ s₁ rfl fun previous s₂ =>
        endsIn_disconnect call nodes previous s₂

/-! ### What a step does to the two sides -/

def Redis.index (s : Redis) : Index String String UserVoiceChannel where
  members channelId := {userId | userId ∈ s.vcMembers channelId}
  entries userId := {channel | channel ∈ s.vc userId}

inductive Change where
  | add (channel : UserVoiceChannel) (userId : String)
  | remove (channel : UserVoiceChannel) (userId : String)
  | clear (channel : UserVoiceChannel) (userIds : List String)
  deriving DecidableEq, Repr

namespace Change

def apply (x : Index String String UserVoiceChannel) :
    Change → Index String String UserVoiceChannel
  | add channel userId => x.add (·.id) channel userId
  | remove channel userId => x.drop (·.id) channel {userId} {userId}
  | clear channel userIds => x.drop (·.id) channel Set.univ {userId | userId ∈ userIds}

/-- The user has no entry for the channel under another server. -/
def OneEntry (s : Redis) (channel : UserVoiceChannel) (userId : String) : Prop :=
  ∀ other ∈ s.vc userId, other.id = channel.id → other = channel

/-- Nothing is forgotten: with the members of the channel that go, their entries go. -/
def Clean (s : Redis) : Change → Prop
  | add _ _ => True
  | remove channel userId => userId ∈ s.vcMembers channel.id → OneEntry s channel userId
  | clear channel userIds =>
    ∀ userId ∈ s.vcMembers channel.id, userId ∈ userIds ∧ OneEntry s channel userId

/-- A change keeps the agreement exactly if it is clean. -/
theorem agree_apply_iff {s : Redis} (h : s.index.Agree (·.id)) (change : Change) :
    (change.apply s.index).Agree (·.id) ↔ change.Clean s := by
  cases change with
  | add channel userId => exact iff_true_intro (Index.agree_add h channel userId)
  | remove channel userId =>
    refine (Index.agree_drop_iff h subset_rfl).trans ⟨fun hdrop hmember => ?_, ?_⟩
    · exact (hdrop userId rfl hmember).2
    · rintro hclean _ rfl hmember
      exact ⟨rfl, hclean hmember⟩
  | clear channel userIds =>
    refine (Index.agree_drop_iff h (Set.subset_univ _)).trans ⟨fun hdrop => ?_, ?_⟩
    · exact fun userId hmember => hdrop userId trivial hmember
    · exact fun hclean userId _ hmember => hclean userId hmember

theorem covered_apply {x : Index String String UserVoiceChannel} (h : x.Covered (·.id))
    (change : Change) : (change.apply x).Covered (·.id) := by
  cases change with
  | add channel userId => exact Index.covered_add h channel userId
  | remove channel userId => exact Index.covered_drop h subset_rfl
  | clear channel userIds => exact Index.covered_drop h (Set.subset_univ _)

def ofPipeline : Pipeline → Change
  | .create channel userId _ => add channel userId
  | .delete channel userId => remove channel userId

end Change

/-- No change, or one. -/
def changed (x : Index String String UserVoiceChannel) (change : Option Change) :
    Index String String UserVoiceChannel :=
  change.elim x (Change.apply x)

theorem mem_update_sadd {κ α : Type} [DecidableEq κ] [DecidableEq α] {sets : κ → List α}
    {key key' : κ} {a b : α} :
    b ∈ Function.update sets key (sadd (sets key) a) key' ↔
      b ∈ sets key' ∨ key' = key ∧ b = a := by
  by_cases hkey : key' = key
  · subst hkey
    simp [or_comm]
  · simp [hkey]

theorem mem_update_srem {κ α : Type} [DecidableEq κ] [DecidableEq α] {sets : κ → List α}
    {key key' : κ} {a b : α} :
    b ∈ Function.update sets key (srem (sets key) a) key' ↔
      b ∈ sets key' ∧ ¬ (key' = key ∧ b = a) := by
  by_cases hkey : key' = key
  · subst hkey
    simp
  · simp [hkey]

theorem index_pipeline (p : Pipeline) (s : Redis) :
    (p.apply s).index = (Change.ofPipeline p).apply s.index := by
  cases p with
  | create channel userId joinedAt =>
    refine Index.ext (funext fun channelId => Set.ext fun other => ?_)
      (funext fun other => Set.ext fun entry => mem_update_sadd)
    exact mem_update_sadd.trans (or_congr_right and_comm)
  | delete channel userId =>
    refine Index.ext (funext fun channelId => Set.ext fun other => ?_)
      (funext fun other => Set.ext fun entry => mem_update_srem)
    exact mem_update_srem.trans (and_congr_right' (not_congr and_comm))

/-- The loop over the listed users. -/
theorem mem_foldl_srem (channel entry : UserVoiceChannel) (userIds : List String)
    (vc : String → List UserVoiceChannel) (userId : String) :
    entry ∈ userIds.foldl (fun vc userId =>
        Function.update vc userId (srem (vc userId) channel)) vc userId ↔
      entry ∈ vc userId ∧ ¬ (userId ∈ userIds ∧ entry = channel) := by
  induction userIds generalizing vc with
  | nil => simp
  | cons head userIds ih =>
    rw [foldl_cons, ih, mem_update_srem, and_assoc, ← not_or, ← or_and_right, mem_cons]

theorem index_deleteChannelVoiceState (channel : UserVoiceChannel) (userIds : List String)
    (s : VoiceRedis) :
    (exec (deleteChannelVoiceState channel userIds) s).2.index
      = (Change.clear channel userIds).apply s.index := by
  refine Index.ext (funext fun channelId => Set.ext fun userId => ?_)
    (funext fun userId => Set.ext fun entry => mem_foldl_srem channel entry userIds s.vc userId)
  show userId ∈ update s.vcMembers channel.id [] channelId ↔
    userId ∈ s.vcMembers channelId ∧ ¬ (True ∧ channelId = channel.id)
  by_cases hid : channelId = channel.id
  · subst hid
    simp
  · simp [hid]

/-! #### Events of the voice server -/

/-- Commands change the two sides by their pipelines only. -/
theorem index_applyAll (commands : List Command) (s : Redis) :
    (applyAll s commands).index
      = (commands.filterMap Command.pipeline?).foldl
        (fun x p => (Change.ofPipeline p).apply x) s.index := by
  induction commands generalizing s with
  | nil => rfl
  | cons command commands ih =>
    rw [applyAll, foldl_cons]
    refine (ih (command.apply s)).trans ?_
    cases command with
    | pipeline p =>
      show List.foldl _ (p.apply s).index _ = _
      rw [index_pipeline]
      rfl
    | _ => rfl

theorem index_ingress (event : WebhookEvent) (s : Redis) :
    (exec (ingress event) s).2.index
      = changed s.index (event.pipeline.map Change.ofPipeline) := by
  obtain ⟨commands, hstore, hpipelines⟩ := issues_ingress event s
  rw [hstore, index_applyAll, hpipelines]
  cases event.pipeline <;> rfl

/-- What an event changes. -/
def Webhook.change : Webhook → Option Change
  | .participant event => event.pipeline.map Change.ofPipeline
  | .track event _ room identity info user => do
      let channel ← channelOf room
      let userId ← identity
      let track ← info
      let limits ← user.toOption
      if event = .published ∧ forbiddenTrack limits track = true then
        some (.remove channel userId)
      else none
  | .roomFinished room => (channelOf room).map (.clear · [])
  | .other _ => none

theorem index_updateVoiceStateTracks (channel : UserVoiceChannel) (userId : String) (added : Bool)
    (track : Int) (s : VoiceRedis) :
    (exec (updateVoiceStateTracks channel userId added track) s).2.index = s.index := by
  rw [updateVoiceStateTracks]
  cases PartialUserVoiceState.ofTrack added track <;> rfl

theorem index_trackChanged (event : TrackEvent) (node : String) (channel : UserVoiceChannel)
    (userId : String) (track : TrackInfo) (limits : VideoLimits) (s : VoiceRedis) :
    (exec (trackChanged event node channel userId track (.ok limits)) s).2.index
      = changed s.index (if event = .published ∧ forbiddenTrack limits track = true then
          some (.remove channel userId) else none) := by
  have hlimits : exec (Handler.ofExcept (.ok limits) : Request VoiceRedis _) s
      = (.ok limits, s) := rfl
  rw [trackChanged, exec_bind_of_ok hlimits]
  by_cases hforbidden : event = .published ∧ forbiddenTrack limits track = true
  · rw [if_pos hforbidden, if_pos hforbidden]
    exact index_pipeline (.delete channel userId) s.toRedis
  · rw [if_neg hforbidden, if_neg hforbidden, store_bind_pure]
    exact index_updateVoiceStateTracks channel userId _ track.source s

theorem index_receive (hook : Webhook) (s : VoiceRedis) :
    (exec (receive hook) s).2.index = changed s.index hook.change := by
  cases hook with
  | participant event =>
    rw [receive, store_bind_pure]
    exact index_ingress event s.toRedis
  | track event node room participant track user =>
    rw [receive, Webhook.change]
    rcases channelOf room with - | channel
    · rfl
    rcases participant with - | userId
    · rfl
    rcases track with - | track
    · rfl
    rcases user with e | limits
    · rfl
    · have hchanged := index_trackChanged event node channel userId track limits s
      rw [← store_bind_pure _ fun _ => ()] at hchanged
      exact hchanged
  | roomFinished room =>
    rw [receive, Webhook.change]
    rcases channelOf room with - | channel
    · rfl
    · exact index_deleteChannelVoiceState channel [] s
  | other room =>
    rcases room with - | ⟨name, - | metadata⟩ <;> rfl

/-! #### Steps of calls -/

/-- What the next step of a call changes. -/
def Phase.change : Phase → Option Change
  | webhook hook => hook.change
  | removeUser channel userId => some (.remove channel userId)
  | channelState channel users => some (.clear channel users)
  | disconnect call _ (previous :: _) => some (.remove previous call.user.id)
  | _ => none

instance (channel : UserVoiceChannel) (deleteRoom : Result Unit) :
    ReadOnly (deleteRoomOf channel deleteRoom) := by
  unfold deleteRoomOf getChannelNode
  infer_instance

instance (call : JoinCall) : ReadOnly call.chooseNode := by
  unfold JoinCall.chooseNode getChannelNode
  infer_instance

instance (user : User) (channel : UserVoiceChannel) : ReadOnly (raiseIfInVoice user channel) := by
  unfold raiseIfInVoice
  infer_instance

theorem index_enter (call : JoinCall) (nodes : Option String × String) (s : VoiceRedis) :
    (exec (call.enter nodes) s).2.index = s.index := by
  rw [JoinCall.enter]
  rcases call.createRoom with e | -
  · rfl
  · by_cases hnone : nodes.1 = none
    · rw [if_pos hnone]
      rfl
    · rw [if_neg hnone]
      rfl

/-- **What a step does to the two sides.** -/
theorem index_next (phase : Phase) (s : VoiceRedis) :
    (exec phase.next s).2.index = changed s.index phase.change := by
  cases phase with
  | webhook hook =>
    rw [Phase.next, store_bind_pure]
    exact index_receive hook s
  | removeUser channel userId => exact index_pipeline (.delete channel userId) s.toRedis
  | members channel deleteRoom => rfl
  | room channel deleteRoom users =>
    rw [Phase.next, store_bind_pure, ReadOnly.store]
    rfl
  | channelState channel users => exact index_deleteChannelVoiceState channel users s
  | node call =>
    rw [Phase.next, store_bind_pure, ReadOnly.store]
    rfl
  | channels call nodes => rfl
  | disconnect call nodes previous =>
    cases previous with
    | nil => rfl
    | cons previous rest => exact index_pipeline (.delete previous call.user.id) s.toRedis
  | raise call nodes =>
    rw [Phase.next, store_bind_pure, ReadOnly.store]
    rfl
  | enter call nodes =>
    rw [Phase.next, store_bind_pure]
    exact index_enter call nodes s
  | ended => rfl

/-! ### Both sides agree -/

/-- A user is a member of a channel exactly when the channel is among those of the user. -/
def IndexesAgree (s : VoiceRedis) : Prop :=
  ∀ userId channelId, userId ∈ s.vcMembers channelId ↔
    ∃ channel ∈ s.vc userId, channel.id = channelId

/-- A user who is in no channel is let into every one. -/
def NeverRefused (s : VoiceRedis) : Prop :=
  ∀ (user : User) (channel : UserVoiceChannel), (∀ channelId, user.id ∉ s.vcMembers channelId) →
    (exec (raiseIfInVoice user channel) s).1 = .ok ()

theorem neverRefused_of_indexesAgree {s : VoiceRedis} (h : IndexesAgree s) : NeverRefused s := by
  intro user channel hnone
  have hentries : s.index.entries user.id = ∅ := Index.entries_eq_empty h hnone
  have hvc : s.vc user.id = [] := eq_nil_iff_forall_not_mem.mpr fun entry hentry =>
    Set.notMem_empty entry (hentries ▸ hentry)
  rw [raiseIfInVoice]
  split
  all_goals
    rw [exec_read_bind, hvc]
    rfl

abbrev VoiceState (ι : Type) := Config ι (fun _ => Phase) VoiceRedis

namespace VoiceState

variable {ι : Type}

def step [DecidableEq ι] : VoiceState ι → ι → Option (VoiceState ι) :=
  Config.step fun _ => Phase.advance

/-- The calls have not begun, and Redis is empty. -/
def start (calls : ι → VoiceCall) : VoiceState ι where
  phase i := (calls i).first
  store := {}

/-- Both sides agree, and no one is refused for nothing. -/
structure Consistent (s : VoiceState ι) : Prop where
  agree : IndexesAgree s.store
  neverRefused : NeverRefused s.store

/-- The next step of the call forgets nothing. -/
def Clean (s : VoiceState ι) (i : ι) : Prop :=
  ∀ change, (s.phase i).change = some change → change.Clean s.store.toRedis

theorem consistent_iff_agree {s : VoiceState ι} : s.Consistent ↔ IndexesAgree s.store :=
  ⟨Consistent.agree, fun h => ⟨h, neverRefused_of_indexesAgree h⟩⟩

variable [DecidableEq ι] {s s' : VoiceState ι} {i : ι}

theorem index_step (hstep : step s i = some s') :
    s'.store.index = changed s.store.index (s.phase i).change := by
  rw [Config.store_of_step hstep, Phase.advance, advance_snd]
  exact index_next (s.phase i) s.store

theorem agree_step_iff (h : IndexesAgree s.store) (hstep : step s i = some s') :
    IndexesAgree s'.store ↔ s.Clean i := by
  show s'.store.index.Agree (·.id) ↔ _
  rw [index_step hstep, Clean]
  rcases (s.phase i).change with - | change
  · refine iff_of_true h ?_
    intro change hchange
    cases hchange
  · refine (Change.agree_apply_iff h change).trans ⟨fun hclean => ?_, fun hclean => ?_⟩
    · rintro _ ⟨⟩
      exact hclean
    · exact hclean change rfl

/-- **Nothing may be forgotten.**  Calls run at the same time, from an empty store, and every
pipeline is one step.  Throughout, the two sides agree and no one in no channel is refused,
exactly if every step is clean: who is taken from the members of a channel loses the entry. -/
theorem indexes_consistent_iff (calls : ι → VoiceCall) (schedule : List ι) :
    Always step Consistent (start calls) schedule ↔ EachStep step Clean (start calls) schedule := by
  refine always_iff_of_step (fun s i hs => ?_) ?_ schedule
  · obtain ⟨s', hs'⟩ : ∃ s', step s i = some s' := ⟨_, rfl⟩
    rw [← agree_step_iff (consistent_iff_agree.mp hs) hs', ← consistent_iff_agree]
    refine ⟨fun h => h s' hs', fun h s'' hs'' => ?_⟩
    obtain rfl := Option.some.inj (hs'.symm.trans hs'')
    exact h
  · refine consistent_iff_agree.mpr fun userId channelId => iff_of_false not_mem_nil ?_
    rintro ⟨channel, hmem, -⟩
    exact not_mem_nil hmem

/-- A room of a server. -/
def lobby : Room := ⟨"lobby", some ⟨some "server"⟩⟩

/-- A user joins, and the room finishes. -/
def joinThenFinish : Fin 2 → VoiceCall :=
  ![.webhook (.participant ⟨.participantJoined, some lobby, some "user", 0⟩),
    .webhook (.roomFinished (some lobby))]

/-- After the room has finished the user is a member of no channel.  The entry is still there,
and keeps the user out of every call. -/
theorem refused_after_room_finished :
    ∃ s, run step (start joinThenFinish) [0, 1] = some s ∧
      (∀ channelId, "user" ∉ s.store.vcMembers channelId) ∧
      ⟨"lobby", some "server"⟩ ∈ s.store.vc "user" ∧
      (∀ channel, (exec (raiseIfInVoice { id := "user" } channel) s.store).1
        = .error (.error .alreadyConnected)) ∧
      ¬ s.Consistent := by
  refine ⟨_, rfl, ?_⟩
  have hmembers : ∀ channelId, "user" ∉
      update (update (fun _ => []) "lobby" ["user"]) "lobby" [] channelId := by
    intro channelId
    rw [update_idem]
    by_cases hid : channelId = "lobby"
    · rw [hid, update_self]
      exact not_mem_nil
    · rw [update_of_ne hid]
      exact not_mem_nil
  refine ⟨hmembers, mem_singleton.mpr rfl, fun channel => rfl, fun hconsistent => ?_⟩
  cases hconsistent.neverRefused { id := "user" } ⟨"lobby", some "server"⟩ hmembers

/-- **One call at a time.**  Whatever calls run at the same time, from an empty store: as long as a
user other than a bot is in a channel, the user is refused in every channel. -/
theorem refused_in_channel (calls : ι → VoiceCall) (schedule : List ι) :
    Always step (fun s => ∀ (user : User) (channel : UserVoiceChannel) (channelId : String),
        user.bot = none → user.id ∈ s.store.vcMembers channelId →
          (exec (raiseIfInVoice user channel) s.store).1
            = .error (.error .alreadyConnected)) (start calls) schedule := by
  have hcovered : Always step (fun s => s.store.index.Covered (·.id)) (start calls) schedule := by
    refine always_of_step (fun s i s' hs hstep => ?_) (fun _ _ hmem => absurd hmem not_mem_nil)
      schedule
    rw [index_step hstep]
    rcases (s.phase i).change with - | change
    · exact hs
    · exact change.covered_apply hs
  refine hcovered.imp fun s hs user channel channelId hbot hmember => ?_
  obtain ⟨entry, hentry, -⟩ := hs user.id channelId hmember
  rw [raiseIfInVoice, hbot, if_neg (by decide), exec_read_bind,
    exec_throwIf_error _ (length_pos_of_mem hentry)]

end VoiceState

end DawnChat.Voice
