/-
DawnChat/Tasks/Newest.lean

What several debounced workers leave in the database
(`core/database/src/tasks/last_message_id.rs`, `ack.rs` and `start_workers` in `mod.rs`).

Five workers take from the queue of message ids, and five from the queue of acknowledgements.
Each keeps tasks of its own, in which a later id replaces an earlier one without a comparison,
and writes without looking at what is stored.  So once everything is written, what is stored
belongs to the worker that wrote last, and is the last id that this worker took.  That is the
newest one exactly if it happens to be (`debouncedWrites_newest_iff`): another worker can have
taken a newer id and written it earlier, and senders can queue their ids in another order than
the ids have.
-/
import DawnChat.Tasks.AckWorker
import DawnChat.Unreads.Store

namespace DawnChat

open RustStd Fallible Handler Run ReferenceDb AckWorker List Option WorkerInput

variable {σ ω ω' : Type} [DecidableEq ω] [DecidableEq ω']

/-! ### Last message ids -/

/-- The fields of a channel that the worker writes. -/
structure ChannelDocument where
  id : String
  lastMessageId : Option String := none
  active : Option Bool := none
  deriving DecidableEq, Repr, Inhabited

abbrev ChannelDocuments := Collection ChannelDocument.id

namespace MongoDb

/-- Update a channel by its id: `$set` what the partial channel has. -/
def updateChannel (id : String) (channel : PartialChannel) (channels : ChannelDocuments) :
    ChannelDocuments :=
  channels.updateMany (·.id = id)
    (fun doc =>
      { doc with
        lastMessageId := channel.lastMessageId <|> doc.lastMessageId
        active := channel.active <|> doc.active })
    fun _ => rfl

end MongoDb

namespace LastMessageId

/-- Task information. -/
structure Data where
  /-- Channel to update. -/
  channel : String
  /-- Latest message id. -/
  id : String
  /-- Whether the channel is a DM. -/
  isDm : Bool
  deriving DecidableEq, Repr

/-- Task information. -/
structure Task where
  /-- Latest message id. -/
  id : String
  /-- Whether the channel is a DM. -/
  isDm : Bool
  deriving DecidableEq, Repr

/-- Replace the id of a task, or start one. -/
def enter (now : Instant × Instant) (task : Option (DelayedTask Task)) (data : Data) :
    DelayedTask Task :=
  match task with
  | some task => DelayedTask.delay { task with data := { task.data with id := data.id } } now.1
  | none => .new ⟨data.id, data.isDm⟩ now

def commit (key : String) (task : DelayedTask Task) (channels : ChannelDocuments) :
    ChannelDocuments :=
  let channel : PartialChannel := { lastMessageId := some task.data.id }
  MongoDb.updateChannel key
    (if task.data.isDm then { channel with active := some true } else channel) channels

def job : DebouncedJob Data String Task ChannelDocuments where
  capacity := 10000
  key := Data.channel
  enter now task data := some (enter now task data)
  commit key task channels := some (commit key task channels)

/-- The ids that are queued for a channel. -/
def idsOf (channel : String) (queued : List Data) : List String :=
  (queued.filter (·.channel = channel)).map (·.id)

/-- A task holds the id that was entered last. -/
theorem id_of_built {channel : String} {items : List Data} {task : DelayedTask Task}
    (h : Debounce.Built job channel items task) :
    items.getLast?.map (·.id) = some task.data.id := by
  cases h with
  | first hkey h =>
    obtain rfl := some.inj h
    rfl
  | more hitems hkey h =>
    obtain rfl := some.inj h
    rw [getLast?_concat]
    rfl

/-- The last message id that is stored for a channel. -/
def stored (channel : String) (channels : ChannelDocuments) : Option String :=
  (channels.get? channel).bind (·.lastMessageId)

theorem isSome_commit (key : String) (task : DelayedTask Task) (channels : ChannelDocuments)
    (channel : String) :
    ((commit key task channels).get? channel).isSome = (channels.get? channel).isSome := by
  rw [commit, MongoDb.updateChannel, Collection.get?_updateMany, isSome_map]

/-- A commit writes the channel of its key, if it is there. -/
theorem stored_commit (key : String) (task : DelayedTask Task) (channels : ChannelDocuments)
    (channel : String) :
    stored channel (commit key task channels)
      = if key = channel then (channels.get? channel).map fun _ => task.data.id
        else stored channel channels := by
  rw [stored, stored, commit, MongoDb.updateChannel, Collection.get?_updateMany_key]
  by_cases hkey : key = channel
  · rw [if_pos hkey, if_pos hkey.symm]
    cases channels.get? channel <;> cases task.data.isDm <;> rfl
  · rw [if_neg hkey, if_neg (Ne.symm hkey)]

/-- The tasks of a channel that is there set its last message id. -/
theorem sets (channel : String) :
    Debounce.Sets job channel (fun channels => (channels.get? channel).isSome = true)
      (stored channel) fun data => some data.id where
  keep := by
    intro key task channels channels' hthere hcommit
    obtain rfl := some.inj hcommit
    rw [isSome_commit]
    exact hthere
  set := by
    intro items task channels channels' hthere hbuilt hcommit
    obtain rfl := some.inj hcommit
    obtain ⟨doc, hdoc⟩ := isSome_iff_exists.mp hthere
    rw [stored_commit, if_pos rfl, hdoc, map_some, ← id_of_built hbuilt, map_eq_bind]
    rfl
  other := by
    intro key items task channels channels' hkey _ hcommit
    obtain rfl := some.inj hcommit
    rw [stored_commit, if_neg hkey]

end LastMessageId

/-! ### Last acknowledged ids -/

/-- Acknowledging sets the last id of one user and channel, and adding mentions sets none. -/
structure UnreadDriver.StoresLastId (U : UnreadDriver σ) : Prop where
  fetch : ∀ user channel s, ∃ unread, U.fetchUnread user channel s = .ok unread
  acknowledge : ∀ channel user id s key,
    (U.view (U.exec s (.acknowledgeMessage channel user id)) key).lastId
      = if key = ⟨channel, user⟩ then some id else (U.view s key).lastId
  add : ∀ channel user ids s key,
    (U.view (U.exec s (.addMentionToUnread channel user ids)) key).lastId = (U.view s key).lastId

theorem MongoDb.storesLastId (rule : UpsertRule) : (MongoDb.unreadDriver rule).StoresLastId where
  fetch _ _ _ := ⟨_, rfl⟩
  acknowledge channel user id unreads key := by
    rw [MongoDb.view_acknowledgeMessage, Unread.replay]
    split <;> rfl
  add channel user ids unreads key := by
    rw [MongoDb.view_addMentionToUnread, Unread.replay]
    split <;> rfl

theorem ReferenceDb.storesLastId : ReferenceDb.unreadDriver.StoresLastId where
  fetch _ _ _ := ⟨_, rfl⟩
  acknowledge channel user id db key := by
    rw [view_acknowledgeMessage]
    split <;> rfl
  add channel user ids db key := by
    rw [view_addMentionToUnread]
    split <;> rfl

/-- The calls of the database on unreads. -/
structure AckDriver.Uses (D : AckDriver σ) (U : UnreadDriver σ) : Prop where
  fetchUnread : D.fetchUnread = U.fetchUnread
  acknowledgeMessage : D.acknowledgeMessage = U.acknowledgeMessage
  addMentionToUnread : D.addMentionToUnread = U.addMentionToUnread

theorem ReferenceDb.ackDriver_uses : ReferenceDb.ackDriver.Uses ReferenceDb.unreadDriver :=
  ⟨rfl, rfl, rfl⟩

namespace AckWorker

variable {D : AckDriver σ} {U : UnreadDriver σ} {limit : Nat}

/-- The id of the last acknowledgement that is stored for a user in a channel. -/
def stored (U : UnreadDriver σ) (user channel : String) (s : σ) : Option String :=
  (U.view s ⟨channel, user⟩).lastId

theorem stored_addMentionToUnread (huses : D.Uses U) (hU : U.StoresLastId)
    (channel user : String) (ids : List String) (s : σ) (reader room : String) :
    stored U reader room ((D.addMentionToUnread channel user ids).exec s).2
      = stored U reader room s := by
  rw [huses.addMentionToUnread]
  exact hU.add channel user ids s ⟨room, reader⟩

theorem stored_addMentions (huses : D.Uses U) (hU : U.StoresLastId) (channel : String)
    (messages : List AckEntry) (users : List String) (s : σ) (reader room : String) :
    stored U reader room ((addMentions D channel messages users).exec s).2
      = stored U reader room s := by
  induction users generalizing s with
  | nil => rfl
  | cons user users ih =>
    rw [addMentions]
    by_cases hids : mentionIds messages user ≠ []
    · have hadd := stored_addMentionToUnread huses hU channel user (mentionIds messages user) s
        reader room
      rw [if_pos hids]
      refine store_of_bind (P := fun s' => stored U reader room s' = _)
        (fun e s₁ h => ?_) (fun _ s₁ h => ?_)
      · rw [h] at hadd
        exact hadd
      · rw [h] at hadd
        exact (ih s₁).trans hadd
    · rw [if_neg hids]
      exact ih s

/-- Messages leave the last acknowledgements alone. -/
theorem stored_processMessage (huses : D.Uses U) (hU : U.StoresLastId)
    (messages : List AckEntry) (user : Option String) (channel : String) (s : σ)
    (reader room : String) :
    stored U reader room ((handleAckEvent D (.processMessage messages) user channel).exec s).2
      = stored U reader room s := by
  rw [handleAckEvent]
  refine store_of_ofOption_bind (P := fun s' => stored U reader room s' = _) rfl
    fun _ _ => ?_
  have hadded := stored_addMentions huses hU channel messages
    (messages.flatMap (·.recipients)).dedup s reader room
  refine store_of_bind (P := fun s' => stored U reader room s' = _)
    (fun e s₁ h => ?_) (fun _ s₁ h => ?_)
  · rw [h] at hadded
    exact hadded
  · rw [h] at hadded
    -- what is left only reads
    split
    · exact hadded
    · refine store_of_get_bind (P := fun s' => stored U reader room s' = _)
        (store_of_ofOption_bind (P := fun s' => stored U reader room s' = _) hadded
          fun _ _ => ?_)
      split
      · exact hadded
      · exact hadded

/-- Once the unread has been read, an acknowledgement writes what the call writes. -/
theorem store_ackMessage {user channel : String} {unread : Option ChannelUnread} {s : σ}
    (hfetch : D.fetchUnread user channel s = .ok unread) (id : String) :
    ((handleAckEvent D (.ackMessage id) (some user) channel).exec s).2
      = ((D.acknowledgeMessage channel user id).exec s).2 := by
  have hread : (ofExcept (D.fetchUnread user channel s) : Request σ _).exec s
      = (.ok unread, s) := exec_ofExcept_ok.mpr ⟨hfetch, rfl⟩
  change (exec (ofExcept (D.fetchUnread user channel s) >>= _) s).2 = _
  rw [exec_bind_of_ok hread]
  rcases hwrite : (D.acknowledgeMessage channel user id).exec s with ⟨e | updated, s'⟩
  · rw [exec_bind_of_error hwrite]
  · rw [exec_bind_of_ok hwrite]
    split
    · dsimp only
      split <;> rfl
    · rfl

/-- An acknowledgement is stored. -/
theorem stored_ackMessage (huses : D.Uses U) (hU : U.StoresLastId) (id user channel : String)
    (s : σ) (reader room : String) :
    stored U reader room ((handleAckEvent D (.ackMessage id) (some user) channel).exec s).2
      = if reader = user ∧ room = channel then some id else stored U reader room s := by
  obtain ⟨unread, hunread⟩ := hU.fetch user channel s
  rw [store_ackMessage (huses.fetchUnread ▸ hunread), huses.acknowledgeMessage]
  refine (hU.acknowledge channel user id s ⟨room, reader⟩).trans (if_congr ?_ rfl rfl)
  rw [ChannelCompositeKey.mk.injEq, and_comm]

variable {key : TaskKey} {task : DelayedTask AckEvent}

theorem commit_eq {s s' : σ} (h : commit D key task s = some s') :
    s' = ((handleAckEvent D task.data key.user key.channel).exec s).2 := by
  unfold commit at h
  split at h
  · cases h
  · next hexec =>
    rw [hexec]
    exact (some.inj h).symm

/-- A task is for messages, or holds the acknowledgement that was entered last. -/
theorem last_of_built {items : List AckPush} (h : Debounce.Built (job D limit) key items task) :
    (key.kind = 1 ∧ ∃ messages, task.data = .processMessage messages) ∨
    ∃ user channel id, key = acksKey user channel ∧ task.data = .ackMessage id ∧
      items.getLast?.bind AckPush.ackId = some id := by
  rcases data_of_built h with ⟨hkind, hdata⟩ | ⟨hkind, -⟩
  · exact .inl ⟨hkind, _, hdata⟩
  · right
    cases h with
    | @first _ item _ hkey h =>
      subst hkey
      cases item with
      | message channel entry => cases hkind
      | ack channel user id =>
        obtain rfl := some.inj h
        exact ⟨user, channel, id, rfl, rfl, rfl⟩
    | @more _ _ item _ _ _ hkey h =>
      subst hkey
      cases item with
      | message channel entry => cases hkind
      | ack channel user id =>
        obtain rfl := some.inj h
        refine ⟨user, channel, id, rfl, rfl, ?_⟩
        rw [getLast?_concat]
        rfl

/-- The acknowledgements of a user in a channel set the last id there. -/
theorem sets (huses : D.Uses U) (hU : U.StoresLastId) (limit : Nat) (user channel : String) :
    Debounce.Sets (job D limit) (acksKey user channel) (fun _ => True) (stored U user channel)
      AckPush.ackId where
  keep _ _ := trivial
  set := by
    intro items task s s' _ hbuilt hcommit
    rw [commit_eq hcommit]
    obtain ⟨hkind, -⟩ | ⟨_, _, id, hkey, hdata, hlast⟩ := last_of_built hbuilt
    · cases hkind
    · rw [hdata, hlast]
      exact (stored_ackMessage huses hU id user channel s user channel).trans (if_pos ⟨rfl, rfl⟩)
  other := by
    intro key items task s s' hne hbuilt hcommit
    rw [commit_eq hcommit]
    obtain ⟨-, messages, hdata⟩ | ⟨reader, room, id, rfl, hdata, -⟩ := last_of_built hbuilt
    · rw [hdata]
      exact stored_processMessage huses hU messages key.user key.channel s user channel
    · rw [hdata]
      refine (stored_ackMessage huses hU id reader room s user channel).trans (if_neg ?_)
      rintro ⟨rfl, rfl⟩
      exact hne rfl

end AckWorker

/-! ### What is left -/

/-- The id is the greatest one. -/
def Greatest (ids : List String) (id : String) : Prop := id ∈ ids ∧ ∀ other ∈ ids, other ≤ id

theorem Greatest.unique {ids : List String} {a b : String} (ha : Greatest ids a)
    (hb : Greatest ids b) : a = b :=
  le_antisymm (hb.2 a ha.1) (ha.2 b hb.1)

/-- Every channel has the greatest id that was queued for it. -/
def LastMessageId.Newest (channels : ChannelDocuments) (queued : List Data)
    (s : WorkerState ω Data String Task ChannelDocuments) : Prop :=
  ∀ channel newest, (channels.get? channel).isSome → Greatest (idsOf channel queued) newest →
    stored channel s.store = some newest

/-- Every user has in every channel the id that was queued last. -/
def AckWorker.Newest (U : UnreadDriver σ) (queued : List AckPush)
    (s : WorkerState ω AckPush TaskKey AckEvent σ) : Prop :=
  ∀ user channel newest, (acksOf user channel queued).getLast? = some newest →
    stored U user channel s.store = some newest

theorem LastMessageId.newest_iff {channels : ChannelDocuments}
    {inputs : List (WorkerInput ω Data String)}
    {s : WorkerState ω Data String Task ChannelDocuments}
    (hrun : run (workerStep job) { store := channels } inputs = some s) (hidle : s.Idle)
    (hrefused : s.refused = []) :
    Newest channels (inputs.flatMap queued) s ↔
      ∀ channel newest, (channels.get? channel).isSome →
        Greatest (idsOf channel (inputs.flatMap queued)) newest →
        s.Decided job (fun data => some data.id) channel newest := by
  refine forall₄_congr fun channel newest hthere hgreatest => ?_
  obtain ⟨data, hdata, -⟩ := List.mem_map.mp hgreatest.1
  obtain ⟨hqueued, hchannel⟩ := mem_filter.mp hdata
  rw [← pushed_of_run hrun hrefused] at hqueued
  exact Debounce.read_eq_some_iff (sets channel) hthere (debounce_run hrun) hidle hqueued
    (of_decide_eq_true hchannel)

theorem AckWorker.newest_iff {D : AckDriver σ} {U : UnreadDriver σ} (huses : D.Uses U)
    (hU : U.StoresLastId) {limit : Nat} {unreads : σ}
    {inputs : List (WorkerInput ω AckPush TaskKey)} {s : WorkerState ω AckPush TaskKey AckEvent σ}
    (hrun : run (workerStep (job D limit)) { store := unreads } inputs = some s)
    (hidle : s.Idle) (hrefused : s.refused = []) :
    Newest U (inputs.flatMap queued) s ↔
      ∀ user channel newest,
        (acksOf user channel (inputs.flatMap queued)).getLast? = some newest →
        s.Decided (job D limit) AckPush.ackId (acksKey user channel) newest := by
  refine forall₄_congr fun user channel newest hlast => ?_
  obtain ⟨push, hpush, -⟩ := mem_filterMap.mp (mem_of_getLast? hlast)
  obtain ⟨hqueued, hkey⟩ := mem_filter.mp hpush
  rw [← pushed_of_run hrun hrefused] at hqueued
  exact Debounce.read_eq_some_iff (sets huses hU limit user channel) trivial (debounce_run hrun)
    hidle hqueued (of_decide_eq_true hkey)

open LastMessageId

/-- **Debounced writes and the newest value.**  Any number of workers take from each of the
two queues, in any interleaving.  Once both queues and all tasks are empty and no push was
dropped, every channel has the greatest id queued for it and every user has in every channel
the acknowledgement queued last, exactly if it is in each case the last one that was taken by
the worker that wrote last. -/
theorem debouncedWrites_newest_iff {channels : ChannelDocuments}
    {inputs : List (WorkerInput ω LastMessageId.Data String)}
    {s : WorkerState ω LastMessageId.Data String LastMessageId.Task ChannelDocuments}
    (hrun : run (workerStep LastMessageId.job) { store := channels } inputs = some s)
    (hidle : s.Idle) (hrefused : s.refused = [])
    {D : AckDriver σ} {U : UnreadDriver σ} (huses : D.Uses U) (hU : U.StoresLastId) {limit : Nat}
    {unreads : σ} {ackInputs : List (WorkerInput ω' AckPush TaskKey)}
    {t : WorkerState ω' AckPush TaskKey AckEvent σ}
    (hackRun : run (workerStep (job D limit)) { store := unreads } ackInputs = some t)
    (hackIdle : t.Idle) (hackRefused : t.refused = []) :
    LastMessageId.Newest channels (inputs.flatMap WorkerInput.queued) s ∧
      AckWorker.Newest U (ackInputs.flatMap WorkerInput.queued) t ↔
    (∀ channel newest, (channels.get? channel).isSome →
      Greatest (LastMessageId.idsOf channel (inputs.flatMap WorkerInput.queued)) newest →
      s.Decided LastMessageId.job (fun data => some data.id) channel newest) ∧
    ∀ user channel newest,
      (acksOf user channel (ackInputs.flatMap WorkerInput.queued)).getLast?
        = some newest →
      t.Decided (job D limit) AckPush.ackId (acksKey user channel) newest :=
  and_congr (newest_iff hrun hidle hrefused)
    (newest_iff huses hU hackRun hackIdle hackRefused)

section Runs

variable {α K T S : Type} [DecidableEq K]

instance [Fintype ω] (s : WorkerState ω α K T S) : Decidable s.Idle :=
  have : Decidable (s.queue = []) := decidable_of_iff _ List.isEmpty_iff
  inferInstanceAs (Decidable (s.queue = [] ∧ ∀ w, (s.worker w).tasks.keys = []))

/-- One worker takes the oldest item and the other one the two that follow, and they commit in
this order. -/
def inTurn (oldest middle newest : α) (k : K) : List (WorkerInput Bool α K) :=
  [.push oldest, .check false (fun _ => 0) [], .commit false, .take false (0, 0),
    .push middle, .push newest, .check true (fun _ => 0) [], .commit true, .take true (0, 0),
    .take true (0, 0), .take false (0, 0), .check false (fun _ => 6 * 10 ^ 9) [k], .commit false,
    .take true (0, 0), .check true (fun _ => 6 * 10 ^ 9) [k], .commit true]

/-- One worker takes the older item, the other one takes the newer item and commits it, and
then the first one commits. -/
def overtaken (older newer : α) (k : K) : List (WorkerInput Bool α K) :=
  [.push older, .check false (fun _ => 0) [], .commit false, .take false (0, 0),
    .push newer, .check true (fun _ => 0) [], .commit true, .take true (0, 0),
    .take true (0, 0), .check true (fun _ => 6 * 10 ^ 9) [k], .commit true,
    .take false (0, 0), .check false (fun _ => 6 * 10 ^ 9) [k], .commit false]

end Runs

/-- One channel. -/
def oneChannel : ChannelDocuments := (∅ : ChannelDocuments).insert { id := "c" }

/-- Three ids of a channel. -/
def idsInTurn : List (WorkerInput Bool LastMessageId.Data String) :=
  inTurn ⟨"c", "1", false⟩ ⟨"c", "2", false⟩ ⟨"c", "3", false⟩ "c"

/-- Three acknowledgements of a user. -/
def acksInTurn : List (WorkerInput Bool AckPush TaskKey) :=
  inTurn (.ack "c" "u" "1") (.ack "c" "u" "2") (.ack "c" "u" "3") (AckWorker.acksKey "u" "c")

/-- Two workers write three ids of a channel and three acknowledgements of a user. -/
theorem debouncedWrites_newest_in_turn :
    ∃ s t, run (workerStep LastMessageId.job) { store := oneChannel } idsInTurn = some s ∧
      run (workerStep (AckWorker.job ReferenceDb.ackDriver 3)) { store := {} } acksInTurn
        = some t ∧
      LastMessageId.Newest oneChannel (idsInTurn.flatMap WorkerInput.queued) s ∧
      AckWorker.Newest ReferenceDb.unreadDriver (acksInTurn.flatMap WorkerInput.queued) t := by
  obtain ⟨s, hrun, hidle, hrefused, hcommitter, htaken⟩ : ∃ s,
      run (workerStep job) { store := oneChannel } idsInTurn = some s ∧
        s.Idle ∧ s.refused = [] ∧ s.lastCommitter "c" = some true ∧
        (s.takenOf job true "c").getLast?.bind (fun data => some data.id) = some "3" :=
    exists_run_decide (by decide +kernel)
  obtain ⟨t, hackRun, hackIdle, hackRefused, hackCommitter, hackTaken⟩ : ∃ t,
      run (workerStep (job ackDriver 3)) { store := {} } acksInTurn = some t ∧
        t.Idle ∧ t.refused.isEmpty ∧ t.lastCommitter (acksKey "u" "c") = some true ∧
        (t.takenOf (job ackDriver 3) true
          (acksKey "u" "c")).getLast?.bind AckPush.ackId = some "3" :=
    exists_run_decide (by decide +kernel)
  refine ⟨s, t, hrun, hackRun, (debouncedWrites_newest_iff hrun hidle hrefused
    ackDriver_uses storesLastId hackRun hackIdle
    (List.isEmpty_iff.mp hackRefused)).mpr ⟨fun channel newest _ hgreatest => ?_,
      fun user channel newest hlast => ?_⟩⟩
  · obtain ⟨data, hdata, -⟩ := List.mem_map.mp hgreatest.1
    obtain ⟨hqueued, hchannel⟩ := mem_filter.mp hdata
    -- only this channel is written to
    obtain rfl : "c" = channel := (of_decide_eq_true hchannel) ▸
      (by decide : ∀ data ∈ idsInTurn.flatMap WorkerInput.queued, "c" = data.channel) data hqueued
    obtain rfl := hgreatest.unique (b := "3") ⟨by decide, by decide⟩
    exact ⟨true, hcommitter, htaken⟩
  · obtain ⟨push, hpush, -⟩ := mem_filterMap.mp (mem_of_getLast? hlast)
    obtain ⟨hqueued, hkey⟩ := mem_filter.mp hpush
    have hkeys := (by decide : ∀ push ∈ acksInTurn.flatMap WorkerInput.queued,
      acksKey "u" "c" = push.data.key) push hqueued
    obtain ⟨rfl, rfl⟩ : "u" = user ∧ "c" = channel := by
      simpa [acksKey] using hkeys.trans (of_decide_eq_true hkey)
    obtain rfl := some.inj hlast
    exact ⟨true, hackCommitter, hackTaken⟩

/-- **A worker that is overtaken** writes an id that is older than what is stored. -/
theorem debouncedWrites_overtaken :
    (∃ s, run (workerStep LastMessageId.job) { store := oneChannel }
        (overtaken ⟨"c", "1", false⟩ ⟨"c", "2", false⟩ "c") = some s ∧ s.Idle ∧ s.refused = [] ∧
      ¬ LastMessageId.Newest oneChannel [⟨"c", "1", false⟩, ⟨"c", "2", false⟩] s) ∧
    ∃ t, run (workerStep (AckWorker.job ReferenceDb.ackDriver 3)) { store := {} }
        (overtaken (.ack "c" "u" "1") (.ack "c" "u" "2") (AckWorker.acksKey "u" "c")) = some t ∧
      t.Idle ∧ t.refused = [] ∧
      ¬ AckWorker.Newest ReferenceDb.unreadDriver [.ack "c" "u" "1", .ack "c" "u" "2"] t := by
  constructor
  · refine exists_run_of
      (fun s => s.Idle ∧ s.refused = [] ∧ stored "c" s.store = some "1")
      (by decide +kernel)
      fun s _ ⟨hidle, hrefused, hstored⟩ => ⟨hidle, hrefused, fun h => ?_⟩
    have hnewest := h "c" "2" rfl ⟨by decide, by decide⟩
    rw [hstored] at hnewest
    exact absurd hnewest (by decide)
  · refine exists_run_of (fun t => t.Idle ∧ t.refused.isEmpty ∧
      stored unreadDriver "u" "c" t.store = some "1") (by decide +kernel)
      fun t _ ⟨hidle, hrefused, hstored⟩ =>
        ⟨hidle, List.isEmpty_iff.mp hrefused, fun h => ?_⟩
    have hnewest := h "u" "c" "2" rfl
    rw [hstored] at hnewest
    exact absurd hnewest (by decide)

end DawnChat
