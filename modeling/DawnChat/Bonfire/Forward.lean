/-
DawnChat/Bonfire/Forward.lean

Updates of channels that the client cannot view (`bonfire/src/events/impl.rs`).

An update of a channel is published to the server and reaches the session of
every member.  `update_withheld_iff` says what happens to an update after which
the channel is hidden: it is withheld only when the channel was in view before,
because then a deletion is sent in its place.  What was hidden before as well is
passed on with the data of the channel.
-/
import DawnChat.Bonfire.Listener

namespace DawnChat

open RustStd Fallible Option

mutual

/-- The event carries data of the channel with this id. -/
def EventV1.carries (id : String) : EventV1 → Bool
  | .bulk v => EventV1.carriesAny id v
  | .ready payload => (payload.channels.getD []).any (·.id = id)
  | .serverCreate _ _ channels => channels.any (·.id = id)
  | .channelCreate channel => channel.id = id
  | .channelUpdate id' _ _ => id' = id
  | _ => false

def EventV1.carriesAny (id : String) : List EventV1 → Bool
  | [] => false
  | event :: events => event.carries id || EventV1.carriesAny id events

end

namespace State

open Handler

/-- The event, or what replaces it, reaches the client with data of the channel. -/
def Forwards (db : Database) (clock : Stream' Timestamp) (s : State) (event : EventV1)
    (id : String) : Prop :=
  ∃ sent s', exec (handleIncomingEventV1 db clock event) s = (.ok (true, sent), s') ∧
    sent.carries id = true

/-- The cache once an update of a channel has been looked at. -/
def updated (s : State) (db : Database) (id : String) (data : PartialChannel)
    (clear : List FieldsChannel) : Cache :=
  (s.cache.updateChannel id data clear).fetchMissing db id

section Update

variable {db : Database} {clock : Stream' Timestamp} {s : State} {id : String}
  {data : PartialChannel} {clear : List FieldsChannel} {ch : TextChannel}
  (hafter : (s.updated db id data clear).channels.lookup id = some (.textChannel ch))
  (hhidden : (s.updated db id data clear).canViewChannel db clock (.textChannel ch) = some false)

include hhidden

/-- The check cannot have been made without our user. -/
theorem exists_self_of_hidden : ∃ user, s.cache.users.lookup s.cache.userId = some user := by
  obtain ⟨channels, hframe⟩ := (s.cache.updateChannel id data clear).fetchMissing_frame db id
  rw [updated, hframe, Cache.canViewChannel] at hhidden
  obtain ⟨user, huser, -⟩ := bind_eq_some_iff.mp hhidden
  exact ⟨user, huser⟩

include hafter

/-- What the match makes of the update. -/
theorem exec_dispatch_of_hidden :
    exec (dispatch db clock (.channelUpdate id data clear)) s
      = (.ok (some (if s.cache.seesCached db id
          then { event := .channelDelete id, queueRemove := some id }
          else { event := .channelUpdate id data clear })),
        { s with cache := s.updated db id data clear }) := by
  obtain ⟨user, huser⟩ := exists_self_of_hidden hhidden
  obtain ⟨channels, hframe⟩ := (s.cache.updateChannel id data clear).fetchMissing_frame db id
  have huser' : (s.updated db id data clear).users.lookup (s.updated db id data clear).userId
      = some user := by
    rw [updated, hframe]
    exact huser
  have hsees : (s.updated db id data clear).sees db (.textChannel ch) = false := by
    rw [canViewChannel_eq_sees huser'] at hhidden
    exact some.inj hhidden
  have hdoes := does_dispatch huser db clock (.channelUpdate id data clear) s s.toSubscriptions
    rfl rfl
  rw [hdoes]
  show (Except.ok (some (s.cache.updateOutcome (s.updated db id data clear) db id _)), _) = _
  rw [Cache.updateOutcome, hafter]
  dsimp only
  rw [hsees]
  cases s.cache.seesCached db id with
  | false => rfl
  | true => rfl

/-- What was hidden before as well is sent as it is. -/
theorem forwards_of_hidden (hbefore : s.cache.seesCached db id = false) :
    Forwards db clock s (.channelUpdate id data clear) id := by
  have hdispatch := exec_dispatch_of_hidden hafter hhidden
  rw [hbefore] at hdispatch
  refine ⟨.channelUpdate id data clear, { s with cache := s.updated db id data clear }, ?_, ?_⟩
  · rw [handleIncomingEventV1, exec_bind_of_ok hdispatch]
    rfl
  · rw [EventV1.carries]
    exact decide_eq_true rfl

/-- **Which updates of hidden channels are withheld**: those that hid the channel. -/
theorem update_withheld_iff :
    ¬ Forwards db clock s (.channelUpdate id data clear) id ↔
      ∃ old, s.cache.channels.lookup id = some old ∧
        s.cache.canViewChannel db clock old = some true := by
  obtain ⟨user, huser⟩ := exists_self_of_hidden hhidden
  have hbefore : s.cache.seesCached db id = true ↔
      ∃ old, s.cache.channels.lookup id = some old ∧
        s.cache.canViewChannel db clock old = some true := by
    rw [Cache.seesCached, any_eq_true]
    simp only [canViewChannel_eq_sees huser, some.injEq]
  rw [← hbefore]
  constructor
  · intro h
    by_contra hnot
    exact h (forwards_of_hidden hafter hhidden (by simpa using hnot))
  · rintro hsaw ⟨sent, s', hexec, hcarries⟩
    have hdispatch := exec_dispatch_of_hidden hafter hhidden
    rw [hsaw] at hdispatch
    rw [handleIncomingEventV1, exec_bind_of_ok hdispatch] at hexec
    -- whatever becomes of the topic, a deletion is sent
    obtain ⟨event, s₁, hrecalculate, hrest⟩ := exec_bind_ok.mp hexec
    obtain ⟨rfl, -⟩ := exec_pure_ok.mp hrecalculate
    obtain ⟨_, s₂, -, hpure⟩ := exec_bind_ok.mp hrest
    obtain ⟨hsent, -⟩ := exec_pure_ok.mp hpure
    obtain rfl := (Prod.mk.inj hsent).2
    cases hcarries

end Update

/-- The update leaves a text channel in the cache that cannot be viewed. -/
def hides (s : State) (db : Database) (id : String) (data : PartialChannel)
    (clear : List FieldsChannel) : Bool :=
  match (s.updated db id data clear).channels.lookup id with
  | some (.textChannel ch) =>
    (s.updated db id data clear).canViewChannel db (Stream'.const 0) (.textChannel ch)
      == some false
  | _ => false

theorem exists_of_hides {s : State} {db : Database} {id : String} {data : PartialChannel}
    {clear : List FieldsChannel} (h : s.hides db id data clear = true) :
    ∃ ch, (s.updated db id data clear).channels.lookup id = some (.textChannel ch) ∧
      (s.updated db id data clear).canViewChannel db (Stream'.const 0) (.textChannel ch)
        = some false := by
  rw [hides] at h
  split at h
  · rename_i ch hch
    exact ⟨ch, hch, by simpa using h⟩
  · cases h

/-- Alice could view the channel until the update. -/
theorem update_withheld_iff_callState :
    ¬ Forwards callDb.database (Stream'.const 0) callState (.channelUpdate "voice"
      { defaultPermissions := some { d := ChannelPermission.viewChannel.value } } []) "voice" := by
  have hhides : callState.hides callDb.database "voice"
      { defaultPermissions := some { d := ChannelPermission.viewChannel.value } } [] = true := by
    decide +kernel
  obtain ⟨ch, hafter, hhidden⟩ := exists_of_hides hhides
  refine (update_withheld_iff hafter hhidden).mpr ?_
  have hsaw : (callState.cache.channels.lookup "voice").any (fun old =>
      callState.cache.canViewChannel callDb.database (Stream'.const 0) old == some true)
        = true := by
    decide +kernel
  obtain ⟨old, hold, hview⟩ := any_eq_true _ _ |>.mp hsaw
  exact ⟨old, hold, by simpa using hview⟩

/-- A channel of the server that Alice cannot view. -/
def secretDb : ReferenceDb :=
  { quietDb with
    channels := HashMap.collect [("secret", .textChannel { id := "secret", server := "server" })] }

/-- Alice's session has never seen the channel, and passes its new name on. -/
theorem hidden_update_forwarded :
    "secret" ∉ quietState.cache.channels ∧
    (∃ ch, (quietState.updated secretDb.database "secret" { name := some "plans" }
          []).channels.lookup "secret" = some (.textChannel ch) ∧
      (quietState.updated secretDb.database "secret" { name := some "plans" } []).canViewChannel
        secretDb.database (Stream'.const 0) (.textChannel ch) = some false) ∧
    Forwards secretDb.database (Stream'.const 0) quietState
      (.channelUpdate "secret" { name := some "plans" } []) "secret" := by
  have hhides : quietState.hides secretDb.database "secret" { name := some "plans" } [] = true := by
    decide +kernel
  obtain ⟨ch, hafter, hhidden⟩ := exists_of_hides hhides
  exact ⟨by decide +kernel, ⟨ch, hafter, hhidden⟩,
    forwards_of_hidden hafter hhidden (by decide +kernel)⟩

end State

end DawnChat
