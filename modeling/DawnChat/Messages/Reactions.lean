/-
DawnChat/Messages/Reactions.lean

Reactions to a message by several users at the same time
(`add_reaction` and `remove_reaction` in `core/database/src/models/messages/model.rs`).

A call decides on a copy of the message that was fetched before, and then makes one atomic
update.  Whoever removes a reaction and was alone with it in the copy clears the emoji, others
are only taken out of its users.  By then the users can be others: the emoji is cleared although
somebody has reacted in between, or the last of its users is taken out and it stays without any.

`reactions_kept`: neither happens if the copy is right about whether the user is alone when a
reaction is removed (`ReactionRace.Current`).  The events that the calls send are left out.
-/
import DawnChat.Lib.Interleave
import DawnChat.Messages.Store

namespace DawnChat

open RustStd Fallible Handler Run Interleave MongoDb List Option AList

/-! ### Reactions -/

/-- A message with the users of each emoji it has. -/
structure ReactedMessage extends Message where
  reactions : HashMap String (Finset String) := ∅
  deriving DecidableEq

abbrev ReactedMessages := Collection fun message : ReactedMessage => message.id

/-- Check if we can use a given emoji to react. -/
def Interactions.canUse (interactions : Interactions) (emoji : String) : Bool :=
  if interactions.restrictReactions then
    match interactions.reactions with
    | some reactions => reactions.contains emoji
    | none => false
  else true

/-- What a reaction depends on besides the message. -/
structure ReactionRules where
  /-- `limits.global.message_reactions` -/
  messageReactions : Nat
  /-- The emoji is the id of one that somebody uploaded. -/
  isUlid : String → Bool
  fetchEmoji : String → Result Emoji
  permissibleEmojis : List String

/-- Check whether we can use a given emoji. -/
def Emoji.canUse (rules : ReactionRules) (emoji : String) : Result Bool :=
  if rules.isUlid emoji then do
    let _ ← rules.fetchEmoji emoji
    return true
  else return rules.permissibleEmojis.contains emoji

/-- An update of the users of an emoji. -/
inductive ReactionWrite where
  /-- `$addToSet` -/
  | add (user : String)
  /-- `$pull` -/
  | pull (user : String)
  /-- `$unset` -/
  | clear
  deriving DecidableEq, Repr

/-- The users afterwards; `none` if the emoji is not there. -/
def ReactionWrite.apply (users : Option (Finset String)) :
    ReactionWrite → Option (Finset String)
  | .add user => some (insert user (users.getD ∅))
  | .pull user => users.map (·.erase user)
  | .clear => none

namespace ReactedMessage

/-- The message after an update. -/
def update (message : ReactedMessage) (emoji : String) : ReactionWrite → ReactedMessage
  | .add user => { message with
      reactions := message.reactions.insert emoji
        (insert user ((message.reactions.lookup emoji).getD ∅)) }
  | .pull user => { message with reactions := message.reactions.modify emoji (·.erase user) }
  | .clear => { message with reactions := message.reactions.erase emoji }

theorem lookup_update (message : ReactedMessage) (emoji : String) (w : ReactionWrite)
    (other : String) :
    (message.update emoji w).reactions.lookup other
      = if other = emoji then w.apply (message.reactions.lookup emoji)
        else message.reactions.lookup other := by
  by_cases h : other = emoji
  · subst h
    rw [if_pos rfl]
    cases w with
    | add user => exact lookup_insert _
    | pull user => exact HashMap.lookup_modify _ _ _
    | clear => exact lookup_erase _ _
  · rw [if_neg h]
    cases w with
    | add user => exact lookup_insert_ne h
    | pull user => exact HashMap.lookup_modify_ne h _ _
    | clear => exact lookup_erase_ne h

end ReactedMessage

namespace MongoDb

def fetchMessage (id : String) (messages : ReactedMessages) : Result ReactedMessage :=
  match messages.get? id with
  | some message => .ok message
  | none => .error .notFound

/-- `update_one` on the message with the given id. -/
def updateReaction (id emoji : String) (w : ReactionWrite) (messages : ReactedMessages) :
    ReactedMessages :=
  messages.updateMany (·.id = id) (·.update emoji w) fun message => by cases w <;> rfl

/-- Add a new reaction to a message. -/
def addReaction (id emoji user : String) : Request ReactedMessages Unit :=
  write fun messages => .ok (updateReaction id emoji (.add user) messages)

/-- Remove a reaction from a message. -/
def removeReaction (id emoji user : String) : Request ReactedMessages Unit :=
  write fun messages => .ok (updateReaction id emoji (.pull user) messages)

/-- Remove reaction from a message. -/
def clearReaction (id emoji : String) : Request ReactedMessages Unit :=
  write fun messages => .ok (updateReaction id emoji .clear messages)

end MongoDb

namespace ReactedMessage

/-- Add a reaction to a message. -/
def addReaction (rules : ReactionRules) (message : ReactedMessage) (user emoji : String) :
    Request ReactedMessages Unit := do
  -- check how many reactions are already on the message
  throwIf (message.reactions.len ≥ rules.messageReactions ∧ emoji ∉ message.reactions)
    .invalidOperation
  -- check if the emoji is whitelisted
  throwIf (message.interactions.canUse emoji = false) .invalidOperation
  -- check if the emoji is usable by us
  let usable ← ofExcept (Emoji.canUse rules emoji)
  throwIf (usable = false) .invalidOperation
  MongoDb.addReaction message.id emoji user

/-- Remove a reaction from a message. -/
def removeReaction (message : ReactedMessage) (user emoji : String) :
    Request ReactedMessages Unit := do
  -- check if it actually exists
  match message.reactions.lookup emoji with
  | some users => do
      throwIf (user ∉ users) .notFound
      if users.card = 1 then
        -- if empty, remove the reaction entirely
        MongoDb.clearReaction message.id emoji
      else
        -- otherwise only remove that one reaction
        MongoDb.removeReaction message.id emoji user
  | none => fail .notFound

end ReactedMessage

/-! ### Calls -/

/-- A call on the message and the emoji. -/
inductive ReactionCall where
  | add (user : String) (rules : ReactionRules)
  | remove (user : String)

/-- How far a call has come. -/
inductive ReactionPhase where
  | fetch
  | call (message : ReactedMessage)
  | done
  | failed
  deriving DecidableEq

namespace ReactionCall

def request (emoji : String) (message : ReactedMessage) :
    ReactionCall → Request ReactedMessages Unit
  | .add user rules => message.addReaction rules user emoji
  | .remove user => message.removeReaction user emoji

/-- The next step on the database. -/
def next (call : ReactionCall) (id emoji : String) :
    ReactionPhase → Request ReactedMessages ReactionPhase
  | .fetch => do
      let message ← read (MongoDb.fetchMessage id)
      return .call message
  | .call message => do
      call.request emoji message
      return .done
  | phase => return phase

def advance (call : ReactionCall) (id emoji : String) :
    ReactionPhase × ReactedMessages → ReactionPhase × ReactedMessages :=
  Interleave.advance (call.next id emoji) fun _ => .failed

/-- The update that a call makes on a copy of the message if all its checks pass. -/
inductive Writes (emoji : String) (message : ReactedMessage) : ReactionCall → ReactionWrite → Prop
  | add {user : String} {rules : ReactionRules} : Writes emoji message (.add user rules) (.add user)
  | remove {user : String} {users : Finset String}
      (husers : message.reactions.lookup emoji = some users) (hmem : user ∈ users) :
      Writes emoji message (.remove user) (if users.card = 1 then .clear else .pull user)

end ReactionCall

/-! ### One call -/

open ReactionCall

section Call

variable {id emoji : String}

theorem ReactedMessage.id_update (message : ReactedMessage) (emoji : String) (w : ReactionWrite) :
    (message.update emoji w).id = message.id := by
  cases w <;> rfl

theorem MongoDb.get?_updateReaction (id emoji : String) (w : ReactionWrite)
    (messages : ReactedMessages) :
    (updateReaction id emoji w messages).get? id = (messages.get? id).map (·.update emoji w) :=
  (Collection.get?_updateMany_key messages id (·.update emoji w)
    (fun message => message.id_update emoji w) id).trans (if_pos rfl)

variable (call : ReactionCall) (message : ReactedMessage) (messages : ReactedMessages)

/-- A call makes its update, or it fails and nothing happens. -/
theorem ReactionCall.exec_request :
    (∃ e, (call.request emoji message).exec messages = (.error e, messages)) ∨
      ∃ w, call.Writes emoji message w ∧ (call.request emoji message).exec messages
        = (.ok (), updateReaction message.id emoji w messages) := by
  cases call with
  | add user rules =>
    rw [request, ReactedMessage.addReaction]
    by_cases hlimit : message.reactions.len ≥ rules.messageReactions ∧ emoji ∉ message.reactions
    · exact .inl ⟨_, exec_bind_of_error (exec_throwIf_error _ hlimit messages) _⟩
    rw [exec_bind_of_ok (exec_throwIf_ok (u := ()) |>.mpr ⟨hlimit, rfl⟩)]
    by_cases hinteractions : message.interactions.canUse emoji = false
    · exact .inl ⟨_, exec_bind_of_error (exec_throwIf_error _ hinteractions messages) _⟩
    rw [exec_bind_of_ok (exec_throwIf_ok (u := ()) |>.mpr ⟨hinteractions, rfl⟩)]
    rcases Emoji.canUse rules emoji with e | usable
    · exact .inl ⟨_, rfl⟩
    cases usable with
    | false => exact .inl ⟨_, rfl⟩
    | true => exact .inr ⟨_, .add, rfl⟩
  | remove user =>
    rw [request, ReactedMessage.removeReaction]
    rcases husers : message.reactions.lookup emoji with - | users
    · exact .inl ⟨_, rfl⟩
    dsimp only
    by_cases hmem : user ∈ users
    · rw [exec_bind_of_ok (exec_throwIf_ok (u := ()) |>.mpr ⟨not_not.mpr hmem, rfl⟩)]
      refine .inr ⟨_, .remove husers hmem, ?_⟩
      split <;> rfl
    · exact .inl ⟨_, exec_bind_of_error (exec_throwIf_error _ hmem messages) _⟩

theorem ReactionCall.advance_fetch : call.advance id emoji (.fetch, messages)
    = ((messages.get? id).elim .failed .call, messages) := by
  rw [advance, Interleave.advance, next, exec_bind, exec_read, fetchMessage]
  rcases messages.get? id with - | message <;> rfl

/-- **The steps are those of a call** that is not interrupted. -/
theorem ReactionCall.store_uninterrupted :
    ((call.advance id emoji)^[2] (.fetch, messages)).2
      = ((read (fetchMessage id) >>= call.request emoji :
          Request ReactedMessages Unit).exec messages).2 := by
  rw [Function.iterate_succ_apply, advance_fetch, exec_bind, exec_read, fetchMessage]
  rcases messages.get? id with - | message
  · rfl
  · exact (advance_snd _).trans (store_bind_pure _ _ messages)

end Call

/-! ### All calls -/

/-- Who has reacted besides a user. -/
def othersThan (user : String) (users : Option (Finset String)) : Finset String :=
  (users.getD ∅).erase user

open ReactionWrite

namespace ReactionRace

variable {ι : Type}

/-- How far the calls have come, and the messages. -/
abbrev State (ι : Type) := Config ι (fun _ => ReactionPhase) ReactedMessages

/-- Nothing has been done yet. -/
def start (messages : ReactedMessages) : State ι where
  phase _ := .fetch
  store := messages

/-- The users of an emoji; `none` if the message does not have it. -/
def users (id emoji : String) (c : State ι) : Option (Finset String) :=
  (c.store.get? id).bind fun message => message.reactions.lookup emoji

/-- **The copy is right about whether the user is alone**, when a call goes on to remove their
reaction: in the copy others have reacted just if others have by now. -/
def Current (calls : ι → ReactionCall) (id emoji : String) (c : State ι) (i : ι) : Prop :=
  match c.phase i, calls i with
  | .call message, .remove user =>
    othersThan user (message.reactions.lookup emoji) = ∅ ↔ othersThan user (users id emoji c) = ∅
  | _, _ => True

/-- The reaction of the user was added, and they do not remove one. -/
def Reacted (calls : ι → ReactionCall) (c : State ι) (user : String) : Prop :=
  (∃ i rules, calls i = .add user rules ∧ c.phase i = .done) ∧ ∀ i, calls i ≠ .remove user

/-- Whoever has added a reaction and removes none has it, and no emoji is without users. -/
structure Kept (calls : ι → ReactionCall) (id emoji : String) (c : State ι) : Prop where
  reacted : ∀ user, Reacted calls c user → ∃ after, users id emoji c = some after ∧ user ∈ after
  nonempty : ∀ other, users id other c ≠ some ∅

variable {calls : ι → ReactionCall} {id emoji : String} {messages : ReactedMessages}
  {message : ReactedMessage} {c c' : State ι} {i : ι}

/-- The message is there, and copies are copies of it. -/
structure Fetched (id : String) (c : State ι) : Prop where
  exists_message : ∃ message, c.store.get? id = some message
  id_copy : ∀ i message, c.phase i = .call message → message.id = id

variable [DecidableEq ι]

def step (calls : ι → ReactionCall) (id emoji : String) : State ι → ι → Option (State ι) :=
  Config.step fun i => (calls i).advance id emoji

/-- What a step of a call does: it fetches a copy, fails or stays where it is; or it makes its
update. -/
inductive Stepped (calls : ι → ReactionCall) (id emoji : String) (c : State ι) (i : ι)
    (c' : State ι) : Prop
  | quiet (hstore : c'.store = c.store) (hdone : c'.phase i = .done → c.phase i = .done)
      (hcopy : ∀ message, c'.phase i = .call message → c.store.get? id = some message)
  | wrote {message : ReactedMessage} {w : ReactionWrite} (hphase : c.phase i = .call message)
      (hwrites : (calls i).Writes emoji message w) (hdone : c'.phase i = .done)
      (hstore : c'.store = updateReaction message.id emoji w c.store)

section Step

variable (h : step calls id emoji c i = some c')

include h

theorem stepped : Stepped calls id emoji c i c' := by
  have hstore := Config.store_of_step h
  have hself := Config.phase_of_step h
  have hfailed : c'.store = c.store → c'.phase i = .failed → Stepped calls id emoji c i c' :=
    fun hstore hself => .quiet hstore (fun h => nomatch hself.symm.trans h)
      fun _ h => nomatch hself.symm.trans h
  rcases hphase : c.phase i with - | message | - | - <;> rw [hphase] at hstore hself
  · rw [advance_fetch] at hstore hself
    rcases hget : c.store.get? id with - | message <;> rw [hget] at hself
    · exact hfailed hstore hself
    · refine .quiet hstore (fun h => nomatch hself.symm.trans h) fun copy hcopy => ?_
      rw [hget, ReactionPhase.call.inj (hself.symm.trans hcopy)]
  · obtain ⟨e, hexec⟩ | ⟨w, hwrites, hexec⟩ := (calls i).exec_request message c.store
    · have hadvance : (calls i).advance id emoji (.call message, c.store) = (.failed, c.store) :=
        advance_of_error (exec_bind_of_error hexec _)
      rw [hadvance] at hstore hself
      exact hfailed hstore hself
    · have hadvance : (calls i).advance id emoji (.call message, c.store)
          = (.done, updateReaction message.id emoji w c.store) :=
        advance_of_ok (exec_bind_of_ok hexec _)
      rw [hadvance] at hstore hself
      exact .wrote hphase hwrites hself hstore
  · exact .quiet hstore (fun _ => hphase) fun _ h => nomatch hself.symm.trans h
  · exact hfailed hstore hself

theorem Fetched.step (hc : Fetched id c) : Fetched id c' := by
  cases stepped h with
  | quiet hstore hdone hcopy =>
    refine ⟨hstore ▸ hc.exists_message, fun j copy hj => ?_⟩
    by_cases hji : j = i
    · subst hji
      exact (Collection.get?_eq_some.mp (hcopy copy hj)).2
    · exact hc.id_copy j copy (Config.phase_of_step_ne h hji ▸ hj)
  | wrote hphase hwrites hdone hstore =>
    obtain ⟨message, hmessage⟩ := hc.exists_message
    refine ⟨?_, fun j copy hj => ?_⟩
    · rw [hstore, hc.id_copy i _ hphase, get?_updateReaction, hmessage]
      exact ⟨_, rfl⟩
    · have hji : j ≠ i := by
        rintro rfl
        cases hdone.symm.trans hj
      exact hc.id_copy j copy (Config.phase_of_step_ne h hji ▸ hj)

/-- A reaction is there after a step if it was before, or if the step adds it. -/
theorem Reacted.of_step {user : String} (hreacted : Reacted calls c' user) :
    Reacted calls c user ∨
      (c'.phase i = .done ∧ c.phase i ≠ .done) ∧ ∃ rules, calls i = .add user rules := by
  obtain ⟨⟨j, rules, hj, hdone⟩, hremove⟩ := hreacted
  by_cases hji : j = i
  · subst hji
    by_cases hbefore : c.phase j = .done
    · exact .inl ⟨⟨j, rules, hj, hbefore⟩, hremove⟩
    · exact .inr ⟨⟨hdone, hbefore⟩, rules, hj⟩
  · exact .inl ⟨⟨j, rules, hj, Config.phase_of_step_ne h hji ▸ hdone⟩, hremove⟩

end Step

omit [DecidableEq ι] in
/-- The users of the emojis after an update. -/
theorem users_wrote (hc : Fetched id c) (hphase : c.phase i = .call message) {w : ReactionWrite}
    (hstore : c'.store = updateReaction message.id emoji w c.store) (other : String) :
    users id other c'
      = if other = emoji then w.apply (users id emoji c) else users id other c := by
  obtain ⟨stored, hstored⟩ := hc.exists_message
  rw [users, users, users, hstore, hc.id_copy i message hphase, get?_updateReaction, hstored]
  exact stored.lookup_update emoji w other

/-- Somebody who has reacted is alone just if nobody else has. -/
theorem card_eq_one_iff {user : String} {users : Finset String} (h : user ∈ users) :
    users.card = 1 ↔ othersThan user (some users) = ∅ := by
  rw [othersThan, getD_some, Finset.erase_eq_empty_iff, or_iff_right (Finset.ne_empty_of_mem h),
    Finset.card_eq_one]
  constructor
  · rintro ⟨other, rfl⟩
    rw [Finset.mem_singleton.mp h]
  · exact fun h => ⟨user, h⟩

omit [DecidableEq ι] in
/-- The update of a call whose copy is right. -/
theorem writes_cases_of_current (hcurrent : Current calls id emoji c i)
    (hphase : c.phase i = .call message) {w : ReactionWrite}
    (hwrites : (calls i).Writes emoji message w) :
    (∃ user, w = .add user) ∨ ∃ user, calls i = .remove user ∧
      (w = .clear ∧ othersThan user (users id emoji c) = ∅ ∨
        w = .pull user ∧ othersThan user (users id emoji c) ≠ ∅) := by
  generalize hcall : calls i = call at hwrites
  cases hwrites with
  | @add user rules => exact .inl ⟨user, rfl⟩
  | @remove user copy hcopy hmem =>
    rw [Current, hphase, hcall] at hcurrent
    dsimp only at hcurrent
    rw [hcopy, ← card_eq_one_iff hmem] at hcurrent
    refine .inr ⟨user, rfl, ?_⟩
    by_cases hcard : copy.card = 1
    · exact .inl ⟨if_pos hcard, hcurrent.mp hcard⟩
    · exact .inr ⟨if_neg hcard, fun hnone => hcard (hcurrent.mpr hnone)⟩

/-- **A step on a copy that is right keeps what was reacted.** -/
theorem Kept.step (hkept : Kept calls id emoji c) (hc : Fetched id c)
    (hcurrent : Current calls id emoji c i) (h : step calls id emoji c i = some c') :
    Kept calls id emoji c' := by
  cases stepped h with
  | quiet hstore hquiet hcopy =>
    have husers : ∀ other, users id other c' = users id other c := fun other => by
      rw [users, users, hstore]
    refine ⟨fun user hreacted => ?_, fun other => husers other ▸ hkept.nonempty other⟩
    rw [husers]
    refine hkept.reacted user ((hreacted.of_step h).resolve_right ?_)
    exact fun ⟨⟨hdone, hbefore⟩, _⟩ => hbefore (hquiet hdone)
  | wrote hphase hwrites hdone hstore =>
    have husers := users_wrote hc hphase hstore
    have hemoji := (husers emoji).trans (if_pos rfl)
    have hcases := writes_cases_of_current hcurrent hphase hwrites
    constructor
    · intro user hreacted
      obtain hbefore | ⟨-, rules, hcall⟩ := hreacted.of_step h
      · obtain ⟨before, hbefore, hmem⟩ := hkept.reacted user hbefore
        obtain ⟨other, rfl⟩ | ⟨other, hcall, ⟨rfl, halone⟩ | ⟨rfl, -⟩⟩ := hcases
        · rw [hbefore] at hemoji
          exact ⟨_, hemoji, Finset.mem_insert_of_mem hmem⟩
        all_goals
          have hne : user ≠ other := fun hsame => hreacted.2 i (hsame ▸ hcall)
          have hstill : user ∈ before.erase other := Finset.mem_erase.mpr ⟨hne, hmem⟩
        · rw [othersThan, hbefore, getD_some] at halone
          exact absurd hstill (halone ▸ Finset.notMem_empty user)
        · rw [hbefore] at hemoji
          exact ⟨_, hemoji, hstill⟩
      · rw [hcall] at hwrites
        cases hwrites
        exact ⟨_, hemoji, Finset.mem_insert_self _ _⟩
    · intro other
      by_cases hother : other = emoji
      · rw [hother, hemoji]
        obtain ⟨user, rfl⟩ | ⟨user, -, ⟨rfl, -⟩ | ⟨rfl, hothers⟩⟩ := hcases
        · exact fun hempty => Finset.insert_ne_empty _ _ (some.inj hempty)
        · exact nofun
        · intro hempty
          obtain ⟨before, hbefore, herase⟩ := map_eq_some_iff.mp hempty
          rw [othersThan, hbefore, getD_some] at hothers
          exact hothers herase
      · rw [husers, if_neg hother]
        exact hkept.nonempty other

end ReactionRace

open ReactionRace ReactionWrite

/-- **Reactions are only removed by their owners**, in every state of every interleaving of any
number of calls on one message and one emoji in which removals act on copies that are right
about whether the user is alone. -/
theorem reactions_kept {ι : Type} [DecidableEq ι] (calls : ι → ReactionCall)
    (id emoji : String) {messages : ReactedMessages} {message : ReactedMessage}
    (hmessage : messages.get? id = some message)
    (hnonempty : ∀ other, message.reactions.lookup other ≠ some ∅) {schedule : List ι}
    (hcurrent : EachStep (ReactionRace.step calls id emoji) (Current calls id emoji)
      (start messages) schedule) :
    Always (ReactionRace.step calls id emoji) (Kept calls id emoji) (start messages) schedule := by
  have hstart : Kept calls id emoji (start messages) := by
    refine ⟨fun user hreacted => ?_, fun other => ?_⟩
    · obtain ⟨⟨_, _, -, hdone⟩, -⟩ := hreacted
      cases hdone
    · rw [users, start, hmessage]
      exact hnonempty other
  have hinv := always_of_eachStep (P := fun c => Fetched id c ∧ Kept calls id emoji c)
    (fun c i c' hc hcurrent h => ⟨hc.1.step h, hc.2.step hc.1 hcurrent h⟩)
    ⟨⟨⟨message, hmessage⟩, fun _ _ hphase => ReactionPhase.noConfusion hphase⟩, hstart⟩ hcurrent
  exact hinv.imp fun c hc => hc.2

/-! ### Two users -/

/-- Everybody may react with this emoji. -/
def plainRules : ReactionRules where
  messageReactions := 20
  isUlid _ := false
  fetchEmoji _ := .error .notFound
  permissibleEmojis := ["e"]

/-- A message with the given users of the emoji. -/
def reactedBy (users : Finset String) : ReactedMessages :=
  (∅ : ReactedMessages).insert { id := "m", reactions := HashMap.collect [("e", users)] }

/-- One user reacts, and the other one removes a reaction. -/
def addAndRemove : Bool → ReactionCall
  | true => .add "b" plainRules
  | false => .remove "a"

/-- Two users remove their reactions. -/
def removeBoth : Bool → ReactionCall
  | true => .remove "b"
  | false => .remove "a"

instance (calls : Bool → ReactionCall) (c : ReactionRace.State Bool) (i : Bool) :
    Decidable (Current calls "m" "e" c i) := by
  unfold Current
  split <;> infer_instance

/-- Somebody reacts between the two steps of a removal; a third user has reacted all along. -/
theorem reactions_kept_meanwhile :
    ∃ c, run (ReactionRace.step addAndRemove "m" "e") (start (reactedBy {"a", "c"}))
        [false, true, true, false] = some c ∧
      users "m" "e" c = some {"b", "c"} ∧ Kept addAndRemove "m" "e" c := by
  refine exists_run_of (fun c => users "m" "e" c = some {"b", "c"}) (by decide +kernel)
    fun c hrun husers => ⟨husers, ?_⟩
  refine reactions_kept addAndRemove "m" "e" rfl (fun other => ?_) (by decide +kernel) _ c
    prefix_rfl hrun
  by_cases hother : other = "e"
  · subst hother
    decide +kernel
  · have hnone : (HashMap.collect [("e", ({"a", "c"} : Finset String))]).lookup other = none :=
      lookup_insert_ne hother
    rw [hnone]
    nofun

/-- **Reactions get lost.**  Somebody reacts while the only other user removes their reaction, and
the emoji is cleared.  Two users remove their reactions at the same time, and the emoji stays
without users. -/
theorem reactions_lost :
    (∃ c, run (ReactionRace.step addAndRemove "m" "e") (start (reactedBy {"a"}))
        [false, true, true, false] = some c ∧
      (∀ i, c.phase i = .done) ∧ users "m" "e" c = none ∧ ¬ Kept addAndRemove "m" "e" c) ∧
    ∃ c, run (ReactionRace.step removeBoth "m" "e") (start (reactedBy {"a", "b"}))
        [false, true, true, false] = some c ∧
      (∀ i, c.phase i = .done) ∧ users "m" "e" c = some ∅ ∧ ¬ Kept removeBoth "m" "e" c := by
  constructor
  · refine exists_run_of (fun c => (∀ i, c.phase i = .done) ∧ users "m" "e" c = none)
      (by decide +kernel) fun c _ ⟨hdone, husers⟩ => ⟨hdone, husers, fun hkept => ?_⟩
    have hreacted : Reacted addAndRemove c "b" := by
      refine ⟨⟨true, plainRules, rfl, hdone true⟩, fun i h => ?_⟩
      cases i with
      | true => cases h
      | false => exact absurd (remove.inj h) (by decide)
    obtain ⟨after, hafter, -⟩ := hkept.reacted "b" hreacted
    cases husers.symm.trans hafter
  · exact exists_run_of (fun c => (∀ i, c.phase i = .done) ∧ users "m" "e" c = some ∅)
      (by decide +kernel) fun c _ ⟨hdone, husers⟩ =>
        ⟨hdone, husers, fun hkept => hkept.nonempty "e" husers⟩

end DawnChat
