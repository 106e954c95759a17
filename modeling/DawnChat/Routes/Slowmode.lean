/-
DawnChat/Routes/Slowmode.lean

The slowmode of a channel (`message_send` in `delta/src/routes/channels/message_send.rs`).

A message sets a key in Redis that vanishes after `n` seconds.  If the key is there already,
the message asks how long it stays, and is turned away with the answer; but if the answer is
not positive, the message passes, although it has not set the key.

Messages that set the key are at least `n` seconds apart.  One that passes without it can come
in the last second of the key, or when the key vanishes between the two commands, and nothing
keeps the next message away from it.  If the second command always comes while the key has at
least a whole second left, then all messages that pass are `n` seconds apart
(`slowmode_spaced_of_inTime`).

Time is counted in milliseconds.
-/
import DawnChat.Lib.Run
import DawnChat.Database

namespace DawnChat

open RustStd Fallible Handler Run Function

/-! ### Redis -/

/-- The keys, and when they vanish. -/
abbrev RedisKeys := HashMap String Nat

namespace RedisKeys

variable (redis : RedisKeys) (key : String) (now : Nat)

def isSet : Bool := (redis.lookup key).any (now < ·)

/-- `SET key 1 NX EX seconds`; the flag says whether the key was set. -/
def setNx (seconds : Nat) : Bool × RedisKeys :=
  if redis.isSet key now then (false, redis) else (true, redis.insert key (now + 1000 * seconds))

/-- `TTL key`, where `wholeSeconds` says how milliseconds are made into seconds.  It is negative
for a key that is not there. -/
def ttl (wholeSeconds : Nat → Int) : Int :=
  match redis.lookup key with
  | some expiry => if now < expiry then wholeSeconds (expiry - now) else -2
  | none => -2

end RedisKeys

/-! ### The check -/

/-- The slowmode that applies to a message, and the channel it is for. -/
def slowmodeOf (permissions : PermissionValue) (channel : Channel) : Option (Nat × String) :=
  if permissions.hasChannelPermission .bypassSlowmode then none
  else
    match channel with
    | .textChannel c =>
      match c.slowmode with
      | some channelSlowmode =>
        if channelSlowmode > 0 then some (channelSlowmode, c.id) else none
      | none => none
    | _ => none

def slowmodeKey (userId channelId : String) : String := "slowmode:" ++ userId ++ ":" ++ channelId

/-- The messages of one user to one channel. -/
structure SlowmodeUser where
  userId : String
  channel : Channel
  wholeSeconds : Nat → Int

/-- The check of a message whose two commands are carried out at the given times. -/
def SlowmodeUser.checkSlowmode (u : SlowmodeUser) (permissions : PermissionValue)
    (now now' : Nat) : Request RedisKeys Unit := do
  match slowmodeOf permissions u.channel with
  | some (channelSlowmode, channelId) => do
      let key := slowmodeKey u.userId channelId
      let redis ← get
      -- atomic check-and-set
      let (wasSet, redis) := redis.setNx key now channelSlowmode
      set redis
      if wasSet then return ()
      else
        let ttl := redis.ttl key now' u.wholeSeconds
        throwIf (ttl > 0) (.inSlowmode ttl.toNat)
  | none => return ()

/-- How far the check of a message has come. -/
inductive SlowmodePhase where
  | start
  /-- The key was there, the message asks for how long. -/
  | refused (key : String)
  /-- There is no slowmode for the message. -/
  | exempt
  /-- The message has passed the check. -/
  | passed (time : Nat)
  | inSlowmode (retryAfter : Nat)
  deriving DecidableEq, Repr

namespace SlowmodePhase

/-- When the message has passed the check. -/
def passedAt : SlowmodePhase → Option Nat
  | .passed time => some time
  | _ => none

/-- The next command. -/
def advance (u : SlowmodeUser) (permissions : PermissionValue) (now : Nat) :
    SlowmodePhase × RedisKeys → SlowmodePhase × RedisKeys
  | (.start, redis) =>
    match slowmodeOf permissions u.channel with
    | some (channelSlowmode, channelId) =>
      let key := slowmodeKey u.userId channelId
      let (wasSet, redis) := redis.setNx key now channelSlowmode
      (if wasSet then .passed now else .refused key, redis)
    | none => (.exempt, redis)
  | (.refused key, redis) =>
    let ttl := redis.ttl key now u.wholeSeconds
    (if ttl > 0 then .inSlowmode ttl.toNat else .passed now, redis)
  | (phase, redis) => (phase, redis)

/-- A message whose key was refused asks for the rest of its time while there is a whole second
of it left. -/
def InTime (wholeSeconds : Nat → Int) (redis : RedisKeys) (now : Nat) : SlowmodePhase → Prop
  | .refused key => ∃ expiry ∈ redis.lookup key, now < expiry ∧ 0 < wholeSeconds (expiry - now)
  | _ => True

/-- What the check returns when it has come so far. -/
def outcome : SlowmodePhase → Except (Fault ErrorType) Unit
  | .inSlowmode retryAfter => .error (.error (.inSlowmode retryAfter))
  | _ => .ok ()

/-- **The commands are those of the check** of a message that is not interrupted. -/
theorem exec_checkSlowmode (u : SlowmodeUser) (permissions : PermissionValue) (now now' : Nat)
    (redis : RedisKeys) :
    (u.checkSlowmode permissions now now').exec redis
      = Prod.map outcome id
          (advance u permissions now' (advance u permissions now (.start, redis))) := by
  rw [SlowmodeUser.checkSlowmode, advance]
  rcases slowmodeOf permissions u.channel with - | ⟨channelSlowmode, channelId⟩
  · rfl
  rw [exec_get_bind]
  dsimp only
  rcases redis.setNx (slowmodeKey u.userId channelId) now channelSlowmode with ⟨- | -, redis'⟩
  · have hset : (set redis' : Request RedisKeys PUnit).exec redis = (.ok ⟨⟩, redis') := rfl
    rw [exec_bind_of_ok hset]
    by_cases httl : redis'.ttl (slowmodeKey u.userId channelId) now' u.wholeSeconds > 0
    · exact (exec_throwIf_error _ httl redis').trans (by simp [advance, outcome, httl])
    · exact (exec_throwIf_ok (u := ()) |>.mpr ⟨httl, rfl⟩).trans
        (by simp [advance, outcome, httl])
  · rfl

end SlowmodePhase

/-! ### Messages of one user -/

/-- The time, how far the checks of the messages have come, and the keys. -/
structure SlowmodeState (ι : Type) where
  now : Nat := 0
  phase : ι → SlowmodePhase := fun _ => .start
  redis : RedisKeys := ∅

namespace SlowmodeState

variable {ι : Type} [DecidableEq ι]

/-- A message takes its next step, at a time that is not before that of the last one. -/
def step (u : SlowmodeUser) (permissions : ι → PermissionValue) (s : SlowmodeState ι)
    (input : ι × Nat) : Option (SlowmodeState ι) :=
  if input.2 < s.now then none
  else
    let next := SlowmodePhase.advance u (permissions input.1) input.2 (s.phase input.1, s.redis)
    some
      { now := input.2
        phase := Function.update s.phase input.1 next.1
        redis := next.2 }

end SlowmodeState

/-- At least so many seconds lie between the two times. -/
def Apart (seconds time time' : Nat) : Prop :=
  time + 1000 * seconds ≤ time' ∨ time' + 1000 * seconds ≤ time

open SlowmodePhase

namespace SlowmodeState

variable {ι : Type}

/-- Messages that pass the check are so many seconds apart. -/
def Spaced (seconds : Nat) (s : SlowmodeState ι) : Prop :=
  ∀ i j, i ≠ j → ∀ time time', (s.phase i).passedAt = some time →
    (s.phase j).passedAt = some time' → Apart seconds time time'

/-- The key stays for so many seconds after each message that passes. -/
def KeyLasts (key : String) (seconds : Nat) (s : SlowmodeState ι) : Prop :=
  ∀ i time, (s.phase i).passedAt = some time →
    ∃ expiry, s.redis.lookup key = some expiry ∧ time + 1000 * seconds ≤ expiry

/-- The command of the message comes in time. -/
def InTime (wholeSeconds : Nat → Int) (s : SlowmodeState ι) (input : ι × Nat) : Prop :=
  (s.phase input.1).InTime wholeSeconds s.redis input.2

variable [DecidableEq ι] {u : SlowmodeUser} {permissions : ι → PermissionValue}
  {s s' : SlowmodeState ι} {input : ι × Nat} {seconds : Nat} {channelId : String}

omit [DecidableEq ι] in
/-- A key that is not there has vanished before. -/
theorem le_of_isSet_eq_false {redis : RedisKeys} {key : String} {now expiry : Nat}
    (h : redis.isSet key now = false) (hlookup : redis.lookup key = some expiry) :
    expiry ≤ now := by
  rw [RedisKeys.isSet, hlookup, Option.any_some, decide_eq_false_iff_not] at h
  exact Nat.not_lt.mp h

omit [DecidableEq ι] in
/-- A refused message that asks in time is turned away. -/
theorem passedAt_of_inTime {redis : RedisKeys} {key : String} {now : Nat}
    (h : (refused key).InTime u.wholeSeconds redis now) (permissions : PermissionValue) :
    (advance u permissions now (refused key, redis)).1.passedAt = none := by
  obtain ⟨expiry, hlookup, hlt, hwhole⟩ := h
  have httl : redis.ttl key now u.wholeSeconds = u.wholeSeconds (expiry - now) := by
    rw [RedisKeys.ttl, Option.mem_def.mp hlookup]
    exact if_pos hlt
  rw [advance, httl, if_pos hwhole]
  rfl

/-- **What a command does that comes in time**: it sets the key, which was not there, or it
leaves the keys alone and no message passes by it. -/
theorem step_cases
    (hslowmode : ∀ i, slowmodeOf (permissions i) u.channel = some (seconds, channelId))
    (hintime : s.InTime u.wholeSeconds input) (h : s.step u permissions input = some s') :
    (s.redis.isSet (slowmodeKey u.userId channelId) input.2 = false ∧
        s'.phase = Function.update s.phase input.1 (.passed input.2) ∧
        s'.redis = s.redis.insert (slowmodeKey u.userId channelId) (input.2 + 1000 * seconds)) ∨
      (s'.redis = s.redis ∧
        ∀ i time, (s'.phase i).passedAt = some time → (s.phase i).passedAt = some time) := by
  have hothers : ∀ {phase : SlowmodePhase},
      (∀ time, phase.passedAt = some time → (s.phase input.1).passedAt = some time) →
      ∀ i time, (Function.update s.phase input.1 phase i).passedAt = some time →
        (s.phase i).passedAt = some time := by
    intro phase hphase i time hi
    by_cases hinput : i = input.1
    · subst hinput
      rw [update_self] at hi
      exact hphase time hi
    · rwa [update_of_ne hinput] at hi
  rw [step] at h
  split at h
  · cases h
  · obtain rfl := Option.some.inj h
    rw [InTime] at hintime
    rcases hphase : s.phase input.1 with - | key | - | time | retryAfter
    · rw [advance, hslowmode]
      dsimp only
      rcases hset : s.redis.isSet (slowmodeKey u.userId channelId) input.2 with - | -
      · rw [RedisKeys.setNx, hset]
        exact .inl ⟨rfl, rfl, rfl⟩
      · rw [RedisKeys.setNx, hset]
        exact .inr ⟨rfl, hothers nofun⟩
    · rw [hphase] at hintime
      refine .inr ⟨rfl, hothers fun time htime => ?_⟩
      cases (passedAt_of_inTime hintime _).symm.trans htime
    · exact .inr ⟨rfl, hothers nofun⟩
    · exact .inr ⟨rfl, hothers fun _ htime => hphase ▸ htime⟩
    · exact .inr ⟨rfl, hothers nofun⟩

/-- Messages that pass stay apart, since the key lasts as long. -/
theorem spaced_step
    (hslowmode : ∀ i, slowmodeOf (permissions i) u.channel = some (seconds, channelId))
    (hlasts : s.KeyLasts (slowmodeKey u.userId channelId) seconds) (hspaced : s.Spaced seconds)
    (hintime : s.InTime u.wholeSeconds input) (h : s.step u permissions input = some s') :
    s'.KeyLasts (slowmodeKey u.userId channelId) seconds ∧ s'.Spaced seconds := by
  obtain ⟨hset, hphase, hredis⟩ | ⟨hredis, hpassed⟩ := step_cases hslowmode hintime h
  · -- the keys of the others have vanished by now
    have hbefore : ∀ i time, i ≠ input.1 → (s'.phase i).passedAt = some time →
        time + 1000 * seconds ≤ input.2 := by
      intro i time hi hi'
      rw [hphase, update_of_ne hi] at hi'
      obtain ⟨expiry, hlookup, hle⟩ := hlasts i time hi'
      exact hle.trans (le_of_isSet_eq_false hset hlookup)
    have hnow : ∀ time, (s'.phase input.1).passedAt = some time → time = input.2 := by
      intro time htime
      rw [hphase, update_self] at htime
      exact (Option.some.inj htime).symm
    refine ⟨fun i time hi => ⟨_, by rw [hredis, AList.lookup_insert], ?_⟩,
      fun i j hij time time' hi hj => ?_⟩
    · by_cases hinput : i = input.1
      · subst hinput
        rw [hnow time hi]
      · have := hbefore i time hinput hi
        omega
    · by_cases hinput : i = input.1
      · subst hinput
        rw [hnow time hi]
        exact .inr (hbefore j time' (Ne.symm hij) hj)
      · by_cases hinput' : j = input.1
        · subst hinput'
          rw [hnow time' hj]
          exact .inl (hbefore i time hinput hi)
        · rw [hphase, update_of_ne hinput] at hi
          rw [hphase, update_of_ne hinput'] at hj
          exact hspaced i j hij time time' hi hj
  · refine ⟨fun i time hi => ?_, fun i j hij time time' hi hj => ?_⟩
    · rw [hredis]
      exact hlasts i time (hpassed i time hi)
    · exact hspaced i j hij time time' (hpassed i time hi) (hpassed j time' hj)

end SlowmodeState

/-- **Slowmode.**  Any number of messages of one user to a channel with a slowmode, by somebody
who cannot bypass it, in any interleaving and at any times, whatever keys there are at first and
however Redis makes whole seconds of what is left.  If every message that is refused the key asks
for its time while a whole second of it is left, then messages that pass the check are always as
far apart as the slowmode says. -/
theorem slowmode_spaced_of_inTime {ι : Type} [DecidableEq ι] (userId : String) {c : TextChannel}
    {seconds : Nat} (hseconds : 0 < seconds) (hchannel : c.slowmode = some seconds)
    {permissions : ι → PermissionValue}
    (hbypass : ∀ i, (permissions i).hasChannelPermission .bypassSlowmode = false)
    (wholeSeconds : Nat → Int) (redis : RedisKeys) {schedule : List (ι × Nat)}
    (hintime : EachStep (SlowmodeState.step ⟨userId, .textChannel c, wholeSeconds⟩ permissions)
      (SlowmodeState.InTime wholeSeconds) { redis := redis } schedule) :
    Always (SlowmodeState.step ⟨userId, .textChannel c, wholeSeconds⟩ permissions)
      (SlowmodeState.Spaced seconds) { redis := redis } schedule := by
  have hslowmode : ∀ i, slowmodeOf (permissions i) (.textChannel c) = some (seconds, c.id) := by
    intro i
    rw [slowmodeOf, hbypass i, hchannel]
    exact if_pos hseconds
  have hboth := always_of_eachStep
    (P := fun s => s.KeyLasts (slowmodeKey userId c.id) seconds ∧ s.Spaced seconds)
    (fun _ _ _ hs hintime h => SlowmodeState.spaced_step
      (u := ⟨userId, .textChannel c, wholeSeconds⟩) hslowmode hs.1 hs.2 hintime h)
    ⟨fun _ _ htime => (nomatch htime), fun _ _ _ _ _ htime => (nomatch htime)⟩ hintime
  exact hboth.imp fun _ h => h.2

/-! ### A slowmode of one second -/

def slowChannel : TextChannel where
  id := "c"
  server := "s"
  slowmode := some 1

/-- The messages of a user to it. -/
def slowUser (wholeSeconds : Nat → Int) : SlowmodeUser where
  userId := "u"
  channel := .textChannel slowChannel
  wholeSeconds := wholeSeconds

instance (wholeSeconds : Nat → Int) (s : SlowmodeState (Fin 3)) (input : Fin 3 × Nat) :
    Decidable (s.InTime wholeSeconds input) := by
  unfold SlowmodeState.InTime SlowmodePhase.InTime
  split <;> infer_instance

/-- The second message is turned away before the key vanishes, and the third one sets it again.
Whole seconds are rounded up here. -/
theorem slowmode_spaced_of_inTime_turnedAway :
    ∃ s : SlowmodeState (Fin 3),
      run (SlowmodeState.step (slowUser fun milliseconds => ((milliseconds + 999) / 1000 : Nat))
        fun _ => 0) {} [(0, 0), (1, 400), (1, 700), (2, 1000)] = some s ∧
      (s.phase 1 = .inSlowmode 1 ∧ s.phase 2 = .passed 1000) ∧ s.Spaced 1 :=
  exists_run_of (fun s => s.phase 1 = .inSlowmode 1 ∧ s.phase 2 = .passed 1000)
    (by decide +kernel) fun s hrun hphases =>
      ⟨hphases, slowmode_spaced_of_inTime (c := slowChannel) "u" Nat.one_pos rfl
        (fun _ => by decide) _ ∅ (by decide +kernel) _ s List.prefix_rfl hrun⟩

/-- **Messages pass too early.**  If whole seconds are rounded down, a message passes in the last
second of the key, here half a second after the one that set it.  However they are rounded, the
key can vanish between the two commands of a message, which then passes, and the next one sets
the key and passes at the same time. -/
theorem slowmode_passes_early :
    (∃ s : SlowmodeState (Fin 2),
      run (SlowmodeState.step (slowUser fun milliseconds => (milliseconds / 1000 : Nat))
        fun _ => 0) {} [(0, 0), (1, 500), (1, 500)] = some s ∧ ¬ s.Spaced 1) ∧
    ∀ wholeSeconds, ∃ s : SlowmodeState (Fin 3),
      run (SlowmodeState.step (slowUser wholeSeconds) fun _ => 0) {}
        [(0, 0), (1, 999), (1, 1000), (2, 1000)] = some s ∧ ¬ s.Spaced 1 := by
  refine ⟨⟨_, rfl, fun h => ?_⟩, fun wholeSeconds => ⟨_, rfl, fun h => ?_⟩⟩
  · have hapart : Apart 1 0 500 := h 0 1 (by decide) 0 500 rfl rfl
    simp [Apart] at hapart
  · have hapart : Apart 1 1000 1000 := h 1 2 (by decide) 1000 1000 rfl rfl
    simp [Apart] at hapart

end DawnChat
