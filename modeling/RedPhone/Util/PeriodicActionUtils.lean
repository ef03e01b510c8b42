import Mathlib.Tactic.Common

/-!
# Scheduling at Random Intervals

`PeriodicActionUtils.scheduleUpdate` keeps the time of the next update in the
preferences and sets an alarm for it. If that time is not in the future a
broadcast is sent to the receiver of the update at once, and a new time is
drawn, half a day to a day and a half after the clock.

Times are what `System.currentTimeMillis` returns, and the interval is drawn by
`java.util.Random` with such a time for a seed. Each call reads the clock up to
three times, and nothing is assumed of the readings.

What is broadcast and downloaded carries where it comes from, which the code
does not know.

## Main definitions

* `Random.nextLong`: The first number of a generator.
* `Readings`: What a call reads.
* `Origin`: What a broadcast goes back to.
* `Client`: The preferences, the alarms and the broadcasts on their way.
* `scheduleUpdate`: The method.
* `Client.sends`: How many broadcasts a call sends.

## Theorems

* `interval_bounds`: How far the next update is put off.
* `scheduleUpdate_eq`: What a call changes.
* `scheduleUpdate_alarms`: One alarm, for the time that is stored.
-/

namespace RedPhone

namespace Random

/-- The seed as the generator keeps it, 48 bits. -/
def scramble (seed : Int64) : UInt64 := (seed.toUInt64 ^^^ 0x5deece66d) &&& 0xffffffffffff

def nextSeed (seed : UInt64) : UInt64 := (seed * 0x5deece66d + 0xb) &&& 0xffffffffffff

/-- `next(32)`, of the seed that it has just drawn. -/
def high (seed : UInt64) : Int32 := (seed >>> 16).toUInt32.toInt32

/-- `new Random(seed).nextLong()`. -/
def nextLong (seed : Int64) : Int64 :=
  let first := nextSeed (scramble seed)
  let second := nextSeed first
  ((high first).toInt64 <<< 32) + (high second).toInt64

/-- The number the documentation of the generator leads to. -/
example : nextLong 0 = -4962768465676381896 ∧ nextLong 42 = -5025562857975149833 := by
  decide +kernel

end Random

namespace PeriodicActionUtils

/-- The clock when the generator is seeded, when the stored time is compared
    with it, and when a new time is drawn. -/
structure Readings where
  seed : Int64
  now : Int64
  later : Int64
  deriving DecidableEq, Repr

/-- What a broadcast goes back to: an expiry of the alarm, by its number and
    the clock, or a call by another component. -/
inductive Origin
  | expiry (number : Nat) (time : Int64)
  | call
  deriving DecidableEq, Repr

/-- A client, as far as the update of the directory is concerned. -/
structure Client where
  registered : Bool
  /-- The preference, which need not be set. -/
  scheduledTime : Option Int64
  /-- The alarms that are pending for the one `PendingIntent` there is. -/
  alarms : List Int64
  /-- The broadcasts that have been sent and not been received. -/
  broadcasts : List Origin
  /-- How often an alarm has gone off. -/
  expiries : Nat
  /-- The downloads that have been started. -/
  downloads : List Origin
  deriving DecidableEq, Repr

/-- `preferences.getLong(prefKey, -1)`. -/
def Client.storedTime (s : Client) : Int64 := s.scheduledTime.getD (-1)

def Client.sendBroadcast (s : Client) (origin : Origin) : Client :=
  { s with broadcasts := s.broadcasts ++ [origin] }

/-- `am.cancel`, with the intent of the receiver. -/
def Client.cancel (s : Client) : Client := { s with alarms := [] }

/-- `am.set`, which takes the place of an alarm with the same intent. -/
def Client.set (s : Client) (time : Int64) : Client := { s with alarms := [time] }

def interval (seed : Int64) : Int64 := 86400000 + Random.nextLong seed % 43200000

/-- `PeriodicActionUtils.scheduleUpdate`, with what has led to the call. -/
def scheduleUpdate (origin : Origin) (r : Readings) (s : Client) : Client :=
  let scheduledTime := s.storedTime
  -- The first broadcast is for a client with no time stored, which is -1.
  let s := if scheduledTime = -1 then s.sendBroadcast origin else s
  -- -1 is also behind the clock, so the second one follows in the same call.
  if scheduledTime ≤ r.now then
    let s := s.sendBroadcast origin
    let scheduledTime := r.later + interval r.seed
    ({ s with scheduledTime := some scheduledTime }.cancel).set scheduledTime
  else (s.cancel).set scheduledTime

/-- The broadcasts that a call sends. -/
def Client.sends (s : Client) (now : Int64) : Nat :=
  (if s.storedTime = -1 then 1 else 0) + (if s.storedTime ≤ now then 1 else 0)

/-- None are sent when the time is in the future, and is not what stands for
    none. -/
theorem sends_eq_zero (s : Client) (now : Int64) :
    s.sends now = 0 ↔ s.storedTime ≠ -1 ∧ now < s.storedTime := by
  unfold Client.sends
  rw [Nat.add_eq_zero_iff, ← Int64.not_le, ite_eq_right_iff, ite_eq_right_iff]
  constructor
  · rintro ⟨hset, hfuture⟩
    exact ⟨fun h => absurd (hset h) (by decide), fun h => absurd (hfuture h) (by decide)⟩
  · rintro ⟨hset, hfuture⟩
    exact ⟨fun h => absurd h hset, fun h => absurd h hfuture⟩

/-! ## What a call does -/

/-- The time a call leaves stored. -/
def Client.nextTime (s : Client) (r : Readings) : Option Int64 :=
  if s.storedTime ≤ r.now then some (r.later + interval r.seed) else s.scheduledTime

/-- A call as one change of the client. -/
theorem scheduleUpdate_eq (origin : Origin) (r : Readings) (s : Client) :
    scheduleUpdate origin r s
      = { s with
          scheduledTime := s.nextTime r
          alarms := [(s.nextTime r).getD (-1)]
          broadcasts := s.broadcasts ++ List.replicate (s.sends r.now) origin } := by
  unfold scheduleUpdate Client.nextTime Client.sends
  -- Either test may send on its own, so there are four cases.
  by_cases hnone : s.storedTime = -1
  · by_cases hdue : s.storedTime ≤ r.now
    · simp only [if_pos hnone, if_pos hdue, Client.sendBroadcast, List.append_assoc]
      rfl
    · simp only [if_pos hnone, if_neg hdue, Client.sendBroadcast]
      rfl
  · by_cases hdue : s.storedTime ≤ r.now
    · simp only [if_neg hnone, if_pos hdue, Client.sendBroadcast]
      rfl
    · simp only [if_neg hnone, if_neg hdue, Nat.add_zero, List.replicate_zero, List.append_nil]
      rfl

/-- Afterwards one alarm is pending, for the time that is stored. -/
theorem scheduleUpdate_alarms (origin : Origin) (r : Readings) (s : Client) :
    (scheduleUpdate origin r s).alarms = [(scheduleUpdate origin r s).storedTime] := by
  rw [scheduleUpdate_eq]
  rfl

/-- A time that is in the future stays. -/
theorem scheduleUpdate_storedTime (origin : Origin) (r : Readings) (s : Client)
    (h : r.now < s.storedTime) : (scheduleUpdate origin r s).storedTime = s.storedTime := by
  have hdue : ¬ s.storedTime ≤ r.now := Int64.not_le.mpr h
  rw [scheduleUpdate_eq, Client.nextTime, if_neg hdue]
  rfl

/-! ## How long -/

/-- The remainder of the runtime has the sign of the dividend. -/
theorem toInt_remainder (a b : Int64) : (a % b).toInt = a.toInt.tmod b.toInt :=
  BitVec.toInt_srem a.toBitVec b.toBitVec

/-- The next update is more than half a day off, and less than a day and a
    half. -/
theorem interval_bounds (seed : Int64) :
    43200000 < (interval seed).toInt ∧ (interval seed).toInt < 129600000 := by
  -- The remainder of half a day lies strictly within half a day on both sides of
  -- nought.
  have hday : (86400000 : Int64).toInt = 86400000 := by decide
  have hhalf : (43200000 : Int64).toInt = 43200000 := by decide
  have hpos : (0 : Int) < (43200000 : Int64).toInt := by decide
  have hlow := Int.lt_tmod_of_pos (Random.nextLong seed).toInt hpos
  have hhigh := Int.tmod_lt_of_pos (Random.nextLong seed).toInt hpos
  -- So the sum does not leave the range of a `long`.
  rw [← toInt_remainder] at hlow hhigh
  rw [interval, Int64.toInt_add, hday, Int.bmod_eq_of_le (by omega) (by omega)]
  omega

end PeriodicActionUtils

end RedPhone
