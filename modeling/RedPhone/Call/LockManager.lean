import RedPhone.Lib.Interleaving

/-!
# The Locks of a Call

The lock manager keeps the phone awake. Its locks follow the state of the
phone, and during a call also the orientation: the accelerometer listener turns
sensor events into a message, sent after a delay, whose handler calls the lock
manager back.

Sensor events and messages are handled on the main thread. `updatePhoneState`
is called by the service, on the main thread or from a callback on another, and
its calls do not overlap. What `setLockState`, `enable` and `setOrientation` do
is one step each, since they are `synchronized`. The handler is not: the `this`
it synchronizes on is the handler itself.

The angle the listener computes from a sensor event is not modelled. An event
says vertical or horizontal, as the schedule has it, and a message may be
handled any time after it was sent.

## Main definitions

* `Locks`, `Locks.setLockState`: The four locks.
* `AccelerometerListener`: The listener, and whether its message is queued.
* `CallerPc`, `MainPc`: Where `updatePhoneState` and the main thread are.
* `LockManager`: The lock manager and both threads.
* `updatePhoneState`, `handle`: A step of either.
* `LockManager.step`: A step of one of them.

## Theorems

* `called_ok`, `sensor_ok`, `dispatch_ok`: What such a step needs.
-/

namespace RedPhone

open Interleaving

inductive PhoneState
  | idle
  | processing
  | interactive
  | inCall
  deriving DecidableEq, Repr

inductive LockState
  | full
  | partialOnly
  | sleep
  | proximity
  deriving DecidableEq, Repr

inductive Orientation
  | unknown
  | vertical
  | horizontal
  deriving DecidableEq, Repr

/-- Which locks are held. None of them counts its acquisitions. -/
structure Locks where
  fullLock : Bool
  partialLock : Bool
  wifiLock : Bool
  /-- The proximity lock of the platform, if there is one. -/
  proximityLock : Option Bool
  deriving DecidableEq, Repr

namespace ProximityLock

/-- `maybeGetProximityLock` no longer asks for one. -/
def maybeGetProximityLock : Option Bool := none

def acquire (lock : Option Bool) : Option Bool := lock.map fun _ => true

def release (lock : Option Bool) : Option Bool := lock.map fun _ => false

end ProximityLock

namespace Locks

def create : Locks := ⟨false, false, false, ProximityLock.maybeGetProximityLock⟩

def setLockState (l : Locks) : LockState → Locks
  | .full => ⟨true, true, true, ProximityLock.release l.proximityLock⟩
  | .partialOnly => ⟨false, true, true, ProximityLock.release l.proximityLock⟩
  | .sleep => ⟨false, false, false, ProximityLock.release l.proximityLock⟩
  | .proximity => ⟨false, true, true, ProximityLock.acquire l.proximityLock⟩

/-- No lock is held. -/
structure Free (l : Locks) : Prop where
  fullLock : l.fullLock = false
  partialLock : l.partialLock = false
  wifiLock : l.wifiLock = false
  proximityLock : l.proximityLock ≠ some true

theorem free_sleep (l : Locks) : Free (l.setLockState .sleep) := by
  refine ⟨rfl, rfl, rfl, fun h => ?_⟩
  rw [setLockState, ProximityLock.release, Option.map_eq_some_iff] at h
  rcases h with ⟨_, _, h⟩
  exact absurd h nofun

end Locks

/-- The listener, with what the sensor manager and the looper have of it. -/
structure AccelerometerListener where
  registered : Bool
  mOrientation : Orientation
  mPendingOrientation : Orientation
  /-- Its message is queued. There is at most one. -/
  message : Bool
  deriving DecidableEq, Repr

namespace AccelerometerListener

def create : AccelerometerListener := ⟨false, .unknown, .unknown, false⟩

def enable (a : AccelerometerListener) : Bool → AccelerometerListener
  | true => { a with mOrientation := .unknown, mPendingOrientation := .unknown, registered := true }
  | false => { a with registered := false, message := false }

def setOrientation (a : AccelerometerListener) (orientation : Orientation) :
    AccelerometerListener :=
  if a.mPendingOrientation = orientation then a
  else if a.mOrientation ≠ orientation then
    { a with mPendingOrientation := orientation, message := true }
  else { a with mPendingOrientation := .unknown, message := false }

end AccelerometerListener

/-- Where the call of `updatePhoneState` is. -/
inductive CallerPc
  /-- There is none. The last one, if any, was for this state. -/
  | returned (last : Option PhoneState)
  /-- `switch (state)`. -/
  | begin (state : PhoneState)
  /-- `accelerometerListener.enable(false)`. -/
  | disable (state : PhoneState)
  /-- `updateInCallLockState`, which reads the orientation first. -/
  | readOrientation
  | setInCall (newState : LockState)
  | keyguard (state : PhoneState)
  deriving DecidableEq, Repr

/-- Where the main thread is. -/
inductive MainPc
  | idle
  /-- In `onSensorEvent`, before `setOrientation`. -/
  | sensor (orientation : Orientation)
  /-- `mOrientation = mPendingOrientation`. -/
  | handleMessage
  /-- `mListener.orientationChanged(mOrientation)`. -/
  | notify
  | orientationChanged (newOrientation : Orientation)
  /-- `updateInCallLockState`, which reads the orientation first. -/
  | readOrientation
  | setLockState (newState : LockState)
  deriving DecidableEq, Repr

/-- The main thread handles a message. -/
def MainPc.Handling : MainPc → Prop
  | .idle => False
  | .sensor _ => False
  | _ => True

/-- The lock manager, its listener and the two threads. -/
structure LockManager where
  locks : Locks
  wifiLockEnforced : Bool
  keyguardDisabled : Bool
  orientation : Orientation
  accelerometerListener : AccelerometerListener
  caller : CallerPc
  /-- `updatePhoneState` is called on the main thread. -/
  onMain : Bool
  main : MainPc
  deriving DecidableEq, Repr

/-- What happens next. -/
inductive LockTurn
  /-- `updatePhoneState` is called. -/
  | call (state : PhoneState) (onMain : Bool)
  /-- A step of the call. The keyguard is locked or not, if it asks. -/
  | caller (keyguardLocked : Bool)
  /-- The main thread gets a sensor event. -/
  | sensor (vertical : Bool)
  /-- The main thread takes the message from its queue. -/
  | dispatch
  /-- It goes on with what it has begun. -/
  | main
  deriving DecidableEq, Repr

namespace LockManager

def create (wifiLockEnforced : Bool) : LockManager where
  locks := Locks.create
  wifiLockEnforced := wifiLockEnforced
  keyguardDisabled := false
  orientation := .unknown
  accelerometerListener := AccelerometerListener.create
  caller := .returned none
  onMain := false
  main := .idle

/-- What `updateInCallLockState` sets. -/
def inCallLockState (m : LockManager) : LockState :=
  if m.orientation ≠ .horizontal ∧ m.wifiLockEnforced = true then .proximity else .full

def setLockState (m : LockManager) (newState : LockState) : LockManager :=
  { m with locks := m.locks.setLockState newState }

def enable (m : LockManager) (enable : Bool) : LockManager :=
  { m with accelerometerListener := m.accelerometerListener.enable enable }

def disableKeyguard (m : LockManager) (keyguardLocked : Bool) : LockManager :=
  if keyguardLocked then { m with keyguardDisabled := true } else m

/-- `maybeEnableKeyguard`. -/
def enableKeyguard (m : LockManager) : LockManager := { m with keyguardDisabled := false }

/-- A step of `updatePhoneState`. -/
def updatePhoneState (m : LockManager) (keyguardLocked : Bool) : Except Blocked LockManager :=
  match m.caller with
  | .returned _ => .error .blocked
  -- The lock state comes first, then the listener, then the keyguard.
  | .begin .idle => .ok { m.setLockState .sleep with caller := .disable .idle }
  | .begin .processing => .ok { m.setLockState .partialOnly with caller := .disable .processing }
  | .begin .interactive => .ok { m.setLockState .full with caller := .disable .interactive }
  -- In a call the listener comes first, and the orientation is read after it.
  | .begin .inCall => .ok { m.enable true with caller := .readOrientation }
  | .disable state => .ok { m.enable false with caller := .keyguard state }
  | .readOrientation => .ok { m with caller := .setInCall m.inCallLockState }
  | .setInCall newState => .ok { m.setLockState newState with caller := .keyguard .inCall }
  | .keyguard .idle => .ok { m.enableKeyguard with caller := .returned (some .idle) }
  | .keyguard .processing => .ok { m.enableKeyguard with caller := .returned (some .processing) }
  | .keyguard .interactive =>
    .ok { m.disableKeyguard keyguardLocked with caller := .returned (some .interactive) }
  | .keyguard .inCall =>
    .ok { m.disableKeyguard keyguardLocked with caller := .returned (some .inCall) }

/-- A step of the main thread in what it has begun. -/
def handle (m : LockManager) : Except Blocked LockManager :=
  match m.main with
  | .idle => .error .blocked
  | .sensor orientation => .ok { m with
      accelerometerListener := m.accelerometerListener.setOrientation orientation
      main := .idle }
  | .handleMessage => .ok { m with
      accelerometerListener := { m.accelerometerListener with
        mOrientation := m.accelerometerListener.mPendingOrientation }
      main := .notify }
  | .notify => .ok { m with main := .orientationChanged m.accelerometerListener.mOrientation }
  | .orientationChanged newOrientation => .ok { m with
      orientation := newOrientation
      main := .readOrientation }
  | .readOrientation => .ok { m with main := .setLockState m.inCallLockState }
  -- The lock state was chosen a step before, and may be old by now.
  | .setLockState newState => .ok { m.setLockState newState with main := .idle }

/-- `updatePhoneState` is called, and the last call has returned. -/
def called (m : LockManager) (state : PhoneState) (onMain : Bool) : Except Blocked LockManager :=
  match m.caller with
  | .returned _ =>
    -- The main thread does one thing after the other.
    if onMain = true ∧ m.main ≠ .idle then .error .blocked
    else .ok { m with caller := .begin state, onMain := onMain }
  | _ => .error .blocked

/-- The main thread is not in `updatePhoneState`. -/
def mainFree (m : LockManager) : Bool :=
  match m.caller with
  | .returned _ => true
  | _ => !m.onMain

/-- A step of one of the threads. -/
def step (m : LockManager) : LockTurn → Except Blocked LockManager
  | .call state onMain => m.called state onMain
  | .caller keyguardLocked => m.updatePhoneState keyguardLocked
  | .sensor vertical =>
    if m.accelerometerListener.registered = true ∧ m.main = .idle ∧
        m.mainFree = true then
      .ok { m with main := .sensor (if vertical then .vertical else .horizontal) }
    else .error .blocked
  | .dispatch =>
    if m.accelerometerListener.message = true ∧ m.main = .idle ∧
        m.mainFree = true then
      .ok { m with
        accelerometerListener := { m.accelerometerListener with message := false }
        main := .handleMessage }
    else .error .blocked
  | .main => m.handle

/-! ## What a step needs -/

variable {m m' : LockManager}

/-- A call begins on the main thread only if that has nothing else to do. -/
theorem called_ok {state : PhoneState} {onMain : Bool} (hstep : m.called state onMain = .ok m') :
    ¬ (onMain = true ∧ m.main ≠ .idle) ∧
      { m with caller := .begin state, onMain := onMain } = m' := by
  rw [called] at hstep
  cases hcaller : m.caller with
  | returned last =>
      rw [hcaller] at hstep
      dsimp only at hstep
      by_cases hbusy : onMain = true ∧ m.main ≠ .idle
      · rw [if_pos hbusy] at hstep
        simp only [reduceCtorEq] at hstep
      · rw [if_neg hbusy] at hstep
        exact ⟨hbusy, Except.ok.inj hstep⟩
  | _ =>
      rw [hcaller] at hstep
      simp only [reduceCtorEq] at hstep

/-- A sensor event needs the listener, and a main thread that is idle. -/
theorem sensor_ok {vertical : Bool} (hstep : m.step (.sensor vertical) = .ok m') :
    m.accelerometerListener.registered = true ∧ m.mainFree = true ∧
      { m with main := .sensor (if vertical then .vertical else .horizontal) } = m' := by
  rw [step] at hstep
  by_cases hguard : m.accelerometerListener.registered = true ∧ m.main = .idle ∧ m.mainFree = true
  · rw [if_pos hguard] at hstep
    exact ⟨hguard.1, hguard.2.2, Except.ok.inj hstep⟩
  · rw [if_neg hguard] at hstep
    simp only [reduceCtorEq] at hstep

/-- A message is taken by a main thread that is idle. -/
theorem dispatch_ok (hstep : m.step .dispatch = .ok m') :
    m.accelerometerListener.message = true ∧ m.mainFree = true ∧
      { m with
        accelerometerListener := { m.accelerometerListener with message := false }
        main := .handleMessage } = m' := by
  rw [step] at hstep
  by_cases hguard : m.accelerometerListener.message = true ∧ m.main = .idle ∧ m.mainFree = true
  · rw [if_pos hguard] at hstep
    exact ⟨hguard.1, hguard.2.2, Except.ok.inj hstep⟩
  · rw [if_neg hguard] at hstep
    simp only [reduceCtorEq] at hstep

end LockManager

end RedPhone
