import RedPhone.Lib.Interleaving

/-!
# The Native Audio of a Call

The thread of a call runs `start`, which sets the audio up and receives packets
until `running` is cleared. The thread that ends the call runs `terminate`,
that is `stop` and then `dispose`: `stop` clears `running`, waits until
`finished` is set, and `dispose` deletes the object. The Java side makes each
of the two calls once.

Each access to a flag is one step, and so is each call. The flags are read and
written in the order of the steps. The calls that set the audio up, and the
`pthread_mutex_lock` of `start`, succeed or fail as the schedule says. `stop`
does not look at what its own calls return, and they are taken to succeed. The
wait on the condition may end although nobody has signalled it.

## Main definitions

* `SetUp`: The calls of `start` that may fail.
* `StartPc`, `StopPc`: Where the two threads are.
* `CallAudioManager`: The flags, the mutex, and the two threads.
* `CallAudioManager.start`, `CallAudioManager.stop`: A step of either.
* `CallAudioManager.step`: A step of one of them.
* `Starts`, `Stops`: What a step of either can do.
* `Orderly`: What is true of them at any time.

## Theorems

* `starts_of_start`, `stops_of_stop`: Every step is one of these.
* `orderly_step`, `orderly`: The threads stay in order.
-/

namespace RedPhone

open Interleaving

/-- The calls by which `start` sets the audio up, in their order. -/
inductive SetUp
  | createEngine
  | realize
  | getInterface
  | codec
  | sender
  | receiver
  | jitterBuffer
  | microphone
  | player
  deriving DecidableEq, Repr

/-- Where the thread of the call is. -/
inductive StartPc
  /-- `start` is not called yet. -/
  | idle
  /-- `running = 1`. -/
  | setRunning
  /-- `finished = 0`. -/
  | clearFinished
  | setUp (stage : SetUp)
  /-- `while (running)`. -/
  | loopTest
  | receive
  | lock
  /-- `finished = 1`. -/
  | setFinished
  | signal
  | unlock
  | returned (result : Int)
  deriving DecidableEq, Repr

/-- Where the thread is that ends the call. -/
inductive StopPc
  /-- `stop` is not called yet. -/
  | idle
  /-- `running = 0`. -/
  | clearRunning
  | stopMicrophone
  | stopPlayer
  | stopJitterBuffer
  | lock
  /-- `while (finished == 0)`. -/
  | finishedTest
  /-- In `pthread_cond_wait`, asleep and without the mutex. -/
  | waiting
  /-- In `pthread_cond_wait`, awake and about to take the mutex. -/
  | relock
  | unlock
  | sleep
  | returned
  /-- `dispose` has deleted the object. -/
  | disposed
  deriving DecidableEq, Repr

/-- Who has the mutex. -/
inductive AudioThread
  | start
  | stop
  deriving DecidableEq, Repr

/-- The native object, and the threads that use it. -/
structure CallAudioManager where
  running : Bool
  finished : Bool
  mutex : Option AudioThread
  startPc : StartPc
  stopPc : StopPc
  deriving DecidableEq, Repr

/-- Whose turn it is. -/
inductive AudioTurn
  /-- The thread of the call. Its call succeeds, if it makes one that may
      fail. -/
  | start (succeeds : Bool)
  | stop
  /-- The wait on the condition ends by itself. -/
  | wake
  deriving DecidableEq, Repr

/-- Where `start` goes on after a call that has succeeded. -/
def SetUp.after : SetUp → StartPc
  | .createEngine => .setUp .realize
  | .realize => .setUp .getInterface
  | .getInterface => .setUp .codec
  | .codec => .setUp .sender
  | .sender => .setUp .receiver
  | .receiver => .setUp .jitterBuffer
  | .jitterBuffer => .setUp .microphone
  | .microphone => .setUp .player
  | .player => .loopTest

/-- The thread of the call is inside `start`. -/
def StartPc.Inside : StartPc → Prop
  | .idle => False
  | .returned _ => False
  | _ => True

/-- `start` has cleared `finished`, and not set it again. -/
def StartPc.Unfinished : StartPc → Prop
  | .setUp _ => True
  | .loopTest => True
  | .receive => True
  | .lock => True
  | .setFinished => True
  | _ => False

/-- `start` has the mutex. -/
def StartPc.Holds : StartPc → Prop
  | .setFinished => True
  | .signal => True
  | .unlock => True
  | _ => False

/-- `stop` has the mutex. -/
def StopPc.Holds : StopPc → Prop
  | .finishedTest => True
  | .unlock => True
  | _ => False

/-- `stop` has returned. -/
def StopPc.Over : StopPc → Prop
  | .returned => True
  | .disposed => True
  | _ => False

/-- A signal of the condition wakes a thread that waits on it. -/
def StopPc.woken : StopPc → StopPc
  | .waiting => .relock
  | pc => pc

namespace CallAudioManager

/-- What the constructor and `init` leave. -/
def create : CallAudioManager where
  running := false
  finished := true
  mutex := none
  startPc := .idle
  stopPc := .idle

/-- A step of the thread of the call. -/
def start (m : CallAudioManager) (succeeds : Bool) : Except Blocked CallAudioManager :=
  match m.startPc with
  | .idle => .ok { m with startPc := .setRunning }
  | .setRunning => .ok { m with running := true, startPc := .clearFinished }
  | .clearFinished => .ok { m with finished := false, startPc := .setUp .createEngine }
  | .setUp stage =>
    if succeeds then .ok { m with startPc := stage.after }
    else .ok { m with startPc := .returned (-1) }
  | .loopTest => .ok { m with startPc := if m.running then .receive else .lock }
  | .receive => .ok { m with startPc := .loopTest }
  | .lock =>
    if succeeds then
      match m.mutex with
      | none => .ok { m with mutex := some .start, startPc := .setFinished }
      | some _ => .error .blocked
    else .ok { m with startPc := .returned 0 }
  | .setFinished => .ok { m with finished := true, startPc := .signal }
  | .signal => .ok { m with startPc := .unlock, stopPc := m.stopPc.woken }
  | .unlock => .ok { m with mutex := none, startPc := .returned 0 }
  | .returned _ => .error .blocked

/-- Take the mutex before `finished` is looked at. -/
def lockStop (m : CallAudioManager) : Except Blocked CallAudioManager :=
  match m.mutex with
  | none => .ok { m with mutex := some .stop, stopPc := .finishedTest }
  | some _ => .error .blocked

/-- A step of the thread that ends the call. -/
def stop (m : CallAudioManager) : Except Blocked CallAudioManager :=
  match m.stopPc with
  | .idle => .ok { m with stopPc := .clearRunning }
  | .clearRunning => .ok { m with running := false, stopPc := .stopMicrophone }
  | .stopMicrophone => .ok { m with stopPc := .stopPlayer }
  | .stopPlayer => .ok { m with stopPc := .stopJitterBuffer }
  | .stopJitterBuffer => .ok { m with stopPc := .lock }
  | .lock => m.lockStop
  | .finishedTest =>
    if m.finished then .ok { m with stopPc := .unlock }
    else .ok { m with mutex := none, stopPc := .waiting }
  | .waiting => .error .blocked
  | .relock => m.lockStop
  | .unlock => .ok { m with mutex := none, stopPc := .sleep }
  | .sleep => .ok { m with stopPc := .returned }
  | .returned => .ok { m with stopPc := .disposed }
  | .disposed => .error .blocked

/-- A step of one of the threads. -/
def step (m : CallAudioManager) : AudioTurn → Except Blocked CallAudioManager
  | .start succeeds => m.start succeeds
  | .stop => m.stop
  | .wake =>
    if m.stopPc = .waiting then .ok { m with stopPc := .relock } else .error .blocked

variable {m m' : CallAudioManager}

/-! ## What a step does -/

/-- `start` goes on after a call that may fail. -/
def AtCall (pc : StartPc) : Prop := (∃ stage, pc = .setUp stage) ∨ pc = .lock

/-- What a step of `start` can do. -/
inductive Starts (m : CallAudioManager) : Bool → CallAudioManager → Prop
  | called (succeeds : Bool) (h : m.startPc = .idle) :
    Starts m succeeds { m with startPc := .setRunning }
  | setsRunning (succeeds : Bool) (h : m.startPc = .setRunning) :
    Starts m succeeds { m with running := true, startPc := .clearFinished }
  | clearsFinished (succeeds : Bool) (h : m.startPc = .clearFinished) :
    Starts m succeeds { m with finished := false, startPc := .setUp .createEngine }
  /-- The set-up and the loop, which write none of the flags. -/
  | goesOn (succeeds : Bool) (pc : StartPc) (h : m.startPc.Unfinished ∧ ¬ m.startPc.Holds)
    (hpc : pc.Unfinished ∧ ¬ pc.Holds) : Starts m succeeds { m with startPc := pc }
  | fails (result : Int) (h : AtCall m.startPc) :
    Starts m false { m with startPc := .returned result }
  | locks (h : m.startPc = .lock) (hfree : m.mutex = none) :
    Starts m true { m with mutex := some .start, startPc := .setFinished }
  | setsFinished (succeeds : Bool) (h : m.startPc = .setFinished) :
    Starts m succeeds { m with finished := true, startPc := .signal }
  | signals (succeeds : Bool) (h : m.startPc = .signal) :
    Starts m succeeds { m with startPc := .unlock, stopPc := m.stopPc.woken }
  | unlocks (succeeds : Bool) (h : m.startPc = .unlock) :
    Starts m succeeds { m with mutex := none, startPc := .returned 0 }

/-- The places of `stop` between which it touches nothing that `start` uses. -/
inductive Follows : StopPc → StopPc → Prop
  | called : Follows .idle .clearRunning
  | microphone : Follows .stopMicrophone .stopPlayer
  | player : Follows .stopPlayer .stopJitterBuffer
  | jitterBuffer : Follows .stopJitterBuffer .lock
  | slept : Follows .sleep .returned
  | disposes : Follows .returned .disposed

/-- What a step of `stop` can do. -/
inductive Stops (m : CallAudioManager) : CallAudioManager → Prop
  | goesOn (pc : StopPc) (h : Follows m.stopPc pc) : Stops m { m with stopPc := pc }
  | clearsRunning (h : m.stopPc = .clearRunning) :
    Stops m { m with running := false, stopPc := .stopMicrophone }
  | locks (h : m.stopPc = .lock ∨ m.stopPc = .relock) (hfree : m.mutex = none) :
    Stops m { m with mutex := some .stop, stopPc := .finishedTest }
  | finds (h : m.stopPc = .finishedTest) (hfinished : m.finished = true) :
    Stops m { m with stopPc := .unlock }
  | waits (h : m.stopPc = .finishedTest) (hclear : m.finished = false) :
    Stops m { m with mutex := none, stopPc := .waiting }
  | unlocks (h : m.stopPc = .unlock) : Stops m { m with mutex := none, stopPc := .sleep }

theorem after_unfinished (stage : SetUp) : stage.after.Unfinished ∧ ¬ stage.after.Holds := by
  cases stage with
  | _ => exact ⟨trivial, id⟩

theorem AtCall.unfinished {pc : StartPc} (h : AtCall pc) : pc.Unfinished ∧ ¬ pc.Holds := by
  rcases h with ⟨stage, rfl⟩ | rfl
  · exact ⟨trivial, id⟩
  · exact ⟨trivial, id⟩

/-- Every step of `start` is one of these. -/
theorem starts_of_start {succeeds : Bool} (hstart : m.start succeeds = .ok m') :
    Starts m succeeds m' := by
  rw [start] at hstart
  cases hpc : m.startPc with
  | idle =>
      rw [hpc] at hstart
      exact Except.ok.inj hstart ▸ .called succeeds hpc
  | setRunning =>
      rw [hpc] at hstart
      exact Except.ok.inj hstart ▸ .setsRunning succeeds hpc
  | clearFinished =>
      rw [hpc] at hstart
      exact Except.ok.inj hstart ▸ .clearsFinished succeeds hpc
  | setUp stage =>
      rw [hpc] at hstart
      cases succeeds with
      | true =>
          refine Except.ok.inj hstart ▸ .goesOn true stage.after ?_ (after_unfinished stage)
          rw [hpc]
          exact ⟨trivial, id⟩
      | false => exact Except.ok.inj hstart ▸ .fails (-1) (Or.inl ⟨stage, hpc⟩)
  | loopTest =>
      rw [hpc] at hstart
      have hloop : m.startPc.Unfinished ∧ ¬ m.startPc.Holds := by
        rw [hpc]
        exact ⟨trivial, id⟩
      -- Both ways out of the test leave the flags alone.
      refine Except.ok.inj hstart ▸ .goesOn succeeds _ hloop ?_
      split
      · exact ⟨trivial, id⟩
      · exact ⟨trivial, id⟩
  | receive =>
      rw [hpc] at hstart
      refine Except.ok.inj hstart ▸ .goesOn succeeds _ ?_ ⟨trivial, id⟩
      rw [hpc]
      exact ⟨trivial, id⟩
  | lock =>
      rw [hpc] at hstart
      cases succeeds with
      | false => exact Except.ok.inj hstart ▸ .fails 0 (Or.inr hpc)
      | true =>
          dsimp only at hstart
          cases hmutex : m.mutex with
          | none =>
              rw [if_pos rfl, hmutex] at hstart
              exact Except.ok.inj hstart ▸ .locks hpc hmutex
          | some holder =>
              rw [if_pos rfl, hmutex] at hstart
              exact absurd hstart nofun
  | setFinished =>
      rw [hpc] at hstart
      exact Except.ok.inj hstart ▸ .setsFinished succeeds hpc
  | signal =>
      rw [hpc] at hstart
      exact Except.ok.inj hstart ▸ .signals succeeds hpc
  | unlock =>
      rw [hpc] at hstart
      exact Except.ok.inj hstart ▸ .unlocks succeeds hpc
  | returned result =>
      rw [hpc] at hstart
      exact absurd hstart nofun

theorem stops_of_lockStop (hpc : m.stopPc = .lock ∨ m.stopPc = .relock)
    (hlock : m.lockStop = .ok m') : Stops m m' := by
  rw [lockStop] at hlock
  cases hmutex : m.mutex with
  | none =>
      rw [hmutex] at hlock
      exact Except.ok.inj hlock ▸ .locks hpc hmutex
  | some holder =>
      rw [hmutex] at hlock
      exact absurd hlock nofun

/-- Every step of `stop` is one of these. -/
theorem stops_of_stop (hstop : m.stop = .ok m') : Stops m m' := by
  rw [stop] at hstop
  cases hpc : m.stopPc with
  | idle =>
      rw [hpc] at hstop
      exact Except.ok.inj hstop ▸ .goesOn _ (hpc ▸ .called)
  | clearRunning =>
      rw [hpc] at hstop
      exact Except.ok.inj hstop ▸ .clearsRunning hpc
  | stopMicrophone =>
      rw [hpc] at hstop
      exact Except.ok.inj hstop ▸ .goesOn _ (hpc ▸ .microphone)
  | stopPlayer =>
      rw [hpc] at hstop
      exact Except.ok.inj hstop ▸ .goesOn _ (hpc ▸ .player)
  | stopJitterBuffer =>
      rw [hpc] at hstop
      exact Except.ok.inj hstop ▸ .goesOn _ (hpc ▸ .jitterBuffer)
  | lock =>
      rw [hpc] at hstop
      exact stops_of_lockStop (Or.inl hpc) hstop
  | finishedTest =>
      rw [hpc] at hstop
      -- The test takes the thread out of its wait, or to sleep.
      dsimp only at hstop
      by_cases hfinished : m.finished = true
      · rw [if_pos hfinished] at hstop
        exact Except.ok.inj hstop ▸ .finds hpc hfinished
      · rw [if_neg hfinished] at hstop
        exact Except.ok.inj hstop ▸ .waits hpc (Bool.eq_false_iff.mpr hfinished)
  | waiting =>
      rw [hpc] at hstop
      exact absurd hstop nofun
  | relock =>
      rw [hpc] at hstop
      exact stops_of_lockStop (Or.inr hpc) hstop
  | unlock =>
      rw [hpc] at hstop
      exact Except.ok.inj hstop ▸ .unlocks hpc
  | sleep =>
      rw [hpc] at hstop
      exact Except.ok.inj hstop ▸ .goesOn _ (hpc ▸ .slept)
  | returned =>
      rw [hpc] at hstop
      exact Except.ok.inj hstop ▸ .goesOn _ (hpc ▸ .disposes)
  | disposed =>
      rw [hpc] at hstop
      exact absurd hstop nofun

theorem wake_same (hwake : m.step .wake = .ok m') :
    m.stopPc = .waiting ∧ m' = { m with stopPc := .relock } := by
  rw [step] at hwake
  by_cases hwaiting : m.stopPc = .waiting
  · rw [if_pos hwaiting] at hwake
    exact ⟨hwaiting, (Except.ok.inj hwake).symm⟩
  · rw [if_neg hwaiting] at hwake
    exact absurd hwake nofun

/-! ## The threads in order -/

/-- What is true of the threads at any time. -/
structure Orderly (m : CallAudioManager) : Prop where
  unfinished : m.startPc.Unfinished → m.finished = false
  /-- `finished` is clear only while `start` goes on, and after it has
      failed. -/
  cleared : m.finished = false → m.startPc.Unfinished ∨ ∃ result, m.startPc = .returned result
  start_holds : m.mutex = some .start ↔ m.startPc.Holds
  stop_holds : m.mutex = some .stop ↔ m.stopPc.Holds
  /-- A sleeper has something to wait for, or is about to be woken. -/
  waiting : m.stopPc = .waiting → m.finished = false ∨ m.startPc = .signal

theorem orderly_create : Orderly create :=
  ⟨False.elim, nofun, iff_of_false nofun id, iff_of_false nofun id, nofun⟩

/-- While `finished` stays clear and the mutex is not its own, `start` moves
    freely. -/
theorem orderly_unfinished (h : Orderly m) (hm : m.startPc.Unfinished) (hfree : ¬ m.startPc.Holds)
    {pc : StartPc} (hpc : pc.Unfinished) (hpcFree : ¬ pc.Holds) :
    Orderly { m with startPc := pc } :=
  ⟨fun _ => h.unfinished hm, fun _ => Or.inl hpc,
    iff_of_false (mt h.start_holds.mp hfree) hpcFree, h.stop_holds,
    fun _ => Or.inl (h.unfinished hm)⟩

/-- A call that fails takes `start` out, and leaves `finished` clear. -/
theorem orderly_failed (h : Orderly m) (hm : m.startPc.Unfinished) (hfree : ¬ m.startPc.Holds)
    (result : Int) : Orderly { m with startPc := .returned result } :=
  ⟨False.elim, fun _ => Or.inr ⟨result, rfl⟩, iff_of_false (mt h.start_holds.mp hfree) id,
    h.stop_holds, fun _ => Or.inl (h.unfinished hm)⟩

/-- Before `start` clears `finished`, and after it sets it again. -/
theorem finished_of_unstarted (h : Orderly m) (hm : ¬ m.startPc.Unfinished)
    (hgoing : ∀ result, m.startPc ≠ .returned result) : m.finished = true := by
  cases hfinished : m.finished with
  | true => rfl
  | false =>
      rcases h.cleared hfinished with hbusy | ⟨result, hreturned⟩
      · exact absurd hbusy hm
      · exact absurd hreturned (hgoing result)

/-- Nobody is asleep while `finished` is set, but for the moment before the
    signal. -/
theorem awake_of_finished (h : Orderly m) (hfinished : m.finished = true)
    (hsignal : m.startPc ≠ .signal) : m.stopPc ≠ .waiting := by
  intro hwaiting
  rcases h.waiting hwaiting with hclear | hsignalled
  · exact absurd (hfinished.symm.trans hclear) nofun
  · exact hsignal hsignalled

/-- Being woken takes the mutex from nobody. -/
theorem woken_holds (pc : StopPc) : pc.woken.Holds ↔ pc.Holds := by
  cases pc with
  | _ => exact Iff.rfl

/-- Before `start` clears `finished` nobody waits for it. -/
theorem orderly_early (h : Orderly m) (hpc : m.startPc = .idle ∨ m.startPc = .setRunning)
    {pc : StartPc} (hearly : pc = .setRunning ∨ pc = .clearFinished) (running : Bool) :
    Orderly { m with running := running, startPc := pc } := by
  have hunstarted : ¬ m.startPc.Unfinished ∧ ¬ m.startPc.Holds ∧
      (∀ result, m.startPc ≠ .returned result) ∧ m.startPc ≠ .signal := by
    rcases hpc with hpc | hpc
    · rw [hpc]
      exact ⟨id, id, nofun, nofun⟩
    · rw [hpc]
      exact ⟨id, id, nofun, nofun⟩
  have hbefore : ¬ pc.Unfinished ∧ ¬ pc.Holds := by
    rcases hearly with rfl | rfl
    · exact ⟨id, id⟩
    · exact ⟨id, id⟩
  have hfinished : m.finished = true := finished_of_unstarted h hunstarted.1 hunstarted.2.2.1
  have hawake : m.stopPc ≠ .waiting := awake_of_finished h hfinished hunstarted.2.2.2
  exact ⟨fun hbusy => absurd hbusy hbefore.1,
    fun hclear => absurd (hfinished.symm.trans hclear) nofun,
    iff_of_false (fun hmutex => hunstarted.2.1 (h.start_holds.mp hmutex)) hbefore.2,
    h.stop_holds, fun hwaiting => absurd hwaiting hawake⟩

theorem orderly_start {succeeds : Bool} (h : Orderly m) (hstart : m.start succeeds = .ok m') :
    Orderly m' := by
  cases starts_of_start hstart with
  | called _ hpc => exact orderly_early h (Or.inl hpc) (Or.inl rfl) m.running
  | setsRunning _ hpc => exact orderly_early h (Or.inr hpc) (Or.inr rfl) true
  | clearsFinished _ hpc =>
      have hfree : ¬ m.startPc.Holds := by
        rw [hpc]
        exact id
      exact ⟨fun _ => rfl, fun _ => Or.inl trivial, iff_of_false (mt h.start_holds.mp hfree) id,
        h.stop_holds, fun _ => Or.inl rfl⟩
  | goesOn _ pc hbusy hpc => exact orderly_unfinished h hbusy.1 hbusy.2 hpc.1 hpc.2
  | fails result hcall =>
      exact orderly_failed h hcall.unfinished.1 hcall.unfinished.2 result
  | locks hpc hmutex =>
      -- Between its writes `start` finds the flag as it left it.
      have hclear : m.finished = false := by
        refine h.unfinished ?_
        rw [hpc]
        trivial
      have hstop : ¬ m.stopPc.Holds := by
        rw [← h.stop_holds, hmutex]
        nofun
      exact ⟨fun _ => hclear, fun _ => Or.inl trivial, iff_of_true rfl trivial,
        iff_of_false nofun hstop, fun _ => Or.inl hclear⟩
  | setsFinished _ hpc =>
      have hmutex : m.mutex = some .start := by
        rw [h.start_holds, hpc]
        trivial
      -- A sleeper is not awake yet, but the signal comes next.
      exact ⟨False.elim, nofun, iff_of_true hmutex trivial, h.stop_holds, fun _ => Or.inr rfl⟩
  | signals _ hpc =>
      have hmutex : m.mutex = some .start := by
        rw [h.start_holds, hpc]
        trivial
      have hfinished : m.finished = true :=
        finished_of_unstarted h (by rw [hpc]; exact id) (by rw [hpc]; nofun)
      have hstop : ¬ m.stopPc.woken.Holds := by
        rw [woken_holds, ← h.stop_holds, hmutex]
        nofun
      -- The signal wakes whoever sleeps.
      have hawake : m.stopPc.woken ≠ .waiting := by
        cases m.stopPc with
        | _ => nofun
      exact ⟨False.elim, fun hclear => absurd (hfinished.symm.trans hclear) nofun,
        iff_of_true hmutex trivial,
        iff_of_false (fun hother => absurd (hmutex.symm.trans hother) nofun) hstop,
        fun hwaiting => absurd hwaiting hawake⟩
  | unlocks _ hpc =>
      have hmutex : m.mutex = some .start := by
        rw [h.start_holds, hpc]
        trivial
      have hfinished : m.finished = true :=
        finished_of_unstarted h (by rw [hpc]; exact id) (by rw [hpc]; nofun)
      have hstop : ¬ m.stopPc.Holds := by
        rw [← h.stop_holds, hmutex]
        nofun
      -- Nobody has fallen asleep since the signal, as the mutex was taken.
      have hawake : m.stopPc ≠ .waiting := awake_of_finished h hfinished (by rw [hpc]; nofun)
      exact ⟨False.elim, fun _ => Or.inr ⟨0, rfl⟩, iff_of_false nofun id,
        iff_of_false nofun hstop, fun hwaiting => absurd hwaiting hawake⟩

/-- `stop` moves freely where it neither has the mutex nor sleeps. -/
theorem orderly_stopPc (h : Orderly m) (hfree : ¬ m.stopPc.Holds) {pc : StopPc} (hpc : ¬ pc.Holds)
    (hawake : pc ≠ .waiting) (running : Bool) :
    Orderly { m with running := running, stopPc := pc } :=
  ⟨h.unfinished, h.cleared, h.start_holds, iff_of_false (mt h.stop_holds.mp hfree) hpc,
    fun hwaiting => absurd hwaiting hawake⟩

theorem Follows.free {pc pc' : StopPc} (h : Follows pc pc') :
    ¬ pc.Holds ∧ ¬ pc'.Holds ∧ pc' ≠ .waiting := by
  cases h with
  | _ => exact ⟨id, id, nofun⟩

/-- Giving the mutex back leaves it to nobody. -/
theorem orderly_unlockStop (h : Orderly m) (hm : m.stopPc.Holds) {pc : StopPc} (hpc : ¬ pc.Holds)
    (hwaiting : pc = .waiting → m.finished = false) :
    Orderly { m with mutex := none, stopPc := pc } := by
  have hstart : ¬ m.startPc.Holds := by
    rw [← h.start_holds, h.stop_holds.mpr hm]
    nofun
  exact ⟨h.unfinished, h.cleared, iff_of_false nofun hstart, iff_of_false nofun hpc,
    fun hsleep => Or.inl (hwaiting hsleep)⟩

theorem orderly_stop (h : Orderly m) (hstop : m.stop = .ok m') : Orderly m' := by
  -- The lock is taken and given back at two statements, and all others only move
  -- on.
  cases stops_of_stop hstop with
  | goesOn pc hfollows =>
      exact orderly_stopPc h hfollows.free.1 hfollows.free.2.1 hfollows.free.2.2 m.running
  | clearsRunning hpc =>
      have hfree : ¬ m.stopPc.Holds := by
        rw [hpc]
        exact id
      have hawake : StopPc.stopMicrophone ≠ .waiting := nofun
      exact orderly_stopPc h hfree id hawake false
  | locks hpc hmutex =>
      have hstart : ¬ m.startPc.Holds := by
        rw [← h.start_holds, hmutex]
        nofun
      exact ⟨h.unfinished, h.cleared, iff_of_false nofun hstart, iff_of_true rfl trivial, nofun⟩
  | finds hpc hfinished =>
      have hholds : m.stopPc.Holds := by
        rw [hpc]
        trivial
      exact ⟨h.unfinished, h.cleared, h.start_holds,
        iff_of_true (h.stop_holds.mpr hholds) trivial, nofun⟩
  | waits hpc hclear =>
      refine orderly_unlockStop h ?_ id fun _ => hclear
      rw [hpc]
      trivial
  | unlocks hpc =>
      refine orderly_unlockStop h ?_ id nofun
      rw [hpc]
      trivial

theorem orderly_step {turn : AudioTurn} (h : Orderly m) (hstep : m.step turn = .ok m') :
    Orderly m' := by
  cases turn with
  | start succeeds => exact orderly_start h hstep
  | stop => exact orderly_stop h hstep
  | wake =>
      rcases wake_same hstep with ⟨hwaiting, rfl⟩
      have hfree : ¬ m.stopPc.Holds := by
        rw [hwaiting]
        exact id
      have hawake : StopPc.relock ≠ .waiting := nofun
      exact orderly_stopPc h hfree id hawake m.running

/-- The threads stay in order. -/
theorem orderly {turns : List AudioTurn} (hrun : Run.run step create turns = .ok m) :
    Orderly m :=
  invariant Orderly orderly_create (fun _ _ _ h hstep => orderly_step h hstep) hrun

end CallAudioManager

end RedPhone
