import RedPhone.Lib.Interleaving
import RedPhone.Signaling.SignalReader

/-!
# The Signal Manager

A signal manager has a queue of tasks and one thread that does them in order.
The listener is a task that waits for a signal, processes it, and puts itself
into the queue again. The hangup is another, and `terminate` puts it there,
behind the listener, and then raises a flag so that the listener comes to an
end. The listener lowers the flag itself before it queues up again.

The two writes of `terminate` and the accesses of the listener to the flag and
the queue are one step each. The calls of the listener return whatever the
schedule says, a value or an exception. `terminate` is called once, by another
thread or by the service from inside a callback of the listener, which then
waits for it.

## Main definitions

* `Task`: The two kinds of tasks.
* `WorkerPc`: Where the thread of the queue is.
* `SignalManager`: The queue, its thread, and the thread that terminates.
* `SignalManager.work`, `SignalManager.terminate`: A step of either.
* `SignalManager.step`: A step of one of them.
* `WorkerPc.Listening`: The thread is in the task of the listener.
* `Listens`: What a step of the listener does.

## Theorems

* `listens_of_work`: The steps of the listener.
* `work_returns`: It waits for nothing but a `terminate` of its own.
-/

namespace RedPhone

open Reading Interleaving

/-- What can be in the queue. -/
inductive Task
  | listener
  | hangup
  deriving DecidableEq, Repr

/-- Where the thread of the queue is. -/
inductive WorkerPc
  | idle
  /-- `while (!interrupted)`. -/
  | loopTest
  | waitForSignal
  /-- `if (!interrupted)`. -/
  | testRead
  | readSignal
  | dispatch (signal : ServerSignal)
  /-- In a callback, that of a signal or that of the `catch` clause. -/
  | callback (last : Bool)
  | sendOkResponse
  /-- `interrupted = false`. -/
  | reset
  /-- `queue.execute(this)`. -/
  | requeue
  | caught
  | setHangup
  | close
  | shutdownNow
  deriving DecidableEq, Repr

/-- Where the thread is that calls `terminate`, which may be that of the queue
    itself. -/
inductive Terminating
  | idle
  | called (own : Bool)
  /-- The hangup is queued, and the flag not yet raised. -/
  | queued (own : Bool)
  | returned
  deriving DecidableEq, Repr

/-- What the calls of the listener return. -/
structure ListenerOutcome where
  available : Except SignalingFailure Bool
  signal : Except SignalingFailure ServerSignal
  acknowledged : Except SignalingFailure Unit

/-- The signal manager and its threads. -/
structure SignalManager where
  queue : List Task
  pc : WorkerPc
  interrupted : Bool
  shutdown : Bool
  terminating : Terminating
  /-- How often `setHangup` was called. -/
  hangups : Nat
  closed : Bool
  processed : List ServerSignal
  acknowledged : Nat
  notified : List CallStateListener
  deriving DecidableEq

/-- Whose turn it is. -/
inductive SignalTurn
  | worker (o : ListenerOutcome)
  /-- `terminate` is called, by a callback of the listener or by another
      thread. -/
  | call (own : Bool)
  | terminate

/-- Begin a task. -/
def Task.start : Task → WorkerPc
  | .listener => .loopTest
  | .hangup => .setHangup

/-- `terminate` is running inside the callback. -/
def Terminating.inside : Terminating → Bool
  | .called own => own
  | .queued own => own
  | _ => false

/-- The thread of the queue is in the task of the listener. -/
def WorkerPc.Listening : WorkerPc → Prop
  | .idle => False
  | .setHangup => False
  | .close => False
  | .shutdownNow => False
  | _ => True

/-- How many steps the thread needs to call `setHangup`, where the flag is
    raised and the hangup comes next. -/
def WorkerPc.rank : WorkerPc → Nat
  | .readSignal => 8
  | .dispatch _ => 7
  | .waitForSignal => 7
  | .loopTest => 6
  | .callback false => 6
  | .testRead => 5
  | .sendOkResponse => 5
  | .reset => 4
  | .caught => 4
  | .callback true => 3
  | .requeue => 3
  | .idle => 2
  | .setHangup => 1
  | .close => 0
  | .shutdownNow => 0

/-- The signal that will be processed although the flag is raised. -/
def WorkerPc.pending : WorkerPc → Nat
  | .readSignal => 1
  | .dispatch _ => 1
  | _ => 0

namespace SignalManager

/-- The constructor queues the listener. -/
def create : SignalManager where
  queue := [.listener]
  pc := .idle
  interrupted := false
  shutdown := false
  terminating := .idle
  hangups := 0
  closed := false
  processed := []
  acknowledged := 0
  notified := []

def goto (m : SignalManager) (pc : WorkerPc) : SignalManager := { m with pc := pc }

/-- An exception leaves the `try` block of the listener. One that is not a
    `SignalingException` ends the task. -/
def thrown (m : SignalManager) : SignalingFailure → SignalManager
  | .signaling _ => m.goto .caught
  | .signalingIo _ => m.goto .caught
  | _ => m.goto .idle

/-- A step of the thread of the queue. -/
def work (sessionId : Int) (m : SignalManager) (o : ListenerOutcome) :
    Except Blocked SignalManager :=
  match m.pc with
  | .idle => match m.queue with
    | [] => .error .blocked
    | task :: queue => .ok { m with queue := queue, pc := task.start }
  -- The flag is read here, and again behind the loop.
  | .loopTest => .ok (m.goto (if m.interrupted then .testRead else .waitForSignal))
  | .waitForSignal => match o.available with
    | .ok true => .ok (m.goto .testRead)
    | .ok false => .ok (m.goto .loopTest)
    | .error e => .ok (m.thrown e)
  | .testRead => .ok (m.goto (if m.interrupted then .reset else .readSignal))
  | .readSignal => match o.signal with
    | .ok signal => .ok (m.goto (.dispatch signal))
    | .error e => .ok (m.thrown e)
  | .dispatch signal => match signal.notify sessionId with
    | none => .ok { m with processed := m.processed ++ [signal], pc := .sendOkResponse }
    | some c => .ok { m with
        processed := m.processed ++ [signal]
        notified := m.notified ++ [c]
        pc := .callback false }
  -- A callback that has called `terminate` does not return before that does.
  | .callback last =>
    if m.terminating.inside then .error .blocked
    else .ok (m.goto (if last then .idle else .sendOkResponse))
  | .sendOkResponse => match o.acknowledged with
    | .ok () => .ok { m with acknowledged := m.acknowledged + 1, pc := .reset }
    | .error e => .ok (thrown { m with acknowledged := m.acknowledged + 1 } e)
  | .reset => .ok { m with interrupted := false, pc := .requeue }
  -- The listener queues itself again, behind a hangup that is there by now.
  | .requeue =>
    if m.shutdown then .ok (m.goto .idle)
    else .ok { m with queue := m.queue ++ [.listener], pc := .idle }
  | .caught => .ok { m with
      notified := m.notified ++ [.notifyCallDisconnected]
      pc := .callback true }
  | .setHangup => .ok { m with hangups := m.hangups + 1, pc := .close }
  | .close => .ok { m with closed := true, pc := .shutdownNow }
  -- What is still queued is dropped.
  | .shutdownNow => .ok { m with queue := [], shutdown := true, pc := .idle }

/-- A step of `terminate`. A queue that is shut down rejects the hangup. -/
def terminate (m : SignalManager) : Except Blocked SignalManager :=
  match m.terminating with
  | .called own =>
    if m.shutdown then .ok { m with terminating := .returned }
    else .ok { m with queue := m.queue ++ [.hangup], terminating := .queued own }
  -- The flag is raised after the hangup is queued.
  | .queued _ => .ok { m with interrupted := true, terminating := .returned }
  | _ => .error .blocked

/-- The callback of the listener the thread of the queue is in. -/
def InCallback (m : SignalManager) : Bool :=
  match m.pc with
  | .callback _ => true
  | _ => false

/-- A step of one of the threads. -/
def step (sessionId : Int) (m : SignalManager) : SignalTurn → Except Blocked SignalManager
  | .worker o => m.work sessionId o
  | .call own =>
    if m.terminating = .idle ∧ (own = true → m.InCallback = true) then
      .ok { m with terminating := .called own }
    else .error .blocked
  | .terminate => m.terminate

/-- The flag is raised, or the listener has no more use for it. -/
def Flagged (m : SignalManager) : Prop := m.interrupted = true ∨ m.pc = .requeue

/-- What a step of the listener does. -/
structure Listens (m m' : SignalManager) : Prop where
  terminating : m'.terminating = m.terminating
  hangups : m'.hangups = m.hangups
  shutdown : m'.shutdown = m.shutdown
  place : (m'.pc.Listening ∧ m'.queue = m.queue) ∨
    (m'.pc = .idle ∧ (m'.queue = m.queue ∨ m'.queue = m.queue ++ [.listener]))
  /-- Only the listener lowers the flag, and then it leaves. -/
  flagged : Flagged m → m'.pc = .idle ∨ Flagged m'
  rank : Flagged m → m'.pc.rank < m.pc.rank
  pending : Flagged m →
    m'.processed.length + m'.pc.pending ≤ m.processed.length + m.pc.pending

variable {sessionId : Int} {m m' : SignalManager}

/-- The listener goes on in its task. With the flag raised it comes nearer to
    its end. -/
theorem listens_on (next : WorkerPc) (hpc : m.pc ≠ .requeue) (hnext : next.Listening)
    (processed : List ServerSignal) (notified : List CallStateListener) (acknowledged : Nat)
    (hrank : m.interrupted = true → next.rank < m.pc.rank)
    (hpending : m.interrupted = true →
      processed.length + next.pending ≤ m.processed.length + m.pc.pending) :
    Listens m { m with
      pc := next
      processed := processed
      notified := notified
      acknowledged := acknowledged } := by
  have hset (hflagged : Flagged m) : m.interrupted = true := by
    rcases hflagged with hset | hleaving
    · exact hset
    · exact absurd hleaving hpc
  exact ⟨rfl, rfl, rfl, Or.inl ⟨hnext, rfl⟩, fun hf => Or.inr (Or.inl (hset hf)),
    fun hf => hrank (hset hf), fun hf => hpending (hset hf)⟩

theorem listens_goto (next : WorkerPc) (hpc : m.pc ≠ .requeue) (hnext : next.Listening)
    (hrank : next.rank < m.pc.rank) (hpending : next.pending = m.pc.pending) :
    Listens m (m.goto next) :=
  listens_on next hpc hnext _ _ _ (fun _ => hrank) fun _ => by rw [hpending]

/-- A condition that looks at the flag brings the listener nearer to its end
    where it is raised. -/
theorem listens_test (raised clear : WorkerPc) (hpc : m.pc ≠ .requeue)
    (hraised : raised.Listening) (hclear : clear.Listening) (hrank : raised.rank < m.pc.rank)
    (hpending : raised.pending = m.pc.pending) :
    Listens m (m.goto (if m.interrupted then raised else clear)) := by
  by_cases hset : m.interrupted = true
  · rw [if_pos hset]
    exact listens_goto raised hpc hraised hrank hpending
  · rw [if_neg hset]
    exact listens_on clear hpc hclear _ _ _ (fun h => absurd h hset) fun h => absurd h hset

/-- What is processed was pending. -/
theorem listens_processed {signal : ServerSignal} (hpc : m.pc = .dispatch signal)
    (next : WorkerPc) (hnext : next.Listening) (hrank : next.rank < 7)
    (hpending : next.pending = 0) (notified : List CallStateListener) :
    Listens m
      { m with processed := m.processed ++ [signal], notified := notified, pc := next } := by
  refine listens_on next (by rw [hpc]; nofun) hnext _ _ _ (fun _ => by rw [hpc]; exact hrank)
    fun _ => ?_
  rw [hpc, hpending, List.length_append]
  exact Nat.le_refl _

/-- The listener ends without another turn. -/
theorem listens_off (hrank : 2 < m.pc.rank) (acknowledged : Nat) :
    Listens m { m with pc := .idle, acknowledged := acknowledged } :=
  ⟨rfl, rfl, rfl, Or.inr ⟨rfl, Or.inl rfl⟩, fun _ => Or.inl rfl, fun _ => hrank,
    fun _ => Nat.le_add_right _ _⟩

/-- An exception leaves the listener, or takes it to its last callback. -/
theorem listens_thrown (hpc : m.pc ≠ .requeue) (hrank : 4 < m.pc.rank) (e : SignalingFailure)
    (acknowledged : Nat) : Listens m (thrown { m with acknowledged := acknowledged } e) := by
  have hcaught : Listens m ({ m with acknowledged := acknowledged }.goto .caught) :=
    listens_on .caught hpc trivial _ _ _ (fun _ => hrank) fun _ => Nat.le_add_right _ _
  have hidle : Listens m ({ m with acknowledged := acknowledged }.goto .idle) :=
    listens_off (Nat.lt_of_le_of_lt (by decide : 2 ≤ 4) hrank) acknowledged
  -- Only the two of its own are caught.
  cases e with
  | signaling message => exact hcaught
  | signalingIo message => exact hcaught
  | io message => exact hidle
  | numberFormat => exact hidle
  | negativeArraySize => exact hidle

/-- The steps of the listener, one by one. -/
theorem listens_of_work {o : ListenerOutcome} (hlistening : m.pc.Listening)
    (h : m.work sessionId o = .ok m') : Listens m m' := by
  rw [work] at h
  cases hpc : m.pc with
  | idle =>
      rw [hpc] at hlistening
      exact hlistening.elim
  | setHangup =>
      rw [hpc] at hlistening
      exact hlistening.elim
  | close =>
      rw [hpc] at hlistening
      exact hlistening.elim
  | shutdownNow =>
      rw [hpc] at hlistening
      exact hlistening.elim
  | loopTest =>
      rw [hpc] at h
      rw [← Except.ok.inj h]
      exact listens_test .testRead .waitForSignal (by rw [hpc]; nofun) trivial trivial
        (by rw [hpc]; decide) (by rw [hpc]; rfl)
  | waitForSignal =>
      rw [hpc] at h
      cases havailable : o.available with
      | error e =>
          rw [havailable] at h
          rw [← Except.ok.inj h]
          exact listens_thrown (by rw [hpc]; nofun) (by rw [hpc]; decide) e m.acknowledged
      | ok available =>
          rw [havailable] at h
          cases available with
          | true =>
              rw [← Except.ok.inj h]
              exact listens_goto .testRead (by rw [hpc]; nofun) trivial (by rw [hpc]; decide)
                (by rw [hpc]; rfl)
          | false =>
              rw [← Except.ok.inj h]
              exact listens_goto .loopTest (by rw [hpc]; nofun) trivial (by rw [hpc]; decide)
                (by rw [hpc]; rfl)
  | testRead =>
      rw [hpc] at h
      rw [← Except.ok.inj h]
      exact listens_test .reset .readSignal (by rw [hpc]; nofun) trivial trivial
        (by rw [hpc]; decide) (by rw [hpc]; rfl)
  | readSignal =>
      rw [hpc] at h
      cases hsignal : o.signal with
      | error e =>
          rw [hsignal] at h
          rw [← Except.ok.inj h]
          exact listens_thrown (by rw [hpc]; nofun) (by rw [hpc]; decide) e m.acknowledged
      | ok signal =>
          rw [hsignal] at h
          rw [← Except.ok.inj h]
          -- The read has begun, so what it returns is still processed.
          exact listens_goto (.dispatch signal) (by rw [hpc]; nofun) trivial
            (by rw [hpc]; exact Nat.lt_succ_self 7) (by rw [hpc]; rfl)
  | dispatch signal =>
      rw [hpc] at h
      dsimp only at h
      cases hnotify : signal.notify sessionId with
      | none =>
          rw [hnotify] at h
          rw [← Except.ok.inj h]
          exact listens_processed hpc .sendOkResponse trivial (by decide) rfl m.notified
      | some c =>
          rw [hnotify] at h
          rw [← Except.ok.inj h]
          exact listens_processed hpc (.callback false) trivial (by decide) rfl _
  | callback last =>
      rw [hpc] at h
      dsimp only at h
      by_cases hinside : m.terminating.inside = true
      · rw [if_pos hinside] at h
        exact absurd h nofun
      · rw [if_neg hinside] at h
        rw [← Except.ok.inj h]
        cases last with
        | true => exact listens_off (by rw [hpc]; decide) m.acknowledged
        | false =>
            exact listens_goto .sendOkResponse (by rw [hpc]; nofun) trivial (by rw [hpc]; decide)
              (by rw [hpc]; rfl)
  | sendOkResponse =>
      rw [hpc] at h
      cases hsent : o.acknowledged with
      | error e =>
          rw [hsent] at h
          rw [← Except.ok.inj h]
          exact listens_thrown (by rw [hpc]; nofun) (by rw [hpc]; decide) e _
      | ok sent =>
          rw [hsent] at h
          rw [← Except.ok.inj h]
          exact listens_on .reset (by rw [hpc]; nofun) trivial _ _ _ (fun _ => by rw [hpc]; decide)
            fun _ => by rw [hpc]; exact Nat.le_refl _
  | reset =>
      rw [hpc] at h
      rw [← Except.ok.inj h]
      -- The flag is lowered, and the listener does not look at it again.
      exact ⟨rfl, rfl, rfl, Or.inl ⟨trivial, rfl⟩, fun _ => Or.inr (Or.inr rfl),
        fun _ => by rw [hpc]; exact Nat.lt_succ_self 3, fun _ => by rw [hpc]; exact Nat.le_refl _⟩
  | requeue =>
      rw [hpc] at h
      dsimp only at h
      by_cases hshutdown : m.shutdown = true
      · rw [if_pos hshutdown] at h
        rw [← Except.ok.inj h]
        exact listens_off (by rw [hpc]; decide) m.acknowledged
      · rw [if_neg hshutdown] at h
        rw [← Except.ok.inj h]
        exact ⟨rfl, rfl, rfl, Or.inr ⟨rfl, Or.inr rfl⟩, fun _ => Or.inl rfl,
          fun _ => by rw [hpc]; exact Nat.lt_succ_self 2,
          fun _ => by rw [hpc]; exact Nat.le_refl _⟩
  | caught =>
      rw [hpc] at h
      rw [← Except.ok.inj h]
      exact listens_on (.callback true) (by rw [hpc]; nofun) trivial _ _ _
        (fun _ => by rw [hpc]; decide) fun _ => by rw [hpc]; exact Nat.le_refl _

end SignalManager

end RedPhone
