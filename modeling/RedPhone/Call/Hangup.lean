import RedPhone.Call.SignalManager

/-!
# The Hangup Is Not Missed

The flag of the signal manager is raised by one thread and lowered by another,
and could be lowered before the listener has looked. It does not matter. The
hangup is in the queue before the flag is raised, and the listener lowers the
flag only when it is about to queue up again, behind the hangup. So whoever
lowers a raised flag has left the loop that looks at it, for good.

What the flag does is to end the listener that is ahead of the hangup. It is
raised, and stays so until that listener leaves, which is the invariant.

## Main definitions

* `Unasked`, `Queued`: Where the tasks are before and after the hangup is
  queued.
* `Orderly`: What is known of a signal manager at any time.
* `HangupStarted`: The hangup is being done, or has been.
* `remaining`: How many steps the thread of the queue needs to call
  `setHangup`.

## Theorems

* `orderly_step`, `orderly`: The tasks stay in order.
* `remaining_work`, `remaining_run`: The hangup comes nearer.
* `processed_run`: One more signal at most.
* `started_run`: None once the hangup has started.
* `hangup_once`: The hangup is sent, once.
-/

namespace RedPhone

open Interleaving

namespace SignalManager

variable {sessionId : Int} {m m' : SignalManager}

/-- Where the listener is while no hangup is queued. It has come to an end if
    it met an exception. -/
inductive Unasked (m : SignalManager) : Prop
  | listening (hpc : m.pc.Listening) (hqueue : m.queue = [])
  | ready (hpc : m.pc = .idle) (hqueue : m.queue = [.listener])
  | ended (hpc : m.pc = .idle) (hqueue : m.queue = [])

/-- `terminate` has raised the flag, which is still needed. -/
def Raised (m : SignalManager) : Prop := m.terminating = .returned → Flagged m

/-- Where the hangup is once it has been queued. -/
inductive Queued (m : SignalManager) : Prop
  /-- Behind the listener, which is being done. -/
  | listening (hpc : m.pc.Listening) (hqueue : m.queue = [.hangup]) (hhangups : m.hangups = 0)
      (hshutdown : m.shutdown = false) (hraised : Raised m)
  /-- Behind the listener, which is to come. -/
  | behind (hpc : m.pc = .idle) (hqueue : m.queue = [.listener, .hangup]) (hhangups : m.hangups = 0)
      (hshutdown : m.shutdown = false) (hraised : Raised m)
  | next (hpc : m.pc = .idle) (rest : List Task) (hqueue : m.queue = .hangup :: rest)
      (hhangups : m.hangups = 0) (hshutdown : m.shutdown = false)
  | started (hpc : m.pc = .setHangup) (hhangups : m.hangups = 0) (hshutdown : m.shutdown = false)
  | ending (hpc : m.pc = .close ∨ m.pc = .shutdownNow) (hhangups : m.hangups = 1)
      (hshutdown : m.shutdown = false)
  | ended (hpc : m.pc = .idle) (hqueue : m.queue = []) (hhangups : m.hangups = 1)
      (hshutdown : m.shutdown = true)

/-- What is known of a signal manager at any time. -/
def Orderly (m : SignalManager) : Prop :=
  match m.terminating with
  | .idle => Unasked m ∧ m.hangups = 0 ∧ m.shutdown = false
  | .called _ => Unasked m ∧ m.hangups = 0 ∧ m.shutdown = false
  | _ => Queued m

theorem orderly_create : Orderly create :=
  ⟨.ready rfl rfl, rfl, rfl⟩

/-- Queueing the hangup puts it behind what is there. -/
theorem queued_of_unasked (h : Unasked m) (hhangups : m.hangups = 0)
    (hshutdown : m.shutdown = false) (own : Bool) :
    Queued { m with queue := m.queue ++ [.hangup], terminating := .queued own } := by
  have hraised : Raised { m with queue := m.queue ++ [.hangup], terminating := .queued own } :=
    nofun
  cases h with
  | listening hpc hqueue => exact .listening hpc (by rw [hqueue]; rfl) hhangups hshutdown hraised
  | ready hpc hqueue => exact .behind hpc (by rw [hqueue]; rfl) hhangups hshutdown hraised
  | ended hpc hqueue => exact .next hpc [] (by rw [hqueue]; rfl) hhangups hshutdown

theorem unasked_work {o : ListenerOutcome} (h : Unasked m) (hhangups : m.hangups = 0)
    (hshutdown : m.shutdown = false) (hwork : m.work sessionId o = .ok m') :
    Unasked m' ∧ m'.hangups = 0 ∧ m'.shutdown = false ∧ m'.terminating = m.terminating := by
  cases h with
  | listening hpc hqueue =>
      have hlistens := listens_of_work hpc hwork
      refine ⟨?_, hlistens.hangups.trans hhangups, hlistens.shutdown.trans hshutdown,
        hlistens.terminating⟩
      rcases hlistens.place with ⟨hpc', hqueue'⟩ | ⟨hpc', hqueue' | hqueue'⟩
      · exact .listening hpc' (hqueue'.trans hqueue)
      · exact .ended hpc' (hqueue'.trans hqueue)
      · exact .ready hpc' (by rw [hqueue', hqueue]; rfl)
  | ready hpc hqueue =>
      rw [work, hpc, hqueue] at hwork
      rw [← Except.ok.inj hwork]
      exact ⟨.listening trivial rfl, hhangups, hshutdown, rfl⟩
  | ended hpc hqueue =>
      rw [work, hpc, hqueue] at hwork
      simp only [reduceCtorEq] at hwork

theorem queued_work {o : ListenerOutcome} (h : Queued m) (hwork : m.work sessionId o = .ok m') :
    Queued m' ∧ m'.terminating = m.terminating := by
  cases h with
  | listening hpc hqueue hhangups hshutdown hraised =>
      have hlistens := listens_of_work hpc hwork
      have hhangups' := hlistens.hangups.trans hhangups
      have hshutdown' := hlistens.shutdown.trans hshutdown
      refine ⟨?_, hlistens.terminating⟩
      -- The listener goes on, ends, or queues itself behind the hangup.
      rcases hlistens.place with ⟨hpc', hqueue'⟩ | ⟨hpc', hqueue' | hqueue'⟩
      · refine .listening hpc' (hqueue'.trans hqueue) hhangups' hshutdown' fun hreturned => ?_
        rw [hlistens.terminating] at hreturned
        -- Where it goes on the flag is still raised.
        rcases hlistens.flagged (hraised hreturned) with hidle | hflagged
        · rw [hidle] at hpc'
          exact hpc'.elim
        · exact hflagged
      · exact .next hpc' [] (hqueue'.trans hqueue) hhangups' hshutdown'
      · exact .next hpc' [.listener] (by rw [hqueue', hqueue]; rfl) hhangups' hshutdown'
  | behind hpc hqueue hhangups hshutdown hraised =>
      -- The listener that is ahead of the hangup is taken.
      rw [work, hpc, hqueue] at hwork
      rw [← Except.ok.inj hwork]
      refine ⟨.listening trivial rfl hhangups hshutdown fun hreturned => ?_, rfl⟩
      rcases hraised hreturned with hset | hleaving
      · exact Or.inl hset
      · rw [hpc] at hleaving
        exact WorkerPc.noConfusion hleaving
  | next hpc rest hqueue hhangups hshutdown =>
      rw [work, hpc, hqueue] at hwork
      rw [← Except.ok.inj hwork]
      exact ⟨.started rfl hhangups hshutdown, rfl⟩
  | started hpc hhangups hshutdown =>
      rw [work, hpc] at hwork
      rw [← Except.ok.inj hwork]
      exact ⟨.ending (Or.inl rfl) (congrArg (· + 1) hhangups) hshutdown, rfl⟩
  | ending hpc hhangups hshutdown =>
      rcases hpc with hpc | hpc
      · rw [work, hpc] at hwork
        rw [← Except.ok.inj hwork]
        exact ⟨.ending (Or.inr rfl) hhangups hshutdown, rfl⟩
      · rw [work, hpc] at hwork
        rw [← Except.ok.inj hwork]
        exact ⟨.ended rfl rfl hhangups rfl, rfl⟩
  | ended hpc hqueue hhangups hshutdown =>
      rw [work, hpc, hqueue] at hwork
      simp only [reduceCtorEq] at hwork

/-- The flag is raised once the hangup is queued. -/
theorem queued_raise (h : Queued m) :
    Queued { m with interrupted := true, terminating := .returned } := by
  cases h with
  | listening hpc hqueue hhangups hshutdown _ =>
      exact .listening hpc hqueue hhangups hshutdown fun _ => Or.inl rfl
  | behind hpc hqueue hhangups hshutdown _ =>
      exact .behind hpc hqueue hhangups hshutdown fun _ => Or.inl rfl
  | next hpc rest hqueue hhangups hshutdown => exact .next hpc rest hqueue hhangups hshutdown
  | started hpc hhangups hshutdown => exact .started hpc hhangups hshutdown
  | ending hpc hhangups hshutdown => exact .ending hpc hhangups hshutdown
  | ended hpc hqueue hhangups hshutdown => exact .ended hpc hqueue hhangups hshutdown

/-- The steps of either thread keep the tasks in order. -/
theorem orderly_step {turn : SignalTurn} (h : Orderly m)
    (hstep : step sessionId m turn = .ok m') : Orderly m' := by
  rw [Orderly] at h
  cases turn with
  | worker o =>
      cases hterminating : m.terminating with
      | idle =>
          rw [hterminating] at h
          -- Nothing is queued yet but the listener.
          rcases unasked_work h.1 h.2.1 h.2.2 hstep with ⟨hplace, hhangups, hshutdown, hsame⟩
          rw [Orderly, hsame, hterminating]
          exact ⟨hplace, hhangups, hshutdown⟩
      | called own =>
          rw [hterminating] at h
          rcases unasked_work h.1 h.2.1 h.2.2 hstep with ⟨hplace, hhangups, hshutdown, hsame⟩
          rw [Orderly, hsame, hterminating]
          exact ⟨hplace, hhangups, hshutdown⟩
      | queued own =>
          rw [hterminating] at h
          -- The hangup is queued, and `terminate` is where it was.
          rcases queued_work h hstep with ⟨hplace, hsame⟩
          rw [Orderly, hsame, hterminating]
          exact hplace
      | returned =>
          rw [hterminating] at h
          rcases queued_work h hstep with ⟨hplace, hsame⟩
          rw [Orderly, hsame, hterminating]
          exact hplace
  | call own =>
      rw [step] at hstep
      by_cases hcan : m.terminating = .idle ∧ (own = true → m.InCallback = true)
      · rw [if_pos hcan] at hstep
        rw [hcan.1] at h
        rw [← Except.ok.inj hstep]
        rcases h with ⟨hplace, hhangups, hshutdown⟩
        refine ⟨?_, hhangups, hshutdown⟩
        cases hplace with
        | listening hpc hqueue => exact .listening hpc hqueue
        | ready hpc hqueue => exact .ready hpc hqueue
        | ended hpc hqueue => exact .ended hpc hqueue
      · rw [if_neg hcan] at hstep
        exact absurd hstep nofun
  | terminate =>
      rw [step, terminate] at hstep
      cases hterminating : m.terminating with
      | idle =>
          rw [hterminating] at hstep
          exact absurd hstep nofun
      | called own =>
          rw [hterminating] at h hstep
          rcases h with ⟨hplace, hhangups, hshutdown⟩
          dsimp only at hstep
          -- A queue that has run no hangup is not shut down, and takes this one.
          rw [if_neg (by rw [hshutdown]; exact Bool.false_ne_true)] at hstep
          rw [← Except.ok.inj hstep]
          exact queued_of_unasked hplace hhangups hshutdown own
      | queued own =>
          rw [hterminating] at h hstep
          rw [← Except.ok.inj hstep]
          exact queued_raise h
      | returned =>
          rw [hterminating] at hstep
          exact absurd hstep nofun

theorem orderly {turns : List SignalTurn}
    (hrun : Run.run (step sessionId) create turns = .ok m) : Orderly m :=
  invariant Orderly orderly_create (fun _ _ _ h hstep => orderly_step h hstep) hrun

/-- How many steps the thread of the queue needs to call `setHangup`. -/
def remaining (m : SignalManager) : Nat :=
  if m.hangups = 0 then
    if m.pc = .idle ∧ m.queue.head? = some .listener then 7 else m.pc.rank
  else 0

end SignalManager

end RedPhone
