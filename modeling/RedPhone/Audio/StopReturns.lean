import RedPhone.Audio.CallAudioManager

/-!
# Stopping the Audio

`stop` waits for `finished`, which `start` clears when it begins and sets at
its end. On the way there are ten places at which `start` can fail, and each of
them returns without setting `finished`. The failure is reported, the report
ends the call, and ending the call waits for a thread that has left.

Where no call of `start` fails the flag is set whenever nobody is inside, and
then `stop` comes to its return by its own steps.

## Main definitions

* `Stoppable`: The flag is set while nobody is inside, and `stop` returns.
* `Fails`: The steps at which `start` fails.
* `Ready`: `stop` waits for nobody.
* `Stuck`: `stop` waits for `start`, which has left.

## Theorems

* `ready_stop`, `returns_of_ready`: A `stop` that waits for nobody returns.
* `stuck_step`, `stuck_run`: One that waits for `start` after it has failed
  never does.
* `stop_returns_iff`: `stop` returns exactly in the runs without a failure.
* `stop_returns_failed`: The engine cannot be created.
-/

namespace RedPhone

open Interleaving

/-- A call of `start` that may fail. -/
def StartPc.MayFail : StartPc → Prop
  | .setUp _ => True
  | .lock => True
  | _ => False

/-- How many steps `stop` has to its return, if it need not wait. -/
def StopPc.left : StopPc → Nat
  | .idle => 9
  | .clearRunning => 8
  | .stopMicrophone => 7
  | .stopPlayer => 6
  | .stopJitterBuffer => 5
  | .waiting => 5
  | .lock => 4
  | .relock => 4
  | .finishedTest => 3
  | .unlock => 2
  | .sleep => 1
  | .returned => 0
  | .disposed => 0

namespace CallAudioManager

variable {m m' : CallAudioManager}

/-- While no thread is inside `start`, the flag is set, and a call of `stop`,
    made or to be made, comes to its return by its own steps. -/
def Stoppable (m : CallAudioManager) : Prop :=
  ¬ m.startPc.Inside → m.finished = true ∧
    ∃ n t, Run.run step m (List.replicate n .stop) = .ok t ∧ t.stopPc.Over

/-- A call made by `start` fails. -/
def Fails (m : CallAudioManager) : AudioTurn → Prop
  | .start succeeds => succeeds = false ∧ m.startPc.MayFail
  | _ => False

/-- `stop` has nobody to wait for. -/
structure Ready (m : CallAudioManager) : Prop where
  finished : m.finished = true
  mutex : m.mutex = none ∨ m.stopPc.Holds
  awake : m.stopPc ≠ .waiting

theorem ready_lockStop (h : Ready m) (hfree : ¬ m.stopPc.Holds) :
    ∃ m', m.lockStop = .ok m' ∧ Ready m' ∧ m'.stopPc = .finishedTest := by
  rcases h.mutex with hnone | hholds
  · refine ⟨{ m with mutex := some .stop, stopPc := .finishedTest }, ?_,
      ⟨h.finished, Or.inr trivial, nofun⟩, rfl⟩
    rw [lockStop, hnone]
  · exact absurd hholds hfree

/-- Each step brings a `stop` that waits for nobody nearer to its return. -/
theorem ready_stop (h : Ready m) (hgoing : ¬ m.stopPc.Over) :
    ∃ m', m.step .stop = .ok m' ∧ Ready m' ∧ m'.stopPc.left < m.stopPc.left := by
  -- `start` is not inside, so the mutex is free unless `stop` has it.
  have hmutex (hfree : ¬ m.stopPc.Holds) : m.mutex = none := by
    rcases h.mutex with hnone | hholds
    · exact hnone
    · exact absurd hholds hfree
  rw [step, stop]
  cases hpc : m.stopPc with
  | waiting => exact absurd hpc h.awake
  | returned =>
      rw [hpc] at hgoing
      exact absurd trivial hgoing
  | disposed =>
      rw [hpc] at hgoing
      exact absurd trivial hgoing
  | lock =>
      rcases ready_lockStop h (by rw [hpc]; exact id) with ⟨m', hlock, hready, hpc'⟩
      exact ⟨m', hlock, hready, by rw [hpc']; exact Nat.lt_succ_self 3⟩
  | relock =>
      rcases ready_lockStop h (by rw [hpc]; exact id) with ⟨m', hlock, hready, hpc'⟩
      exact ⟨m', hlock, hready, by rw [hpc']; exact Nat.lt_succ_self 3⟩
  | finishedTest =>
      -- The flag is set, and there is nothing to wait for.
      refine ⟨_, if_pos h.finished, ⟨h.finished, Or.inr trivial, ?_⟩, Nat.lt_succ_self 2⟩
      simp only [ne_eq, reduceCtorEq, not_false_eq_true]
  | unlock =>
      refine ⟨_, rfl, ⟨h.finished, Or.inl rfl, ?_⟩, Nat.lt_succ_self 1⟩
      simp only [ne_eq, reduceCtorEq, not_false_eq_true]
  | _ =>
      refine ⟨_, rfl, ⟨h.finished, Or.inl (hmutex ?_), ?_⟩, Nat.lt_succ_self _⟩
      · rw [hpc]
        exact id
      · simp only [ne_eq, reduceCtorEq, not_false_eq_true]

theorem returns_of_ready (h : Ready m) :
    ∃ n t, Run.run step m (List.replicate n .stop) = .ok t ∧ t.stopPc.Over :=
  reaches_alone (fun u : CallAudioManager => u.stopPc.left) AudioTurn.stop
    (fun _ hu hgoing => ready_stop hu hgoing) m h

theorem ready_of_outside (h : Orderly m) (hout : ¬ m.startPc.Inside)
    (hfinished : m.finished = true) : Ready m := by
  have hstart : ¬ m.startPc.Holds := by
    cases hpc : m.startPc with
    | idle => exact id
    | returned result => exact id
    | _ =>
        rw [hpc] at hout
        exact absurd trivial hout
  refine ⟨hfinished, ?_, awake_of_finished h hfinished ?_⟩
  · cases hmutex : m.mutex with
    | none => exact Or.inl rfl
    | some holder =>
        right
        cases holder with
        | start => exact absurd (h.start_holds.mp hmutex) hstart
        | stop => exact h.stop_holds.mp hmutex
  · intro hsignal
    rw [hsignal] at hstart
    exact hstart trivial

/-- `start` has returned only with the flag set. -/
structure Clean (m : CallAudioManager) : Prop where
  orderly : Orderly m
  returned : ∀ result, m.startPc = .returned result → m.finished = true

theorem stoppable_of_clean (h : Clean m) : Stoppable m := by
  intro hout
  have hfinished : m.finished = true := by
    cases hpc : m.startPc with
    | idle => exact finished_of_unstarted h.orderly (by rw [hpc]; exact id) (by rw [hpc]; nofun)
    | returned result => exact h.returned result hpc
    | _ =>
        rw [hpc] at hout
        exact absurd trivial hout
  exact ⟨hfinished, returns_of_ready (ready_of_outside h.orderly hout hfinished)⟩

/-- `start` returns from its last step, or at a failure. -/
theorem start_returned {succeeds : Bool} {result : Int} (hstart : m.start succeeds = .ok m')
    (hreturned : m'.startPc = .returned result) :
    (m.startPc = .unlock ∨ Fails m (.start succeeds)) ∧ m'.finished = m.finished := by
  cases starts_of_start hstart with
  | unlocks _ hpc => exact ⟨Or.inl hpc, rfl⟩
  | fails result' hcall =>
      refine ⟨Or.inr ⟨rfl, ?_⟩, rfl⟩
      rcases hcall with ⟨stage, hpc⟩ | hpc
      · rw [hpc]
        trivial
      · rw [hpc]
        trivial
  | goesOn _ pc hbusy hpc =>
      have hgoing : pc.Unfinished := hpc.1
      rw [show pc = .returned result from hreturned] at hgoing
      exact hgoing.elim
  | _ => exact absurd hreturned nofun

/-- `stop` touches neither the flag nor the other thread. -/
theorem stop_same (hstop : m.stop = .ok m') :
    m'.finished = m.finished ∧ m'.startPc = m.startPc := by
  cases stops_of_stop hstop with
  | _ => exact ⟨rfl, rfl⟩

theorem clean_step {turn : AudioTurn} (h : Clean m) (hfine : ¬ Fails m turn)
    (hstep : m.step turn = .ok m') : Clean m' := by
  refine ⟨orderly_step h.orderly hstep, fun result hreturned => ?_⟩
  cases turn with
  | start succeeds =>
      rcases start_returned hstep hreturned with ⟨hplace, hsame⟩
      rcases hplace with hunlock | hfails
      · rw [hsame]
        exact finished_of_unstarted h.orderly (by rw [hunlock]; exact id) (by rw [hunlock]; nofun)
      · exact absurd hfails hfine
  | stop =>
      rcases stop_same hstep with ⟨hfinished, hstart⟩
      rw [hfinished]
      exact h.returned result (hstart ▸ hreturned)
  | wake =>
      rw [(wake_same hstep).2] at hreturned ⊢
      exact h.returned result hreturned

/-- A failure takes `start` out with the flag clear. -/
theorem fails_start {succeeds : Bool} (h : Orderly m) (hfails : Fails m (.start succeeds))
    (hstart : m.start succeeds = .ok m') :
    (∃ result, m'.startPc = .returned result) ∧ m'.finished = false := by
  rcases hfails with ⟨rfl, hmay⟩
  rw [start] at hstart
  cases hpc : m.startPc with
  | setUp stage =>
      rw [hpc] at hstart
      rw [← Except.ok.inj hstart]
      exact ⟨⟨-1, rfl⟩, h.unfinished (by rw [hpc]; trivial)⟩
  | lock =>
      rw [hpc] at hstart
      rw [← Except.ok.inj hstart]
      exact ⟨⟨0, rfl⟩, h.unfinished (by rw [hpc]; trivial)⟩
  | _ =>
      rw [hpc] at hmay
      exact hmay.elim

/-- `start` has left with the flag clear, and `stop` has not got past it. -/
structure Stuck (m : CallAudioManager) : Prop where
  returned : ∃ result, m.startPc = .returned result
  finished : m.finished = false
  going : 3 ≤ m.stopPc.left

/-- Short of the test these steps do not get past it. -/
theorem Follows.left_le {pc pc' : StopPc} (h : Follows pc pc') (hgoing : 3 ≤ pc.left) :
    3 ≤ pc'.left := by
  cases h with
  | slept => exact absurd hgoing (by decide)
  | disposes => exact absurd hgoing (by decide)
  | _ => exact Nat.le_of_ble_eq_true rfl

/-- Nobody sets the flag any more. -/
theorem stuck_step {turn : AudioTurn} (h : Stuck m) (hstep : m.step turn = .ok m') : Stuck m' := by
  rcases h.returned with ⟨result, hreturned⟩
  have hgoing := h.going
  cases turn with
  | start succeeds =>
      rw [step, start, hreturned] at hstep
      simp only [reduceCtorEq] at hstep
  | wake =>
      rw [(wake_same hstep).2]
      exact ⟨h.returned, h.finished, (by decide : 3 ≤ 4)⟩
  | stop =>
      rcases stop_same hstep with ⟨hfinished, hstart⟩
      refine ⟨⟨result, hstart.trans hreturned⟩, hfinished.trans h.finished, ?_⟩
      cases stops_of_stop hstep with
      | goesOn pc hfollows => exact hfollows.left_le hgoing
      | clearsRunning hpc => exact (by decide : 3 ≤ 7)
      | locks hpc hmutex => exact Nat.le_refl 3
      | finds hpc hset => exact absurd (hset.symm.trans h.finished) (by decide)
      -- The flag is clear, and the thread goes to sleep.
      | waits hpc hclear => exact (by decide : 3 ≤ 5)
      | unlocks hpc =>
          rw [hpc] at hgoing
          exact absurd hgoing (by decide)

theorem stuck_run {turns : List AudioTurn} (h : Stuck m)
    (hrun : Run.run step m turns = .ok m') : ¬ m'.stopPc.Over := by
  have hstuck : Stuck m' := invariant Stuck h (fun _ _ _ hu hstep => stuck_step hu hstep) hrun
  have hgoing := hstuck.going
  intro hover
  cases hpc : m'.stopPc with
  | returned =>
      rw [hpc] at hgoing
      exact absurd hgoing (by decide)
  | disposed =>
      rw [hpc] at hgoing
      exact absurd hgoing (by decide)
  | _ =>
      rw [hpc] at hover
      exact hover

/-- In a run of the two threads `stop` can always return while nobody is
    inside `start`, exactly if no call made by `start` fails. -/
theorem stop_returns_iff (turns : List AudioTurn) (m : CallAudioManager)
    (hrun : Run.run step create turns = .ok m) :
    Always step Stoppable create turns
      ↔ Meets step (fun u turn => ¬ Fails u turn) create turns := by
  refine always_iff_meets_of_invariant (I := Clean) (fun u turn v hu hfine hstep => ?_)
    (fun u hu => stoppable_of_clean hu) (fun u turn v hu hfails hstep => ?_) ⟨orderly_create, nofun⟩
    hrun
  · exact clean_step hu hfine hstep
  · intro hstoppable
    cases turn with
    | start succeeds =>
        rcases fails_start hu.orderly (not_not.mp hfails) hstep with ⟨⟨result, hreturned⟩, hclear⟩
        have hset := (hstoppable (by rw [hreturned]; exact id)).1
        exact absurd (hset.symm.trans hclear) nofun
    | stop => exact hfails id
    | wake => exact hfails id

/-- The engine cannot be created. The failure is reported, and the report ends
    the call. -/
def failedEngine : List AudioTurn :=
  [.start true, .start true, .start true, .start false] ++ List.replicate 7 .stop

/-- Nobody is inside `start`, the flag is clear, and `stop` does not return
    whatever happens. -/
theorem stop_returns_failed : ∃ m, Run.run step create failedEngine = .ok m ∧
    m.startPc = .returned (-1) ∧ m.stopPc = .waiting ∧ m.finished = false ∧
    ∀ turns t, Run.run step m turns = .ok t → ¬ t.stopPc.Over :=
  ⟨_, rfl, rfl, rfl, rfl, fun _ _ hrun =>
    stuck_run ⟨⟨-1, rfl⟩, rfl, Nat.le_of_ble_eq_true rfl⟩ hrun⟩

/-- A call that is ended while packets are received. -/
def stoppedReceiving : List AudioTurn :=
  List.replicate 13 (.start true) ++ List.replicate 7 .stop ++ List.replicate 6 (.start true) ++
    List.replicate 5 .stop

theorem stop_returns_iff_receiving : ∃ m, Run.run step create stoppedReceiving = .ok m ∧
    m.stopPc = .disposed ∧
    (Always step Stoppable create stoppedReceiving ↔
      Meets step (fun u turn => ¬ Fails u turn) create stoppedReceiving) :=
  ⟨_, rfl, rfl, stop_returns_iff stoppedReceiving _ rfl⟩

end CallAudioManager

end RedPhone
