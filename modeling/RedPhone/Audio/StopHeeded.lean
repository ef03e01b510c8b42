import RedPhone.Audio.StopReturns

/-!
# A Stop That Is Not Heeded

`start` writes both flags when it begins, `running` first, and `stop` clears
the one and waits for the other. If `stop` comes first, `start` undoes what it
wrote: the audio runs on, and either `stop` never returns or it has returned
already, and `dispose` deletes the object under the thread that uses it. It
need not come before `start` as a whole: it is enough that it looks at
`finished` between the two writes.

In the schedules in which neither write comes late the stop is heeded. What
carries the proof is that a `stop` that has got past its wait finds `start`
before its first lines or after its last.

## Main definitions

* `Asked`, `Passed`: What `stop` has done.
* `Timely`: The writes of `start` do not come late.
* `Heeded`: The stop is heeded.
* `Unfreed`: `start` does not use an object that is deleted.

## Theorems

* `warned_step`: What the steps keep that are timely.
* `stop_heeded`: In a run whose steps are timely the stop is heeded.
* `stop_heeded_lost`: `stop` before `start`.
* `timely_of_begun`: `stop` when both writes are made.
-/

namespace RedPhone

open Interleaving

/-- `stop` has cleared `running`. -/
def StopPc.Asked : StopPc → Prop
  | .idle => False
  | .clearRunning => False
  | _ => True

/-- `stop` has found `finished` set. -/
def StopPc.Passed : StopPc → Prop
  | .unlock => True
  | .sleep => True
  | .returned => True
  | .disposed => True
  | _ => False

/-- `start` receives packets. -/
def StartPc.Looping : StartPc → Prop
  | .loopTest => True
  | .receive => True
  | _ => False

/-- `start` has not cleared `finished` yet, or is done. -/
def StartPc.Aside : StartPc → Prop
  | .idle => True
  | .setRunning => True
  | .clearFinished => True
  | .returned _ => True
  | _ => False

/-- `start` is past its two writes. -/
def StartPc.Begun : StartPc → Prop
  | .idle => False
  | .setRunning => False
  | .clearFinished => False
  | _ => True

namespace CallAudioManager

variable {m m' : CallAudioManager}

/-- `start` does not set `running` after `stop` has cleared it, and does not
    clear `finished` after `stop` has found it set. -/
def Timely (m : CallAudioManager) : AudioTurn → Prop
  | .start _ => (m.startPc = .setRunning → ¬ m.stopPc.Asked) ∧
      (m.startPc = .clearFinished → ¬ m.stopPc.Passed)
  | _ => True

/-- The request of `stop` stands, and once it has returned no packets are
    received. -/
structure Heeded (m : CallAudioManager) : Prop where
  running : m.stopPc.Asked → m.running = false
  looping : m.stopPc.Over → ¬ m.startPc.Looping

/-- A step inside `start` finds the object where it was. -/
def Unfreed (m : CallAudioManager) : AudioTurn → Prop
  | .start _ => m.startPc.Inside → m.stopPc ≠ .disposed
  | _ => True

/-- What is true while the steps are timely. -/
structure Warned (m : CallAudioManager) : Prop where
  orderly : Orderly m
  running : m.stopPc.Asked → m.running = false
  aside : m.stopPc.Passed → m.startPc.Aside

theorem warned_create : Warned create :=
  ⟨orderly_create, fun _ => rfl, fun _ => trivial⟩

/-- Only the first line of `start` sets `running`. -/
theorem start_running {succeeds : Bool} (hstart : m.start succeeds = .ok m')
    (hpc : m.startPc ≠ .setRunning) : m'.running = m.running := by
  cases starts_of_start hstart with
  | setsRunning _ hfirst => exact absurd hfirst hpc
  | _ => rfl

/-- `start` does not bring `stop` further than out of its sleep. -/
theorem start_stopPc {succeeds : Bool} (hstart : m.start succeeds = .ok m') :
    m'.stopPc = m.stopPc ∨ m'.stopPc = m.stopPc.woken := by
  cases starts_of_start hstart with
  | signals _ hsignal => exact Or.inr rfl
  | _ => exact Or.inl rfl

theorem woken_asked (pc : StopPc) : pc.woken.Asked ↔ pc.Asked := by
  cases pc with
  | _ => exact Iff.rfl

theorem woken_passed (pc : StopPc) : pc.woken.Passed ↔ pc.Passed := by
  cases pc with
  | _ => exact Iff.rfl

/-- From aside `start` goes on aside, unless it clears `finished`. -/
theorem start_aside {succeeds : Bool} (haside : m.startPc.Aside) (hpc : m.startPc ≠ .clearFinished)
    (hstart : m.start succeeds = .ok m') : m'.startPc.Aside := by
  rw [start] at hstart
  -- Aside are the lines before `finished` is cleared, and those after everything
  -- is over.
  cases hstartPc : m.startPc with
  | idle =>
      rw [hstartPc] at hstart
      rw [← Except.ok.inj hstart]
      trivial
  | setRunning =>
      rw [hstartPc] at hstart
      rw [← Except.ok.inj hstart]
      trivial
  | clearFinished => exact absurd hstartPc hpc
  | returned result =>
      rw [hstartPc] at hstart
      simp only [reduceCtorEq] at hstart
  | _ =>
      rw [hstartPc] at haside
      exact haside.elim

theorem warned_start {succeeds : Bool} (h : Warned m) (htimely : Timely m (.start succeeds))
    (hstart : m.start succeeds = .ok m') : Warned m' := by
  -- A step of `start` may wake `stop`, which is asked and past its wait as
  -- before.
  have hasked : m'.stopPc.Asked → m.stopPc.Asked := by
    rcases start_stopPc hstart with hsame | hwoken
    · rw [hsame]
      exact id
    · rw [hwoken]
      exact (woken_asked m.stopPc).mp
  have hpassed : m'.stopPc.Passed → m.stopPc.Passed := by
    rcases start_stopPc hstart with hsame | hwoken
    · rw [hsame]
      exact id
    · rw [hwoken]
      exact (woken_passed m.stopPc).mp
  refine ⟨orderly_start h.orderly hstart, fun h' => ?_, fun h' => ?_⟩
  -- The write that would undo the request is not made by a timely step.
  · have hne : m.startPc ≠ .setRunning := fun hpc => htimely.1 hpc (hasked h')
    rw [start_running hstart hne]
    exact h.running (hasked h')
  -- Nor the one that would take back what `stop` has found.
  · have hne : m.startPc ≠ .clearFinished := fun hpc => htimely.2 hpc (hpassed h')
    exact start_aside (h.aside (hpassed h')) hne hstart

theorem Follows.asked {pc pc' : StopPc} (h : Follows pc pc') (hasked : pc'.Asked) : pc.Asked := by
  cases h with
  | called => exact hasked
  | _ => trivial

theorem Follows.passed {pc pc' : StopPc} (h : Follows pc pc') (hpassed : pc'.Passed) :
    pc.Passed := by
  cases h with
  | slept => trivial
  | disposes => trivial
  | _ => exact hpassed

/-- `stop` clears `running` and never sets it. -/
theorem stop_running (hstop : m.stop = .ok m') (hrunning : m.stopPc.Asked → m.running = false)
    (hasked : m'.stopPc.Asked) : m'.running = false := by
  cases stops_of_stop hstop with
  | clearsRunning hpc => rfl
  | goesOn pc hfollows => exact hrunning (hfollows.asked hasked)
  | locks hpc hmutex =>
      refine hrunning ?_
      rcases hpc with hpc | hpc
      · rw [hpc]
        trivial
      · rw [hpc]
        trivial
  | finds hpc hfinished => exact hrunning (hpc ▸ trivial)
  | waits hpc hclear => exact hrunning (hpc ▸ trivial)
  | unlocks hpc => exact hrunning (hpc ▸ trivial)

/-- With the mutex in the hands of `stop` and the flag set, `start` is not
    between its writes of the flag, nor at its last lines. -/
theorem aside_of_finished (h : Orderly m) (hholds : m.stopPc.Holds)
    (hfinished : m.finished = true) : m.startPc.Aside := by
  have hbusy : ¬ m.startPc.Unfinished := fun hbusy =>
    absurd (hfinished.symm.trans (h.unfinished hbusy)) nofun
  have hfree : ¬ m.startPc.Holds := by
    rw [← h.start_holds, h.stop_holds.mpr hholds]
    nofun
  cases hpc : m.startPc with
  | idle => trivial
  | setRunning => trivial
  | clearFinished => trivial
  | returned result => trivial
  | signal =>
      rw [hpc] at hfree
      exact absurd trivial hfree
  | unlock =>
      rw [hpc] at hfree
      exact absurd trivial hfree
  | _ =>
      rw [hpc] at hbusy
      exact absurd trivial hbusy

/-- `stop` gets past its wait only by finding the flag set. -/
theorem stop_passed (hstop : m.stop = .ok m') (hpassed : m'.stopPc.Passed) :
    m.stopPc.Passed ∨ (m.stopPc = .finishedTest ∧ m.finished = true) := by
  -- All other ways past the wait come from behind it.
  cases stops_of_stop hstop with
  | goesOn pc hfollows => exact Or.inl (hfollows.passed hpassed)
  | finds hpc hfinished => exact Or.inr ⟨hpc, hfinished⟩
  | unlocks hpc => exact Or.inl (hpc ▸ trivial)
  | _ => exact hpassed.elim

theorem warned_step {turn : AudioTurn} (h : Warned m) (htimely : Timely m turn)
    (hstep : m.step turn = .ok m') : Warned m' := by
  cases turn with
  | start succeeds => exact warned_start h htimely hstep
  | stop =>
      refine ⟨orderly_step h.orderly hstep, stop_running hstep h.running, fun hpassed => ?_⟩
      rw [(stop_same hstep).2]
      rcases stop_passed hstep hpassed with hpassed | ⟨hpc, hfinished⟩
      · exact h.aside hpassed
      · exact aside_of_finished h.orderly (by rw [hpc]; trivial) hfinished
  | wake =>
      rcases wake_same hstep with ⟨hwaiting, hm'⟩
      refine ⟨orderly_step h.orderly hstep, fun _ => ?_, fun hpassed => ?_⟩
      · rw [hm']
        exact h.running (by rw [hwaiting]; trivial)
      · rw [hm'] at hpassed
        exact hpassed.elim

theorem passed_of_over {pc : StopPc} (h : pc.Over) : pc.Passed := by
  cases pc with
  | returned => trivial
  | disposed => trivial
  | _ => exact h.elim

theorem heeded_of_warned (h : Warned m) : Heeded m := by
  refine ⟨h.running, fun hover hlooping => ?_⟩
  -- The loop is not among the lines aside.
  have haside := h.aside (passed_of_over hover)
  cases hpc : m.startPc with
  | loopTest =>
      rw [hpc] at haside
      exact haside
  | receive =>
      rw [hpc] at haside
      exact haside
  | _ =>
      rw [hpc] at hlooping
      exact hlooping

/-- Aside and inside are the two writes, which a timely `start` no longer
    makes. -/
theorem unfreed_of_warned {turn : AudioTurn} (h : Warned m) (htimely : Timely m turn) :
    Unfreed m turn := by
  cases turn with
  | stop => trivial
  | wake => trivial
  | start succeeds =>
      intro hinside hdisposed
      have haside : m.startPc.Aside := h.aside (by rw [hdisposed]; trivial)
      cases hpc : m.startPc with
      | setRunning => exact htimely.1 hpc (by rw [hdisposed]; trivial)
      | clearFinished => exact htimely.2 hpc (by rw [hdisposed]; trivial)
      | idle =>
          rw [hpc] at hinside
          exact hinside
      | returned result =>
          rw [hpc] at hinside
          exact hinside
      | _ =>
          rw [hpc] at haside
          exact haside

/-- In a run whose steps are timely, the request of `stop` stands, no packets
    are received once it has returned, and `start` does not use the object
    after `dispose`. -/
theorem stop_heeded (turns : List AudioTurn) (h : Meets step Timely create turns) :
    Always step Heeded create turns ∧ Meets step Unfreed create turns := by
  have hwarned : Always step Warned create turns :=
    always_of_meets (fun _ _ _ hu htimely hstep => warned_step hu htimely hstep) warned_create h
  refine ⟨hwarned.mono fun u hu => heeded_of_warned hu, fun pre turn post u hsplit hrun => ?_⟩
  exact unfreed_of_warned (hwarned pre (turn :: post) u hsplit hrun) (h pre turn post u hsplit hrun)

/-- The user hangs up before `start` has begun. -/
def stopFirst : List AudioTurn :=
  List.replicate 10 .stop ++ List.replicate 13 (.start true)

/-- The object is deleted, the thread of the call receives packets with it,
    and nobody is left to stop it. -/
theorem stop_heeded_lost :
    (∃ m, Run.run step create stopFirst = .ok m ∧ m.stopPc = .disposed ∧ m.startPc = .receive ∧
      m.running = true) ∧
    ¬ Always step Heeded create stopFirst ∧ ¬ Meets step Unfreed create stopFirst := by
  refine ⟨⟨_, rfl, rfl, rfl, rfl⟩, fun h => ?_, fun h => ?_⟩
  · exact (h stopFirst [] _ (List.append_nil _).symm rfl).looping trivial trivial
  · have huse := h (List.replicate 10 AudioTurn.stop ++ [.start true]) (.start true)
      (List.replicate 11 (.start true)) _ rfl rfl
    exact huse trivial rfl

theorem begun_step {turn : AudioTurn} (h : m.startPc.Begun) (hstep : m.step turn = .ok m') :
    m'.startPc.Begun := by
  have hunfinished : ∀ pc : StartPc, pc.Unfinished → pc.Begun := by
    intro pc hpc
    cases pc with
    | idle => exact hpc
    | setRunning => exact hpc
    | clearFinished => exact hpc
    | _ => trivial
  cases turn with
  | start succeeds =>
      cases starts_of_start hstep with
      | called _ hpc => exact (hpc ▸ h).elim
      | setsRunning _ hpc => exact (hpc ▸ h).elim
      | goesOn _ pc _ hpc => exact hunfinished pc hpc.1
      | _ => trivial
  | stop =>
      rw [(stop_same hstep).2]
      exact h
  | wake =>
      rw [(wake_same hstep).2]
      exact h

/-- Once `start` is past its two writes whatever comes is timely. -/
theorem timely_of_begun (h : m.startPc.Begun) (turns : List AudioTurn) :
    Meets step Timely m turns := by
  intro pre turn post u _ hrun
  have hbegun : u.startPc.Begun :=
    invariant (fun u : CallAudioManager => u.startPc.Begun) h (fun _ _ _ => begun_step) hrun
  cases turn with
  | start succeeds =>
      refine ⟨fun hpc => ?_, fun hpc => ?_⟩
      · rw [hpc] at hbegun
        exact hbegun.elim
      · rw [hpc] at hbegun
        exact hbegun.elim
  | stop => trivial
  | wake => trivial

/-- The user hangs up while packets are received. -/
def hungUp : List AudioTurn :=
  List.replicate 10 (.start true) ++ List.replicate 7 .stop ++ List.replicate 6 (.start true) ++
    List.replicate 5 .stop

/-- `start` sets everything up and receives, `stop` waits for it to return, and
    then the object is deleted. -/
theorem stop_heeded_hungUp :
    (∃ m, Run.run step create (List.replicate 3 (.start true) ++ hungUp) = .ok m ∧
      m.startPc = .returned 0 ∧ m.stopPc = .disposed) ∧
    Always step Heeded create (List.replicate 3 (.start true) ++ hungUp) ∧
    Meets step Unfreed create (List.replicate 3 (.start true) ++ hungUp) := by
  refine ⟨⟨_, rfl, rfl, rfl⟩, stop_heeded _ ?_⟩
  -- Nobody has called `stop` while `start` makes its two writes.
  have hfirst : Meets step Timely create (List.replicate 3 (.start true)) := by
    have hidle : ∀ m : CallAudioManager, m.stopPc = .idle → Timely m (.start true) := by
      intro m hm
      refine ⟨fun _ hasked => ?_, fun _ hpassed => ?_⟩
      · rw [hm] at hasked
        exact hasked
      · rw [hm] at hpassed
        exact hpassed
    simp only [List.replicate]
    rw [meets_cons rfl, meets_cons rfl, meets_cons rfl]
    exact ⟨hidle _ rfl, hidle _ rfl, hidle _ rfl, meets_nil _⟩
  have hbegun :
      (⟨true, false, none, .setUp .createEngine, .idle⟩ : CallAudioManager).startPc.Begun := trivial
  exact hfirst.append rfl (timely_of_begun hbegun hungUp)

end CallAudioManager

end RedPhone
