import RedPhone.Lib.Interleaving

/-!
# The Statistics Threads of the Jitter Buffers

Each call makes a jitter buffer, and each jitter buffer that is initialised
starts a thread that logs its statistics every thirty seconds. Nobody waits for
that thread. It goes on while `running` is set, and `running` is one variable
for all buffers: the next buffer sets it again. A thread that sleeps while its
call ends and another begins does not see that it was ever clear, and goes on
with a buffer that is deleted.

The other way to get there needs one call only. Between its look at `running`
and its use of the buffer a thread can be overtaken by the end of the call.

The calls come one after the other, and `CallAudioManager` stops a buffer
before it deletes it. Each look at `running`, each use of a buffer and each of
the operations is one step, and the clock is read in seconds.

## Main definitions

* `StatsPc`, `StatsThread`: A statistics thread and where it is.
* `JitterBuffers`: The buffer of the current call, and all the threads.
* `JitterBuffers.step`: An operation on the buffer, or a step of a thread.
* `Alive`, `Safe`: No thread reads a buffer that is deleted.
* `Timely`: The steps after which this is still so.

## Theorems

* `safe_goto`, `safe_step`: Exactly the timely steps keep it so.
* `stats_safe_iff`: It is so all through a run whose steps are timely, and
  through no other.
* `stats_revived`: The thread of one call goes on in the next.
-/

namespace RedPhone

open Interleaving

/-- Where a statistics thread is. -/
inductive StatsPc
  /-- `while (running)`. -/
  | loopTest
  /-- In the body of the loop, which reads `neteq`. -/
  | networkStatistics
  | sleep (wakeUp : Nat)
  | done
  deriving DecidableEq, Repr

/-- A statistics thread, and the number of its buffer. -/
structure StatsThread where
  buffer : Nat
  pc : StatsPc
  deriving DecidableEq, Repr

/-- How `init` ends. It returns -1 in the first two cases, and does not look
    whether the thread could be created. -/
inductive JitterInit
  | noNetEq
  | noDecoder
  | noThread
  | started
  deriving DecidableEq, Repr

/-- The buffer of the current call. -/
structure WebRtcJitterBuffer where
  initialised : Bool
  stopped : Bool
  deriving DecidableEq, Repr

/-- The jitter buffers of a process, which are numbered as they are made, and
    their threads. -/
structure JitterBuffers where
  /-- `static volatile int running`. -/
  running : Bool
  created : Nat
  current : Option WebRtcJitterBuffer
  threads : List StatsThread
  clock : Nat
  deriving DecidableEq, Repr

/-- What happens next. -/
inductive JitterTurn
  /-- The constructor. -/
  | create
  | init (result : JitterInit)
  | stop
  /-- The destructor. -/
  | destroy
  | tick
  /-- A step of one of the threads. -/
  | stats (thread : Nat)
  deriving DecidableEq, Repr

/-- The thread that `init` has started, if it has. -/
def JitterInit.threads (buffer : Nat) : JitterInit → List StatsThread
  | .started => [⟨buffer, .loopTest⟩]
  | _ => []

namespace JitterBuffers

/-- Before the first call. -/
def start : JitterBuffers := ⟨false, 0, none, [], 0⟩

/-- The buffer is not deleted: it is the one of the current call. -/
def Alive (s : JitterBuffers) (buffer : Nat) : Prop :=
  s.current.isSome ∧ buffer + 1 = s.created

def goto (s : JitterBuffers) (thread : Nat) (t : StatsThread) (pc : StatsPc) : JitterBuffers :=
  { s with threads := s.threads.set thread { t with pc := pc } }

/-- A step of the loop of `collectStats`. -/
def collectStats (s : JitterBuffers) (thread : Nat) (t : StatsThread) :
    Except Blocked JitterBuffers :=
  match t.pc with
  | .loopTest => .ok (s.goto thread t (if s.running then .networkStatistics else .done))
  | .networkStatistics => .ok (s.goto thread t (.sleep (s.clock + 30)))
  | .sleep wakeUp => if wakeUp ≤ s.clock then .ok (s.goto thread t .loopTest) else .error .blocked
  | .done => .error .blocked

def step (s : JitterBuffers) : JitterTurn → Except Blocked JitterBuffers
  | .create => match s.current with
    | none => .ok { s with
        running := true
        created := s.created + 1
        current := some ⟨false, false⟩ }
    | some _ => .error .blocked
  | .init result => match s.current with
    | some ⟨false, stopped⟩ => .ok { s with
        current := some ⟨true, stopped⟩
        threads := s.threads ++ result.threads (s.created - 1) }
    | _ => .error .blocked
  | .stop => match s.current with
    | some b => .ok { s with running := false, current := some { b with stopped := true } }
    | none => .error .blocked
  | .destroy => match s.current with
    | some ⟨_, true⟩ => .ok { s with current := none }
    | _ => .error .blocked
  | .tick => .ok { s with clock := s.clock + 1 }
  | .stats thread => match s.threads[thread]? with
    | some t => s.collectStats thread t
    | none => .error .blocked

/-- A thread that is in the body of its loop has its buffer. -/
def Safe (s : JitterBuffers) : Prop :=
  ∀ t ∈ s.threads, t.pc = .networkStatistics → s.Alive t.buffer

/-- No buffer is deleted while a thread is in the body of its loop, and no
    thread whose buffer is deleted finds `running` set. -/
def Timely (s : JitterBuffers) : JitterTurn → Prop
  | .destroy => ∀ t ∈ s.threads, t.pc ≠ .networkStatistics
  | .stats thread => ∀ t, s.threads[thread]? = some t → t.pc = .loopTest → s.running = true →
      s.Alive t.buffer
  | _ => True

variable {s s' : JitterBuffers}

/-- A thread that moves puts only itself at risk. -/
theorem safe_goto (hs : Safe s) {thread : Nat} {t : StatsThread}
    (hthread : s.threads[thread]? = some t) (pc : StatsPc) :
    Safe (s.goto thread t pc) ↔ (pc = .networkStatistics → s.Alive t.buffer) := by
  rcases List.getElem?_eq_some_iff.mp hthread with ⟨hlt, -⟩
  constructor
  · intro h hpc
    exact h { t with pc := pc } (List.mem_set hlt _) hpc
  · intro h u hu hbody
    rcases List.mem_or_eq_of_mem_set hu with hold | hnew
    · exact hs u hold hbody
    · rw [hnew] at hbody ⊢
      exact h hbody

theorem safe_collectStats (hs : Safe s) {thread : Nat} {t : StatsThread}
    (hthread : s.threads[thread]? = some t) (hstep : s.collectStats thread t = .ok s') :
    Safe s' ↔ (t.pc = .loopTest → s.running = true → s.Alive t.buffer) := by
  rw [collectStats] at hstep
  cases hpc : t.pc with
  | loopTest =>
      rw [hpc] at hstep
      rw [← Except.ok.inj hstep, safe_goto hs hthread]
      -- The thread comes into its body only while the flag is set.
      by_cases hrunning : s.running = true
      · rw [if_pos hrunning]
        exact ⟨fun h _ _ => h rfl, fun h _ => h rfl hrunning⟩
      · rw [if_neg hrunning]
        exact iff_of_true nofun fun _ h => absurd h hrunning
  | networkStatistics =>
      rw [hpc] at hstep
      rw [← Except.ok.inj hstep, safe_goto hs hthread]
      exact iff_of_true nofun nofun
  | sleep wakeUp =>
      rw [hpc] at hstep
      dsimp only at hstep
      -- Until it wakes up it makes no step.
      by_cases hawake : wakeUp ≤ s.clock
      · rw [if_pos hawake] at hstep
        rw [← Except.ok.inj hstep, safe_goto hs hthread]
        exact iff_of_true nofun nofun
      · rw [if_neg hawake] at hstep
        exact absurd hstep nofun
  | done =>
      rw [hpc] at hstep
      exact absurd hstep nofun

/-- A step leaves every thread its buffer exactly if it is timely. -/
theorem safe_step {turn : JitterTurn} (hs : Safe s) (hstep : s.step turn = .ok s') :
    Safe s' ↔ Timely s turn := by
  cases turn with
  | create =>
      cases hcurrent : s.current with
      | some b =>
          rw [step, hcurrent] at hstep
          exact absurd hstep nofun
      | none =>
          rw [step, hcurrent] at hstep
          rw [← Except.ok.inj hstep]
          -- No buffer was there, so no thread was in its body.
          refine iff_of_true (fun t ht hbody => ?_) trivial
          have hsome := (hs t ht hbody).1
          rw [hcurrent] at hsome
          exact absurd hsome nofun
  | init result =>
      cases hcurrent : s.current with
      | none =>
          rw [step, hcurrent] at hstep
          exact absurd hstep nofun
      | some b =>
          rcases b with ⟨initialised, stopped⟩
          cases initialised with
          | true =>
              rw [step, hcurrent] at hstep
              exact absurd hstep nofun
          | false =>
              rw [step, hcurrent] at hstep
              rw [← Except.ok.inj hstep]
              -- A new thread begins before its body, and the others keep their
              -- buffer.
              have hsame {t : StatsThread} (ht : t ∈ s.threads)
                  (hbody : t.pc = .networkStatistics) : t.buffer + 1 = s.created :=
                (hs t ht hbody).2
              refine iff_of_true (fun t ht hbody => ⟨rfl, ?_⟩) trivial
              rcases List.mem_append.mp ht with hold | hnew
              · exact hsame hold hbody
              · cases result with
                | started =>
                    rw [List.mem_singleton.mp hnew] at hbody
                    exact absurd hbody nofun
                | _ => exact absurd hnew List.not_mem_nil
  | stop =>
      cases hcurrent : s.current with
      | none =>
          rw [step, hcurrent] at hstep
          exact absurd hstep nofun
      | some b =>
          rw [step, hcurrent] at hstep
          rw [← Except.ok.inj hstep]
          exact iff_of_true (fun t ht hbody => ⟨rfl, (hs t ht hbody).2⟩) trivial
  | destroy =>
      cases hcurrent : s.current with
      | none =>
          rw [step, hcurrent] at hstep
          exact absurd hstep nofun
      | some b =>
          rcases b with ⟨initialised, stopped⟩
          cases stopped with
          | false =>
              rw [step, hcurrent] at hstep
              exact absurd hstep nofun
          | true =>
              rw [step, hcurrent] at hstep
              rw [← Except.ok.inj hstep]
              constructor
              · -- Any thread in its body reads what is deleted.
                intro h t ht hbody
                exact absurd (h t ht hbody).1 nofun
              · intro h t ht hbody
                exact absurd hbody (h t ht)
  | tick =>
      rw [step] at hstep
      rw [← Except.ok.inj hstep]
      exact iff_of_true hs trivial
  | stats thread =>
      cases hthread : s.threads[thread]? with
      | none =>
          rw [step, hthread] at hstep
          exact absurd hstep nofun
      | some t =>
          rw [step, hthread] at hstep
          rw [safe_collectStats hs hthread hstep, Timely, hthread]
          constructor
          · rintro h u ⟨⟩
            exact h
          · intro h
            exact h t rfl

/-- The threads of a run all read their own buffers only while these are not
    deleted, exactly if the steps of the run are timely. -/
theorem stats_safe_iff (turns : List JitterTurn) (s : JitterBuffers)
    (hrun : Run.run step start turns = .ok s) :
    Always step Safe start turns ↔ Meets step Timely start turns :=
  always_iff_meets (fun _ _ _ hu hstep => safe_step hu hstep) nofun hrun

/-- A call that ends, and the next one that begins while the thread of the
    first is asleep. -/
def secondCall : List JitterTurn :=
  [.create, .init .started, .stats 0, .stats 0, .stop, .destroy, .create] ++
    List.replicate 30 .tick ++ [.stats 0, .stats 0]

/-- The thread of the first call reads the buffer of the first call, which is
    deleted. -/
theorem stats_revived : ∃ s, Run.run step start secondCall = .ok s ∧
    s.threads = [⟨0, .networkStatistics⟩] ∧ s.created = 2 ∧ ¬ Safe s := by
  refine ⟨_, rfl, rfl, rfl, fun h => ?_⟩
  exact absurd (h ⟨0, .networkStatistics⟩ List.mem_cons_self rfl).2 (by decide)

instance (s : JitterBuffers) (buffer : Nat) : Decidable (s.Alive buffer) :=
  inferInstanceAs (Decidable (_ ∧ _))

instance (s : JitterBuffers) : (turn : JitterTurn) → Decidable (s.Timely turn)
  | .create | .init _ | .stop | .tick => .isTrue trivial
  | .destroy => inferInstanceAs (Decidable (∀ t ∈ s.threads, t.pc ≠ .networkStatistics))
  | .stats thread =>
    decidable_of_iff (∀ t ∈ (s.threads[thread]?).toList, t.pc = .loopTest → s.running = true →
      s.Alive t.buffer) (forall_congr' fun _ => imp_congr_left Option.mem_toList)

/-- A call that ends, whose thread wakes up before the buffer is deleted, and
    the next call. -/
def nextCall : List JitterTurn :=
  [.create, .init .started, .stats 0, .stats 0] ++ List.replicate 30 .tick ++
    [.stats 0, .stop, .stats 0, .destroy, .create, .init .started, .stats 1, .stats 1, .stop]

/-- The first thread is done and the second one has read the second buffer. -/
theorem stats_safe_iff_nextCall :
    (∃ s, Run.run step start nextCall = .ok s ∧ s.created = 2 ∧
      s.threads = [⟨0, .done⟩, ⟨1, .sleep 60⟩]) ∧
    Meets step Timely start nextCall ∧ Always step Safe start nextCall := by
  have htimely : Meets step Timely start nextCall := by decide +kernel
  exact ⟨⟨_, rfl, rfl, rfl⟩, htimely, (stats_safe_iff nextCall _ rfl).mpr htimely⟩

end JitterBuffers

end RedPhone
