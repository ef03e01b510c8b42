import RedPhone.Registration.Listener

/-!
# The End of a Registration

What a statement of a handler uses has been set before, and the receiver it
unregisters is registered. So only two things end the process from the thread of
a service. One is a request that throws what the handler does not catch, such as
a number that cannot be formatted. The other is a message to a handler of the
activity that has been taken away since the thread asked for it: the main
thread sets the field to `null` when the activity is disconnected, and it can do
so between the question and the answer.

Apart from that no handler can be stuck. Its thread waits for nobody but the
clock and the network: a `wait` ends at any time, and where the connection is
lost each request throws what the handler catches. The thread alone can bring
its handler to the end of its course, in no more steps than there are
statements left.

## Main definitions

* `Ready`: A handler has what the statement uses that it is at.
* `Throws`: The request of a statement throws.
* `RegistrationService.Answerable`: The thread is not about to send a message
  to a handler that is gone.
* `Running.rank`: The steps that are left.
* `Nearer`: A handler has come nearer to its end.

## Theorems

* `executes_ready`, `ready_effect`: What is used has been set.
* `exec_crash_iff`, `runs_crash_iff`: What ends the process.
* `executes_rank`: Every statement brings a handler nearer to its end.
* `exec_disconnected`: No statement needs a connection to go on.
* `thread_step`: There is always a step that does.
* `handler_ends`: The end can always be reached, but for what ends the process.
-/

namespace RedPhone

open Interleaving Reading JavaString PhoneNumberFormatter AccountCreationSocket

namespace Registration

variable {PhoneNumber : Type} {util : PhoneNumberUtil PhoneNumber} {gson : Gson}

/-- A handler has a socket that is connected. -/
def Handling.Opened (h : Handling) : Prop :=
  ∃ a source, h.socket = some a ∧ a.session.source = .ok source

/-- A handler has what the statement uses that it is at. -/
def Ready (h : Handling) : Pc → Prop
  | .setConnecting | .createAccount | .setVerifyingSms | .waitForChallenge | .waiting
  | .verifyAccount _ => h.key.isSome
  | .setVerifyingVoice => h.action = .voiceRegisterNumber
  | .markAsVerified => h.action ≠ .voiceRegisterNumber → h.Opened
  | .retrieveDirectory => h.Opened
  | _ => True

def RegistrationService.IsReady (v : RegistrationService) : Prop :=
  ∀ r, v.running = some r → Ready r.handling r.pc

theorem RegistrationService.IsReady.goto {v : RegistrationService} {h : Handling} {pc : Pc}
    (hready : Ready h pc) : (v.goto h pc).IsReady :=
  fun _ hr => Option.some.inj hr ▸ hready

theorem RegistrationService.IsReady.ended {v : RegistrationService} (hnone : v.running = none) :
    v.IsReady := fun r hr => by
  rw [hnone] at hr
  exact absurd hr (Option.some_ne_none r).symm

theorem shows_ready {h : Handling} {pc next : Pc} {state : RegistrationState}
    (hready : Ready h pc) (hshows : h.shows pc = some (state, next)) : Ready h next := by
  have hpair : ∀ state' next', some (state', next') = some (state, next) → Ready h next' →
      Ready h next := by
    intro state' next' heq hnext
    rw [Option.some.injEq, Prod.mk.injEq] at heq
    exact heq.2 ▸ hnext
  cases pc with
  | setConnecting => exact hpair _ _ hshows hready
  | setVerifyingSms => exact hpair _ _ hshows hready
  | setVerifyingVoice => exact hpair _ _ hshows fun hne => absurd hready hne
  | setComplete => exact hpair _ _ hshows trivial
  | setFailed state' => exact hpair _ _ hshows trivial
  | setVoiceRequested => exact hpair _ _ hshows trivial
  | _ => simp only [Handling.shows, reduceCtorEq] at hshows

theorem executes_ready {met : Met} {s s' : Shared} {v v' : RegistrationService} {h : Handling}
    {pc : Pc} (hready : Ready h pc) (hexecutes : Executes util gson met s v h pc s' v') :
    v'.IsReady := by
  cases hexecutes with
  | marksVerifying =>
      refine .goto ?_
      by_cases haction : h.action = .voiceRegisterNumber
      · rw [if_pos haction]
        exact haction
      · rw [if_neg haction]
        trivial
  | listens => exact .goto rfl
  | shows hshows => exact fun r hr => Option.some.inj hr ▸ shows_ready hready hshows
  | creates hperform => exact .goto hready
  | fails hconnects => exact .goto trivial
  | finds hchallenge => exact .goto hready
  | waits hchallenge => exact .goto hready
  -- The socket stays open, and the directory is asked for on it.
  | verifies hkey hperform =>
      rcases perform_ok (fun _ => rfl) (judge_verifyAccount _ _) hperform with
        ⟨-, -, source, hsource⟩
      exact .goto fun _ => ⟨_, source, rfl, hsource⟩
  | marks =>
      refine .goto ?_
      by_cases haction : h.action = .voiceRegisterNumber
      · rw [if_pos haction]
        trivial
      · rw [if_neg haction]
        exact hready haction
  | opens hcreate =>
      rcases create_open hcreate with ⟨source, hsource⟩
      exact .goto ⟨_, source, rfl, hsource⟩
  | retrieves => exact .goto trivial
  | announces => exact .goto trivial
  | closes haction hclose => exact .ended rfl
  | ends haction => exact .ended rfl

theorem first_ready {h : Handling} {action : Action} {pc : Pc} (hfirst : first action = some pc) :
    Ready h pc := by
  cases action with
  | registerNumber => exact Option.some.inj hfirst ▸ trivial
  | voiceRegisterNumber => exact Option.some.inj hfirst ▸ trivial
  | voiceRequested => exact Option.some.inj hfirst ▸ trivial
  | other => simp only [first, reduceCtorEq] at hfirst

theorem acts_ready {allowed : Option JavaString → Prop} {s s' : Shared}
    {v v' : RegistrationService} (hv : v.IsReady)
    (hacts : Acts util gson allowed s v s' v') : v'.IsReady := by
  cases hacts with
  | @runs met r s' v' hr hsetState hexecutes => exact executes_ready (hv r hr) hexecutes
  | @tests r state hr hsetState =>
      intro t ht
      rw [← Option.some.inj ht]
      exact hv r hr
  | @sends r state hr hsetState =>
      intro t ht
      rw [← Option.some.inj ht]
      exact hv r hr
  | takes hnone hexecutor =>
      intro r hr
      rcases Option.map_eq_some_iff.mp hr with ⟨pc, hfirst, rfl⟩
      exact first_ready hfirst
  | wakes hr hchallenge => exact .goto (hv _ hr)
  | timesOut hr hchallenge => exact .goto trivial
  | closes hclose => exact fun r hr => hv r ((shutdownChallengeListener_same hclose).1 ▸ hr)
  | _ => exact hv

theorem ready_effect {allowed : Option JavaString → Prop} {p q : Phone}
    (hp : ∀ v ∈ p.services, v.IsReady) (heffect : Effect util gson allowed p q) :
    ∀ v ∈ q.services, v.IsReady := by
  refine Phone.services_effect (.ended rfl) (fun v intent hv => ?_)
    (fun _ _ _ _ _ hv hacts => acts_ready hv hacts) hp heffect
  unfold RegistrationService.onStartCommand
  simp only []
  split
  · exact hv
  · exact hv

/-! ## What ends the process -/

variable (util gson) in
/-- The request of a statement throws, where it makes one. -/
def Throws (met : Met) (s : Shared) (h : Handling) (e : SocketFailure) : Pc → Prop
  | .createAccount => perform util s.preferences.number h.number h.password
      (fun c => c.createAccount false) met.connection met.broken = some (.error e)
  | .verifyAccount challenge => ∃ key, h.key = some key ∧
    perform util s.preferences.number h.number h.password
      (fun c => c.verifyAccount gson challenge key) met.connection met.broken = some (.error e)
  | .openSocket =>
    create util s.preferences.number h.number h.password met.connection = .error e
  | .retrieveDirectory => ∃ a a', h.socket = some a ∧
    a.call a.socket.getNumberFilter met.broken = some (.error e, a')
  | _ => False

theorem thrown_crash_iff {s : Shared} {v : RegistrationService} {h : Handling}
    {e : SocketFailure} : thrown s v h e = .error .crash ↔ caught e = false := by
  unfold thrown
  cases caught e with
  | true => simp only [if_true, reduceCtorEq]
  | false => simp only [Bool.false_eq_true, if_false]

theorem request_crash_iff {met : Met} {s : Shared} {v : RegistrationService} {h : Handling}
    {x : SignalingSocket → Exchange} {fact : SignalingSocket → Fact} {next : Pc} :
    request util met s v h x fact next = .error .crash ↔
      ∃ e, perform util s.preferences.number h.number h.password x met.connection met.broken
        = some (.error e) ∧ caught e = false := by
  unfold request
  cases hperform : perform util s.preferences.number h.number h.password x met.connection
      met.broken with
  | none => simp only [Except.error.injEq, reduceCtorEq, false_and, exists_false]
  | some outcome =>
      cases outcome with
      | error e => simp only [thrown_crash_iff, Option.some.injEq, Except.error.injEq,
          exists_eq_left']
      | ok a => simp only [reduceCtorEq, Option.some.injEq, false_and, exists_false]

theorem retrieved_crash_iff {outcome : Except SocketFailure Answer} :
    retrieved outcome = .error .crash ↔ ∃ e, outcome = .error e ∧ caught e = false := by
  cases outcome with
  | ok answer =>
      cases answer with
      | _ => simp only [retrieved, reduceCtorEq, false_and, exists_false]
  | error e =>
      simp only [retrieved, Except.error.injEq, exists_eq_left']
      cases caught e with
      | true => simp only [if_true, reduceCtorEq]
      | false => simp only [Bool.false_eq_true, if_false]

/-- A statement ends the process exactly where its request throws what is not
    caught. -/
theorem exec_crash_iff {met : Met} {s : Shared} {v : RegistrationService} {h : Handling} {pc : Pc}
    (hready : Ready h pc) (hlistens : Listens v) :
    exec util gson met s v h pc = .error .crash ↔
      ∃ e, Throws util gson met s h e pc ∧ caught e = false := by
  cases pc with
  -- The statements with a request are the first four.
  | createAccount =>
      simp only [exec, Throws]
      exact request_crash_iff
  | verifyAccount challenge =>
      rcases Option.isSome_iff_exists.mp hready with ⟨key, hkey⟩
      simp only [exec, Throws, hkey, Option.some.injEq, exists_eq_left']
      exact request_crash_iff
  | openSocket =>
      simp only [exec, Throws]
      cases create util s.preferences.number h.number h.password met.connection with
      | error e => simp only [thrown_crash_iff, Except.error.injEq, exists_eq_left']
      | ok a => simp only [reduceCtorEq, false_and, exists_false]
  | retrieveDirectory =>
      rcases hready with ⟨a, source, hsocket, -⟩
      simp only [exec, Throws, hsocket, Option.some.injEq, exists_and_left, exists_eq_left']
      cases a.call a.socket.getNumberFilter met.broken with
      | none => simp only [Except.error.injEq, reduceCtorEq, exists_false, false_and]
      | some r =>
          rcases r with ⟨outcome, a'⟩
          simp only [Option.some.injEq, Prod.mk.injEq, exists_and_left, exists_eq', and_true]
          rw [← retrieved_crash_iff]
          cases retrieved outcome with
          | ok response => simp only [bind, Except.bind, reduceCtorEq]
          | error e => simp only [bind, Except.bind, Except.error.injEq]
  | finish =>
      -- The receiver is registered, so it is unregistered without an exception.
      rcases hlistens.shutdownChallengeListener with ⟨w, hclose, -⟩
      simp only [exec, Throws, false_and, exists_false, iff_false]
      by_cases haction : h.action = .registerNumber
      · rw [if_pos haction, hclose]
        simp only [bind, Except.bind, reduceCtorEq, not_false_eq_true]
      · rw [if_neg haction]
        simp only [reduceCtorEq, not_false_eq_true]
  | _ => simp only [exec, Throws, Except.error.injEq, reduceCtorEq, false_and, exists_false]

/-- The thread ends the process exactly where a request throws what is not
    caught, or the handler of the activity is gone that it has asked for. -/
theorem runs_crash_iff {met : Met} {s : Shared} {v : RegistrationService} {r : Running}
    (hr : v.running = some r) (hready : Ready r.handling r.pc) (hlistens : Listens v) :
    runs util gson met s v = .error .crash ↔
      (∃ state, r.setState = some (.send state) ∧ v.handler = false) ∨
      (r.setState = none ∧ ∃ e, Throws util gson met s r.handling e r.pc ∧ caught e = false) := by
  unfold runs
  rw [hr]
  cases hsetState : r.setState with
  | none =>
      simp only [hsetState, exec_crash_iff hready hlistens, reduceCtorEq, false_and, exists_false,
        true_and, false_or]
  | some pc =>
      cases pc with
      | test state =>
          simp only [hsetState, notify, Option.some.injEq, reduceCtorEq, false_and, exists_false,
            or_self]
      | send state =>
          simp only [hsetState, notify, Option.some.injEq, SetStatePc.send.injEq, exists_eq_left',
            reduceCtorEq, false_and, or_false]
          cases v.handler with
          | true => simp only [if_true, reduceCtorEq]
          | false => simp only [Bool.false_eq_true, if_false]

/-! ## The thread goes on -/

/-- How many statements a handler executes at most. -/
def Pc.rank : Pc → Nat
  | .markAsVerifying => 14
  | .initializeChallengeListener => 13
  | .setConnecting => 12
  | .createAccount => 11
  | .setVerifyingSms => 10
  | .waitForChallenge => 9
  | .waiting => 8
  | .verifyAccount _ => 7
  | .setVerifyingVoice => 7
  | .markAsVerified => 6
  | .openSocket => 5
  | .retrieveDirectory => 4
  | .setComplete => 3
  | .setFailed _ => 3
  | .broadcastComplete _ => 2
  | .finish => 1
  | .setVoiceRequested => 2

theorem Pc.rank_pos (pc : Pc) : 0 < pc.rank := by
  cases pc with
  | _ => exact Nat.succ_pos _

/-- How many steps a thread takes at most. Each statement may be a `setState`,
    which takes two more. -/
def Running.rank (r : Running) : Nat :=
  3 * r.pc.rank + match r.setState with
    | none => 0
    | some (.send _) => 1
    | some (.test _) => 2

theorem Running.rank_pos (r : Running) : 0 < r.rank := by
  have hpos := r.pc.rank_pos
  unfold Running.rank
  omega

theorem shows_rank {h : Handling} {pc next : Pc} {state : RegistrationState}
    (hshows : h.shows pc = some (state, next)) : next.rank < pc.rank := by
  have hpair : ∀ state' next', some (state', next') = some (state, next) →
      next'.rank < pc.rank → next.rank < pc.rank := by
    intro state' next' heq hless
    rw [Option.some.injEq, Prod.mk.injEq] at heq
    exact heq.2 ▸ hless
  cases pc with
  | setConnecting => exact hpair _ _ hshows (by decide)
  | setVerifyingSms => exact hpair _ _ hshows (by decide)
  | setVerifyingVoice => exact hpair _ _ hshows (by decide)
  | setComplete => exact hpair _ _ hshows (by decide)
  | setFailed state' => exact hpair _ _ hshows (Nat.lt_succ_self 2)
  | setVoiceRequested => exact hpair _ _ hshows (by decide)
  | _ => simp only [Handling.shows, reduceCtorEq] at hshows

theorem connects_rank {pc : Pc} (hconnects : pc.connects) (state : State) :
    (Pc.setFailed state).rank < pc.rank := by
  cases pc with
  | createAccount => simp only [Pc.rank, Nat.reduceLT]
  | verifyAccount challenge => simp only [Pc.rank, Nat.reduceLT]
  | openSocket => simp only [Pc.rank, Nat.reduceLT]
  | _ => exact hconnects.elim

theorem executes_rank {met : Met} {s s' : Shared} {v v' : RegistrationService} {h : Handling}
    {pc : Pc} (hexecutes : Executes util gson met s v h pc s' v') {r : Running}
    (hr : v'.running = some r) : r.rank < 3 * pc.rank := by
  have hgoto : ∀ (h' : Handling) (next : Pc), some (Running.mk h' next none) = some r →
      next.rank < pc.rank → r.rank < 3 * pc.rank := by
    intro h' next hr hless
    rw [← Option.some.inj hr]
    exact Nat.mul_lt_mul_of_pos_left hless (by decide)
  -- Whichever way the action sends the handler, it goes on.
  have hchoice : ∀ (next next' : Pc), next.rank < pc.rank → next'.rank < pc.rank →
      (if h.action = .voiceRegisterNumber then next else next').rank < pc.rank := by
    intro next next' hless hless'
    by_cases haction : h.action = .voiceRegisterNumber
    · rw [if_pos haction]
      exact hless
    · rw [if_neg haction]
      exact hless'
  cases hexecutes with
  | marksVerifying => exact hgoto _ _ hr (hchoice _ _ (by decide) (by decide))
  | shows hshows =>
      -- The two steps left of `setState` come before the next statement.
      have hless := shows_rank hshows
      rw [← Option.some.inj hr]
      simp only [Running.rank]
      omega
  | fails hconnects => exact hgoto _ _ hr (connects_rank hconnects _)
  | marks => exact hgoto _ _ hr (hchoice _ _ (by decide) (by decide))
  | closes haction hclose => exact absurd hr (Option.some_ne_none r).symm
  | ends haction => exact absurd hr (Option.some_ne_none r).symm
  | _ =>
      refine hgoto _ _ hr ?_
      simp only [Pc.rank, Nat.reduceLT]

/-- There is no connection any more. -/
def disconnectedMet : Met := ⟨[], [], .refused "", some "", .written⟩

/-- Without a connection every statement but `wait` is executed, and nothing is
    thrown that is not caught. -/
theorem exec_disconnected {s : Shared} {v : RegistrationService} {h : Handling} {pc : Pc}
    (hready : Ready h pc) (hlistens : Listens v) (hpc : pc ≠ .waiting) :
    ∃ s' v', exec util gson disconnectedMet s v h pc = .ok (s', v') := by
  cases pc with
  | waiting => exact absurd rfl hpc
  | verifyAccount challenge =>
      rcases Option.isSome_iff_exists.mp hready with ⟨key, hkey⟩
      simp only [exec, hkey]
      exact ⟨_, _, rfl⟩
  | retrieveDirectory =>
      rcases hready with ⟨a, source, hsocket, hopen⟩
      rcases call_getNumberFilter_broken hopen "" with ⟨a', hcall⟩
      simp only [exec, hsocket, disconnectedMet, hcall]
      exact ⟨_, _, rfl⟩
  | finish =>
      rcases hlistens.shutdownChallengeListener with ⟨w, hclose, -⟩
      rw [exec]
      by_cases haction : h.action = .registerNumber
      · rw [if_pos haction, hclose]
        exact ⟨_, _, rfl⟩
      · rw [if_neg haction]
        exact ⟨_, _, rfl⟩
  | _ => exact ⟨_, _, rfl⟩

/-- A step of the thread of a service. -/
def Event.OfThread (k : Nat) (e : Event) : Prop := e = .wake k ∨ ∃ met, e = .runs k met

/-- The thread is not about to send a message to a handler that is gone. -/
def RegistrationService.Answerable (v : RegistrationService) : Prop :=
  ∀ r state, v.running = some r → r.setState = some (.send state) → v.handler = true

theorem RegistrationService.Answerable.goto {v : RegistrationService} (h : Handling) (pc : Pc) :
    (v.goto h pc).Answerable := by
  intro r state hr hsetState
  rw [← Option.some.inj hr] at hsetState
  exact absurd hsetState (Option.some_ne_none _).symm

/-- A statement of the handler asks for no handler of the activity. -/
theorem executes_answerable {met : Met} {s s' : Shared} {v v' : RegistrationService} {h : Handling}
    {pc : Pc} (hexecutes : Executes util gson met s v h pc s' v') : v'.Answerable := by
  cases hexecutes with
  | shows hshows =>
      intro r state hr hsetState
      rw [← Option.some.inj hr] at hsetState
      simp only [Option.some.injEq, reduceCtorEq] at hsetState
  | closes haction hclose => exact fun r _ hr => absurd hr (Option.some_ne_none r).symm
  | ends haction => exact fun r _ hr => absurd hr (Option.some_ne_none r).symm
  | _ => exact .goto _ _

/-- A handler has come nearer to its end, or to the end of its course. -/
def Nearer (q : Phone) (k : Nat) (r : Running) : Prop :=
  ∃ w, q.services[k]? = some w ∧ w.Answerable ∧
    ((w.running = none ∧
      Course r.handling.id r.handling.action (facts r.handling.id q.shared.history)) ∨
    ∃ t, w.running = some t ∧ t.handling.id = r.handling.id ∧
      t.handling.action = r.handling.action ∧ t.rank < r.rank)

theorem nearer_of_goesOn {p : Phone} {k : Nat} {v : RegistrationService} {r : Running}
    (hk : p.services[k]? = some v) (s' : Shared) (v' : RegistrationService)
    (hanswerable : v'.Answerable)
    (hgoesOn : GoesOn r.handling (facts r.handling.id s'.history) v'.running)
    (hless : ∀ t, v'.running = some t → t.rank < r.rank) :
    Nearer { p with shared := s', services := p.services.set k v' } k r := by
  have hset : (p.services.set k v')[k]? = some v' :=
    List.getElem?_set_self (List.getElem?_eq_some_iff.mp hk).1
  refine ⟨v', hset, hanswerable, ?_⟩
  -- Either the handler is over, with its course behind it, or it goes on.
  cases hv' : v'.running with
  | none =>
      rw [hv'] at hgoesOn
      exact .inl ⟨rfl, hgoesOn⟩
  | some t =>
      rw [hv'] at hgoesOn
      exact .inr ⟨t, rfl, hgoesOn.1, hgoesOn.2.1, hless t hv'⟩

/-- In `setState` the thread goes on without an exception, unless the handler of
    the activity is gone. -/
theorem thread_notify {p : Phone} {k : Nat} {v : RegistrationService} {r : Running}
    {pc : SetStatePc} (hk : p.services[k]? = some v) (hr : v.running = some r)
    (hsofar : Sofar r.handling.id r.handling.action (facts r.handling.id p.shared.history) r.pc)
    (hanswerable : v.Answerable) (hsetState : r.setState = some pc) :
    ∃ e q, Event.OfThread k e ∧ Phone.step util gson p e = .ok q ∧ Nearer q k r := by
  rcases r with ⟨h, next, pc'⟩
  simp only at hsetState
  subst hsetState
  refine ⟨.runs k disconnectedMet, ?_⟩
  cases pc with
  | test state =>
      refine ⟨_, .inr ⟨_, rfl⟩, ?_, nearer_of_goesOn hk p.shared { v with running := some ⟨h, next,
        if v.handler then some (.send state) else none⟩ } (fun t state' ht hsend => ?_)
        ⟨rfl, rfl, hsofar⟩ fun t ht => ?_⟩
      · simp only [Phone.step, Phone.onService, hk, runs, hr, notify]
      · -- The message is only sent where there is a handler.
        rw [← Option.some.inj ht] at hsend
        by_contra hgone
        simp only [if_neg hgone, reduceCtorEq] at hsend
      · rw [← Option.some.inj ht]
        unfold Running.rank
        cases v.handler with
        | true => simp only [if_true, Nat.lt_succ_self]
        | false => simp only [Bool.false_eq_true, if_false]; omega
  -- There still is one when the message is sent, by the assumption.
  | send state =>
      have hhandler : v.handler = true := hanswerable _ state hr rfl
      refine ⟨_, .inr ⟨_, rfl⟩, ?_, nearer_of_goesOn hk
        { p.shared with messages := p.shared.messages ++ [state] }
        { v with running := some ⟨h, next, none⟩ } (RegistrationService.Answerable.goto h next)
        ⟨rfl, rfl, hsofar⟩ fun t ht => ?_⟩
      · simp only [Phone.step, Phone.onService, hk, runs, hr, notify, hhandler, if_true]
      · rw [← Option.some.inj ht]
        exact Nat.lt_succ_self _

/-- The thread can take a step, which brings its handler nearer to the end. -/
theorem thread_step {p : Phone} {k : Nat} {v : RegistrationService} {r : Running}
    (hk : p.services[k]? = some v) (hr : v.running = some r)
    (hsofar : Sofar r.handling.id r.handling.action (facts r.handling.id p.shared.history) r.pc)
    (hlistens : Listens v) (hready : Ready r.handling r.pc) (hanswerable : v.Answerable) :
    ∃ e q, Event.OfThread k e ∧ Phone.step util gson p e = .ok q ∧ Nearer q k r := by
  cases hsetState : r.setState with
  | some pc => exact thread_notify hk hr hsofar hanswerable hsetState
  | none =>
      rcases r with ⟨h, pc, setState⟩
      simp only at hsetState
      subst hsetState
      -- Only in `wait` does the thread depend on anything but itself, and the wait
      -- may end at any time.
      by_cases hpc : pc = .waiting
      · subst hpc
        refine ⟨.wake k, ?_⟩
        cases hchallenge : v.challenge with
        | some challenge =>
            refine ⟨_, .inl rfl, ?_, nearer_of_goesOn hk p.shared
              (v.goto h (.verifyAccount challenge)) (.goto _ _) ⟨rfl, rfl, hsofar⟩
              fun t ht => ?_⟩
            · simp only [Phone.step, Phone.onService, hk, wake, hr, hchallenge]
            · rw [← Option.some.inj ht]
              exact Nat.lt_of_sub_pos (Nat.succ_pos 2)
        -- Woken without a challenge it takes the time for up.
        | none =>
            have habout : (Fact.timedOut h.id).about h.id = true := beq_self_eq_true h.id
            have hcourse : Sofar h.id h.action
                (facts h.id (p.shared.record (.timedOut h.id)).history) (.setFailed .timeout) := by
              change Course h.id h.action (facts h.id (p.shared.history ++ [.timedOut h.id]) ++ _)
              rw [facts_concat_about habout, hsofar.2, hsofar.1]
              exact .timedOut
            refine ⟨_, .inl rfl, ?_, nearer_of_goesOn hk (p.shared.record (.timedOut h.id))
              (v.goto h (.setFailed .timeout)) (.goto _ _) ⟨rfl, rfl, hcourse⟩ fun t ht => ?_⟩
            · simp only [Phone.step, Phone.onService, hk, wake, hr, hchallenge]
            · rw [← Option.some.inj ht]
              exact Nat.lt_of_sub_pos (Nat.succ_pos 14)
      -- The network may be gone, so that a request fails; the handler goes on then
      -- as well.
      · have hgoes : ∃ s' v', exec util gson disconnectedMet p.shared v h pc = .ok (s', v') :=
          exec_disconnected hready hlistens hpc
        rcases hgoes with ⟨s', v', hexec⟩
        have hexecutes := exec_ok util gson hexec
        refine ⟨.runs k disconnectedMet, _, .inr ⟨_, rfl⟩, ?_, nearer_of_goesOn hk s' v'
          (executes_answerable hexecutes) (executes_goesOn hsofar hexecutes)
          fun t ht => executes_rank hexecutes ht⟩
        simp only [Phone.step, Phone.onService, hk, runs, hr, hexec]

theorem ready_of_run {events : List Event} {p : Phone}
    (hrun : Run.run (Phone.step util gson) Phone.create events = .ok p) :
    ∀ v ∈ p.services, v.IsReady := by
  have hkeep : ∀ q q', (∀ v ∈ q.services, v.IsReady) → Effect util gson (fun _ => True) q q' →
      ∀ v ∈ q'.services, v.IsReady := fun _ _ => ready_effect
  exact Phone.kept_of_effects hkeep (fun _ _ _ _ => trivial)
    (fun _ hv => absurd hv List.not_mem_nil) hrun

/-- The thread alone brings its handler to the end of its course, in as many
    steps as it has left. -/
theorem ends_alone {events : List Event} {p : Phone} {k : Nat} {v : RegistrationService}
    {r : Running} (hrun : Run.run (Phone.step util gson) Phone.create events = .ok p)
    (hk : p.services[k]? = some v) (hr : v.running = some r) (hanswerable : v.Answerable) :
    ∃ later q, (∀ e ∈ later, Event.OfThread k e) ∧ later.length ≤ r.rank ∧
      Run.run (Phone.step util gson) p later = .ok q ∧
      ∃ w, q.services[k]? = some w ∧ w.running = none ∧
        Course r.handling.id r.handling.action (facts r.handling.id q.shared.history) := by
  -- By induction on the steps that are left.
  induction hrank : r.rank using Nat.strong_induction_on generalizing events p v r with
  | _ n ih =>
      have hmem := List.mem_of_getElem? hk
      have hsofar := ((numbered_of_run hrun).going k r ((Phone.running_eq hk).trans hr)).2
      rcases thread_step hk hr hsofar (listened_of_run hrun v hmem) (ready_of_run hrun v hmem r hr)
        hanswerable with ⟨e, q, he, hstep, w, hw, hanswerable', hnearer⟩
      have hone : Run.run (Phone.step util gson) p [e] = .ok q :=
        (Run.run_cons _ p q e []).mpr ⟨q, hstep, rfl⟩
      rcases hnearer with ⟨hended, hcourse⟩ | ⟨t, ht, hid, haction, hless⟩
      · refine ⟨[e], q, fun e' he' => List.mem_singleton.mp he' ▸ he, ?_, hone, w, hw, hended,
          hcourse⟩
        rw [← hrank]
        exact r.rank_pos
      · have hrun' : Run.run (Phone.step util gson) Phone.create (events ++ [e]) = .ok q :=
          run_append_ok.mpr ⟨p, hrun, hone⟩
        rcases ih t.rank (hrank ▸ hless) hrun' hw ht hanswerable' rfl with
          ⟨later, q', hthread, hlength, hlater, hended⟩
        rw [hid, haction] at hended
        refine ⟨e :: later, q', fun e' he' => ?_, ?_, ?_, hended⟩
        · rcases List.mem_cons.mp he' with rfl | he'
          · exact he
          · exact hthread e' he'
        · rw [List.length_cons]
          omega
        · exact (Run.run_cons _ p q' e later).mpr ⟨q, hstep, hlater⟩

/-- The thread of a service ends the process in two cases only: its request
    throws what its handler does not catch, or the handler of the activity is
    gone between the question for it and the message to it. Unless that is so
    now, the thread alone can bring its handler to the end of its course, in
    as many steps as it has left. -/
theorem handler_ends {events : List Event} {p : Phone} {k : Nat} {v : RegistrationService}
    {r : Running} (hrun : Run.run (Phone.step util gson) Phone.create events = .ok p)
    (hk : p.services[k]? = some v) (hr : v.running = some r) :
    (∀ met, runs util gson met p.shared v = .error .crash ↔
      (∃ state, r.setState = some (.send state) ∧ v.handler = false) ∨
      (r.setState = none ∧
        ∃ e, Throws util gson met p.shared r.handling e r.pc ∧ caught e = false)) ∧
    ((∀ state, r.setState = some (.send state) → v.handler = true) →
      ∃ later q, (∀ e ∈ later, Event.OfThread k e) ∧ later.length ≤ r.rank ∧
        Run.run (Phone.step util gson) p later = .ok q ∧
        ∃ w, q.services[k]? = some w ∧ w.running = none ∧
          Course r.handling.id r.handling.action (facts r.handling.id q.shared.history)) := by
  have hmem := List.mem_of_getElem? hk
  refine ⟨fun met => ?_, fun hanswerable => ends_alone hrun hk hr fun t state ht hsend => ?_⟩
  · exact runs_crash_iff hr (ready_of_run hrun v hmem r hr) (listened_of_run hrun v hmem)
  · rw [hr, Option.some.injEq] at ht
    rw [← ht] at hsend
    exact hanswerable state hsend

/-- The activity is disconnected when the thread has asked for its handler. -/
def disconnectedEvents : List Event :=
  [.connected, .request (ofString "+14155550101"), .deliver, .take 0] ++
    List.replicate 4 (.runs 0 answeringMet) ++ [.disconnected]

/-- There the next step of the thread ends the process. A registration that
    waits for its message can be brought to its end. -/
theorem handler_ends_heard :
    (∃ p v, Run.run (Phone.step parsesNothing sessionGson) Phone.create disconnectedEvents = .ok p ∧
      p.services[0]? = some v ∧
      runs parsesNothing sessionGson answeringMet p.shared v = .error .crash) ∧
    ∃ p v r, Run.run (Phone.step parsesNothing sessionGson) Phone.create heardEvents = .ok p ∧
      p.services[0]? = some v ∧ v.running = some r ∧ r.pc = .waiting ∧
      ∃ later q, (∀ e ∈ later, Event.OfThread 0 e) ∧ later.length ≤ r.rank ∧
        Run.run (Phone.step parsesNothing sessionGson) p later = .ok q ∧
        ∃ w, q.services[0]? = some w ∧ w.running = none ∧
          Course r.handling.id r.handling.action (facts r.handling.id q.shared.history) := by
  constructor
  · have hends : (do
        let p ← (Run.run (Phone.step parsesNothing sessionGson) Phone.create
          disconnectedEvents).toOption
        let v ← p.services[0]?
        let r ← v.running
        some (r.setState, v.handler)) =
          some (some (.send ⟨.connecting, some (ofString "+14155550101"), none⟩), false) := by
      decide +kernel
    simp only [Option.bind_eq_bind, Option.bind_eq_some_iff, Option.some.injEq, Prod.mk.injEq]
      at hends
    rcases hends with ⟨p, hp, v, hv, r, hr, hsetState, hhandler⟩
    refine ⟨p, v, ok_of_toOption hp, hv, ?_⟩
    exact ((handler_ends (ok_of_toOption hp) hv hr).1 answeringMet).mpr
      (.inl ⟨_, hsetState, hhandler⟩)
  · have hends : (do
        let p ← (Run.run (Phone.step parsesNothing sessionGson) Phone.create heardEvents).toOption
        let v ← p.services[0]?
        let r ← v.running
        some (r.pc, r.setState)) = some (.waiting, none) := by
      decide +kernel
    simp only [Option.bind_eq_bind, Option.bind_eq_some_iff, Option.some.injEq, Prod.mk.injEq]
      at hends
    rcases hends with ⟨p, hp, v, hv, r, hr, hpc, hsetState⟩
    refine ⟨p, v, r, ok_of_toOption hp, hv, hr, hpc, ?_⟩
    refine (handler_ends (ok_of_toOption hp) hv hr).2 fun state hsend => ?_
    rw [hsetState] at hsend
    exact absurd hsend (Option.some_ne_none _).symm

end Registration

end RedPhone
