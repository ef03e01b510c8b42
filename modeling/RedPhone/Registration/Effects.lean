import Mathlib.Logic.Relation
import RedPhone.Registration.RegistrationService

/-!
# What the Steps of a Registration Do

Each law about registrations goes through all that can happen to a phone. This
is done once here: what a statement of a handler does, what else is done to a
service, and what is done to the phone. A law is then a property that each of
these effects keeps, and holds of whatever a run reaches.

The laws differ in the challenges they let be received, so these are a
parameter.

## Main definitions

* `Executes`: What a statement does.
* `Acts`: What is done to a service.
* `Effect`: What is done to the phone.

## Theorems

* `exec_ok`: All that a statement can do.
* `step_effects`: A step is made of effects.
* `services_effect`: What is done to a service keeps what is true of services.
* `kept_of_effects`: What every effect keeps, a run keeps.
-/

namespace RedPhone

open Interleaving Relation

namespace Registration

variable {PhoneNumber : Type} (util : PhoneNumberUtil PhoneNumber) (gson : Gson)

/-! ## What a statement does -/

theorem thrown_ok {s s' : Shared} {v v' : RegistrationService} {h : Handling} {e : SocketFailure}
    (hthrown : thrown s v h e = .ok (s', v')) :
    s' = s ∧ v' = v.goto h (.setFailed .networkError) := by
  unfold thrown at hthrown
  by_cases hcaught : caught e = true
  · rw [if_pos hcaught, Except.ok.injEq, Prod.mk.injEq] at hthrown
    exact ⟨hthrown.1.symm, hthrown.2.symm⟩
  · rw [if_neg hcaught] at hthrown
    simp only [reduceCtorEq] at hthrown

/-- A request succeeds, or a network error will be reported. -/
theorem request_ok {met : Met} {s s' : Shared} {v v' : RegistrationService} {h : Handling}
    {x : SignalingSocket → Exchange} {fact : SignalingSocket → Fact} {next : Pc}
    (hrequest : request util met s v h x fact next = .ok (s', v')) :
    (∃ a, AccountCreationSocket.perform util s.preferences.number h.number h.password x
        met.connection met.broken = some (.ok a) ∧
      s' = s.record (fact a.socket) ∧ v' = v.goto { h with socket := some a } next) ∨
    (s' = s ∧ v' = v.goto h (.setFailed .networkError)) := by
  unfold request at hrequest
  split at hrequest
  · simp only [reduceCtorEq] at hrequest
  · exact Or.inr (thrown_ok hrequest)
  · rename_i a hperform
    rw [Except.ok.injEq, Prod.mk.injEq] at hrequest
    exact Or.inl ⟨a, hperform, hrequest.1.symm, hrequest.2.symm⟩

/-- The state a statement shows, and the statement after it. -/
def Handling.shows (h : Handling) : Pc → Option (RegistrationState × Pc)
  | .setConnecting => some (⟨.connecting, h.number, none⟩, .createAccount)
  | .setVerifyingSms => some (⟨.verifyingSms, h.number, none⟩, .waitForChallenge)
  | .setVerifyingVoice => some (⟨.verifyingVoice, h.number, none⟩, .markAsVerified)
  | .setComplete => some (⟨.complete, h.number, none⟩, .broadcastComplete true)
  | .setFailed state => some (⟨state, h.number, none⟩, .broadcastComplete false)
  | .setVoiceRequested => some (⟨.voiceRequested, h.number, h.password⟩, .finish)
  | _ => none

/-- The statements that a network error can end. -/
def Pc.connects : Pc → Prop
  | .createAccount | .verifyAccount _ | .openSocket => True
  | _ => False

/-- What a statement does that ends neither the process nor the thread's turn. -/
inductive Executes (met : Met) (s : Shared) (v : RegistrationService) (h : Handling) :
    Pc → Shared → RegistrationService → Prop
  | marksVerifying : Executes met s v h .markAsVerifying
      { s with preferences := s.preferences.markAsVerifying true }
      (v.goto h (if h.action = .voiceRegisterNumber then .setVerifyingVoice
        else .initializeChallengeListener))
  | listens : Executes met s v h .initializeChallengeListener s
      (v.initializeChallengeListener.goto
        { h with password := some met.password, key := some met.key } .setConnecting)
  | shows {pc next : Pc} {state : RegistrationState} (hshows : h.shows pc = some (state, next)) :
      Executes met s v h pc s (v.setState h next state)
  | creates {a : AccountCreationSocket}
      (hperform : AccountCreationSocket.perform util s.preferences.number h.number h.password
        (fun c => c.createAccount false) met.connection met.broken = some (.ok a)) :
      Executes met s v h .createAccount (s.record (.created false a.socket met.connection))
        (v.goto { h with socket := some a } .setVerifyingSms)
  | fails {pc : Pc} (hconnects : pc.connects) :
      Executes met s v h pc s (v.goto h (.setFailed .networkError))
  | finds {challenge : JavaString} (hchallenge : v.challenge = some challenge) :
      Executes met s v h .waitForChallenge s (v.goto h (.verifyAccount challenge))
  | waits (hchallenge : v.challenge = none) :
      Executes met s v h .waitForChallenge s (v.goto h .waiting)
  | verifies {challenge key : JavaString} {a : AccountCreationSocket} (hkey : h.key = some key)
      (hperform : AccountCreationSocket.perform util s.preferences.number h.number h.password
        (fun c => c.verifyAccount gson challenge key) met.connection met.broken = some (.ok a)) :
      Executes met s v h (.verifyAccount challenge)
        (s.record (.verified a.socket challenge key met.connection))
        (v.goto { h with socket := some a } .markAsVerified)
  | marks : Executes met s v h .markAsVerified
      (Shared.record { s with
        preferences := s.preferences.markAsVerified h.number h.password h.key } (.marked h.id))
      (v.goto h (if h.action = .voiceRegisterNumber then .openSocket else .retrieveDirectory))
  | opens {a : AccountCreationSocket}
      (hcreate : AccountCreationSocket.create util s.preferences.number h.number h.password
        met.connection = .ok a) :
      Executes met s v h .openSocket s (v.goto { h with socket := some a } .retrieveDirectory)
  | retrieves {a : AccountCreationSocket} {directory : Option BloomFilter} :
      Executes met s v h .retrieveDirectory { s with directory := directory }
        (v.goto { h with socket := some a } .setComplete)
  | announces {success : Bool} : Executes met s v h (.broadcastComplete success)
      (s.record (.announced h.id success)) (v.goto h .finish)
  | closes {w : RegistrationService} (haction : h.action = .registerNumber)
      (hclose : v.shutdownChallengeListener = .ok w) :
      Executes met s v h .finish s { w with running := none }
  | ends (haction : h.action ≠ .registerNumber) :
      Executes met s v h .finish s { v with running := none }

/-- All that a statement can do. -/
theorem exec_ok {met : Met} {s s' : Shared} {v v' : RegistrationService} {h : Handling} {pc : Pc}
    (hexec : exec util gson met s v h pc = .ok (s', v')) :
    Executes util gson met s v h pc s' v' := by
  -- A statement that shows a state does nothing else.
  have hshow : ∀ state next, h.shows pc = some (state, next) →
      (.ok (s, v.setState h next state) : Except Halt (Shared × RegistrationService))
        = .ok (s', v') → Executes util gson met s v h pc s' v' := by
    intro state next hshows heq
    rw [Except.ok.injEq, Prod.mk.injEq] at heq
    rw [← heq.1, ← heq.2]
    exact .shows hshows
  cases pc with
  | markAsVerifying =>
      simp only [exec, Except.ok.injEq, Prod.mk.injEq] at hexec
      rw [← hexec.1, ← hexec.2]
      exact .marksVerifying
  | initializeChallengeListener =>
      simp only [exec, Except.ok.injEq, Prod.mk.injEq] at hexec
      rw [← hexec.1, ← hexec.2]
      exact .listens
  | setConnecting => exact hshow _ _ rfl hexec
  | createAccount =>
      -- The account is there, or its failure has been caught.
      rw [exec] at hexec
      rcases request_ok util hexec with ⟨a, hperform, rfl, rfl⟩ | ⟨rfl, rfl⟩
      · exact .creates hperform
      · exact .fails trivial
  | setVerifyingSms => exact hshow _ _ rfl hexec
  | waitForChallenge =>
      -- The lock of the challenge is held, so it is there or the thread waits.
      simp only [exec, Except.ok.injEq, Prod.mk.injEq] at hexec
      rw [← hexec.1, ← hexec.2]
      cases hchallenge : v.challenge with
      | none => exact .waits hchallenge
      | some challenge => exact .finds hchallenge
  | waiting => simp only [exec, reduceCtorEq] at hexec
  | verifyAccount challenge =>
      cases hkey : h.key with
      | none => simp only [exec, hkey, reduceCtorEq] at hexec
      | some key =>
          simp only [exec, hkey] at hexec
          rcases request_ok util hexec with ⟨a, hperform, rfl, rfl⟩ | ⟨rfl, rfl⟩
          · exact .verifies hkey hperform
          · exact .fails trivial
  | setVerifyingVoice => exact hshow _ _ rfl hexec
  | markAsVerified =>
      simp only [exec, Except.ok.injEq, Prod.mk.injEq] at hexec
      rw [← hexec.1, ← hexec.2]
      exact .marks
  | openSocket =>
      simp only [exec] at hexec
      split at hexec
      · rcases thrown_ok hexec with ⟨rfl, rfl⟩
        exact .fails trivial
      · rename_i a hcreate
        rw [Except.ok.injEq, Prod.mk.injEq] at hexec
        rw [← hexec.1, ← hexec.2]
        exact .opens hcreate
  | retrieveDirectory =>
      simp only [exec] at hexec
      -- A missing socket ends the process, which is no end of this statement.
      split at hexec
      · simp only [reduceCtorEq] at hexec
      · split at hexec
        · simp only [reduceCtorEq] at hexec
        · rw [Run.bind_ok] at hexec
          rcases hexec with ⟨response, -, hexec⟩
          rw [Except.ok.injEq, Prod.mk.injEq] at hexec
          rw [← hexec.1, ← hexec.2]
          exact .retrieves
  | setComplete => exact hshow _ _ rfl hexec
  | setFailed state => exact hshow _ _ rfl hexec
  | broadcastComplete success =>
      simp only [exec, Except.ok.injEq, Prod.mk.injEq] at hexec
      rw [← hexec.1, ← hexec.2]
      exact .announces
  | finish =>
      rw [exec] at hexec
      by_cases haction : h.action = .registerNumber
      -- Only a registration by itself has a receiver to shut down.
      · rw [if_pos haction, Run.bind_ok] at hexec
        rcases hexec with ⟨w, hclose, hexec⟩
        rw [Except.ok.injEq, Prod.mk.injEq] at hexec
        rw [← hexec.1, ← hexec.2]
        exact .closes haction hclose
      · rw [if_neg haction, Except.ok.injEq, Prod.mk.injEq] at hexec
        rw [← hexec.1, ← hexec.2]
        exact .ends haction
  | setVoiceRequested => exact hshow _ _ rfl hexec

/-! ## What a step does -/

variable (allowed : Option JavaString → Prop)

/-- What can be done to a service, where the challenges it receives are
    allowed. -/
inductive Acts (s : Shared) (v : RegistrationService) : Shared → RegistrationService → Prop
  | runs {met : Met} {r : Running} {s' : Shared} {v' : RegistrationService}
      (hrunning : v.running = some r) (hsetState : r.setState = none)
      (hexecutes : Executes util gson met s v r.handling r.pc s' v') : Acts s v s' v'
  | tests {r : Running} {state : RegistrationState} (hrunning : v.running = some r)
      (hsetState : r.setState = some (.test state)) :
      Acts s v s { v with running := some { r with
        setState := if v.handler then some (.send state) else none } }
  | sends {r : Running} {state : RegistrationState} (hrunning : v.running = some r)
      (hsetState : r.setState = some (.send state)) :
      Acts s v { s with messages := s.messages ++ [state] }
        { v with running := some { r with setState := none } }
  | takes {intent : Intent} {executor : List Intent} (hrunning : v.running = none)
      (hexecutor : v.executor = intent :: executor) :
      Acts s v ({ s with begun := s.begun + 1 }.record (.begun s.begun intent.action))
        { v with
          executor := executor
          running := (first intent.action).map fun pc =>
            ⟨⟨s.begun, intent.action, intent.e164number, intent.password, intent.key, none⟩, pc,
              none⟩ }
  | wakes {h : Handling} {challenge : JavaString} (hrunning : v.running = some ⟨h, .waiting, none⟩)
      (hchallenge : v.challenge = some challenge) :
      Acts s v s (v.goto h (.verifyAccount challenge))
  | timesOut {h : Handling} (hrunning : v.running = some ⟨h, .waiting, none⟩)
      (hchallenge : v.challenge = none) :
      Acts s v (s.record (.timedOut h.id)) (v.goto h (.setFailed .timeout))
  | receives {receiver : Nat} {challenge : Option JavaString} (hreceiver : receiver ∈ v.receivers)
      (hallowed : allowed challenge) :
      Acts s v (s.record (.challenged challenge)) (v.challengeReceived challenge)
  | closes {w : RegistrationService} (hclose : v.shutdownChallengeListener = .ok w) : Acts s v s w
  | unmarks : Acts s v { s with preferences := s.preferences.markAsVerifying false } v
  | setsIdle : Acts s v s { v with registrationState := ⟨.idle, none, none⟩ }
  | destroyed : Acts s v s { v with destroyed := true }
  | connected : Acts s v { s with messages := s.messages ++ [v.registrationState] }
      { v with handler := true }
  | disconnected : Acts s v s { v with handler := false }

/-- What can be done to the phone. A step does one or two of these. -/
inductive Effect (p : Phone) : Phone → Prop
  | creates : Effect p { p with services := p.services ++ [.create] }
  | acts {k : Nat} {v : RegistrationService} {s' : Shared} {v' : RegistrationService}
      (hk : p.services[k]? = some v) (hacts : Acts util gson allowed p.shared v s' v') :
      Effect p { p with shared := s', services := p.services.set k v' }
  | main (m : Option (Nat × ShutdownPc)) : Effect p { p with main := m }
  | dies : Effect p p.die
  | asks (number : JavaString) :
      Effect p { p with intents := p.intents ++ [⟨.registerNumber, some number, none, none⟩] }
  | delivers {intent : Intent} {intents : List Intent} {k : Nat} {v : RegistrationService}
      (hintents : p.intents = intent :: intents) (hk : p.services[k]? = some v) :
      Effect p { p with
        intents := intents
        services := p.services.set k (v.onStartCommand (some intent)) }
  | calls {state : RegistrationState} (password : JavaString) :
      Effect p (p.execute ⟨state.number, some password, .call, none⟩)
  | enters {state : RegistrationState} (key code : JavaString) (hstate : state ∈ p.shared.messages)
      (hrequested : state.state = .voiceRequested) :
      Effect p ({ p with shared := p.shared.record (.entered code) }.execute
        ⟨state.number, state.password, .verify code key, none⟩)
  | background {i : Nat} {t t' : AsyncTask} {met : Met} {s' : Shared}
      (hi : p.asyncTasks[i]? = some t) (hsuccess : t.success = none)
      (hdone : t.doInBackground util gson met p.shared = .ok (s', t')) :
      Effect p { p with shared := s', asyncTasks := p.asyncTasks.set i t' }
  | posts {i : Nat} {t : AsyncTask} {success : Bool} (hi : p.asyncTasks[i]? = some t)
      (hsuccess : t.success = some success) :
      Effect p { p with
        intents := if success then p.intents ++ [t.intent] else p.intents
        asyncTasks := p.asyncTasks.eraseIdx i }

variable {util gson allowed}

theorem take_acts {s s' : Shared} {v v' : RegistrationService} (h : take s v = .ok (s', v')) :
    Acts util gson allowed s v s' v' := by
  unfold take at h
  split at h
  · rename_i intent executor hrunning hexecutor
    rw [Except.ok.injEq, Prod.mk.injEq] at h
    rw [← h.1, ← h.2]
    exact .takes hrunning hexecutor
  · simp only [reduceCtorEq] at h

theorem wake_acts {s s' : Shared} {v v' : RegistrationService} (h : wake s v = .ok (s', v')) :
    Acts util gson allowed s v s' v' := by
  unfold wake at h
  split at h
  · rename_i handling hrunning
    -- The wait ends by a challenge or by its time.
    cases hchallenge : v.challenge with
    | none =>
        simp only [hchallenge, Except.ok.injEq, Prod.mk.injEq] at h
        rw [← h.1, ← h.2]
        exact .timesOut hrunning hchallenge
    | some challenge =>
        simp only [hchallenge, Except.ok.injEq, Prod.mk.injEq] at h
        rw [← h.1, ← h.2]
        exact .wakes hrunning hchallenge
  · simp only [reduceCtorEq] at h

theorem notify_acts {s s' : Shared} {v v' : RegistrationService} {r : Running} {pc : SetStatePc}
    (hrunning : v.running = some r) (hsetState : r.setState = some pc)
    (h : notify s v r pc = .ok (s', v')) : Acts util gson allowed s v s' v' := by
  cases pc with
  | test state =>
      rw [notify, Except.ok.injEq, Prod.mk.injEq] at h
      rw [← h.1, ← h.2]
      exact .tests hrunning hsetState
  | send state =>
      rw [notify] at h
      -- The handler may be gone since it was asked for, and then there is no message.
      by_cases hhandler : v.handler = true
      · rw [if_pos hhandler, Except.ok.injEq, Prod.mk.injEq] at h
        rw [← h.1, ← h.2]
        exact .sends hrunning hsetState
      · rw [if_neg hhandler] at h
        simp only [reduceCtorEq] at h

theorem runs_acts {met : Met} {s s' : Shared} {v v' : RegistrationService}
    (h : runs util gson met s v = .ok (s', v')) : Acts util gson allowed s v s' v' := by
  unfold runs at h
  cases hrunning : v.running with
  | none => simp only [hrunning, reduceCtorEq] at h
  | some r =>
      rw [hrunning] at h
      -- The thread is in `setState`, or executes a statement of its handler.
      cases hsetState : r.setState with
      | none =>
          simp only [hsetState] at h
          exact .runs hrunning hsetState (exec_ok util gson h)
      | some pc =>
          simp only [hsetState] at h
          exact notify_acts hrunning hsetState h

theorem receive_acts {receiver : Nat} {challenge : Option JavaString} {s s' : Shared}
    {v v' : RegistrationService} (hallowed : allowed challenge)
    (h : receive receiver challenge s v = .ok (s', v')) : Acts util gson allowed s v s' v' := by
  unfold receive at h
  by_cases hreceiver : receiver ∈ v.receivers
  · rw [if_pos hreceiver, Except.ok.injEq, Prod.mk.injEq] at h
    rw [← h.1, ← h.2]
    exact .receives hreceiver hallowed
  · rw [if_neg hreceiver] at h
    simp only [reduceCtorEq] at h

theorem shutdown_acts {pc : ShutdownPc} {s s' : Shared} {v v' : RegistrationService}
    (h : shutdown s v pc = .ok (s', v')) : Acts util gson allowed s v s' v' := by
  cases pc with
  | shutdownChallengeListener =>
      rw [shutdown, Run.bind_ok] at h
      rcases h with ⟨w, hclose, h⟩
      rw [Except.ok.injEq, Prod.mk.injEq] at h
      rw [← h.1, ← h.2]
      exact .closes hclose
  | markAsVerifying =>
      rw [shutdown, Except.ok.injEq, Prod.mk.injEq] at h
      rw [← h.1, ← h.2]
      exact .unmarks
  | setIdle =>
      rw [shutdown, Except.ok.injEq, Prod.mk.injEq] at h
      rw [← h.1, ← h.2]
      exact .setsIdle

namespace Phone

/-- Something that is done to a service. -/
theorem onService_effect {p q : Phone} {k : Nat}
    {f : Shared → RegistrationService → Except Halt (Shared × RegistrationService)}
    (hf : ∀ v s' v', p.services[k]? = some v → f p.shared v = .ok (s', v') →
      Acts util gson allowed p.shared v s' v') (h : p.onService k f = .ok q) :
    Effect util gson allowed p q := by
  unfold onService at h
  cases hk : p.services[k]? with
  | none => simp only [hk, reduceCtorEq] at h
  | some v =>
      cases hresult : f p.shared v with
      | ok r =>
          simp only [hk, hresult, Except.ok.injEq] at h
          rw [← h]
          exact .acts hk (hf v r.1 r.2 hk hresult)
      | error e =>
          cases e with
          | blocked => simp only [hk, hresult, reduceCtorEq] at h
          | crash =>
              simp only [hk, hresult, Except.ok.injEq] at h
              rw [← h]
              exact .dies

theorem onMain_ok {p q : Phone} {result : Except Blocked Phone} (h : p.onMain result = .ok q) :
    result = .ok q := by
  unfold onMain at h
  split at h
  · exact h
  · simp only [reduceCtorEq] at h

theorem withService_effects (p : Phone) :
    ReflTransGen (Effect util gson allowed) p p.withService := by
  unfold withService
  split
  · exact .refl
  · exact .single .creates

theorem withService_same (p : Phone) : p.withService.intents = p.intents := by
  unfold withService
  split <;> rfl

/-- It makes no difference to the intents that wait. -/
theorem withService_intents (p : Phone) (intents : List Intent) :
    { p with intents := intents }.withService = { p.withService with intents := intents } := by
  have halive : { p with intents := intents }.alive = p.alive := rfl
  unfold withService
  rw [halive]
  split <;> rfl

theorem onAlive_ok {p q : Phone} {f : Shared → RegistrationService → Shared × RegistrationService}
    (h : p.onAlive f = .ok q) : ∃ (k : Nat) (v : RegistrationService), p.services[k]? = some v ∧
      q = { p with shared := (f p.shared v).1, services := p.services.set k (f p.shared v).2 } := by
  unfold onAlive at h
  split at h
  · simp only [reduceCtorEq] at h
  · rename_i k halive
    unfold onService at h
    cases hk : p.services[k]? with
    | none => simp only [hk, reduceCtorEq] at h
    | some v =>
        simp only [hk, Except.ok.injEq] at h
        exact ⟨k, v, hk, h.symm⟩

/-- A step is made of effects. -/
theorem step_effects {p q : Phone} {e : Event}
    (hallowed : ∀ k receiver challenge, e = .receive k receiver challenge → allowed challenge)
    (h : step util gson p e = .ok q) : ReflTransGen (Effect util gson allowed) p q := by
  -- One case for each event. Those of the main thread only happen while it is not
  -- shutting a service down.
  cases e with
  | request number =>
      have hq := Except.ok.inj (onMain_ok h)
      rw [← hq]
      exact .single (.asks number)
  | deliver =>
      have hq := onMain_ok h
      -- A service is created first if none is alive, and then given the intent.
      cases hintents : p.intents with
      | nil => simp only [hintents, reduceCtorEq] at hq
      | cons intent intents =>
          simp only [hintents, withService_intents] at hq
          rcases onAlive_ok hq with ⟨k, v, hk, rfl⟩
          refine (withService_effects p).tail (.delivers ?_ hk)
          rw [← hintents]
          exact withService_same p
  | connected =>
      rcases onAlive_ok (onMain_ok h) with ⟨k, v, hk, rfl⟩
      exact (withService_effects p).tail (.acts hk .connected)
  | disconnected =>
      rcases onAlive_ok (onMain_ok h) with ⟨k, v, hk, rfl⟩
      exact .single (.acts hk .disconnected)
  | call state password =>
      have hq := onMain_ok h
      -- The state comes with a message that the activity has been sent.
      split at hq
      · rw [← Except.ok.inj hq]
        exact .single (.calls password)
      · simp only [reduceCtorEq] at hq
  | verify state key code =>
      have hq := onMain_ok h
      split at hq
      · rename_i hstate
        split at hq
        -- Without a code nothing happens, and what is entered is recorded otherwise.
        · rw [← Except.ok.inj hq]
        · rw [← Except.ok.inj hq]
          exact .single (.enters key code hstate.1 hstate.2)
      · simp only [reduceCtorEq] at hq
  | background i met =>
      simp only [step] at h
      cases hi : p.asyncTasks[i]? with
      | none => simp only [hi, reduceCtorEq] at h
      | some t =>
          by_cases hsuccess : t.success = none
          -- A task has its result once, and posts it later.
          · simp only [hi, hsuccess, if_true] at h
            cases hdone : t.doInBackground util gson met p.shared with
            | ok r =>
                simp only [hdone, Except.ok.injEq] at h
                rw [← h]
                exact .single (.background hi hsuccess hdone)
            | error e =>
                -- An exception in the background ends the process, and with it the services.
                cases e with
                | blocked => simp only [hdone, reduceCtorEq] at h
                | crash =>
                    simp only [hdone, Except.ok.injEq] at h
                    rw [← h]
                    exact .single .dies
          · simp only [hi, if_neg hsuccess, reduceCtorEq] at h
  | post i =>
      have hq := onMain_ok h
      cases hi : p.asyncTasks[i]? with
      | none => simp only [hi, reduceCtorEq] at hq
      | some t =>
          cases hsuccess : t.success with
          | none => simp only [hi, hsuccess, reduceCtorEq] at hq
          | some success =>
              simp only [hi, hsuccess, Except.ok.injEq] at hq
              rw [← hq]
              exact .single (.posts hi hsuccess)
  | shutdown k =>
      have hq := onMain_ok h
      split at hq
      · rw [← Except.ok.inj hq]
        exact .single (.main _)
      · simp only [reduceCtorEq] at hq
  | onDestroy k =>
      -- Destroying a service occupies the main thread, until its shutdown is through.
      refine (ReflTransGen.single (.main _)).tail (onService_effect ?_ (onMain_ok h))
      intro v s' v' _ hresult
      rw [Except.ok.injEq, Prod.mk.injEq] at hresult
      rw [← hresult.1, ← hresult.2]
      exact .destroyed
  | main =>
      simp only [step] at h
      cases hmain : p.main with
      | none => simp only [hmain, reduceCtorEq] at h
      | some m =>
          simp only [hmain] at h
          refine (ReflTransGen.single (.main _)).tail (onService_effect ?_ h)
          exact fun v s' v' _ hresult => shutdown_acts hresult
  | receive k receiver challenge =>
      refine .single (onService_effect ?_ (onMain_ok h))
      exact fun v s' v' _ hresult => receive_acts (hallowed k receiver challenge rfl) hresult
  | take k => exact .single (onService_effect (fun v s' v' _ hresult => take_acts hresult) h)
  | runs k met => exact .single (onService_effect (fun v s' v' _ hresult => runs_acts hresult) h)
  | wake k => exact .single (onService_effect (fun v s' v' _ hresult => wake_acts hresult) h)
  | kill =>
      rw [← Except.ok.inj h]
      exact .single .dies

/-- What is true of a service at first, of what is done to it and of an intent
    that is delivered to it is true of every service after an effect. -/
theorem services_effect {I : RegistrationService → Prop} {p q : Phone} (hcreate : I .create)
    (hdelivers : ∀ v intent, I v → I (v.onStartCommand (some intent)))
    (hacts : ∀ (k : Nat) v s' v', p.services[k]? = some v → I v →
      Acts util gson allowed p.shared v s' v' → I v')
    (hp : ∀ v ∈ p.services, I v) (heffect : Effect util gson allowed p q) :
    ∀ v ∈ q.services, I v := by
  cases heffect with
  | creates =>
      intro v hv
      rcases List.mem_append.mp hv with hv | hv
      · exact hp v hv
      · exact List.mem_singleton.mp hv ▸ hcreate
  | acts hk hacts' =>
      -- One service is another now, and the others are the same.
      intro w hw
      rcases List.mem_or_eq_of_mem_set hw with hw | rfl
      · exact hp w hw
      · exact hacts _ _ _ _ hk (hp _ (List.mem_of_getElem? hk)) hacts'
  | dies => exact fun v hv => absurd hv List.not_mem_nil
  | delivers hintents hk =>
      intro w hw
      rcases List.mem_or_eq_of_mem_set hw with hw | rfl
      · exact hp w hw
      · exact hdelivers _ _ (hp _ (List.mem_of_getElem? hk))
  | _ => exact hp

/-- What every effect keeps is kept by a step. -/
theorem kept_of_reaches {I : Phone → Prop}
    (hkeep : ∀ p q, I p → Effect util gson allowed p q → I q) {p q : Phone}
    (heffects : ReflTransGen (Effect util gson allowed) p q) (hp : I p) : I q := by
  induction heffects with
  | refl => exact hp
  | tail _ heffect ih => exact hkeep _ _ ih heffect

/-- It is kept by every run in which the challenges that are received are
    allowed. -/
theorem kept_of_effects {I : Phone → Prop}
    (hkeep : ∀ p q, I p → Effect util gson allowed p q → I q) {es : List Event} {p q : Phone}
    (hallowed : ∀ k receiver challenge, Event.receive k receiver challenge ∈ es → allowed challenge)
    (hp : I p) (hrun : Run.run (step util gson) p es = .ok q) : I q := by
  induction es generalizing p with
  | nil =>
      rw [← Except.ok.inj hrun]
      exact hp
  | cons e es ih =>
      rcases (Run.run_cons _ p q e es).mp hrun with ⟨p', hstep, hrest⟩
      have heffects := step_effects (fun k receiver challenge h =>
        hallowed k receiver challenge (h ▸ List.mem_cons_self)) hstep
      exact ih (fun k receiver challenge h => hallowed k receiver challenge
        (List.mem_cons_of_mem _ h)) (kept_of_reaches hkeep heffects hp) hrest

end Phone

end Registration

end RedPhone
