import RedPhone.Service.RedPhoneService

/-!
# Idle Means No Call

The service keeps two notes of whether there is a call: its state, which
decides if an outgoing call may begin, and the current call manager, which
decides if there is anything to end. `terminate` clears both, and the handlers
that begin a call set both. `handleAnswerCall` and `notifyCallConnected` write
the state without a look at the manager, so that the user's answer to a call
that has just ended, or the last callback of one, leaves a service that is in a
call with nobody and dials no more.

The casts are the other gap. A call can be answered or denied only by its
responder, and nothing keeps these intents from an outgoing one.

## Main definitions

* `Consistent`: The process runs, and its two notes agree.
* `Anonymous`: There is no number in an intent.
* `BusyBreaks`: An incoming call that cannot be refused.
* `Outgoing`: The call is an outgoing one.
* `Breaks`: The events a handler goes wrong at.

## Theorems

* `consistent_finish`: What has to be shown of a handler.
* `consistent_terminate`: Ending a call is always right.
* `consistent_handle`: What one event does.
* `call_state_iff`: The notes agree in a run that has no such event.
* `call_state_answered`: An answer that comes too late.
-/

namespace RedPhone

open HandshakePacket Interleaving

namespace RedPhoneService

/-- No handler has thrown, and the service is idle exactly when it has no
    call. -/
structure Consistent (s : RedPhoneService) : Prop where
  running : s.crashed = none
  idle_iff : s.state = .idle ↔ s.currentCallManager = none

/-- There is no number in the intent. -/
def Anonymous (intent : Intent) : Prop := intent.remoteNumber = none ∧ intent.data = none

/-- An incoming call that meets another one, and that the service cannot
    refuse: it has no session, its session cannot be compared, or it is not the
    current one and has no number. -/
def BusyBreaks (s : RedPhoneService) (intent : Intent) : Prop :=
  match intent.session with
  | none => True
  | some session =>
    (session.serverName = none ∧ ∃ m d, s.currentCallManager = some m ∧
      m.sessionDescriptor = some d ∧ session.relayPort = d.relayPort ∧
      session.sessionId = d.sessionId) ∨
    (Anonymous intent ∧ ∀ m, s.currentCallManager = some m →
      m.sessionDescriptor ≠ some session)

/-- The call is an outgoing one. -/
def Outgoing (s : RedPhoneService) : Prop :=
  ∃ m, s.currentCallManager = some m ∧ m.role = .initiator

/-- The events at which a handler throws, or writes the state of a call that
    is not there. -/
def Breaks (s : RedPhoneService) : ServiceEvent → Prop
  | .intent intent telephonyIdle => match intent.action with
    | .incomingCall =>
      if s.isBusy telephonyIdle then BusyBreaks s intent else Anonymous intent
    | .outgoingCall => s.state = .idle ∧ Anonymous intent
    | .answerCall => s.currentCallManager = none ∨ Outgoing s
    | .denyCall => Outgoing s
    | .confirmSas => ∃ m hello, s.currentCallManager = some m ∧ m.zrtpSocket = some hello ∧
        ∀ p, hello = some p → p.data.length < 88 + p.headerBugOffset
    | _ => False
  | .callback _ .notifyCallConnected => s.currentCallManager = none
  | _ => False

variable {s s' : RedPhoneService}

/-- A handler leaves the service consistent if it returns and what it returns
    is. -/
theorem consistent_finish (s : RedPhoneService) (r : Except Thrown RedPhoneService) :
    Consistent (s.finish r) ↔ ∃ s', r = .ok s' ∧ Consistent s' := by
  cases r with
  | ok t => simp only [finish, Except.ok.injEq, exists_eq_left']
  | error e =>
      simp only [reduceCtorEq, false_and, exists_false, iff_false]
      intro h
      exact absurd h.running (by simp only [finish, reduceCtorEq, not_false_eq_true])

theorem consistent_terminate (h : s.crashed = none) : Consistent s.terminate :=
  ⟨h, iff_of_true rfl rfl⟩

/-- Only `notifyCallConnected` can break what a callback finds. -/
theorem consistent_callback (hs : Consistent s) (sender : Nat) (c : CallStateListener) :
    Consistent (s.callback sender c) ↔
      ¬ (c = .notifyCallConnected ∧ s.currentCallManager = none) := by
  rcases missIfRinging_eq s with ⟨calls, hcalls⟩
  cases c with
  | notifyCallConnected =>
      constructor
      · rintro h ⟨-, hnone⟩
        -- The state is then that of a call there is no manager of.
        exact absurd (h.idle_iff.mpr hnone) nofun
      · intro h
        refine ⟨hs.running, iff_of_false nofun fun hnone => h ⟨rfl, hnone⟩⟩
  | notifyCallFresh => exact iff_of_true hs nofun
  | notifyCallRinging => exact iff_of_true hs nofun
  | notifyConnectingtoInitiator => exact iff_of_true hs nofun
  | notifyPerformingHandshake => exact iff_of_true hs nofun
  | notifyCallConnecting => exact iff_of_true hs nofun
  | notifyWaitingForResponder => exact iff_of_true hs nofun
  | notifyBusy => exact iff_of_true ⟨hs.running, hs.idle_iff⟩ nofun
  | notifyCallStale => exact iff_of_true (consistent_terminate hs.running) nofun
  | notifyHandshakeFailed => exact iff_of_true (consistent_terminate hs.running) nofun
  | notifyRecipientUnavailable => exact iff_of_true (consistent_terminate hs.running) nofun
  | notifyNoSuchUser => exact iff_of_true (consistent_terminate hs.running) nofun
  | notifyServerMessage message => exact iff_of_true (consistent_terminate hs.running) nofun
  | notifyClientError => exact iff_of_true (consistent_terminate hs.running) nofun
  -- These may also be a missed call, which writes nothing but the log.
  | notifyCallDisconnected =>
      rw [callback, hcalls]
      exact iff_of_true (consistent_terminate hs.running) nofun
  | notifyServerFailure =>
      rw [callback, hcalls]
      exact iff_of_true (consistent_terminate hs.running) nofun
  | notifyClientFailure =>
      rw [callback, hcalls]
      exact iff_of_true (consistent_terminate hs.running) nofun
  | notifyLoginFailed =>
      rw [callback, hcalls]
      exact iff_of_true (consistent_terminate hs.running) nofun

theorem consistent_handleAnswerCall (hs : Consistent s) :
    Consistent (s.finish s.handleAnswerCall) ↔ ¬ (s.currentCallManager = none ∨ Outgoing s) := by
  rw [consistent_finish, handleAnswerCall, Outgoing]
  cases s.currentCallManager with
  | none =>
      simp only [Except.ok.injEq, exists_eq_left', true_or, not_true_eq_false, iff_false]
      -- Answering, and there is nobody to answer.
      intro h
      exact absurd (h.idle_iff.mpr rfl) nofun
  | some m =>
      cases hrole : m.role with
      | initiator => simp only [Manager.asResponder, hrole, bind, Except.bind, reduceCtorEq,
          false_and, exists_false, Option.some.injEq, exists_eq_left', false_or, not_true_eq_false]
      | responder =>
          simp only [Manager.asResponder, hrole, bind, Except.bind, Except.ok.injEq,
            exists_eq_left', Option.some.injEq, reduceCtorEq, or_self, not_false_eq_true, iff_true]
          exact ⟨hs.running, iff_of_false nofun nofun⟩

theorem consistent_handleDenyCall (hs : Consistent s) :
    Consistent (s.finish s.handleDenyCall) ↔ ¬ Outgoing s := by
  rw [consistent_finish, handleDenyCall, Outgoing]
  cases s.currentCallManager with
  | none =>
      simp only [Except.ok.injEq, exists_eq_left', reduceCtorEq, false_and, exists_false,
        not_false_eq_true, iff_true]
      exact consistent_terminate hs.running
  | some m =>
      cases hrole : m.role with
      | initiator => simp only [Manager.asResponder, hrole, bind, Except.bind, reduceCtorEq,
          false_and, exists_false, Option.some.injEq, exists_eq_left', not_true_eq_false]
      | responder =>
          simp only [Manager.asResponder, hrole, bind, Except.bind, Except.ok.injEq,
            exists_eq_left', Option.some.injEq, reduceCtorEq, not_false_eq_true, iff_true]
          exact consistent_terminate hs.running

theorem consistent_handleConfirmSas (hs : Consistent s) :
    Consistent (s.finish s.handleConfirmSas) ↔ ¬ ∃ m hello, s.currentCallManager = some m ∧
      m.zrtpSocket = some hello ∧ ∀ p, hello = some p → p.data.length < 88 + p.headerBugOffset := by
  rw [consistent_finish, handleConfirmSas]
  cases hmanager : s.currentCallManager with
  | none =>
      simp only [Except.ok.injEq, exists_eq_left', reduceCtorEq, false_and, exists_false,
        not_false_eq_true, iff_true]
      exact hs
  | some m =>
      -- The handler returns exactly if the manager can be told.
      have hreads := Manager.setSasVerified_returns m
      have hidle : s.state = .idle ↔ some m = none := by
        rw [← hmanager]
        exact hs.idle_iff
      constructor
      · rintro ⟨t, hreturns, -⟩ ⟨m', hello, hm, hsocket, hshort⟩
        rw [← Option.some.inj hm] at hsocket
        rcases (Run.bind_ok _ _ _).mp hreturns with ⟨endpoint, htold, -⟩
        rcases hreads.mp ⟨endpoint, htold⟩ hello hsocket with ⟨p, hp, hlong⟩
        exact absurd (hshort p hp) (Nat.not_lt.mpr hlong)
      · intro hnone
        -- No socket is short of a packet that is long enough.
        have hall (hello : Option HandshakePacket) (hsocket : m.zrtpSocket = some hello) :
            ∃ p, hello = some p ∧ 88 + p.headerBugOffset ≤ p.data.length := by
          by_contra hno
          refine hnone ⟨m, hello, rfl, hsocket, fun p hp => ?_⟩
          by_contra hlong
          exact hno ⟨p, hp, Nat.not_lt.mp hlong⟩
        rcases hreads.mpr hall with ⟨endpoint, htold⟩
        exact ⟨_, (Run.bind_ok _ _ _).mpr ⟨endpoint, htold, rfl⟩, hs.running, hidle⟩

theorem consistent_handleIncomingCall (hs : Consistent s) (intent : Intent) :
    Consistent (s.finish (s.handleIncomingCall intent)) ↔ ¬ Anonymous intent := by
  rw [consistent_finish, handleIncomingCall, Anonymous, ← extractRemoteNumber_returns]
  cases extractRemoteNumber intent with
  | ok number =>
      simp only [bind, Except.bind, Except.ok.injEq, exists_eq_left', exists_eq', iff_true]
      exact ⟨hs.running, iff_of_false nofun nofun⟩
  | error e => simp only [bind, Except.bind, reduceCtorEq, false_and, exists_false]

theorem consistent_handleOutgoingCall (hs : Consistent s) (intent : Intent) :
    Consistent (s.finish (s.handleOutgoingCall intent)) ↔ ¬ Anonymous intent := by
  rw [consistent_finish, handleOutgoingCall, Anonymous, ← extractRemoteNumber_returns]
  cases extractRemoteNumber intent with
  | ok number =>
      simp only [bind, Except.bind, Except.ok.injEq, exists_eq', iff_true]
      by_cases hempty : number.length = 0
      · rw [if_pos hempty]
        exact ⟨_, rfl, hs.running, hs.idle_iff⟩
      · rw [if_neg hempty]
        exact ⟨_, rfl, hs.running, iff_of_false nofun nofun⟩
  | error e => simp only [bind, Except.bind, reduceCtorEq, false_and, exists_false]

/-- What refusing a call takes: a comparison that returns, and for a call that
    is not the current one a session and a number. -/
theorem handleBusyCall_returns (s : RedPhoneService) (intent : Intent) :
    (∃ t, s.handleBusyCall intent = .ok t) ↔
      ∃ duplicate, s.isDuplicate intent.session = .ok duplicate ∧
        (duplicate = true ∨ ¬ Anonymous intent ∧ intent.session ≠ none) := by
  rw [handleBusyCall, Anonymous, ← extractRemoteNumber_returns]
  cases s.isDuplicate intent.session with
  | error e => simp only [bind, Except.bind, reduceCtorEq, exists_false, false_and]
  | ok duplicate =>
      cases duplicate with
      | true => simp only [bind, Except.bind, if_true, Except.ok.injEq, exists_eq', true_or,
          exists_eq_left']
      | false =>
          cases extractRemoteNumber intent with
          | error e => simp only [bind, Except.bind, Bool.false_eq_true, if_false, reduceCtorEq,
              exists_false, Except.ok.injEq, exists_eq_left', false_and, or_self]
          | ok number =>
              cases intent.session with
              | none => simp only [bind, Except.bind, Bool.false_eq_true, if_false, deref,
                  reduceCtorEq, exists_false, Except.ok.injEq, exists_eq_left', ne_eq,
                  not_true_eq_false, and_false, or_self]
              | some session => simp only [bind, Except.bind, Bool.false_eq_true, if_false, deref,
                  reduceCtorEq, Except.ok.injEq, exists_eq_left', ne_eq, not_false_eq_true,
                  exists_eq', and_self, or_true]

theorem consistent_of_handleBusyCall (hs : Consistent s) {intent : Intent}
    (h : s.handleBusyCall intent = .ok s') : Consistent s' := by
  rcases (Run.bind_ok _ _ _).mp h with ⟨duplicate, -, h⟩
  cases duplicate with
  | true =>
      rw [← Except.ok.inj h]
      exact hs
  | false =>
      rcases (Run.bind_ok _ _ _).mp h with ⟨number, -, h⟩
      rcases (Run.bind_ok _ _ _).mp h with ⟨session, -, h⟩
      rw [← Except.ok.inj h]
      exact ⟨hs.running, hs.idle_iff⟩

/-- What the comparison with the session of the current call says. -/
theorem isDuplicate_cases (s : RedPhoneService) (session : SessionDescriptor) :
    (∃ duplicate, s.isDuplicate (some session) = .ok duplicate) ↔
      ¬ (session.serverName = none ∧ ∃ m d, s.currentCallManager = some m ∧
        m.sessionDescriptor = some d ∧ session.relayPort = d.relayPort ∧
        session.sessionId = d.sessionId) := by
  rw [isDuplicate]
  cases s.currentCallManager with
  | none => simp only [Except.ok.injEq, exists_eq', reduceCtorEq, false_and, exists_false,
      and_false, not_false_eq_true]
  | some m =>
      simp only [deref, bind, Except.bind, Option.some.injEq, exists_and_left, exists_eq_left']
      exact session.equals_returns m.sessionDescriptor

theorem isDuplicate_true (s : RedPhoneService) (session : SessionDescriptor) :
    s.isDuplicate (some session) = .ok true ↔
      session.serverName ≠ none ∧
        ∃ m, s.currentCallManager = some m ∧ m.sessionDescriptor = some session := by
  rw [isDuplicate]
  cases s.currentCallManager with
  | none => simp only [Except.ok.injEq, Bool.false_eq_true, reduceCtorEq, false_and, exists_false,
      and_false]
  | some m =>
      simp only [deref, bind, Except.bind, Option.some.injEq, exists_eq_left']
      exact session.equals_true m.sessionDescriptor

/-- Refusing a call changes neither note, if it comes to an end. -/
theorem consistent_handleBusyCall (hs : Consistent s) (intent : Intent) :
    Consistent (s.finish (s.handleBusyCall intent)) ↔ ¬ BusyBreaks s intent := by
  have hreturns : (∃ t, s.handleBusyCall intent = .ok t ∧ Consistent t) ↔
      ∃ t, s.handleBusyCall intent = .ok t := by
    constructor
    · rintro ⟨t, h, -⟩
      exact ⟨t, h⟩
    · rintro ⟨t, h⟩
      exact ⟨t, h, consistent_of_handleBusyCall hs h⟩
  rw [consistent_finish, hreturns, handleBusyCall_returns, BusyBreaks]
  cases intent.session with
  | none =>
      refine iff_of_false ?_ (fun h => h trivial)
      rintro ⟨duplicate, hcompared, hrest⟩
      rcases hrest with rfl | hrest
      · -- A null session is the same as no other.
        rw [isDuplicate] at hcompared
        cases hmanager : s.currentCallManager with
        | none =>
            rw [hmanager] at hcompared
            exact absurd (Except.ok.inj hcompared) nofun
        | some m =>
            rw [hmanager] at hcompared
            exact absurd hcompared nofun
      · exact hrest.2 rfl
  | some session =>
      simp only [not_or, ← isDuplicate_cases]
      constructor
      · rintro ⟨duplicate, hcompared, hrest⟩
        refine ⟨⟨duplicate, hcompared⟩, fun hnumber => ?_⟩
        rcases hrest with rfl | hrest
        · rcases ((isDuplicate_true s session).mp hcompared).2 with ⟨m, hmanager, hsame⟩
          exact hnumber.2 m hmanager hsame
        · exact hrest.1 hnumber.1
      · rintro ⟨⟨duplicate, hcompared⟩, hnumber⟩
        refine ⟨duplicate, hcompared, ?_⟩
        by_cases hanonymous : Anonymous intent
        · left
          cases duplicate with
          | true => rfl
          | false =>
              exfalso
              refine hnumber ⟨hanonymous, fun m hmanager hsame => ?_⟩
              -- The same session is found to be the same, if it can be compared.
              by_cases hname : session.serverName = none
              · refine (isDuplicate_cases s session).mp ⟨false, hcompared⟩ ⟨hname, m, session, ?_⟩
                exact ⟨hmanager, hsame, rfl, rfl⟩
              · have htrue := (isDuplicate_true s session).mpr ⟨hname, m, hmanager, hsame⟩
                rw [hcompared] at htrue
                exact absurd (Except.ok.inj htrue) nofun
        · exact Or.inr ⟨hanonymous, nofun⟩

theorem consistent_onIntentReceived (hs : Consistent s) (intent : Intent) (telephonyIdle : Bool) :
    Consistent (s.finish (s.onIntentReceived intent telephonyIdle)) ↔
      ¬ Breaks s (.intent intent telephonyIdle) := by
  rw [onIntentReceived, Breaks]
  cases intent.action with
  | incomingCall =>
      by_cases hbusy : s.isBusy telephonyIdle
      · rw [if_pos hbusy, if_pos hbusy]
        exact consistent_handleBusyCall hs intent
      · rw [if_neg hbusy, if_neg hbusy]
        exact consistent_handleIncomingCall hs intent
  | outgoingCall =>
      by_cases hidle : s.state = .idle
      · have hbegins : s.isIdle = true := beq_iff_eq.mpr hidle
        simp only [hbegins, if_true, hidle, true_and]
        exact consistent_handleOutgoingCall hs intent
      · -- A call is not begun while there is one.
        have hignored : s.isIdle = false := beq_false_of_ne hidle
        simp only [hignored, Bool.false_eq_true, if_false, hidle, false_and, not_false_eq_true,
          iff_true]
        exact hs
  | answerCall => exact consistent_handleAnswerCall hs
  | denyCall => exact consistent_handleDenyCall hs
  | hangupCall => exact iff_of_true (consistent_terminate hs.running) not_false
  | setMute =>
      refine iff_of_true ⟨hs.running, ?_⟩ not_false
      exact hs.idle_iff.trans Option.map_eq_none_iff.symm
  | confirmSas => exact consistent_handleConfirmSas hs

/-- An event leaves a consistent service consistent, unless it is one of those
    that break it. -/
theorem consistent_handle (hs : Consistent s) (e : ServiceEvent) :
    Consistent (s.handle e) ↔ ¬ Breaks s e := by
  cases e with
  | intent intent telephonyIdle => exact consistent_onIntentReceived hs intent telephonyIdle
  | callback sender c =>
      rw [handle, consistent_callback hs]
      cases c with
      | notifyCallConnected => simp only [true_and, Breaks]
      | _ => exact iff_of_true nofun not_false
  | delayed sender => exact iff_of_true (consistent_terminate hs.running) not_false
  | write sender field =>
      refine iff_of_true ⟨hs.running, ?_⟩ not_false
      exact hs.idle_iff.trans Option.map_eq_none_iff.symm

/-- In every run of the service, no handler throws and the service is idle
    exactly when it has no call, if and only if no event is an answer to no
    call or to an outgoing one, a refusal of an outgoing one, a comparison
    confirmed before the other Hello is there, a connected call that is over,
    or an intent without the number or the session its handler reads. -/
theorem call_state_iff (events : List ServiceEvent) (s : RedPhoneService)
    (hrun : Run.run step create events = .ok s) :
    Always step Consistent create events ↔ Meets step (fun u e => ¬ Breaks u e) create events := by
  refine always_iff_meets (fun u e v hu hstep => ?_) ⟨rfl, iff_of_true rfl rfl⟩ hrun
  rw [← (step_ok.mp hstep).2.2]
  exact consistent_handle hu e

/-- The intent of a call from a number. -/
def incomingFrom (number : String) : Intent where
  action := .incomingCall
  remoteNumber := some number
  data := none
  session := some ⟨31337, 1, some "relay", 1⟩
  muteValue := false

/-- An intent of the user interface, without extras. -/
def plain (action : Action) : Intent := ⟨action, none, none, none, false⟩

/-- A call that comes in and is answered. -/
def answeredRun : List ServiceEvent :=
  [.intent (incomingFrom "+14155550100") true, .callback 0 .notifyCallFresh,
    .intent (plain .answerCall) true, .callback 0 .notifyCallConnected,
    .intent (plain .hangupCall) true]

theorem call_state_iff_answered : ∃ s, Run.run step create answeredRun = .ok s ∧
    (Always step Consistent create answeredRun ↔
      Meets step (fun u e => ¬ Breaks u e) create answeredRun) :=
  ⟨_, rfl, call_state_iff answeredRun _ rfl⟩

/-- A caller who hangs up while the user reaches for the button. -/
def answeredLate : List ServiceEvent :=
  [.intent (incomingFrom "+14155550100") true, .callback 0 .notifyCallFresh,
    .callback 0 .notifyCallDisconnected, .intent (plain .answerCall) true]

/-- The service answers a call that is over, and is then in no call but not
    idle. -/
theorem call_state_answered : ∃ s, Run.run step create answeredLate = .ok s ∧
    s.state = .answering ∧ s.currentCallManager = none ∧
    ¬ Always step Consistent create answeredLate := by
  refine ⟨_, rfl, rfl, rfl, fun h => ?_⟩
  have hlast := h answeredLate [] _ (List.append_nil _).symm rfl
  exact absurd (hlast.idle_iff.mpr rfl) nofun

end RedPhoneService

end RedPhone
