import RedPhone.Service.RedPhoneService

/-!
# Calls That Are Over

A call manager goes on for a while after the service has dropped it: its thread
is somewhere in a handshake, its listener in a read, and the end of its busy
tone is in the queue of a handler. What comes from it then is taken for an
event of the call that has begun meanwhile.

`CallManager.run` looks at its flag before two of its callbacks, and not before
the others. The service does not look at all, and nothing takes the delayed
termination out of the queue.

## Main definitions

* `sender`: The manager an event comes from.
* `Stale`: It is not the current one.
* `Isolated`: What must not change.
* `Quiet`: The events that change none of it.

## Theorems

* `isolated_terminate`: Ending a call changes nothing if there is none.
* `isolated_callback`: The callbacks, one by one.
* `isolated_handle`: Events of a call that is over.
* `stale_isolated_iff`: They are kept apart if they are quiet.
* `stale_busy`: The end of one busy tone ends another call.
-/

namespace RedPhone

open Interleaving

namespace RedPhoneService

/-- The manager an event comes from. Intents come from none. -/
def sender : ServiceEvent → Option Nat
  | .intent _ _ => none
  | .callback sender _ => some sender
  | .delayed sender => some sender
  | .write sender _ => some sender

/-- The event is that of a manager which is not the current one. -/
def Stale (s : RedPhoneService) (e : ServiceEvent) : Prop :=
  ∃ id, sender e = some id ∧ ∀ m, s.currentCallManager = some m → m.id ≠ id

/-- The state is the same, the current manager is, and no manager was told to
    terminate. -/
structure Isolated (s s' : RedPhoneService) : Prop where
  state : s'.state = s.state
  currentCallManager : s'.currentCallManager = s.currentCallManager
  terminated : s'.terminated = s.terminated

/-- The service has nothing to end. -/
def Unused (s : RedPhoneService) : Prop := s.state = .idle ∧ s.currentCallManager = none

/-- The callbacks that neither end a call nor connect it, and those that come
    when there is nothing to end, or when the state is that of a connected
    call already. The end of a busy tone is like the callbacks that end a
    call. -/
def Quiet (s : RedPhoneService) : ServiceEvent → Prop
  | .intent _ _ => True
  | .callback _ c => match c with
    | .notifyCallFresh => True
    | .notifyBusy => True
    | .notifyCallRinging => True
    | .notifyConnectingtoInitiator => True
    | .notifyPerformingHandshake => True
    | .notifyCallConnecting => True
    | .notifyWaitingForResponder => True
    | .notifyCallConnected => s.state = .connected
    | _ => Unused s
  | .delayed _ => Unused s
  | .write _ _ => True

theorem Isolated.refl (s : RedPhoneService) : Isolated s s := ⟨rfl, rfl, rfl⟩

/-- A handler that ends the call, whatever it writes down first, is felt unless
    there is no call. -/
theorem isolated_terminate {s t : RedPhoneService}
    (hmanager : t.currentCallManager = s.currentCallManager)
    (hterminated : t.terminated = s.terminated) : Isolated s t.terminate ↔ Unused s := by
  constructor
  · intro h
    exact ⟨h.state.symm, h.currentCallManager.symm⟩
  · intro h
    refine ⟨h.1.symm, h.2.symm, ?_⟩
    rw [terminate, hmanager, h.2, hterminated]
    exact List.append_nil _

/-- A callback is felt unless it is quiet. -/
theorem isolated_callback (s : RedPhoneService) (sender : Nat) (c : CallStateListener) :
    Isolated s (s.callback sender c) ↔ Quiet s (.callback sender c) := by
  rcases missIfRinging_eq s with ⟨calls, hcalls⟩
  cases c with
  | notifyCallFresh => exact iff_of_true (Isolated.refl s) trivial
  | notifyCallRinging => exact iff_of_true (Isolated.refl s) trivial
  | notifyConnectingtoInitiator => exact iff_of_true (Isolated.refl s) trivial
  | notifyPerformingHandshake => exact iff_of_true (Isolated.refl s) trivial
  | notifyCallConnecting => exact iff_of_true (Isolated.refl s) trivial
  | notifyWaitingForResponder => exact iff_of_true (Isolated.refl s) trivial
  | notifyBusy => exact iff_of_true ⟨rfl, rfl, rfl⟩ trivial
  | notifyCallConnected => exact ⟨fun h => h.state.symm, fun h => ⟨h.symm, rfl, rfl⟩⟩
  | notifyCallStale => exact isolated_terminate rfl rfl
  | notifyHandshakeFailed => exact isolated_terminate rfl rfl
  | notifyRecipientUnavailable => exact isolated_terminate rfl rfl
  | notifyNoSuchUser => exact isolated_terminate rfl rfl
  | notifyServerMessage message => exact isolated_terminate rfl rfl
  | notifyClientError => exact isolated_terminate rfl rfl
  | notifyCallDisconnected =>
      -- A missed call is logged whoever has rung.
      rw [callback, hcalls]
      exact isolated_terminate rfl rfl
  | notifyServerFailure =>
      rw [callback, hcalls]
      exact isolated_terminate rfl rfl
  | notifyClientFailure =>
      rw [callback, hcalls]
      exact isolated_terminate rfl rfl
  | notifyLoginFailed =>
      rw [callback, hcalls]
      exact isolated_terminate rfl rfl

/-- What an event does that comes from a manager which is not the current
    one. -/
theorem isolated_handle {s : RedPhoneService} {e : ServiceEvent} (hstale : Stale s e) :
    Isolated s (s.handle e) ↔ Quiet s e := by
  cases e with
  | intent intent telephonyIdle =>
      rcases hstale with ⟨id, hsender, -⟩
      exact absurd hsender nofun
  | callback sender c => exact isolated_callback s sender c
  | delayed sender => exact isolated_terminate rfl rfl
  | write sender field =>
      refine iff_of_true ⟨rfl, ?_, rfl⟩ trivial
      rcases hstale with ⟨id, hsender, hother⟩
      -- The manager that is written to is not the one the service holds.
      cases hmanager : s.currentCallManager with
      | none => rw [handle, hmanager, Option.map_none]
      | some m =>
          rw [handle, hmanager, Option.map_some,
            if_neg (by rw [Option.some.inj hsender]; exact hother m hmanager)]

/-- In every run of the service, the events of managers that are not the
    current one leave the state, the current manager and the calls alone, if
    and only if those among them that end a call find no call, and those that
    connect one find the state connected. -/
theorem stale_isolated_iff (events : List ServiceEvent) (s : RedPhoneService)
    (hrun : Run.run step create events = .ok s) :
    Meets step (fun u e => ∀ v, step u e = .ok v → Stale u e → Isolated u v) create events ↔
      Meets step (fun u e => Stale u e → Quiet u e) create events := by
  constructor
  · intro h pre e post u hsplit hpre hstale
    rw [hsplit] at hrun
    rcases run_append_ok.mp hrun with ⟨u', hpre', hrest⟩
    rw [hpre, Except.ok.injEq] at hpre'
    rcases (Run.run_cons _ _ _ _ _).mp hrest with ⟨v, hstep, -⟩
    rw [← hpre'] at hstep
    have hisolated := h pre e post u hsplit hpre v hstep hstale
    rw [← (step_ok.mp hstep).2.2] at hisolated
    exact (isolated_handle hstale).mp hisolated
  · intro h pre e post u hsplit hpre v hstep hstale
    rw [← (step_ok.mp hstep).2.2]
    exact (isolated_handle hstale).mpr (h pre e post u hsplit hpre hstale)

/-- The intent of a call to a number. -/
def outgoingTo (number : String) : Intent := ⟨.outgoingCall, some number, none, none, false⟩

/-- The user hangs up. -/
def hangup : Intent := ⟨.hangupCall, none, none, none, false⟩

/-- A number that is busy, and another one while its tone would still be
    played. The last event is the end of the tone. -/
def redialed : List ServiceEvent :=
  [.intent (outgoingTo "+14155550100") true, .callback 0 .notifyBusy, .intent hangup true,
    .intent (outgoingTo "+14155550101") true, .delayed 0]

theorem stale_isolated_iff_redialed : ∃ s, Run.run step create redialed = .ok s ∧
    (Meets step (fun u e => ∀ v, step u e = .ok v → Stale u e → Isolated u v) create redialed ↔
      Meets step (fun u e => Stale u e → Quiet u e) create redialed) :=
  ⟨_, rfl, stale_isolated_iff redialed _ rfl⟩

/-- The end of the tone of the first call ends the second. -/
theorem stale_busy : ∃ s, Run.run step create redialed = .ok s ∧ s.terminated = [0, 1] ∧
    ¬ Meets step (fun u e => ∀ v, step u e = .ok v → Stale u e → Isolated u v) create redialed := by
  refine ⟨_, rfl, rfl, fun h => ?_⟩
  have hstale := h (redialed.take 4) (.delayed 0) [] _ rfl rfl _ rfl
    ⟨0, rfl, fun m hm => by rw [← Option.some.inj hm]; exact nofun⟩
  exact absurd hstale.state nofun

end RedPhoneService

end RedPhone
