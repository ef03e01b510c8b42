import RedPhone.Registration.Courses

/-!
# The Listener of a Registration

The receiver for challenges is registered by a registration and unregistered
when it ends, whichever way it does, or before by the main thread when the
activity shuts the service down. To unregister it twice would end the process,
and never to do so would leave a service listening that has nothing to wait for.
Neither happens, whoever comes first: the two take turns at the field
`receiver`, which is empty whenever no registration listens.

What is said here is about the calls of the service alone. The platform has a
hand in it too: once a service has been destroyed it takes back what is still
registered, and if the thread registers its receiver between `shutdown` and
that, the platform unregisters it as well. Its doing so is not modelled.

## Main definitions

* `Listens`: A service has one receiver or none, and none but for a
  registration.

## Theorems

* `executes_listens`: A statement of a thread keeps it so.
* `listened_effect`: So does a step.
* `listener_released`: It is always so.
-/

namespace RedPhone

open Interleaving JavaString PhoneNumberFormatter AccountCreationSocket

namespace Registration

variable {PhoneNumber : Type} {util : PhoneNumberUtil PhoneNumber} {gson : Gson}

/-- The statements at which there can be a receiver. -/
def Pc.listens : Pc → Prop
  | .markAsVerifying | .initializeChallengeListener | .setVoiceRequested => False
  | _ => True

/-- A registration is past the statement that registers the receiver. -/
def Running.Listens (r : Running) : Prop :=
  r.handling.action = .registerNumber ∧ r.pc.listens

/-- A service has the receiver of its registration, or none. -/
structure Listens (v : RegistrationService) : Prop where
  receivers : v.receivers = v.receiver.toList
  running : v.receiver.isSome → ∃ r, v.running = some r ∧ r.Listens

theorem Listens.of_none {v : RegistrationService} (hreceiver : v.receiver = none)
    (hreceivers : v.receivers = []) : Listens v where
  receivers := by rw [hreceiver, hreceivers, Option.toList_none]
  running h := by simp only [hreceiver, Option.isSome_none, Bool.false_eq_true] at h

/-- There is no receiver but for a registration that listens. -/
theorem Listens.receiver_eq_none {v : RegistrationService} (hv : Listens v)
    (hnone : ∀ r, v.running = some r → ¬ r.Listens) : v.receiver = none ∧ v.receivers = [] := by
  have hreceiver : v.receiver = none := by
    cases hreceiver : v.receiver with
    | none => rfl
    | some receiver =>
        rcases hv.running (hreceiver ▸ rfl) with ⟨r, hr, hlistens⟩
        exact absurd hlistens (hnone r hr)
  refine ⟨hreceiver, ?_⟩
  rw [hv.receivers, hreceiver, Option.toList_none]

/-- The handler goes on to a statement at which there can be a receiver. -/
theorem Listens.moved {v : RegistrationService} (hv : Listens v) {r t : Running}
    (hr : v.running = some r) (haction : t.handling.action = r.handling.action)
    (hpc : r.Listens → t.pc.listens) : Listens { v with running := some t } where
  receivers := hv.receivers
  running hreceiver := by
    rcases hv.running hreceiver with ⟨u, hu, hlistens⟩
    rw [hr, Option.some.injEq] at hu
    rw [← hu] at hlistens
    exact ⟨t, rfl, haction.trans hlistens.1, hpc hlistens⟩

theorem Listens.goto {v : RegistrationService} (hv : Listens v) {r : Running}
    (hr : v.running = some r) {h : Handling} {pc : Pc}
    (haction : h.action = r.handling.action) (hpc : pc.listens) : Listens (v.goto h pc) :=
  hv.moved hr haction fun _ => hpc

/-- The receiver that a service has is registered, so it can be unregistered. -/
theorem Listens.shutdownChallengeListener {v : RegistrationService} (hv : Listens v) :
    ∃ w, v.shutdownChallengeListener = .ok w ∧ w.receiver = none ∧ w.receivers = [] := by
  unfold RegistrationService.shutdownChallengeListener
  -- Without a receiver there is nothing to unregister, and with one it is the
  -- one registered.
  cases hreceiver : v.receiver with
  | none =>
      refine ⟨v, rfl, hreceiver, ?_⟩
      rw [hv.receivers, hreceiver, Option.toList_none]
  | some receiver =>
      have hreceivers : v.receivers = [receiver] := by
        rw [hv.receivers, hreceiver, Option.toList_some]
      simp only [hreceivers, List.mem_singleton, if_true, Except.ok.injEq]
      exact ⟨_, rfl, rfl, List.erase_cons_head _ _⟩

theorem Listens.closed {v w : RegistrationService} (hv : Listens v)
    (hclose : v.shutdownChallengeListener = .ok w) : w.receiver = none ∧ w.receivers = [] := by
  rcases hv.shutdownChallengeListener with ⟨w', hclose', hnone⟩
  rw [hclose, Except.ok.injEq] at hclose'
  exact hclose' ▸ hnone

theorem shows_listens {h : Handling} {pc next : Pc} {state : RegistrationState}
    (hshows : h.shows pc = some (state, next)) : next.listens := by
  have hpair : ∀ state' next', some (state', next') = some (state, next) → next'.listens →
      next.listens := by
    intro state' next' heq hlistens
    rw [Option.some.injEq, Prod.mk.injEq] at heq
    exact heq.2 ▸ hlistens
  cases pc with
  | setConnecting => exact hpair _ _ hshows trivial
  | setVerifyingSms => exact hpair _ _ hshows trivial
  | setVerifyingVoice => exact hpair _ _ hshows trivial
  | setComplete => exact hpair _ _ hshows trivial
  | setFailed state' => exact hpair _ _ hshows trivial
  | setVoiceRequested => exact hpair _ _ hshows trivial
  | _ => simp only [Handling.shows, reduceCtorEq] at hshows

/-- A statement of a thread. -/
theorem executes_listens {met : Met} {s s' : Shared} {v v' : RegistrationService} {h : Handling}
    {pc : Pc} (hv : Listens v) (hr : v.running = some ⟨h, pc, none⟩)
    (hsofar : Sofar h.id h.action (facts h.id s.history) pc)
    (hexecutes : Executes util gson met s v h pc s' v') : Listens v' := by
  -- Where the thread is at a statement without a receiver, there is none.
  have hnone : ¬ (Running.mk h pc none).Listens → v.receiver = none ∧ v.receivers = [] :=
    fun hnot => hv.receiver_eq_none fun r hr' => by
      rw [hr, Option.some.injEq] at hr'
      exact hr' ▸ hnot
  cases hexecutes with
  | marksVerifying =>
      rcases hnone fun hlistens => hlistens.2 with ⟨hreceiver, hreceivers⟩
      exact .of_none hreceiver hreceivers
  -- It is registered where there was none.
  | listens =>
      rcases hnone fun hlistens => hlistens.2 with ⟨hreceiver, hreceivers⟩
      refine ⟨?_, fun _ => ⟨_, rfl, hsofar.1, trivial⟩⟩
      change v.receivers ++ [v.created] = [v.created]
      rw [hreceivers, List.nil_append]
  -- The statement is the one before `setState`, and the receiver is for the ones
  -- after it.
  | shows hshows =>
      have hmoved := hv.goto hr (h := h) rfl (shows_listens hshows)
      refine ⟨hmoved.receivers, fun hreceiver => ?_⟩
      rcases hmoved.running hreceiver with ⟨t, ht, hlistens⟩
      rw [← Option.some.inj ht] at hlistens
      exact ⟨_, rfl, hlistens.1, shows_listens hshows⟩
  | marks =>
      refine hv.goto hr rfl ?_
      by_cases haction : h.action = .voiceRegisterNumber
      · rw [if_pos haction]
        trivial
      · rw [if_neg haction]
        trivial
  -- The end of a registration takes it away.
  | closes haction hclose =>
      rcases hv.closed hclose with ⟨hreceiver, hreceivers⟩
      exact .of_none hreceiver hreceivers
  -- Another action has had none.
  | ends haction =>
      rcases hnone fun hlistens => haction hlistens.1 with ⟨hreceiver, hreceivers⟩
      exact .of_none hreceiver hreceivers
  | creates hperform => exact hv.goto hr rfl trivial
  | fails hconnects => exact hv.goto hr rfl trivial
  | finds hchallenge => exact hv.goto hr rfl trivial
  | waits hchallenge => exact hv.goto hr rfl trivial
  | verifies hkey hperform => exact hv.goto hr rfl trivial
  | opens hcreate => exact hv.goto hr rfl trivial
  | retrieves => exact hv.goto hr rfl trivial
  | announces => exact hv.goto hr rfl trivial

theorem acts_listens {allowed : Option JavaString → Prop} {s s' : Shared}
    {v v' : RegistrationService} (hv : Listens v)
    (hsofar : ∀ r, v.running = some r →
      Sofar r.handling.id r.handling.action (facts r.handling.id s.history) r.pc)
    (hacts : Acts util gson allowed s v s' v') : Listens v' := by
  cases hacts with
  | @runs met r s' v' hr hsetState hexecutes =>
      refine executes_listens hv ?_ (hsofar r hr) hexecutes
      rw [hr, ← hsetState]
  | tests hr hsetState => exact hv.moved hr rfl fun hlistens => hlistens.2
  | sends hr hsetState => exact hv.moved hr rfl fun hlistens => hlistens.2
  -- A thread that was free has had no registration.
  | takes hnone hexecutor =>
      have hreceiver := hv.receiver_eq_none fun r hr => by
        rw [hnone] at hr
        exact absurd hr (Option.some_ne_none _).symm
      exact .of_none hreceiver.1 hreceiver.2
  | wakes hr hchallenge => exact hv.goto hr rfl trivial
  | timesOut hr hchallenge => exact hv.goto hr rfl trivial
  -- The activity may shut it down while the registration goes on.
  | closes hclose =>
      rcases hv.closed hclose with ⟨hreceiver, hreceivers⟩
      exact .of_none hreceiver hreceivers
  | _ => exact ⟨hv.receivers, hv.running⟩

/-- Every service has the receiver of its registration, or none. -/
def Phone.Listened (p : Phone) : Prop := ∀ v ∈ p.services, Listens v

theorem listened_effect {allowed : Option JavaString → Prop} {p q : Phone} (hp : p.Listened)
    (hnumbered : Numbered p) (heffect : Effect util gson allowed p q) : q.Listened := by
  refine Phone.services_effect (.of_none rfl rfl) (fun v intent hv => ?_)
    (fun k v s' v' hk hv hacts => acts_listens hv (fun r hr => ?_) hacts) hp heffect
  · unfold RegistrationService.onStartCommand
    simp only []
    split
    · exact ⟨hv.receivers, hv.running⟩
    · exact hv
  · exact (hnumbered.going k r ((Phone.running_eq hk).trans hr)).2

theorem listened_of_run {events : List Event} {p : Phone}
    (hrun : Run.run (Phone.step util gson) Phone.create events = .ok p) : p.Listened := by
  have hkeep : ∀ q q', (q.Listed ∧ Numbered q) ∧ q.Listened →
      Effect util gson (fun _ => True) q q' → (q'.Listed ∧ Numbered q') ∧ q'.Listened :=
    fun _ _ h heffect => ⟨⟨listed_effect h.1.1 heffect, numbered_effect h.1.1 h.1.2 heffect⟩,
      listened_effect h.2 h.1.2 heffect⟩
  have hlisted : Phone.create.Listed := fun _ hv => absurd hv List.not_mem_nil
  have hlistened : Phone.create.Listened := fun _ hv => absurd hv List.not_mem_nil
  exact (Phone.kept_of_effects hkeep (fun _ _ _ _ => trivial)
    ⟨⟨hlisted, numbered_create⟩, hlistened⟩ hrun).2

/-- A receiver is registered for a registration only, and it can be unregistered
    at any time, after which the service has none. -/
theorem listener_released {events : List Event} {p : Phone}
    (hrun : Run.run (Phone.step util gson) Phone.create events = .ok p) :
    ∀ v ∈ p.services, v.receivers = v.receiver.toList ∧
      (v.receivers ≠ [] → ∃ r, v.running = some r ∧ r.handling.action = .registerNumber ∧
        r.pc.listens) ∧
      ∃ w, v.shutdownChallengeListener = .ok w ∧ w.receiver = none ∧ w.receivers = [] := by
  have hp := listened_of_run hrun
  intro v hv
  -- What is registered is the one receiver of the service.
  refine ⟨(hp v hv).receivers, fun hne => (hp v hv).running ?_,
    (hp v hv).shutdownChallengeListener⟩
  cases hreceiver : v.receiver with
  | none => exact absurd (by rw [(hp v hv).receivers, hreceiver, Option.toList_none]) hne
  | some receiver => rfl

theorem listener_released_heard : ∃ p v,
    Run.run (Phone.step parsesNothing sessionGson) Phone.create heardEvents = .ok p ∧
      v ∈ p.services ∧ v.receivers = [0] ∧
      ∃ w, v.shutdownChallengeListener = .ok w ∧ w.receiver = none ∧ w.receivers = [] := by
  have hends : (do
      let p ← (Run.run (Phone.step parsesNothing sessionGson) Phone.create heardEvents).toOption
      let v ← p.services[0]?
      some v.receivers) = some [0] := by
    decide +kernel
  simp only [Option.bind_eq_bind, Option.bind_eq_some_iff, Option.some.injEq] at hends
  rcases hends with ⟨p, hp, v, hv, hreceivers⟩
  have hmem := List.mem_of_getElem? hv
  exact ⟨p, v, ok_of_toOption hp, hmem, hreceivers,
    (listener_released (ok_of_toOption hp) v hmem).2.2⟩

end Registration

end RedPhone
