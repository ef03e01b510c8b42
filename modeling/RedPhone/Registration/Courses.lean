import RedPhone.Registration.Registered

/-!
# The Course of a Registration

A handler announces once how it has ended, unless the process ends first. What
is recorded of it is the beginning of one of a few courses, and the whole of it
once the handler is over. A course that marks the phone as registered is
announced as a success, with one exception: after a call the phone is marked
before a socket is opened for the directory, and where that fails a failure is
announced for a phone that is registered.

The handlers of several services run beside each other. Their numbers are given
out in order and tell them apart, so what one of them records makes no
difference to the others.

How a wait ends can be decided before it does. The challenge that a service has
received stays until the next registration begins, unless a message without one
comes. And where the activity has had the listener shut down, as it does when the
number is to be edited, no message reaches the service any more, but its thread
still waits.

## Main definitions

* `Course`: What can happen of a handler.
* `Sofar`: What has happened of it at a statement.
* `Numbered`: Each handler is on its course, and none is another.
* `Decided`: What the wait of a handler will find is decided.

## Theorems

* `executes_goesOn`: A statement keeps its handler on its course.
* `numbered_effect`: A step keeps all of them there.
* `handler_course`: They always are.
* `decided_effect`: A step leaves a wait decided.
* `wait_decided`: How such a wait does not end.
-/

namespace RedPhone

open Interleaving JavaString PhoneNumberFormatter AccountCreationSocket

namespace Registration

/-! ## Courses -/

/-- Whether a fact is about a handler. -/
def Fact.about (id : Nat) : Fact → Bool
  | .begun i _ | .timedOut i | .marked i | .announced i _ => i == id
  | _ => false

/-- What has happened of a handler. -/
def facts (id : Nat) (history : List Fact) : List Fact := history.filter (Fact.about id)

/-- What can happen of a handler, from its beginning to its end. -/
inductive Course (id : Nat) : Action → List Fact → Prop
  | registered : Course id .registerNumber
      [.begun id .registerNumber, .marked id, .announced id true]
  /-- A request fails. -/
  | failed : Course id .registerNumber [.begun id .registerNumber, .announced id false]
  | timedOut : Course id .registerNumber
      [.begun id .registerNumber, .timedOut id, .announced id false]
  | called : Course id .voiceRegisterNumber
      [.begun id .voiceRegisterNumber, .marked id, .announced id true]
  /-- No socket for the directory can be opened. -/
  | unconnected : Course id .voiceRegisterNumber
      [.begun id .voiceRegisterNumber, .marked id, .announced id false]
  | requested : Course id .voiceRequested [.begun id .voiceRequested]

/-- What has happened of a handler that is at a statement. -/
def Sofar (id : Nat) (action : Action) (fs : List Fact) : Pc → Prop
  | .markAsVerifying | .markAsVerified =>
    (action = .registerNumber ∨ action = .voiceRegisterNumber) ∧ fs = [.begun id action]
  | .initializeChallengeListener | .setConnecting | .createAccount | .setVerifyingSms
  | .waitForChallenge | .waiting | .verifyAccount _ =>
    action = .registerNumber ∧ fs = [.begun id action]
  | .setVerifyingVoice => action = .voiceRegisterNumber ∧ fs = [.begun id action]
  | .openSocket => action = .voiceRegisterNumber ∧ fs = [.begun id action, .marked id]
  | .retrieveDirectory | .setComplete => Course id action (fs ++ [.announced id true])
  | .setFailed _ => Course id action (fs ++ [.announced id false])
  | .broadcastComplete success => Course id action (fs ++ [.announced id success])
  | .finish => Course id action fs
  | .setVoiceRequested => action = .voiceRequested ∧ fs = [.begun id action]

theorem Course.begun_mem {id : Nat} {action : Action} {course : List Fact}
    (h : Course id action course) : Fact.begun id action ∈ course := by
  cases h with
  | _ => exact List.mem_cons_self

/-- The course a handler is on. -/
theorem Sofar.exists_course {id : Nat} {action : Action} {fs : List Fact} {pc : Pc}
    (h : Sofar id action fs pc) :
    ∃ course, Course id action course ∧ fs <+: course ∧ Fact.begun id action ∈ fs := by
  -- A handler that has begun is on a course of its action.
  have hbegins : ∀ course, Course id action (.begun id action :: course) →
      fs = [.begun id action] →
      ∃ course, Course id action course ∧ fs <+: course ∧ Fact.begun id action ∈ fs := by
    rintro course hcourse rfl
    exact ⟨_, hcourse, List.prefix_append [_] course, List.mem_cons_self⟩
  -- One whose result is known is on the course that ends with it.
  have hannounces : ∀ success, Course id action (fs ++ [.announced id success]) →
      ∃ course, Course id action course ∧ fs <+: course ∧ Fact.begun id action ∈ fs := by
    intro success hcourse
    refine ⟨_, hcourse, List.prefix_append _ _, ?_⟩
    rcases List.mem_append.mp hcourse.begun_mem with hmem | hmem
    · exact hmem
    · simp only [List.mem_singleton, reduceCtorEq] at hmem
  have hregister : (action = .registerNumber ∨ action = .voiceRegisterNumber) ∧
      fs = [.begun id action] →
      ∃ course, Course id action course ∧ fs <+: course ∧ Fact.begun id action ∈ fs := by
    rintro ⟨rfl | rfl, hfs⟩
    · exact hbegins _ .registered hfs
    · exact hbegins _ .called hfs
  cases pc with
  | markAsVerifying => exact hregister h
  | markAsVerified => exact hregister h
  | setVerifyingVoice => exact hregister ⟨.inr h.1, h.2⟩
  -- Marked already, it is on the course of a call that was answered.
  | openSocket =>
      rcases h with ⟨rfl, rfl⟩
      exact hannounces true .called
  | retrieveDirectory => exact hannounces true h
  | setComplete => exact hannounces true h
  | setFailed state => exact hannounces false h
  | broadcastComplete success => exact hannounces success h
  | finish => exact ⟨fs, h, List.prefix_rfl, h.begun_mem⟩
  | setVoiceRequested =>
      rcases h with ⟨rfl, hfs⟩
      exact hbegins _ .requested hfs
  | _ => exact hregister ⟨.inl h.1, h.2⟩

theorem facts_concat {id : Nat} {history : List Fact} {fact : Fact} (h : fact.about id = false) :
    facts id (history ++ [fact]) = facts id history := by
  rw [facts, List.filter_append, List.filter_singleton, h, Bool.cond_false, List.append_nil, facts]

theorem facts_concat_about {id : Nat} {history : List Fact} {fact : Fact}
    (h : fact.about id = true) : facts id (history ++ [fact]) = facts id history ++ [fact] := by
  rw [facts, List.filter_append, List.filter_singleton, h, Bool.cond_true, facts]

/-! ## The statements of a handler -/

variable {PhoneNumber : Type} {util : PhoneNumberUtil PhoneNumber} {gson : Gson}

/-- A handler has gone on along its course, or come to its end. -/
def GoesOn (h : Handling) (fs : List Fact) : Option Running → Prop
  | none => Course h.id h.action fs
  | some r =>
    r.handling.id = h.id ∧ r.handling.action = h.action ∧ Sofar h.id h.action fs r.pc

/-- What a handler records is about no other. -/
structure Records (h : Handling) (s s' : Shared) : Prop where
  begun : s'.begun = s.begun
  grows : s.history <+: s'.history
  others : ∀ id, id ≠ h.id → facts id s'.history = facts id s.history

theorem Records.same {h : Handling} {s s' : Shared} (hbegun : s'.begun = s.begun)
    (hhistory : s'.history = s.history) : Records h s s' :=
  ⟨hbegun, hhistory ▸ List.prefix_rfl, fun _ _ => by rw [hhistory]⟩

theorem Records.record {h : Handling} {s : Shared} {fact : Fact}
    (habout : ∀ id, id ≠ h.id → fact.about id = false) : Records h s (s.record fact) :=
  ⟨rfl, List.prefix_append _ _, fun id hid => facts_concat (habout id hid)⟩

theorem executes_records {met : Met} {s s' : Shared} {v v' : RegistrationService} {h : Handling}
    {pc : Pc} (hexecutes : Executes util gson met s v h pc s' v') : Records h s s' := by
  have hown : ∀ id, id ≠ h.id → (h.id == id) = false := fun id hid =>
    beq_eq_false_iff_ne.mpr hid.symm
  -- Only four statements record something, and each says whose it is or
  -- nobody's.
  cases hexecutes with
  | creates hperform => exact .record fun _ _ => rfl
  | verifies hkey hperform => exact .record fun _ _ => rfl
  | marks => exact ⟨rfl, List.prefix_append _ _, fun id hid => facts_concat (hown id hid)⟩
  | announces => exact .record hown
  | _ => exact .same rfl rfl

/-- A statement that shows a state says nothing of its handler. -/
theorem shows_sofar {h : Handling} {fs : List Fact} {pc next : Pc} {state : RegistrationState}
    (hsofar : Sofar h.id h.action fs pc) (hshows : h.shows pc = some (state, next)) :
    Sofar h.id h.action fs next := by
  have hpair : ∀ state' next', some (state', next') = some (state, next) →
      Sofar h.id h.action fs next' → Sofar h.id h.action fs next := by
    intro state' next' heq hnext
    rw [Option.some.injEq, Prod.mk.injEq] at heq
    exact heq.2 ▸ hnext
  cases pc with
  | setConnecting => exact hpair _ _ hshows hsofar
  | setVerifyingSms => exact hpair _ _ hshows hsofar
  -- A call goes straight on to the mark.
  | setVerifyingVoice => exact hpair _ _ hshows ⟨.inr hsofar.1, hsofar.2⟩
  | setComplete => exact hpair _ _ hshows hsofar
  | setFailed state' => exact hpair _ _ hshows hsofar
  | setVoiceRequested =>
      refine hpair _ _ hshows ?_
      change Course h.id h.action fs
      rw [hsofar.2, hsofar.1]
      exact .requested
  | _ => simp only [Handling.shows, reduceCtorEq] at hshows

theorem connects_sofar {id : Nat} {action : Action} {fs : List Fact} {pc : Pc}
    (hsofar : Sofar id action fs pc) (hconnects : pc.connects) (state : State) :
    Sofar id action fs (.setFailed state) := by
  cases pc with
  | createAccount =>
      rcases hsofar with ⟨rfl, rfl⟩
      exact .failed
  | verifyAccount challenge =>
      rcases hsofar with ⟨rfl, rfl⟩
      exact .failed
  -- The phone is marked by then, and stays so.
  | openSocket =>
      rcases hsofar with ⟨rfl, rfl⟩
      exact .unconnected
  | _ => exact hconnects.elim

/-- A statement keeps its handler on its course. -/
theorem executes_goesOn {met : Met} {s s' : Shared} {v v' : RegistrationService} {h : Handling}
    {pc : Pc} (hsofar : Sofar h.id h.action (facts h.id s.history) pc)
    (hexecutes : Executes util gson met s v h pc s' v') :
    GoesOn h (facts h.id s'.history) v'.running := by
  cases hexecutes with
  | marksVerifying =>
      refine ⟨rfl, rfl, ?_⟩
      rcases hsofar.1 with haction | haction
      · rw [haction] at hsofar ⊢
        exact ⟨rfl, hsofar.2⟩
      · rw [haction] at hsofar ⊢
        exact ⟨rfl, hsofar.2⟩
  | listens => exact ⟨rfl, rfl, hsofar⟩
  | shows hshows => exact ⟨rfl, rfl, shows_sofar hsofar hshows⟩
  | creates hperform =>
      refine ⟨rfl, rfl, hsofar.1, ?_⟩
      exact (facts_concat rfl).trans hsofar.2
  | fails hconnects => exact ⟨rfl, rfl, connects_sofar hsofar hconnects _⟩
  | finds hchallenge => exact ⟨rfl, rfl, hsofar⟩
  | waits hchallenge => exact ⟨rfl, rfl, hsofar⟩
  | verifies hkey hperform =>
      refine ⟨rfl, rfl, .inl hsofar.1, ?_⟩
      exact (facts_concat rfl).trans hsofar.2
  -- The mark is the second fact of its course, and the action says what is to
  -- come.
  | marks =>
      have habout : (Fact.marked h.id).about h.id = true := beq_self_eq_true h.id
      refine ⟨rfl, rfl, ?_⟩
      have hmarked : facts h.id (s.history ++ [.marked h.id]) =
          [.begun h.id h.action, .marked h.id] := by
        rw [facts_concat_about habout, hsofar.2, List.singleton_append]
      change Sofar h.id h.action (facts h.id (s.history ++ [.marked h.id])) _
      rw [hmarked]
      rcases hsofar.1 with haction | haction
      · rw [haction]
        exact .registered
      · rw [haction]
        exact ⟨rfl, rfl⟩
  -- With a socket the directory is asked for, whose failure is not announced.
  | opens hcreate =>
      refine ⟨rfl, rfl, ?_⟩
      change Course h.id h.action (facts h.id s.history ++ [.announced h.id true])
      rw [hsofar.2, hsofar.1]
      exact .called
  | retrieves => exact ⟨rfl, rfl, hsofar⟩
  -- The result is the last fact there is.
  | @announces success =>
      have habout : (Fact.announced h.id success).about h.id = true := beq_self_eq_true h.id
      refine ⟨rfl, rfl, ?_⟩
      change Course h.id h.action (facts h.id (s.history ++ [.announced h.id success]))
      rw [facts_concat_about habout]
      exact hsofar
  | closes haction hclose => exact hsofar
  | ends haction => exact hsofar

/-- A handler begins on its course. -/
theorem first_goesOn (h : Handling) (haction : h.action ≠ .other) :
    GoesOn h [.begun h.id h.action] ((first h.action).map fun pc => ⟨h, pc, none⟩) := by
  rcases h with ⟨id, action, number, password, key, socket⟩
  cases action with
  | registerNumber => exact ⟨rfl, rfl, .inl rfl, rfl⟩
  | voiceRegisterNumber => exact ⟨rfl, rfl, .inr rfl, rfl⟩
  | voiceRequested => exact ⟨rfl, rfl, rfl, rfl⟩
  | other => exact absurd rfl haction

/-! ## The handlers of the phone -/

/-- The handler that the thread of a service is in. -/
def Phone.running (p : Phone) (k : Nat) : Option Running := p.services[k]?.bind (·.running)

theorem Phone.running_eq {p : Phone} {k : Nat} {v : RegistrationService}
    (hk : p.services[k]? = some v) : p.running k = v.running := by
  rw [Phone.running, hk, Option.bind_some]

/-- A handler began before the process ended. -/
def Interrupted (history : List Fact) (id : Nat) (action : Action) : Prop :=
  ∃ pre post, history = pre ++ Fact.died :: post ∧ Fact.begun id action ∈ pre

/-- A handler that is over has come to its end, or the process to its own. -/
def Over (history : List Fact) (id : Nat) : Prop :=
  ∃ action course, Course id action course ∧ facts id history <+: course ∧
    (facts id history = course ∨ Interrupted history id action)

/-- Each handler is on its course, and none is another. -/
structure Numbered (p : Phone) : Prop where
  going : ∀ k r, p.running k = some r → r.handling.id < p.shared.begun ∧
    Sofar r.handling.id r.handling.action (facts r.handling.id p.shared.history) r.pc
  distinct : ∀ k k' r r', p.running k = some r → p.running k' = some r' →
    r.handling.id = r'.handling.id → k = k'
  gone : ∀ id, id < p.shared.begun → (∀ k r, p.running k = some r → r.handling.id ≠ id) →
    Over p.shared.history id
  fresh : ∀ id, p.shared.begun ≤ id → facts id p.shared.history = []

theorem Interrupted.mono {history history' : List Fact} {id : Nat} {action : Action}
    (h : Interrupted history id action) (hle : history <+: history') :
    Interrupted history' id action := by
  rcases h with ⟨pre, post, rfl, hmem⟩
  rcases hle with ⟨more, rfl⟩
  exact ⟨pre, post ++ more, by rw [List.append_assoc, List.cons_append], hmem⟩

/-- Nothing more is recorded of a handler. -/
theorem Over.mono {history history' : List Fact} {id : Nat} (h : Over history id)
    (hle : history <+: history') (hfacts : facts id history' = facts id history) :
    Over history' id := by
  rcases h with ⟨action, course, hcourse, hprefix, hover⟩
  rw [← hfacts] at hprefix hover
  exact ⟨action, course, hcourse, hprefix, hover.imp_right fun h => h.mono hle⟩

theorem running_set {p : Phone} {k : Nat} {v v' : RegistrationService} {s' : Shared}
    (hk : p.services[k]? = some v) (j : Nat) :
    ({ p with shared := s', services := p.services.set k v' } : Phone).running j =
      if k = j then v'.running else p.running j := by
  have hlt := (List.getElem?_eq_some_iff.mp hk).1
  unfold Phone.running
  rw [List.getElem?_set]
  by_cases hkj : k = j
  · rw [if_pos hkj, if_pos hkj, if_pos hlt, Option.bind_some]
  · rw [if_neg hkj, if_neg hkj]

/-- No handler goes on. -/
theorem Numbered.same {p q : Phone} (hp : Numbered p)
    (hrunning : ∀ k, q.running k = p.running k) (hbegun : q.shared.begun = p.shared.begun)
    (hle : p.shared.history <+: q.shared.history)
    (hfacts : ∀ id, facts id q.shared.history = facts id p.shared.history) : Numbered q where
  going k r hr := by
    rw [hrunning] at hr
    rw [hbegun, hfacts]
    exact hp.going k r hr
  distinct k k' r r' hr hr' := by
    rw [hrunning] at hr hr'
    exact hp.distinct k k' r r' hr hr'
  gone id hid hnone := by
    rw [hbegun] at hid
    refine (hp.gone id hid fun k r hr => hnone k r ?_).mono hle (hfacts id)
    rw [hrunning]
    exact hr
  fresh id hid := by
    rw [hbegun] at hid
    rw [hfacts]
    exact hp.fresh id hid

/-- One handler begins or goes on. -/
theorem Numbered.moves {p : Phone} (hp : Numbered p) {k : Nat} {v v' : RegistrationService}
    {s' : Shared} {h : Handling} (hk : p.services[k]? = some v)
    (howner : ∀ j u, p.running j = some u → (u.handling.id = h.id ↔ k = j))
    (hle : p.shared.begun ≤ s'.begun) (hnumber : h.id < s'.begun)
    (hnew : ∀ id, id < s'.begun → id ≠ h.id → id < p.shared.begun)
    (hgrows : p.shared.history <+: s'.history)
    (hothers : ∀ id, id ≠ h.id → facts id s'.history = facts id p.shared.history)
    (hgoesOn : GoesOn h (facts h.id s'.history) v'.running) :
    Numbered { p with shared := s', services := p.services.set k v' } := by
  -- Each handler there is now is this one, or was there before.
  have hnow : ∀ j t, ({ p with shared := s', services := p.services.set k v' } :
      Phone).running j = some t →
      (k = j ∧ t.handling.id = h.id ∧ t.handling.action = h.action ∧
        Sofar h.id h.action (facts h.id s'.history) t.pc) ∨
      (k ≠ j ∧ p.running j = some t ∧ t.handling.id ≠ h.id) := by
    intro j t ht
    rw [running_set hk] at ht
    by_cases hkj : k = j
    · rw [if_pos hkj] at ht
      rw [ht] at hgoesOn
      exact .inl ⟨hkj, hgoesOn⟩
    · rw [if_neg hkj] at ht
      exact .inr ⟨hkj, ht, fun heq => hkj ((howner j t ht).mp heq)⟩
  refine ⟨fun j t ht => ?_, fun j j' t t' ht ht' heq => ?_, fun id hid hnone => ?_,
    fun id hid => ?_⟩
  -- The courses of the others do not change, since the facts are about this one.
  · rcases hnow j t ht with ⟨-, hid, haction, hsofar⟩ | ⟨-, hold, hne⟩
    · rw [hid, haction]
      exact ⟨hnumber, hsofar⟩
    · rw [hothers _ hne]
      exact ⟨Nat.lt_of_lt_of_le (hp.going j t hold).1 hle, (hp.going j t hold).2⟩
  · rcases hnow j t ht with ⟨hj, hid, -⟩ | ⟨-, hold, hne⟩
    · rcases hnow j' t' ht' with ⟨hj', -⟩ | ⟨-, -, hne'⟩
      · rw [← hj, hj']
      · exact absurd (heq.symm.trans hid) hne'
    · rcases hnow j' t' ht' with ⟨-, hid', -⟩ | ⟨-, hold', -⟩
      · exact absurd (heq.trans hid') hne
      · exact hp.distinct j j' t t' hold hold' heq
  · by_cases hown : id = h.id
    · -- It is not there any more, so it has come to its end.
      have hended : v'.running = none := by
        cases hv' : v'.running with
        | none => rfl
        | some t =>
            have hne := hnone k t ((running_set hk k).trans ((if_pos rfl).trans hv'))
            rw [hv'] at hgoesOn
            exact absurd (hgoesOn.1.trans hown.symm) hne
      rw [hended] at hgoesOn
      rw [hown]
      exact ⟨_, _, hgoesOn, List.prefix_rfl, .inl rfl⟩
    · refine (hp.gone id (hnew id hid hown) fun j t ht heq => ?_).mono hgrows (hothers id hown)
      have hkj : k ≠ j := fun hkj => hown (heq.symm.trans ((howner j t ht).mpr hkj))
      exact hnone j t ((running_set hk j).trans ((if_neg hkj).trans ht)) heq
  · have hne : id ≠ h.id := fun heq => absurd (heq ▸ hid) (Nat.not_le_of_lt hnumber)
    rw [hothers id hne]
    exact hp.fresh id (Nat.le_trans hle hid)

/-- The handler of a service goes on. -/
theorem Numbered.goesOn {p : Phone} (hp : Numbered p) {k : Nat} {v v' : RegistrationService}
    {s' : Shared} {r : Running} (hk : p.services[k]? = some v) (hr : v.running = some r)
    (hrecords : Records r.handling p.shared s')
    (hgoesOn : GoesOn r.handling (facts r.handling.id s'.history) v'.running) :
    Numbered { p with shared := s', services := p.services.set k v' } := by
  have hrunning : p.running k = some r := (Phone.running_eq hk).trans hr
  -- The handler is known by its number, which no other has.
  refine hp.moves hk (fun j u hu => ⟨fun heq => ?_, fun hkj => ?_⟩)
    (Nat.le_of_eq hrecords.begun.symm) (hrecords.begun ▸ (hp.going k r hrunning).1)
    (fun id hid _ => hrecords.begun ▸ hid) hrecords.grows hrecords.others hgoesOn
  · exact hp.distinct k j r u hrunning hu heq.symm
  · rw [← hkj, hrunning, Option.some.injEq] at hu
    rw [hu]

/-- A service takes an intent. -/
theorem Numbered.begins {p : Phone} (hp : Numbered p) {k : Nat} {v : RegistrationService}
    {intent : Intent} {executor : List Intent} (hk : p.services[k]? = some v)
    (hnone : v.running = none) (hintent : intent.action ≠ .other) :
    Numbered { p with
      shared := { p.shared with begun := p.shared.begun + 1 }.record
        (.begun p.shared.begun intent.action)
      services := p.services.set k { v with
        executor := executor
        running := (first intent.action).map fun pc =>
          ⟨⟨p.shared.begun, intent.action, intent.e164number, intent.password, intent.key, none⟩,
            pc, none⟩ } } := by
  have habout : (Fact.begun p.shared.begun intent.action).about p.shared.begun = true :=
    beq_self_eq_true _
  have hfacts : facts p.shared.begun (p.shared.history ++ [.begun p.shared.begun intent.action]) =
      [.begun p.shared.begun intent.action] := by
    rw [facts_concat_about habout, hp.fresh _ (Nat.le_refl _), List.nil_append]
  let h : Handling :=
    ⟨p.shared.begun, intent.action, intent.e164number, intent.password, intent.key, none⟩
  -- Its number is new, so nothing has been recorded of it.
  refine hp.moves (h := h) hk (fun j u hu => ⟨fun heq => ?_, fun hkj => ?_⟩) (Nat.le_succ _)
    (Nat.lt_succ_self _) (fun id hid hne => ?_) (List.prefix_append _ _) (fun id hne => ?_) ?_
  · exact absurd heq (Nat.ne_of_lt (hp.going j u hu).1)
  · rw [← hkj, Phone.running_eq hk, hnone] at hu
    exact absurd hu (Option.some_ne_none _).symm
  · exact Nat.lt_of_le_of_ne (Nat.le_of_lt_succ hid) hne
  · exact facts_concat (beq_eq_false_iff_ne.mpr (Ne.symm hne))
  · change GoesOn h (facts p.shared.begun
      (p.shared.history ++ [.begun p.shared.begun intent.action])) ((first intent.action).map _)
    rw [hfacts]
    exact first_goesOn h hintent

/-! ## The steps of the phone -/

theorem shutdownChallengeListener_same {v w : RegistrationService}
    (hclose : v.shutdownChallengeListener = .ok w) :
    w.running = v.running ∧ w.executor = v.executor ∧ w.challenge = v.challenge ∧
      w.receivers ⊆ v.receivers := by
  unfold RegistrationService.shutdownChallengeListener at hclose
  split at hclose
  · rw [Except.ok.inj hclose]
    exact ⟨rfl, rfl, rfl, List.Subset.refl _⟩
  · split at hclose
    · rw [← Except.ok.inj hclose]
      exact ⟨rfl, rfl, rfl, List.erase_subset⟩
    · simp only [reduceCtorEq] at hclose

/-- The tasks of the services are those that they have handlers for. -/
def Phone.Listed (p : Phone) : Prop := ∀ v ∈ p.services, ∀ i ∈ v.executor, i.action ≠ .other

theorem executes_executor {met : Met} {s s' : Shared} {v v' : RegistrationService} {h : Handling}
    {pc : Pc} (hexecutes : Executes util gson met s v h pc s' v') : v'.executor = v.executor := by
  cases hexecutes with
  | closes haction hclose => exact (shutdownChallengeListener_same hclose).2.1
  | _ => rfl

theorem acts_executor {allowed : Option JavaString → Prop} {s s' : Shared}
    {v v' : RegistrationService} (hacts : Acts util gson allowed s v s' v') :
    v'.executor ⊆ v.executor := by
  cases hacts with
  | runs hr hsetState hexecutes =>
      rw [executes_executor hexecutes]
      exact List.Subset.refl _
  | takes hnone hexecutor =>
      rw [hexecutor]
      exact List.subset_cons_self _ _
  | closes hclose =>
      rw [(shutdownChallengeListener_same hclose).2.1]
      exact List.Subset.refl _
  | _ => exact List.Subset.refl _

theorem listed_effect {allowed : Option JavaString → Prop} {p q : Phone} (hp : p.Listed)
    (heffect : Effect util gson allowed p q) : q.Listed := by
  refine Phone.services_effect (fun i hi => absurd hi List.not_mem_nil) (fun v intent hv i hi => ?_)
    (fun k v s' v' _ hv hacts i hi => hv i (acts_executor hacts hi)) hp heffect
  -- An intent with another action gets no task.
  unfold RegistrationService.onStartCommand at hi
  simp only [] at hi
  split at hi
  · rename_i haction
    rcases List.mem_append.mp hi with hi | hi
    · exact hv i hi
    · rw [List.mem_singleton.mp hi]
      intro hother
      simp only [hother, reduceCtorEq, or_self] at haction
  · exact hv i hi

/-- Something is done to a service that its handler does not do. -/
theorem Numbered.untouched {p : Phone} (hp : Numbered p) {k : Nat} {v v' : RegistrationService}
    {s' : Shared} (hk : p.services[k]? = some v) (hrunning : v'.running = v.running)
    (hbegun : s'.begun = p.shared.begun) (hle : p.shared.history <+: s'.history)
    (hfacts : ∀ id, facts id s'.history = facts id p.shared.history) :
    Numbered { p with shared := s', services := p.services.set k v' } := by
  refine hp.same (fun j => ?_) hbegun hle hfacts
  rw [running_set hk]
  by_cases hkj : k = j
  · rw [if_pos hkj, hrunning, ← hkj, Phone.running_eq hk]
  · rw [if_neg hkj]

theorem acts_numbered {allowed : Option JavaString → Prop} {p : Phone} (hlisted : p.Listed)
    (hp : Numbered p) {k : Nat} {v v' : RegistrationService} {s' : Shared}
    (hk : p.services[k]? = some v)
    (hacts : Acts util gson allowed p.shared v s' v') :
    Numbered { p with shared := s', services := p.services.set k v' } := by
  have hrunning : ∀ r, v.running = some r → p.running k = some r := fun r hr =>
    (Phone.running_eq hk).trans hr
  cases hacts with
  | runs hr hsetState hexecutes =>
      refine hp.goesOn hk hr (executes_records hexecutes) (executes_goesOn ?_ hexecutes)
      exact (hp.going k _ (hrunning _ hr)).2
  | tests hr hsetState =>
      refine hp.goesOn hk hr (.same rfl rfl) ⟨rfl, rfl, ?_⟩
      exact (hp.going k _ (hrunning _ hr)).2
  | sends hr hsetState =>
      refine hp.goesOn hk hr (.same rfl rfl) ⟨rfl, rfl, ?_⟩
      exact (hp.going k _ (hrunning _ hr)).2
  -- The thread was free, and begins with the next of its tasks.
  | takes hnone hexecutor =>
      refine hp.begins hk hnone (hlisted v (List.mem_of_getElem? hk) _ ?_)
      rw [hexecutor]
      exact List.mem_cons_self
  | wakes hr hchallenge =>
      refine hp.goesOn hk hr (.same rfl rfl) ⟨rfl, rfl, ?_⟩
      exact (hp.going k _ (hrunning _ hr)).2
  -- Giving up is a fact of the course of its own.
  | @timesOut h hr hchallenge =>
      have habout : (Fact.timedOut h.id).about h.id = true := beq_self_eq_true h.id
      have hsofar : Sofar h.id h.action (facts h.id p.shared.history) .waiting :=
        (hp.going k _ (hrunning _ hr)).2
      refine hp.goesOn hk hr (.record fun id hid => beq_eq_false_iff_ne.mpr (Ne.symm hid))
        ⟨rfl, rfl, ?_⟩
      change Course h.id h.action (facts h.id (p.shared.history ++ [.timedOut h.id]) ++ _)
      rw [facts_concat_about habout, hsofar.2, hsofar.1]
      exact .timedOut
  -- What is received is nobody's.
  | receives hreceiver hallowed =>
      exact hp.untouched hk rfl rfl (List.prefix_append _ _) fun _ => facts_concat rfl
  | closes hclose =>
      exact hp.untouched hk (shutdownChallengeListener_same hclose).1 rfl List.prefix_rfl
        fun _ => rfl
  | _ => exact hp.untouched hk rfl rfl List.prefix_rfl fun _ => rfl

/-- What a task of the activity records is about no handler. -/
theorem doInBackground_records {t t' : AsyncTask} {met : Met} {s s' : Shared}
    (hdone : t.doInBackground util gson met s = .ok (s', t')) :
    s'.begun = s.begun ∧ s.history <+: s'.history ∧
      ∀ id, facts id s'.history = facts id s.history := by
  unfold AsyncTask.doInBackground at hdone
  split at hdone
  · simp only [reduceCtorEq] at hdone
  · rename_i e hperform
    by_cases hcaught : caught e = true
    · rw [if_pos hcaught, Except.ok.injEq, Prod.mk.injEq] at hdone
      rw [← hdone.1]
      exact ⟨rfl, List.prefix_rfl, fun _ => rfl⟩
    · rw [if_neg hcaught] at hdone
      simp only [reduceCtorEq] at hdone
  · rename_i a hperform
    rw [Except.ok.injEq, Prod.mk.injEq] at hdone
    rw [← hdone.1]
    refine ⟨rfl, List.prefix_append _ _, fun id => facts_concat ?_⟩
    unfold AsyncTask.fact
    cases t.request with
    | call => rfl
    | verify code key => rfl

/-- The process ends, and all that it executes. -/
theorem Numbered.dies {p : Phone} (hp : Numbered p) : Numbered p.die := by
  have hnone : ∀ k, p.die.running k = none := fun k => rfl
  have hfacts : ∀ id, facts id p.die.shared.history = facts id p.shared.history :=
    fun _ => facts_concat rfl
  refine ⟨fun k r hr => ?_, fun k k' r r' hr => ?_, fun id hid _ => ?_, fun id hid => ?_⟩
  · exact absurd hr (Option.some_ne_none _).symm
  · exact absurd hr (Option.some_ne_none _).symm
  · by_cases hrunning : ∃ k r, p.running k = some r ∧ r.handling.id = id
    · -- What the handler has recorded stays the beginning of a course.
      rcases hrunning with ⟨k, r, hr, rfl⟩
      rcases (hp.going k r hr).2.exists_course with ⟨course, hcourse, hprefix, hmem⟩
      refine ⟨_, course, hcourse, ?_, .inr ⟨p.shared.history, [], rfl, ?_⟩⟩
      · rw [hfacts]
        exact hprefix
      · exact (List.mem_filter.mp hmem).1
    · have hover := hp.gone id hid fun k r hr heq => hrunning ⟨k, r, hr, heq⟩
      exact hover.mono (List.prefix_append _ _) (hfacts id)
  · rw [hfacts]
    exact hp.fresh id hid

/-- A step keeps every handler on its course. -/
theorem numbered_effect {allowed : Option JavaString → Prop} {p q : Phone} (hlisted : p.Listed)
    (hp : Numbered p) (heffect : Effect util gson allowed p q) : Numbered q := by
  cases heffect with
  -- A new service has no handler.
  | creates =>
      refine hp.same (fun k => ?_) rfl List.prefix_rfl fun _ => rfl
      unfold Phone.running
      rw [List.getElem?_append]
      by_cases hk : k < p.services.length
      · rw [if_pos hk]
      · rw [if_neg hk, List.getElem?_eq_none (Nat.le_of_not_lt hk), Option.bind_none]
        rw [List.getElem?_singleton]
        split
        · rfl
        · rfl
  | acts hk hacts => exact acts_numbered hlisted hp hk hacts
  | dies => exact hp.dies
  | @delivers intent intents k v hintents hk =>
      have hrunning : (v.onStartCommand (some intent)).running = v.running := by
        unfold RegistrationService.onStartCommand
        simp only []
        split
        · rfl
        · rfl
      have hdelivered := hp.untouched hk hrunning rfl List.prefix_rfl fun _ => rfl
      exact hdelivered.same (fun _ => rfl) rfl List.prefix_rfl fun _ => rfl
  | enters key code hstate hrequested =>
      exact hp.same (fun _ => rfl) rfl (List.prefix_append _ _) fun _ => facts_concat rfl
  | background hi hsuccess hdone =>
      rcases doInBackground_records hdone with ⟨hbegun, hle, hfacts⟩
      exact hp.same (fun _ => rfl) hbegun hle hfacts
  | _ => exact hp.same (fun _ => rfl) rfl List.prefix_rfl fun _ => rfl

theorem numbered_create : Numbered Phone.create where
  going _ _ hr := absurd hr (Option.some_ne_none _).symm
  distinct _ _ _ _ hr := absurd hr (Option.some_ne_none _).symm
  gone id hid := absurd hid (Nat.not_lt_zero id)
  fresh _ _ := rfl

theorem numbered_of_run {events : List Event} {p : Phone}
    (hrun : Run.run (Phone.step util gson) Phone.create events = .ok p) : Numbered p := by
  have hkeep : ∀ q q', q.Listed ∧ Numbered q → Effect util gson (fun _ => True) q q' →
      q'.Listed ∧ Numbered q' :=
    fun _ _ h heffect => ⟨listed_effect h.1 heffect, numbered_effect h.1 h.2 heffect⟩
  have hlisted : Phone.create.Listed := fun _ hv => absurd hv List.not_mem_nil
  exact (Phone.kept_of_effects hkeep (fun _ _ _ _ => trivial) ⟨hlisted, numbered_create⟩ hrun).2

/-- What has happened of a handler is a part of one course, and all of it once
    the handler is over, unless the process has ended meanwhile. -/
theorem handler_course {events : List Event} {p : Phone}
    (hrun : Run.run (Phone.step util gson) Phone.create events = .ok p) (id : Nat) :
    facts id p.shared.history = [] ∨
      ∃ action course, Course id action course ∧ facts id p.shared.history <+: course ∧
        ((∀ k r, p.running k = some r → r.handling.id ≠ id) →
          (∀ pre post, p.shared.history = pre ++ Fact.died :: post →
            Fact.begun id action ∉ pre) →
          facts id p.shared.history = course) := by
  have hp := numbered_of_run hrun
  -- A number that has not been given yet has no facts.
  by_cases hid : id < p.shared.begun
  · refine .inr ?_
    by_cases hrunning : ∃ k r, p.running k = some r ∧ r.handling.id = id
    · rcases hrunning with ⟨k, r, hr, rfl⟩
      rcases (hp.going k r hr).2.exists_course with ⟨course, hcourse, hprefix, -⟩
      exact ⟨_, course, hcourse, hprefix, fun hnone => absurd rfl (hnone k r hr)⟩
    · have hover := hp.gone id hid fun k r hr heq => hrunning ⟨k, r, hr, heq⟩
      rcases hover with ⟨action, course, hcourse, hprefix, hwhole⟩
      refine ⟨action, course, hcourse, hprefix, fun _ halive => ?_⟩
      rcases hwhole with hwhole | ⟨pre, post, hsplit, hmem⟩
      · exact hwhole
      · exact absurd hmem (halive pre post hsplit)
  · exact .inl (hp.fresh id (Nat.le_of_not_lt hid))

theorem handler_course_called : ∃ p,
    Run.run (Phone.step parsesNothing sessionGson) Phone.create calledEvents = .ok p ∧
      (facts 0 p.shared.history).length = 3 ∧
      (facts 0 p.shared.history = [] ∨
        ∃ action course, Course 0 action course ∧ facts 0 p.shared.history <+: course ∧
          ((∀ k r, p.running k = some r → r.handling.id ≠ 0) →
            (∀ pre post, p.shared.history = pre ++ Fact.died :: post →
              Fact.begun 0 action ∉ pre) →
            facts 0 p.shared.history = course)) := by
  have hends : (Run.run (Phone.step parsesNothing sessionGson) Phone.create
      calledEvents).toOption.map (fun p => (facts 0 p.shared.history).length) = some 3 := by
    decide +kernel
  cases hrun : Run.run (Phone.step parsesNothing sessionGson) Phone.create calledEvents with
  | error e => simp only [hrun, Except.toOption, Option.map_none, reduceCtorEq] at hends
  | ok p =>
      simp only [hrun, Except.toOption, Option.map_some, Option.some.injEq] at hends
      exact ⟨p, rfl, hends, handler_course hrun 0⟩

/-! ## Waiting -/

/-- The statements a handler waits at. -/
def Pc.awaits : Pc → Prop
  | .waitForChallenge | .waiting => True
  | _ => False

/-- The statements after a wait, with what it has found. -/
def Pc.after (found : Bool) : Pc → Prop
  | .verifyAccount _ | .markAsVerified | .openSocket | .retrieveDirectory | .setComplete =>
    found = true
  | .setFailed _ | .broadcastComplete _ | .finish => True
  | _ => False

/-- What a wait will find is decided. -/
def RegistrationService.decides (v : RegistrationService) : Bool → Prop
  | true => v.challenge.isSome
  | false => v.challenge = none ∧ v.receivers = []

/-- A wait is decided, or over. -/
def Waits (found : Bool) (v : RegistrationService) (pc : Pc) : Prop :=
  pc.after found ∨ pc.awaits ∧ v.decides found

/-- What will not happen after a wait. -/
def excluded (id : Nat) : Bool → Fact
  | true => .timedOut id
  | false => .marked id

/-- The wait of a handler is decided. -/
structure Decided (found : Bool) (id : Nat) (p : Phone) : Prop where
  begun : id < p.shared.begun
  waits : ∀ v ∈ p.services, ∀ r, v.running = some r → r.handling.id = id → Waits found v r.pc
  never : excluded id found ∉ facts id p.shared.history

theorem not_mem_facts_concat {id : Nat} {history : List Fact} {fact fact' : Fact}
    (hne : fact ≠ fact') (h : fact ∉ facts id history) : fact ∉ facts id (history ++ [fact']) := by
  intro hmem
  rcases List.mem_append.mp (List.mem_filter.mp hmem).1 with hold | hnew
  · exact h (List.mem_filter.mpr ⟨hold, (List.mem_filter.mp hmem).2⟩)
  · exact hne (List.mem_singleton.mp hnew)

theorem not_mem_facts_stray {id : Nat} {history : List Fact} {fact fact' : Fact}
    (habout : fact'.about id = false) (h : fact ∉ facts id history) :
    fact ∉ facts id (history ++ [fact']) :=
  (facts_concat habout).symm ▸ h

theorem executes_id {met : Met} {s s' : Shared} {v v' : RegistrationService} {h : Handling}
    {pc : Pc} (hexecutes : Executes util gson met s v h pc s' v') {r : Running}
    (hr : v'.running = some r) : r.handling.id = h.id := by
  cases hexecutes with
  | closes haction hclose => exact absurd hr (Option.some_ne_none _).symm
  | ends haction => exact absurd hr (Option.some_ne_none _).symm
  | _ => exact Option.some.inj hr ▸ rfl

theorem shows_after {found : Bool} {v : RegistrationService} {h : Handling} {pc next : Pc}
    {state : RegistrationState} (hwaits : Waits found v pc)
    (hshows : h.shows pc = some (state, next)) : next.after found := by
  cases pc with
  | setComplete =>
      rw [Handling.shows, Option.some.injEq, Prod.mk.injEq] at hshows
      rw [← hshows.2]
      trivial
  | setFailed state' =>
      rw [Handling.shows, Option.some.injEq, Prod.mk.injEq] at hshows
      rw [← hshows.2]
      trivial
  | setVoiceRequested => exact hwaits.elim False.elim fun h => h.1.elim
  | setConnecting => exact hwaits.elim False.elim fun h => h.1.elim
  | setVerifyingSms => exact hwaits.elim False.elim fun h => h.1.elim
  | setVerifyingVoice => exact hwaits.elim False.elim fun h => h.1.elim
  | _ => simp only [Handling.shows, reduceCtorEq] at hshows

/-- A statement of the handler itself. -/
theorem executes_waits {found : Bool} {met : Met} {s s' : Shared} {v v' : RegistrationService}
    {h : Handling} {pc : Pc} (hwaits : Waits found v pc)
    (hexecutes : Executes util gson met s v h pc s' v') :
    (∀ r, v'.running = some r → Waits found v' r.pc) ∧
      (excluded h.id found ∉ facts h.id s.history →
        excluded h.id found ∉ facts h.id s'.history) := by
  -- Before the wait there are no such statements.
  have hbefore : ¬ pc.after found → ¬ pc.awaits → False :=
    fun hafter hawaits => hwaits.elim hafter fun h => hawaits h.1
  have hnext : ∀ {w : RegistrationService} {h' : Handling} {next : Pc}, next.after found →
      ∀ r, (w.goto h' next).running = some r → Waits found (w.goto h' next) r.pc := by
    intro w h' next hafter r hr
    rw [← Option.some.inj hr]
    exact .inl hafter
  cases hexecutes with
  | marksVerifying => exact (hbefore id id).elim
  | listens => exact (hbefore id id).elim
  | shows hshows =>
      refine ⟨fun r hr => ?_, id⟩
      rw [← Option.some.inj hr]
      exact .inl (shows_after hwaits hshows)
  | creates hperform => exact (hbefore id id).elim
  -- A failure says nothing about the wait before it.
  | fails hconnects => exact ⟨hnext trivial, id⟩
  | finds hchallenge =>
      refine ⟨hnext ?_, id⟩
      rcases hwaits with hafter | ⟨-, hdecides⟩
      · exact hafter.elim
      · cases found with
        | true => rfl
        | false => exact absurd (hdecides.1.symm.trans hchallenge) (Option.some_ne_none _).symm
  | waits hchallenge =>
      refine ⟨fun r hr => ?_, id⟩
      rw [← Option.some.inj hr]
      exact .inr ⟨trivial, hwaits.elim False.elim fun h => h.2⟩
  | verifies hkey hperform =>
      exact ⟨hnext (hwaits.elim id fun h => h.1.elim), not_mem_facts_stray rfl⟩
  | marks =>
      -- Only a wait that has found a challenge comes here.
      have hfound : found = true := hwaits.elim id fun h => h.1.elim
      refine ⟨hnext ?_, not_mem_facts_concat ?_⟩
      · by_cases haction : h.action = .voiceRegisterNumber
        · rw [if_pos haction]
          exact hfound
        · rw [if_neg haction]
          exact hfound
      · rw [hfound]
        simp only [excluded, ne_eq, reduceCtorEq, not_false_eq_true]
  | opens hcreate => exact ⟨hnext (hwaits.elim id fun h => h.1.elim), id⟩
  | retrieves => exact ⟨hnext (hwaits.elim id fun h => h.1.elim), id⟩
  | announces =>
      refine ⟨hnext trivial, not_mem_facts_concat ?_⟩
      cases found with
      | _ => simp only [excluded, ne_eq, reduceCtorEq, not_false_eq_true]
  | closes haction hclose => exact ⟨fun r hr => absurd hr (Option.some_ne_none _).symm, id⟩
  | ends haction => exact ⟨fun r hr => absurd hr (Option.some_ne_none _).symm, id⟩

/-- Whatever is done to a service, the wait stays decided. -/
theorem acts_waits {found : Bool} {id : Nat} {s s' : Shared} {v v' : RegistrationService}
    (hid : id < s.begun)
    (hv : ∀ r, v.running = some r → r.handling.id = id → Waits found v r.pc)
    (hnever : excluded id found ∉ facts id s.history)
    (hacts : Acts util gson (fun c => found = true → c.isSome) s v s' v') :
    s.begun ≤ s'.begun ∧
      (∀ r, v'.running = some r → r.handling.id = id → Waits found v' r.pc) ∧
      excluded id found ∉ facts id s'.history := by
  cases hacts with
  | @runs met r s' v' hr hsetState hexecutes =>
      have hrecords := executes_records hexecutes
      refine ⟨Nat.le_of_eq hrecords.begun.symm, ?_⟩
      by_cases hown : r.handling.id = id
      · subst hown
        have hkept := executes_waits (hv r hr rfl) hexecutes
        exact ⟨fun t ht _ => hkept.1 t ht, hkept.2 hnever⟩
      · refine ⟨fun t ht heq => absurd ((executes_id hexecutes ht).symm.trans heq) hown, ?_⟩
        rw [hrecords.others id (Ne.symm hown)]
        exact hnever
  | @tests r state hr hsetState =>
      refine ⟨Nat.le_refl _, fun t ht heq => ?_, hnever⟩
      rw [← Option.some.inj ht] at heq ⊢
      exact hv r hr heq
  | @sends r state hr hsetState =>
      refine ⟨Nat.le_refl _, fun t ht heq => ?_, hnever⟩
      rw [← Option.some.inj ht] at heq ⊢
      exact hv r hr heq
  | takes hnone hexecutor =>
      have hother : (s.begun == id) = false := beq_eq_false_iff_ne.mpr (Nat.ne_of_gt hid)
      refine ⟨Nat.le_succ _, fun t ht heq => ?_, not_mem_facts_stray hother hnever⟩
      rcases Option.map_eq_some_iff.mp ht with ⟨pc, -, rfl⟩
      exact absurd heq.symm (Nat.ne_of_lt hid)
  | wakes hr hchallenge =>
      refine ⟨Nat.le_refl _, fun t ht heq => ?_, hnever⟩
      rw [← Option.some.inj ht] at heq ⊢
      rcases hv _ hr heq with hafter | ⟨-, hdecides⟩
      · exact hafter.elim
      · cases found with
        | true => exact .inl rfl
        | false => exact absurd (hdecides.1.symm.trans hchallenge) (Option.some_ne_none _).symm
  | @timesOut h hr hchallenge =>
      refine ⟨Nat.le_refl _, fun t ht heq => ?_, not_mem_facts_concat (fun heq => ?_) hnever⟩
      · rw [← Option.some.inj ht]
        exact .inl trivial
      · cases found with
        | true =>
            rcases hv _ hr (Fact.timedOut.inj heq).symm with hafter | ⟨-, hdecides⟩
            · exact hafter
            · change v.challenge.isSome = true at hdecides
              rw [hchallenge] at hdecides
              simp only [Option.isSome_none, Bool.false_eq_true] at hdecides
        | false => simp only [excluded, reduceCtorEq] at heq
  | receives hreceiver hallowed =>
      refine ⟨Nat.le_refl _, fun t ht heq => ?_, not_mem_facts_stray rfl hnever⟩
      refine (hv t ht heq).imp_right fun h => ⟨h.1, ?_⟩
      cases found with
      | true => exact hallowed rfl
      | false => exact absurd (h.2.2 ▸ hreceiver) List.not_mem_nil
  | closes hclose =>
      rcases shutdownChallengeListener_same hclose with ⟨hrunning, -, hchallenge, hreceivers⟩
      refine ⟨Nat.le_refl _, fun t ht heq => ?_, hnever⟩
      rw [hrunning] at ht
      refine (hv t ht heq).imp_right fun h => ⟨h.1, ?_⟩
      cases found with
      | true =>
          change v'.challenge.isSome = true
          rw [hchallenge]
          exact h.2
      | false =>
          refine ⟨hchallenge.trans h.2.1, List.subset_nil.mp ?_⟩
          rw [← h.2.2]
          exact hreceivers
  | _ => exact ⟨Nat.le_refl _, hv, hnever⟩

/-- What becomes of one service. -/
theorem Decided.set {found : Bool} {id : Nat} {p : Phone} (hp : Decided found id p) {s' : Shared}
    {k : Nat} {v' : RegistrationService} (hbegun : p.shared.begun ≤ s'.begun)
    (hv' : ∀ r, v'.running = some r → r.handling.id = id → Waits found v' r.pc)
    (hnever : excluded id found ∉ facts id s'.history) :
    Decided found id { p with shared := s', services := p.services.set k v' } := by
  refine ⟨Nat.lt_of_lt_of_le hp.begun hbegun, fun w hw => ?_, hnever⟩
  rcases List.mem_or_eq_of_mem_set hw with hw | rfl
  · exact hp.waits w hw
  · exact hv'

theorem Decided.same {found : Bool} {id : Nat} {p q : Phone} (hp : Decided found id p)
    (hshared : q.shared = p.shared) (hservices : q.services = p.services) :
    Decided found id q := by
  refine ⟨?_, ?_, ?_⟩
  · rw [hshared]
    exact hp.begun
  · rw [hservices]
    exact hp.waits
  · rw [hshared]
    exact hp.never

theorem decided_effect {found : Bool} {id : Nat} {p q : Phone} (hp : Decided found id p)
    (heffect : Effect util gson (fun c => found = true → c.isSome) p q) : Decided found id q := by
  cases heffect with
  | creates =>
      refine ⟨hp.begun, fun v hv r hr => ?_, hp.never⟩
      rcases List.mem_append.mp hv with hv | hv
      · exact hp.waits v hv r hr
      · rw [List.mem_singleton.mp hv] at hr
        exact absurd hr (Option.some_ne_none _).symm
  | acts hk hacts =>
      have hv := hp.waits _ (List.mem_of_getElem? hk)
      rcases acts_waits hp.begun hv hp.never hacts with ⟨hbegun, hv', hnever⟩
      exact hp.set hbegun hv' hnever
  | dies =>
      exact ⟨hp.begun, fun v hv => absurd hv List.not_mem_nil, not_mem_facts_stray rfl hp.never⟩
  | @delivers intent intents k v hintents hk =>
      have hv := hp.waits v (List.mem_of_getElem? hk)
      refine (Decided.set hp (Nat.le_refl _) ?_ hp.never).same rfl rfl
      unfold RegistrationService.onStartCommand
      simp only []
      split
      · exact hv
      · exact hv
  | enters key code hstate hrequested =>
      exact ⟨hp.begun, hp.waits, not_mem_facts_stray rfl hp.never⟩
  | background hi hsuccess hdone =>
      rcases doInBackground_records hdone with ⟨hbegun, -, hfacts⟩
      refine ⟨hbegun ▸ hp.begun, hp.waits, ?_⟩
      rw [hfacts]
      exact hp.never
  | _ => exact ⟨hp.begun, hp.waits, hp.never⟩

/-- A handler that awaits has only begun. -/
theorem Sofar.awaiting {id : Nat} {action : Action} {fs : List Fact} {pc : Pc}
    (h : Sofar id action fs pc) (hawaits : pc.awaits) : fs = [.begun id action] := by
  cases pc with
  | waitForChallenge => exact h.2
  | waiting => exact h.2
  | _ => exact hawaits.elim

theorem Numbered.decided {p : Phone} (hp : Numbered p) {k : Nat} {v : RegistrationService}
    {r : Running} {found : Bool} (hk : p.services[k]? = some v) (hr : v.running = some r)
    (hawaits : r.pc.awaits) (hdecides : v.decides found) : Decided found r.handling.id p := by
  have hrunning : p.running k = some r := (Phone.running_eq hk).trans hr
  rcases hp.going k r hrunning with ⟨hbegun, hsofar⟩
  refine ⟨hbegun, fun w hw t ht heq => ?_, ?_⟩
  · -- No other service is in this handler.
    rcases List.mem_iff_getElem?.mp hw with ⟨j, hj⟩
    have hother : p.running j = some t := (Phone.running_eq hj).trans ht
    have hkj := hp.distinct k j r t hrunning hother heq.symm
    rw [← hkj, hk, Option.some.injEq] at hj
    rw [← hj, hr, Option.some.injEq] at ht
    rw [← hj, ← ht]
    exact .inr ⟨hawaits, hdecides⟩
  · rw [hsofar.awaiting hawaits]
    cases found with
    | _ => simp only [excluded, List.mem_singleton, reduceCtorEq, not_false_eq_true]

theorem decided_of_run {found : Bool} {id : Nat} {later : List Event} {p q : Phone}
    (hp : Decided found id p)
    (hreceived : ∀ k receiver challenge, Event.receive k receiver challenge ∈ later →
      found = true → challenge.isSome)
    (hrun : Run.run (Phone.step util gson) p later = .ok q) :
    excluded id found ∉ q.shared.history := by
  have hkeep : ∀ t t', Decided found id t →
      Effect util gson (fun c => found = true → c.isSome) t t' → Decided found id t' :=
    fun _ _ => decided_effect
  have hq := Phone.kept_of_effects hkeep hreceived hp hrun
  intro hmem
  refine hq.never (List.mem_filter.mpr ⟨hmem, ?_⟩)
  cases found with
  | true => exact beq_self_eq_true id
  | false => exact beq_self_eq_true id

/-- A registration that has its challenge does not time out, unless a message
    without one is received; one that has none, and no receiver any more, does
    not mark the phone, whatever messages come. -/
theorem wait_decided {events later : List Event} {p q : Phone} {k : Nat} {v : RegistrationService}
    {r : Running} (hrun : Run.run (Phone.step util gson) Phone.create events = .ok p)
    (hk : p.services[k]? = some v) (hr : v.running = some r) (hawaits : r.pc.awaits)
    (hlater : Run.run (Phone.step util gson) p later = .ok q) :
    (v.challenge.isSome → (∀ j receiver, Event.receive j receiver none ∉ later) →
      Fact.timedOut r.handling.id ∉ q.shared.history) ∧
    (v.challenge = none → v.receivers = [] → Fact.marked r.handling.id ∉ q.shared.history) := by
  have hp := numbered_of_run hrun
  constructor
  · intro hchallenge hnull
    have hdecided : Decided true r.handling.id p := hp.decided hk hr hawaits hchallenge
    refine decided_of_run hdecided (fun j receiver challenge hmem _ => ?_) hlater
    cases challenge with
    | none => exact absurd hmem (hnull j receiver)
    | some code => rfl
  · intro hchallenge hreceivers
    have hdecided : Decided false r.handling.id p :=
      hp.decided hk hr hawaits ⟨hchallenge, hreceivers⟩
    exact decided_of_run hdecided (fun _ _ _ _ hfound => absurd hfound Bool.false_ne_true) hlater

/-- A registration waits, and the message has come. -/
def heardEvents : List Event :=
  [.request (ofString "+14155550101"), .deliver, .take 0] ++
    List.replicate 8 (.runs 0 answeringMet) ++ [.receive 0 0 (some (ofString "271828"))]

def heardLater : List Event := .wake 0 :: List.replicate 2 (.runs 0 answeringMet)

theorem ok_of_toOption {ε α : Type} {x : Except ε α} {a : α} (h : x.toOption = some a) :
    x = .ok a := by
  cases x with
  | error e => simp only [Except.toOption, reduceCtorEq] at h
  | ok b => exact congrArg Except.ok (Option.some.inj h)

/-- A registration waits, and its listener is shut down. -/
def silencedEvents : List Event :=
  [.request (ofString "+14155550101"), .deliver, .take 0] ++
    List.replicate 8 (.runs 0 answeringMet) ++ [.shutdown 0, .main]

def silencedLater : List Event := .wake 0 :: List.replicate 4 (.runs 0 answeringMet)

/-- The message comes, and the phone is marked. In the other run no message can
    come any more, and the handler gives up. -/
theorem wait_decided_heard :
    (∃ p q v r,
      Run.run (Phone.step parsesNothing sessionGson) Phone.create heardEvents = .ok p ∧
      p.services[0]? = some v ∧ v.running = some r ∧ v.challenge.isSome ∧
      Run.run (Phone.step parsesNothing sessionGson) p heardLater = .ok q ∧
      q.shared.preferences.registered = true ∧
      Fact.timedOut r.handling.id ∉ q.shared.history) ∧
    ∃ p q v r,
      Run.run (Phone.step parsesNothing sessionGson) Phone.create silencedEvents = .ok p ∧
      p.services[0]? = some v ∧ v.running = some r ∧ v.receivers = [] ∧
      Run.run (Phone.step parsesNothing sessionGson) p silencedLater = .ok q ∧
      q.shared.preferences.registered = false ∧
      Fact.marked r.handling.id ∉ q.shared.history := by
  constructor
  · have hends : (do
        let p ← (Run.run (Phone.step parsesNothing sessionGson) Phone.create heardEvents).toOption
        let v ← p.services[0]?
        let r ← v.running
        let q ← (Run.run (Phone.step parsesNothing sessionGson) p heardLater).toOption
        some (r.pc, v.challenge.isSome, q.shared.preferences.registered)) =
          some (.waiting, true, true) := by
      decide +kernel
    simp only [Option.bind_eq_bind, Option.bind_eq_some_iff, Option.some.injEq, Prod.mk.injEq]
      at hends
    rcases hends with ⟨p, hp, v, hv, r, hr, q, hq, hpc, hchallenge, hregistered⟩
    have hrun : Run.run (Phone.step parsesNothing sessionGson) Phone.create heardEvents = .ok p :=
      ok_of_toOption hp
    have hlater : Run.run (Phone.step parsesNothing sessionGson) p heardLater = .ok q :=
      ok_of_toOption hq
    have hawaits : r.pc.awaits := by
      rw [hpc]
      trivial
    refine ⟨p, q, v, r, hrun, hv, hr, hchallenge, hlater, hregistered, ?_⟩
    refine (wait_decided hrun hv hr hawaits hlater).1 hchallenge fun j receiver hmem => ?_
    simp only [heardLater, List.mem_cons, reduceCtorEq, List.mem_replicate, and_false, or_self]
      at hmem
  · have hends : (do
        let p ← (Run.run (Phone.step parsesNothing sessionGson) Phone.create
          silencedEvents).toOption
        let v ← p.services[0]?
        let r ← v.running
        let q ← (Run.run (Phone.step parsesNothing sessionGson) p silencedLater).toOption
        some (r.pc, v.challenge, v.receivers, q.shared.preferences.registered)) =
          some (.waiting, none, [], false) := by
      decide +kernel
    simp only [Option.bind_eq_bind, Option.bind_eq_some_iff, Option.some.injEq, Prod.mk.injEq]
      at hends
    rcases hends with ⟨p, hp, v, hv, r, hr, q, hq, hpc, hchallenge, hreceivers, hregistered⟩
    have hrun : Run.run (Phone.step parsesNothing sessionGson) Phone.create silencedEvents
        = .ok p := ok_of_toOption hp
    have hlater : Run.run (Phone.step parsesNothing sessionGson) p silencedLater = .ok q :=
      ok_of_toOption hq
    have hawaits : r.pc.awaits := by
      rw [hpc]
      trivial
    refine ⟨p, q, v, r, hrun, hv, hr, hreceivers, hlater, hregistered, ?_⟩
    exact (wait_decided hrun hv hr hawaits hlater).2 hchallenge hreceivers

end Registration

end RedPhone
