import RedPhone.Registration.Effects

/-!
# Registered Means Verified

The number, the password and the key that the phone is registered with are
those of an account that the server has verified, and had created before. A
registration that waits for a message does both itself. After a call the
activity does, and what it has verified comes to the service through a state, a
message, a task and two intents, each of which could be overtaken or dropped
but cannot be changed.

So for each place such a triple can be in, the law says what the history has to
show for it: for a handler the statement it is at, for a task of the activity
its result. Since a history only grows, whoever does not take the step keeps
what it had.

## Main definitions

* `Created`, `Verified`: What the history shows for an account.
* `Backed`, `Handled`, `Served`, `Tasked`: The intents, the handlers, the
  services and the tasks have the account they speak of.
* `Traced`: All of them.

## Theorems

* `executes_keeps`, `acts_keeps`: A statement of a thread, and whatever else is
  done to a service.
* `doInBackground_tasked`: A task of the activity.
* `traced_effect`: A step keeps it.
* `registered_verified`: It is always so.
-/

namespace RedPhone

namespace Registration

open Interleaving JavaString PhoneNumberFormatter AccountCreationSocket

variable {PhoneNumber : Type} (util : PhoneNumberUtil PhoneNumber) (gson : Gson)

/-- The server has answered what the history says it has. -/
def Fact.Sound : Fact → Prop
  | .created voice c connection => Answered c (c.createAccount voice) connection
  | .verified c challenge key connection =>
    Answered c (c.verifyAccount gson challenge key) connection
  | _ => True

/-- The server has created the account. -/
def Created (history : List Fact) (number password : Option JavaString) : Prop :=
  password.isSome ∧ ∃ voice c connection preference,
    fields util preference number password = .ok c ∧ Fact.created voice c connection ∈ history

/-- The challenge was received, or the code entered. -/
def Supplied (history : List Fact) (challenge : JavaString) : Prop :=
  Fact.challenged (some challenge) ∈ history ∨ Fact.entered challenge ∈ history

/-- The server has verified the account, which it had created. -/
def Verified (history : List Fact) (number password key : Option JavaString) : Prop :=
  ∃ k challenge c connection preference pre post, key = some k ∧
    fields util preference number password = .ok c ∧
    history = pre ++ Fact.verified c challenge k connection :: post ∧
    Created util pre number password ∧ Supplied pre challenge

/-- An intent has the account it speaks of. -/
def Backed (history : List Fact) (i : Intent) : Prop :=
  (i.action = .voiceRegisterNumber → Verified util history i.e164number i.password i.key) ∧
  (i.action = .voiceRequested → Created util history i.e164number i.password)

/-- A state that can be shown has the account that it has been called for. -/
def Shown (history : List Fact) (m : RegistrationState) : Prop :=
  m.state = .voiceRequested → Created util history m.number m.password

/-- A handler has what the statement needs that it is at. -/
def Handled (history : List Fact) (h : Handling) : Pc → Prop
  | .markAsVerifying =>
    h.action = .voiceRegisterNumber → Verified util history h.number h.password h.key
  | .setConnecting | .createAccount => h.password.isSome
  | .setVerifyingSms | .waitForChallenge | .waiting => Created util history h.number h.password
  | .verifyAccount challenge =>
    Created util history h.number h.password ∧ Fact.challenged (some challenge) ∈ history
  | .setVerifyingVoice | .markAsVerified => Verified util history h.number h.password h.key
  | .setVoiceRequested => Created util history h.number h.password
  | .setFailed state => state ≠ .voiceRequested
  | _ => True

/-- The state that is being shown. -/
def SetStatePc.state : SetStatePc → RegistrationState
  | .test state => state
  | .send state => state

/-- A service has what its tasks, its handler and its states need. -/
structure Served (history : List Fact) (v : RegistrationService) : Prop where
  executor : ∀ i ∈ v.executor, Backed util history i
  running : ∀ r, v.running = some r → Handled util history r.handling r.pc
  showing : ∀ r pc, v.running = some r → r.setState = some pc → Shown util history pc.state
  state : Shown util history v.registrationState
  challenge : ∀ c, v.challenge = some c → Fact.challenged (some c) ∈ history

/-- A task of the activity has what its result stands for. -/
def Tasked (history : List Fact) (t : AsyncTask) : Prop :=
  match t.request with
  | .call => t.password.isSome ∧ (t.success = some true → Created util history t.number t.password)
  | .verify code key =>
    Created util history t.number t.password ∧ Fact.entered code ∈ history ∧
      (t.success = some true → Verified util history t.number t.password (some key))

/-- So have the preferences and the messages. -/
structure Kept (s : Shared) : Prop where
  sound : ∀ fact ∈ s.history, fact.Sound gson
  registered : s.preferences.registered = true →
    Verified util s.history s.preferences.number s.preferences.password s.preferences.key
  messages : ∀ m ∈ s.messages, Shown util s.history m

structure Traced (p : Phone) : Prop where
  shared : Kept util gson p.shared
  services : ∀ v ∈ p.services, Served util p.shared.history v
  intents : ∀ i ∈ p.intents, Backed util p.shared.history i
  asyncTasks : ∀ t ∈ p.asyncTasks, Tasked util p.shared.history t

/-! ## A history grows -/

variable {util gson} {history history' : List Fact}

theorem Created.mono {number password : Option JavaString}
    (h : Created util history number password) (hle : history <+: history') :
    Created util history' number password := by
  rcases h with ⟨hsome, voice, c, connection, preference, hfields, hmem⟩
  exact ⟨hsome, voice, c, connection, preference, hfields, hle.subset hmem⟩

theorem Verified.mono {number password key : Option JavaString}
    (h : Verified util history number password key) (hle : history <+: history') :
    Verified util history' number password key := by
  -- The verification stays where it is in the history, and what is recorded later
  -- comes behind it.
  rcases h with ⟨k, challenge, c, connection, preference, pre, post, hkey, hfields, rfl, hrest⟩
  rcases hle with ⟨more, rfl⟩
  refine ⟨k, challenge, c, connection, preference, pre, post ++ more, hkey, hfields, ?_, hrest⟩
  rw [List.append_assoc, List.cons_append]

theorem Backed.mono {i : Intent} (h : Backed util history i) (hle : history <+: history') :
    Backed util history' i :=
  ⟨fun haction => (h.1 haction).mono hle, fun haction => (h.2 haction).mono hle⟩

theorem Shown.mono {m : RegistrationState} (h : Shown util history m)
    (hle : history <+: history') : Shown util history' m :=
  fun hstate => (h hstate).mono hle

theorem Handled.mono {h : Handling} {pc : Pc} (hhandled : Handled util history h pc)
    (hle : history <+: history') : Handled util history' h pc := by
  cases pc with
  | markAsVerifying => exact fun haction => (hhandled haction).mono hle
  | setVerifyingSms => exact Created.mono hhandled hle
  | waitForChallenge => exact Created.mono hhandled hle
  | waiting => exact Created.mono hhandled hle
  | verifyAccount challenge => exact ⟨hhandled.1.mono hle, hle.subset hhandled.2⟩
  | setVerifyingVoice => exact Verified.mono hhandled hle
  | markAsVerified => exact Verified.mono hhandled hle
  | setVoiceRequested => exact Created.mono hhandled hle
  | _ => exact hhandled

theorem Served.mono {v : RegistrationService} (h : Served util history v)
    (hle : history <+: history') : Served util history' v where
  executor i hi := (h.executor i hi).mono hle
  running r hr := (h.running r hr).mono hle
  showing r pc hr hpc := (h.showing r pc hr hpc).mono hle
  state := h.state.mono hle
  challenge c hc := hle.subset (h.challenge c hc)

theorem Tasked.mono {t : AsyncTask} (h : Tasked util history t) (hle : history <+: history') :
    Tasked util history' t := by
  -- The request a task makes decides what it stands for.
  unfold Tasked at h ⊢
  cases hrequest : t.request with
  | call =>
      rw [hrequest] at h
      exact ⟨h.1, fun hsuccess => (h.2 hsuccess).mono hle⟩
  | verify code key =>
      rw [hrequest] at h
      exact ⟨h.1.mono hle, hle.subset h.2.1, fun hsuccess => (h.2.2 hsuccess).mono hle⟩

theorem prefix_record (s : Shared) (fact : Fact) : s.history <+: (s.record fact).history :=
  List.prefix_append _ _

/-- A fact is recorded, and nothing else that is shared changes. -/
theorem Kept.record {s : Shared} (h : Kept util gson s) {fact : Fact}
    (hsound : fact.Sound gson) : Kept util gson (s.record fact) where
  sound f hf := by
    rcases List.mem_append.mp hf with hf | hf
    · exact h.sound f hf
    · exact List.mem_singleton.mp hf ▸ hsound
  registered hregistered := (h.registered hregistered).mono (prefix_record s fact)
  messages m hm := (h.messages m hm).mono (prefix_record s fact)

/-! ## The steps of a service -/

/-- What a step of a service keeps. -/
structure Keeps (util : PhoneNumberUtil PhoneNumber) (gson : Gson) (s s' : Shared)
    (v' : RegistrationService) : Prop where
  shared : Kept util gson s'
  service : Served util s'.history v'
  grows : s.history <+: s'.history

/-- The thread is at another place, in `setState` or not. -/
theorem Served.moved {v : RegistrationService} (hv : Served util history v) {r : Running}
    (hhandled : Handled util history r.handling r.pc)
    (hshown : ∀ pc, r.setState = some pc → Shown util history pc.state) :
    Served util history { v with running := some r } where
  executor := hv.executor
  running _ hr := Option.some.inj hr ▸ hhandled
  showing _ pc hr hpc := hshown pc (Option.some.inj hr ▸ hpc)
  state := hv.state
  challenge := hv.challenge

theorem Served.goto {v : RegistrationService} (hv : Served util history v) {h : Handling} {pc : Pc}
    (hhandled : Handled util history h pc) : Served util history (v.goto h pc) :=
  hv.moved hhandled fun _ hpc => absurd hpc (Option.some_ne_none _).symm

theorem Served.setState {v : RegistrationService} (hv : Served util history v) {h : Handling}
    {next : Pc} {state : RegistrationState} (hhandled : Handled util history h next)
    (hshown : Shown util history state) : Served util history (v.setState h next state) := by
  have hmoved : Served util history { v with running := some ⟨h, next, some (.test state)⟩ } :=
    hv.moved hhandled fun pc hpc => Option.some.inj hpc ▸ hshown
  exact ⟨hmoved.executor, hmoved.running, hmoved.showing, hshown, hmoved.challenge⟩

/-- Nothing that is shared changes. -/
theorem Keeps.same {s : Shared} (hs : Kept util gson s) {v' : RegistrationService}
    (hv' : Served util s.history v') : Keeps util gson s s v' :=
  ⟨hs, hv', List.prefix_rfl⟩

/-- States other than one speak of no account. -/
theorem shown_of_ne {m : RegistrationState} (h : m.state ≠ .voiceRequested) :
    Shown util history m :=
  fun hstate => absurd hstate h

theorem judge_createAccount (c : SignalingSocket) (voice : Bool) (response : SignalResponse)
    (answer : Answer) (h : (c.createAccount voice).judge response = .ok answer) :
    response.statusCode = 200 := judgeAccount_ok h

theorem judge_verifyAccount (challenge key : JavaString) (c : SignalingSocket)
    (response : SignalResponse) (answer : Answer)
    (h : (c.verifyAccount gson challenge key).judge response = .ok answer) :
    response.statusCode = 200 := judgeAccount_ok h

/-- A verification that has been answered verifies. -/
theorem verified_concat {number password : Option JavaString} {challenge key : JavaString}
    {c : SignalingSocket} {connection : Connection} {preference : Option JavaString}
    (hcreated : Created util history number password) (hsupplied : Supplied history challenge)
    (hfields : fields util preference number password = .ok c) :
    Verified util (history ++ [.verified c challenge key connection]) number password (some key) :=
  ⟨key, challenge, c, connection, preference, history, [], rfl, hfields, rfl, hcreated, hsupplied⟩

/-- A statement that shows a state has an account for it, and for the next
    statement. -/
theorem shows_handled {h : Handling} {pc next : Pc} {state : RegistrationState}
    (hhandled : Handled util history h pc) (hshows : h.shows pc = some (state, next)) :
    Handled util history h next ∧ Shown util history state := by
  -- What the statement shows and where it goes on are read off its case, and what
  -- is left is about these two.
  have hpair : ∀ state' next', some (state', next') = some (state, next) →
      Shown util history state' → Handled util history h next' →
      Handled util history h next ∧ Shown util history state := by
    intro state' next' heq hshown hnext
    rw [Option.some.injEq, Prod.mk.injEq] at heq
    exact ⟨heq.2 ▸ hnext, heq.1 ▸ hshown⟩
  cases pc with
  | setConnecting =>
      exact hpair _ _ hshows (shown_of_ne (show State.connecting ≠ _ by decide)) hhandled
  | setVerifyingSms =>
      exact hpair _ _ hshows (shown_of_ne (show State.verifyingSms ≠ _ by decide)) hhandled
  | setVerifyingVoice =>
      exact hpair _ _ hshows (shown_of_ne (show State.verifyingVoice ≠ _ by decide)) hhandled
  | setComplete =>
      exact hpair _ _ hshows (shown_of_ne (show State.complete ≠ _ by decide)) trivial
  | setFailed state' => exact hpair _ _ hshows (shown_of_ne hhandled) trivial
  | setVoiceRequested => exact hpair _ _ hshows (fun _ => hhandled) trivial
  | _ => simp only [Handling.shows, reduceCtorEq] at hshows

/-- The handler of an intent has the account of the intent. -/
theorem first_handled {intent : Intent} {id : Nat} (hintent : Backed util history intent)
    (hle : history <+: history') {r : Running}
    (hr : (first intent.action).map (fun pc => Running.mk ⟨id, intent.action, intent.e164number,
      intent.password, intent.key, none⟩ pc none) = some r) :
    Handled util history' r.handling r.pc ∧ r.setState = none := by
  rw [Option.map_eq_some_iff] at hr
  rcases hr with ⟨pc, hfirst, rfl⟩
  refine ⟨?_, rfl⟩
  -- Only the two intents of a voice call bring an account, and the history that
  -- created it has grown since.
  cases haction : intent.action with
  | registerNumber =>
      rw [haction, first, Option.some.injEq] at hfirst
      rw [← hfirst]
      intro h
      simp only [reduceCtorEq] at h
  | voiceRegisterNumber =>
      rw [haction, first, Option.some.injEq] at hfirst
      rw [← hfirst]
      exact fun _ => (hintent.1 haction).mono hle
  | voiceRequested =>
      rw [haction, first, Option.some.injEq] at hfirst
      rw [← hfirst]
      exact (hintent.2 haction).mono hle
  | other => simp only [haction, first, reduceCtorEq] at hfirst

/-- An intent is delivered to a service. -/
theorem Served.delivered {v : RegistrationService} (hv : Served util history v) {intent : Intent}
    (hintent : Backed util history intent) :
    Served util history (v.onStartCommand (some intent)) := by
  unfold RegistrationService.onStartCommand
  simp only []
  -- A service that is destroyed drops the intent.
  split
  · refine ⟨fun i hi => ?_, hv.running, hv.showing, hv.state, hv.challenge⟩
    rcases List.mem_append.mp hi with hi | hi
    · exact hv.executor i hi
    · exact List.mem_singleton.mp hi ▸ hintent
  · exact hv

theorem Served.stopped {v : RegistrationService} (hv : Served util history v) :
    Served util history { v with running := none } where
  executor := hv.executor
  running _ hr := absurd hr (Option.some_ne_none _).symm
  showing _ _ hr := absurd hr (Option.some_ne_none _).symm
  state := hv.state
  challenge := hv.challenge

/-- Only the receivers of a service change where its listener is shut down. -/
theorem Served.closed {v w : RegistrationService} (hv : Served util history v)
    (hclose : v.shutdownChallengeListener = .ok w) : Served util history w := by
  unfold RegistrationService.shutdownChallengeListener at hclose
  split at hclose
  · exact Except.ok.inj hclose ▸ hv
  · split at hclose
    · rw [← Except.ok.inj hclose]
      exact ⟨hv.executor, hv.running, hv.showing, hv.state, hv.challenge⟩
    · simp only [reduceCtorEq] at hclose

/-- A statement of the thread. -/
theorem executes_keeps {met : Met} {s s' : Shared} {v v' : RegistrationService} {h : Handling}
    {pc : Pc} (hs : Kept util gson s) (hv : Served util s.history v)
    (hhandled : Handled util s.history h pc) (hexecutes : Executes util gson met s v h pc s' v') :
    Keeps util gson s s' v' := by
  cases hexecutes with
  | marksVerifying =>
      refine ⟨⟨hs.sound, hs.registered, hs.messages⟩, hv.goto ?_, List.prefix_rfl⟩
      -- A voice registration goes on with the verification the intent has brought.
      by_cases haction : h.action = .voiceRegisterNumber
      · rw [if_pos haction]
        exact hhandled haction
      · rw [if_neg haction]
        trivial
  | listens =>
      -- The challenge is forgotten, as the listener is new.
      have hlistening : Served util s.history v.initializeChallengeListener :=
        ⟨hv.executor, hv.running, hv.showing, hv.state, fun c hc =>
          absurd hc (Option.some_ne_none c).symm⟩
      exact .same hs (hlistening.goto rfl)
  | shows hshows =>
      rcases shows_handled hhandled hshows with ⟨hnext, hshown⟩
      exact .same hs (hv.setState hnext hshown)
  | creates hperform =>
      -- The account that is created is the one of this handler.
      rcases perform_ok (fun _ => rfl) (fun c => judge_createAccount c false) hperform with
        ⟨hfields, hanswered, -⟩
      refine ⟨hs.record hanswered, (hv.mono (prefix_record _ _)).goto ?_, prefix_record _ _⟩
      exact ⟨hhandled, false, _, met.connection, _, hfields,
        List.mem_append_right _ (List.mem_singleton_self _)⟩
  | fails hconnects =>
      exact .same hs (hv.goto (show State.networkError ≠ .voiceRequested by decide))
  | finds hchallenge => exact .same hs (hv.goto ⟨hhandled, hv.challenge _ hchallenge⟩)
  | waits hchallenge => exact .same hs (hv.goto hhandled)
  | verifies hkey hperform =>
      -- What is verified is recorded behind the account, and with the challenge the
      -- handler has received.
      rcases perform_ok (fun _ => rfl) (judge_verifyAccount _ _) hperform with
        ⟨hfields, hanswered, -⟩
      refine ⟨hs.record hanswered, (hv.mono (prefix_record _ _)).goto ?_, prefix_record _ _⟩
      unfold Handled
      simp only [hkey]
      exact verified_concat hhandled.1 (Or.inl hhandled.2) hfields
  | marks =>
      -- The preferences get what the handler has been carrying.
      have hmarked : Kept util gson { s with
          preferences := s.preferences.markAsVerified h.number h.password h.key } :=
        ⟨hs.sound, fun _ => hhandled, hs.messages⟩
      refine ⟨hmarked.record trivial, (hv.mono (prefix_record s (.marked h.id))).goto ?_,
        prefix_record s _⟩
      by_cases haction : h.action = .voiceRegisterNumber
      · rw [if_pos haction]
        trivial
      · rw [if_neg haction]
        trivial
  | opens hcreate => exact .same hs (hv.goto trivial)
  | retrieves =>
      exact ⟨⟨hs.sound, hs.registered, hs.messages⟩, hv.goto trivial, List.prefix_rfl⟩
  | announces =>
      exact ⟨hs.record trivial, (hv.mono (prefix_record _ _)).goto trivial, prefix_record _ _⟩
  | closes haction hclose => exact .same hs (hv.closed hclose).stopped
  | ends haction => exact .same hs hv.stopped

/-- Something that is done to a service. -/
theorem acts_keeps {allowed : Option JavaString → Prop} {s s' : Shared}
    {v v' : RegistrationService} (hs : Kept util gson s) (hv : Served util s.history v)
    (hacts : Acts util gson allowed s v s' v') : Keeps util gson s s' v' := by
  cases hacts with
  | runs hrunning hsetState hexecutes =>
      exact executes_keeps hs hv (hv.running _ hrunning) hexecutes
  | @tests r state hrunning hsetState =>
      -- What is to be shown is what the service has begun to show.
      refine .same hs (hv.moved (hv.running r hrunning) fun pc hpc => ?_)
      have hshown : Shown util s.history state := hv.showing r _ hrunning hsetState
      by_cases hhandler : v.handler = true
      · simp only [hhandler, if_true, Option.some.injEq] at hpc
        rw [← hpc]
        exact hshown
      · simp only [hhandler, Bool.false_eq_true, if_false, reduceCtorEq] at hpc
  | @sends r state hrunning hsetState =>
      -- A message is what the service was showing when it asked for the handler.
      refine ⟨⟨hs.sound, hs.registered, fun m hm => ?_⟩, hv.moved (hv.running r hrunning)
        fun pc hpc => absurd hpc (Option.some_ne_none pc).symm, List.prefix_rfl⟩
      rcases List.mem_append.mp hm with hm | hm
      · exact hs.messages m hm
      · rw [List.mem_singleton.mp hm]
        exact hv.showing r _ hrunning hsetState
  | @takes intent executor hrunning hexecutor =>
      -- The thread begins with an intent that was kept with its account.
      have hintent : Backed util s.history intent :=
        hv.executor intent (hexecutor ▸ List.mem_cons_self)
      have hgrows := prefix_record s (.begun s.begun intent.action)
      have hbegun : Kept util gson { s with begun := s.begun + 1 } :=
        ⟨hs.sound, hs.registered, hs.messages⟩
      refine ⟨hbegun.record trivial,
        ⟨fun i hi => ?_, fun r hr => ?_, fun r pc hr hpc => ?_, hv.state.mono hgrows,
          fun c hc => ?_⟩, hgrows⟩
      · exact (hv.executor i (hexecutor ▸ List.mem_cons_of_mem _ hi)).mono hgrows
      · exact (first_handled hintent hgrows hr).1
      · rw [(first_handled hintent hgrows hr).2] at hpc
        exact absurd hpc (Option.some_ne_none pc).symm
      · exact hgrows.subset (hv.challenge c hc)
  | wakes hrunning hchallenge =>
      exact .same hs (hv.goto ⟨hv.running _ hrunning, hv.challenge _ hchallenge⟩)
  | timesOut hrunning hchallenge =>
      exact ⟨hs.record trivial, (hv.mono (prefix_record _ _)).goto
        (show State.timeout ≠ .voiceRequested by decide), prefix_record _ _⟩
  | @receives receiver challenge hreceiver hallowed =>
      -- The challenge that is stored is the one that was received last.
      have hgrows := prefix_record s (.challenged challenge)
      refine ⟨hs.record trivial, ?_, hgrows⟩
      have hkept := hv.mono hgrows
      refine ⟨hkept.executor, hkept.running, hkept.showing, hkept.state, fun c hc => ?_⟩
      have hsome : challenge = some c := hc
      rw [hsome]
      exact List.mem_append_right _ (List.mem_singleton_self _)
  | closes hclose => exact .same hs (hv.closed hclose)
  | unmarks => exact ⟨⟨hs.sound, hs.registered, hs.messages⟩, hv, List.prefix_rfl⟩
  | setsIdle =>
      exact .same hs ⟨hv.executor, hv.running, hv.showing,
        shown_of_ne (show State.idle ≠ .voiceRequested by decide), hv.challenge⟩
  | destroyed => exact .same hs ⟨hv.executor, hv.running, hv.showing, hv.state, hv.challenge⟩
  | connected =>
      -- The activity is sent the state the service is in.
      refine ⟨⟨hs.sound, hs.registered, fun m hm => ?_⟩,
        ⟨hv.executor, hv.running, hv.showing, hv.state, hv.challenge⟩, List.prefix_rfl⟩
      rcases List.mem_append.mp hm with hm | hm
      · exact hs.messages m hm
      · exact List.mem_singleton.mp hm ▸ hv.state
  | disconnected => exact .same hs ⟨hv.executor, hv.running, hv.showing, hv.state, hv.challenge⟩

/-! ## The tasks of the activity -/

theorem doInBackground_ok {t t' : AsyncTask} {met : Met} {s s' : Shared}
    (h : t.doInBackground util gson met s = .ok (s', t')) :
    (∃ a, perform util s.preferences.number t.number t.password (t.exchange gson) met.connection
        met.broken = some (.ok a) ∧
      s' = s.record (t.fact met.connection a.socket) ∧ t' = { t with success := some true }) ∨
    (s' = s ∧ t' = { t with success := some false }) := by
  unfold AsyncTask.doInBackground at h
  split at h
  · simp only [reduceCtorEq] at h
  · split at h
    · rw [Except.ok.injEq, Prod.mk.injEq] at h
      exact Or.inr ⟨h.1.symm, h.2.symm⟩
    · simp only [reduceCtorEq] at h
  · rename_i a hperform
    rw [Except.ok.injEq, Prod.mk.injEq] at h
    exact Or.inl ⟨a, hperform, h.1.symm, h.2.symm⟩

/-- A task comes back with what it asked for, or without. -/
theorem doInBackground_tasked {t t' : AsyncTask} {met : Met} {s s' : Shared}
    (hs : Kept util gson s) (ht : Tasked util s.history t)
    (h : t.doInBackground util gson met s = .ok (s', t')) :
    Kept util gson s' ∧ Tasked util s'.history t' ∧ s.history <+: s'.history := by
  -- The request succeeded and is recorded, or nothing is, and the task says no.
  rcases doInBackground_ok h with ⟨a, hperform, rfl, rfl⟩ | ⟨rfl, rfl⟩
  · have hgrows := prefix_record s (t.fact met.connection a.socket)
    unfold Tasked at ht ⊢
    cases hrequest : t.request with
    | call =>
        have hexchange : t.exchange gson = fun c => c.createAccount true := by
          funext c
          simp only [AsyncTask.exchange, hrequest]
        rw [hexchange] at hperform
        rcases perform_ok (fun _ => rfl) (fun c => judge_createAccount c true) hperform with
          ⟨hfields, hanswered, -⟩
        simp only [hrequest, AsyncTask.fact] at ht hgrows ⊢
        refine ⟨hs.record hanswered, ⟨ht.1, fun _ => ?_⟩, hgrows⟩
        exact ⟨ht.1, true, a.socket, met.connection, _, hfields,
          List.mem_append_right _ (List.mem_singleton_self _)⟩
    | verify code key =>
        have hexchange : t.exchange gson = fun c => c.verifyAccount gson code key := by
          funext c
          simp only [AsyncTask.exchange, hrequest]
        rw [hexchange] at hperform
        rcases perform_ok (fun _ => rfl) (judge_verifyAccount code key) hperform with
          ⟨hfields, hanswered, -⟩
        simp only [hrequest, AsyncTask.fact] at ht hgrows ⊢
        refine ⟨hs.record hanswered, ⟨ht.1.mono hgrows, hgrows.subset ht.2.1, fun _ => ?_⟩, hgrows⟩
        exact verified_concat ht.1 (Or.inr ht.2.1) hfields
  · refine ⟨hs, ?_, List.prefix_rfl⟩
    unfold Tasked at ht ⊢
    cases hrequest : t.request with
    | call =>
        rw [hrequest] at ht
        exact ⟨ht.1, fun hsuccess => absurd hsuccess (by simp only [Option.some.injEq,
          Bool.false_eq_true, not_false_eq_true])⟩
    | verify code key =>
        rw [hrequest] at ht
        exact ⟨ht.1, ht.2.1, fun hsuccess => absurd hsuccess (by simp only [Option.some.injEq,
          Bool.false_eq_true, not_false_eq_true])⟩

/-- The intent of a task that was successful has the account. -/
theorem backed_of_tasked {t : AsyncTask} (ht : Tasked util history t)
    (hsuccess : t.success = some true) : Backed util history t.intent := by
  unfold Tasked at ht
  unfold AsyncTask.intent
  cases hrequest : t.request with
  | call =>
      rw [hrequest] at ht
      exact ⟨fun h => by simp only [reduceCtorEq] at h, fun _ => ht.2 hsuccess⟩
  | verify code key =>
      rw [hrequest] at ht
      exact ⟨fun _ => ht.2.2 hsuccess, fun h => by simp only [reduceCtorEq] at h⟩

/-! ## The steps of the phone -/

/-- What does not concern accounts is kept where the history grows. -/
theorem Traced.grows {p : Phone} (hp : Traced util gson p) {s : Shared} (hs : Kept util gson s)
    (hgrows : p.shared.history <+: s.history) : Traced util gson { p with shared := s } where
  shared := hs
  services v hv := (hp.services v hv).mono hgrows
  intents i hi := (hp.intents i hi).mono hgrows
  asyncTasks t ht := (hp.asyncTasks t ht).mono hgrows

/-- A service becomes another. -/
theorem Traced.set {p : Phone} (hp : Traced util gson p) (k : Nat) {v : RegistrationService}
    (hv : Served util p.shared.history v) :
    Traced util gson { p with services := p.services.set k v } where
  shared := hp.shared
  services w hw := by
    rcases List.mem_or_eq_of_mem_set hw with hw | rfl
    · exact hp.services w hw
    · exact hv
  intents := hp.intents
  asyncTasks := hp.asyncTasks

/-- The activity has a task executed. -/
theorem Traced.execute {p : Phone} (hp : Traced util gson p) {t : AsyncTask}
    (ht : Tasked util p.shared.history t) : Traced util gson (p.execute t) where
  shared := hp.shared
  services := hp.services
  intents := hp.intents
  asyncTasks u hu := by
    rcases List.mem_append.mp hu with hu | hu
    · exact hp.asyncTasks u hu
    · exact List.mem_singleton.mp hu ▸ ht

theorem traced_effect {allowed : Option JavaString → Prop} (p q : Phone)
    (hp : Traced util gson p) (heffect : Effect util gson allowed p q) : Traced util gson q := by
  cases heffect with
  -- A new service has no account in any of its fields.
  | creates =>
      refine ⟨hp.shared, fun v hv => ?_, hp.intents, hp.asyncTasks⟩
      rcases List.mem_append.mp hv with hv | hv
      · exact hp.services v hv
      · rw [List.mem_singleton.mp hv]
        exact ⟨fun i hi => absurd hi List.not_mem_nil, fun _ hr => absurd hr
          (Option.some_ne_none _).symm, fun _ _ hr => absurd hr (Option.some_ne_none _).symm,
          shown_of_ne (show State.idle ≠ .voiceRequested by decide),
          fun c hc => absurd hc (Option.some_ne_none c).symm⟩
  -- The steps of a service are covered by what they keep of it.
  | acts hk hacts =>
      have hkeeps := acts_keeps hp.shared (hp.services _ (List.mem_of_getElem? hk)) hacts
      exact (hp.grows hkeeps.shared hkeeps.grows).set _ hkeeps.service
  | main m => exact ⟨hp.shared, hp.services, hp.intents, hp.asyncTasks⟩
  | dies =>
      -- What lives in memory is gone, and the intents and the preferences stay.
      have hgrows := prefix_record { p.shared with messages := [] } .died
      have hquiet : Kept util gson { p.shared with messages := [] } :=
        ⟨hp.shared.sound, hp.shared.registered, fun m hm => absurd hm List.not_mem_nil⟩
      exact ⟨hquiet.record trivial, fun v hv => absurd hv List.not_mem_nil,
        fun i hi => (hp.intents i hi).mono hgrows, fun t ht => absurd ht List.not_mem_nil⟩
  | asks number =>
      -- A registration that is asked for brings no account.
      refine ⟨hp.shared, hp.services, fun i hi => ?_, hp.asyncTasks⟩
      rcases List.mem_append.mp hi with hi | hi
      · exact hp.intents i hi
      · rw [List.mem_singleton.mp hi]
        exact ⟨fun h => by simp only [reduceCtorEq] at h, fun h => by simp only [reduceCtorEq] at h⟩
  | @delivers intent intents k v hintents hk =>
      -- The intent leaves the queue and is kept by the service.
      have hrest : Traced util gson { p with intents := intents } :=
        ⟨hp.shared, hp.services, fun i hi => hp.intents i (hintents ▸ List.mem_cons_of_mem _ hi),
          hp.asyncTasks⟩
      exact hrest.set k ((hp.services v (List.mem_of_getElem? hk)).delivered
        (hp.intents intent (hintents ▸ List.mem_cons_self)))
  | calls password => exact hp.execute ⟨rfl, fun h => by simp only [reduceCtorEq] at h⟩
  | @enters state key code hstate hrequested =>
      -- The state the activity shows has come from the service, and the code is
      -- recorded.
      have hgrows := prefix_record p.shared (.entered code)
      have hentered : Kept util gson (p.shared.record (.entered code)) := hp.shared.record trivial
      refine (hp.grows hentered hgrows).execute ⟨?_, ?_, ?_⟩
      · exact (hp.shared.messages state hstate hrequested).mono hgrows
      · exact List.mem_append_right _ (List.mem_singleton_self _)
      · exact fun h => by simp only [reduceCtorEq] at h
  | background hi hsuccess hdone =>
      rcases doInBackground_tasked hp.shared (hp.asyncTasks _ (List.mem_of_getElem? hi)) hdone with
        ⟨hs, ht, hgrows⟩
      have hkept := hp.grows hs hgrows
      refine ⟨hs, hkept.services, hkept.intents, fun u hu => ?_⟩
      rcases List.mem_or_eq_of_mem_set hu with hu | rfl
      · exact hkept.asyncTasks u hu
      · exact ht
  | @posts i t success hi hsuccess =>
      have ht := hp.asyncTasks t (List.mem_of_getElem? hi)
      refine ⟨hp.shared, hp.services, fun j hj => ?_, fun u hu =>
        hp.asyncTasks u (List.mem_of_mem_eraseIdx hu)⟩
      -- Only a task that was successful posts its intent.
      cases success with
      | false => exact hp.intents j hj
      | true =>
          rcases List.mem_append.mp hj with hj | hj
          · exact hp.intents j hj
          · rw [List.mem_singleton.mp hj]
            exact backed_of_tasked ht hsuccess

theorem traced_create : Traced util gson Phone.create where
  shared := ⟨fun _ h => absurd h List.not_mem_nil, fun h => by
    simp only [Phone.create, Bool.false_eq_true] at h, fun _ h => absurd h List.not_mem_nil⟩
  services _ h := absurd h List.not_mem_nil
  intents _ h := absurd h List.not_mem_nil
  asyncTasks _ h := absurd h List.not_mem_nil

/-! ## What is registered -/

variable (util) in
/-- A socket is one for an account. -/
def IsAccount (number password : JavaString) (c : SignalingSocket) : Prop :=
  ∃ preference, fields util preference (some number) (some password) = .ok c

theorem fields_ok {preference number password : Option JavaString} {c : SignalingSocket}
    (h : fields util preference number password = .ok c) :
    ∃ n localNumber, number = some n ∧ formatNumber util preference n = .ok localNumber ∧
      c = ⟨some localNumber, password, false⟩ := by
  unfold fields at h
  rw [Run.bind_ok] at h
  rcases h with ⟨n, hn, h⟩
  rw [Run.bind_ok] at h
  rcases h with ⟨localNumber, hformat, h⟩
  rw [Java.orNull_ok] at hn
  exact ⟨n, localNumber, hn, hformat, (Except.ok.inj h).symm⟩

/-- A number with a plus is formatted the same at any time. -/
theorem isAccount_unique {number password : JavaString} {c c' : SignalingSocket}
    (hplus : (strip number).head? = some 0x2b) (h : IsAccount util number password c)
    (h' : IsAccount util number password c') : c' = c := by
  -- The preference matters for numbers without a plus only.
  rcases h with ⟨preference, h⟩
  rcases h' with ⟨preference', h'⟩
  rcases fields_ok h with ⟨n, localNumber, hn, hformat, rfl⟩
  rcases fields_ok h' with ⟨n', localNumber', hn', hformat', rfl⟩
  rcases List.head?_eq_some_iff.mp hplus with ⟨digits, hdigits⟩
  rw [← Option.some.inj hn, formatNumber_of_plus util preference number digits hdigits] at hformat
  rw [← Option.some.inj hn', formatNumber_of_plus util preference' number digits hdigits]
    at hformat'
  rw [← Except.ok.inj hformat, ← Except.ok.inj hformat']

/-- The phone is registered only with what the server has verified. In every
    state a run reaches, the number, the password and the key it is marked with
    are those of a verification that the server has answered with success, of an
    account that it had created before, with a challenge that was received or a
    code that was entered by then. -/
theorem registered_verified {events : List Event} {p : Phone}
    (hrun : Run.run (Phone.step util gson) Phone.create events = .ok p)
    (hregistered : p.shared.preferences.registered = true) :
    ∃ number password key challenge voice c c' connection connection' pre post,
      p.shared.preferences.number = some number ∧
      p.shared.preferences.password = some password ∧
      p.shared.preferences.key = some key ∧
      p.shared.history = pre ++ Fact.verified c' challenge key connection' :: post ∧
      Fact.created voice c connection ∈ pre ∧ Supplied pre challenge ∧
      IsAccount util number password c ∧ IsAccount util number password c' ∧
      ((strip number).head? = some 0x2b → c' = c) ∧
      Answered c (c.createAccount voice) connection ∧
      Answered c' (c'.verifyAccount gson challenge key) connection' := by
  -- The invariant holds at the end, and what is marked is a verification.
  have hkeep : ∀ q q', Traced util gson q → Effect util gson (fun _ => True) q q' →
      Traced util gson q' := traced_effect
  have htraced := Phone.kept_of_effects hkeep (fun _ _ _ _ => trivial) traced_create hrun
  rcases htraced.shared.registered hregistered with ⟨key, challenge, c', connection', preference',
    pre, post, hkey, hfields', hsplit, ⟨hsome, voice, c, connection, preference, hfields, hmem⟩,
    hsupplied⟩
  rcases Option.isSome_iff_exists.mp hsome with ⟨password, hpassword⟩
  rcases fields_ok hfields with ⟨number, _, hnumber, _⟩
  rw [hnumber, hpassword] at hfields hfields'
  -- Both facts were recorded with what the server had answered.
  have hcreated := htraced.shared.sound (.created voice c connection)
    (hsplit ▸ List.mem_append_left _ hmem)
  have hverified := htraced.shared.sound (.verified c' challenge key connection')
    (hsplit ▸ List.mem_append_right _ List.mem_cons_self)
  exact ⟨number, password, key, challenge, voice, c, c', connection, connection', pre, post,
    hnumber, hpassword, hkey, hsplit, hmem, hsupplied, ⟨preference, hfields⟩,
    ⟨preference', hfields'⟩, fun hplus => isAccount_unique hplus ⟨preference, hfields⟩
      ⟨preference', hfields'⟩, hcreated, hverified⟩

/-- What the threads meet where the server answers each request. -/
def answeringMet : Met :=
  ⟨ofString "first", ofString "key",
    .connected ⟨[], [.data (ascii "HTTP/1.0 200 OK\r\n\r\n")]⟩, none, .written⟩

/-- No message comes, a call does, and the code is entered. -/
def calledEvents : List Event :=
  [.connected, .request (ofString "+14155550101"), .deliver, .take 0] ++
    List.replicate 10 (.runs 0 answeringMet) ++ [.wake 0] ++
    List.replicate 5 (.runs 0 answeringMet) ++
  [.call ⟨.timeout, some (ofString "+14155550101"), none⟩ (ofString "second"),
    .background 0 answeringMet, .post 0, .deliver, .take 0] ++
    List.replicate 4 (.runs 0 answeringMet) ++
  [.verify ⟨.voiceRequested, some (ofString "+14155550101"), some (ofString "second")⟩
      (ofString "other") (ofString "271828"),
    .background 0 answeringMet, .post 0, .deliver, .take 0] ++
    List.replicate 5 (.runs 0 answeringMet)

theorem registered_verified_called : ∃ p,
    Run.run (Phone.step parsesNothing sessionGson) Phone.create calledEvents = .ok p ∧
      p.shared.preferences.password = some (ofString "second") ∧
      ∃ number password key challenge voice c c' connection connection' pre post,
        p.shared.preferences.number = some number ∧
        p.shared.preferences.password = some password ∧
        p.shared.preferences.key = some key ∧
        p.shared.history = pre ++ Fact.verified c' challenge key connection' :: post ∧
        Fact.created voice c connection ∈ pre ∧ Supplied pre challenge ∧
        IsAccount parsesNothing number password c ∧ IsAccount parsesNothing number password c' ∧
        ((strip number).head? = some 0x2b → c' = c) ∧
        Answered c (c.createAccount voice) connection ∧
        Answered c' (c'.verifyAccount sessionGson challenge key) connection' := by
  -- What the run comes to is computed, and the theorem says the rest.
  have hends : (Run.run (Phone.step parsesNothing sessionGson) Phone.create
      calledEvents).toOption.map (fun p =>
        (p.shared.preferences.registered, p.shared.preferences.password))
        = some (true, some (ofString "second")) := by
    decide +kernel
  cases hrun : Run.run (Phone.step parsesNothing sessionGson) Phone.create calledEvents with
  | error e => simp only [hrun, Except.toOption, Option.map_none, reduceCtorEq] at hends
  | ok p =>
      simp only [hrun, Except.toOption, Option.map_some, Option.some.injEq, Prod.mk.injEq] at hends
      exact ⟨p, rfl, hends.2, registered_verified hrun hends.1⟩

end Registration

end RedPhone
