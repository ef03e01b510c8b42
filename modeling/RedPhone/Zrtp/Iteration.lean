import RedPhone.Zrtp.Declared

/-!
# Iterations as a Trace

What an iteration of the negotiation loops comes to is settled by the socket
and by what the iteration meets, before anything is done: the handler of the
state runs, or the last packet is sent again, or neither. `iteration` says
which, and the three lemmas about `negotiate` say what each of them leaves.

A run has the list of what its iterations came to beside it. What is said of a
whole handshake, in which order its handlers ran or how often it sent a packet
again, is said of that list.

## Main definitions

* `Iteration`: What an iteration comes to.
* `expected`: The type of packet a state waits for.
* `iteration`: What an iteration comes to, from what it meets.
* `iterations`: The iterations of a run.
* `ran`: The states whose handlers ran in a run.

## Theorems

* `negotiate_handler`: The handler of the state runs.
* `negotiate_retransmission`: The last packet is sent again.
* `negotiate_nothing`: The socket stays as it was, or is closed.
* `negotiate_congr`: Only the handler of the state matters.
* `iterations_concat`: The trace of a run and one more iteration.
* `prefix_of_iterations`: A part of the trace is that of a part of the run.
-/

namespace RedPhone

open HandshakePacket

/-- What one iteration of the loops comes to. -/
inductive Iteration
  | handler (state : State)
  | retransmission
  | nothing
  deriving DecidableEq, Repr

namespace ZRTPSocket

variable {ρ : Type}

/-- The type of packet a state waits for. -/
def expected : State → Option Bytes
  | .expectingHello => some HelloPacket.TYPE
  | .expectingHelloAck => some HELLO_ACK_TYPE
  | .expectingCommit => some CommitPacket.TYPE
  | .expectingDh1 => some DHPacket.TYPE_ONE
  | .expectingDh2 => some DHPacket.TYPE_TWO
  | .expectingConfirmOne => some ConfirmPacket.TYPE_ONE
  | .expectingConfirmTwo => some ConfirmPacket.TYPE_TWO
  | .expectingConfirmAck => some CONF_ACK_TYPE
  | .handshakeComplete => none
  | .terminated => none

/-- Without a packet for its handler, an iteration sends again when it is
    time. -/
def waiting (c : Clock) (s : ZRTPSocket ρ) : Iteration :=
  if s.isRetransmitTime c.timeoutCheck then .retransmission else .nothing

/-- The outcome of the checksum of a datagram, if it does not throw. Media has
    none, so in the last state of the initiator it is not looked at. -/
def checked (datagram : Bytes) (s : ZRTPSocket ρ) : Option Bool :=
  if s.state = .expectingConfirmAck then some true else (s.received datagram).verifyCRC.toOption

/-- What an iteration comes to. -/
def iteration (s : ZRTPSocket ρ) (i : Input) : Iteration :=
  match i.event with
  | .close => .nothing
  | .ioException _ => .nothing
  | .timeout => if s.Over then .nothing else s.waiting i.clock
  | .datagram d =>
    if s.Over then .nothing
    else match s.checked d with
      | none => .nothing
      -- A wrong checksum leaves the iteration without a packet, as a timeout does.
      | some false => s.waiting i.clock
      | some true =>
        if (s.received d).getType.toOption = expected s.state then .handler s.state
        else s.waiting i.clock

/-- Every state has one handler, or none, and `expected` says for which type. -/
theorem handler_isSome (h : Handlers ρ) (state : State) (type : Bytes) :
    (handler h state type).isSome ↔ expected state = some type := by
  cases state with
  | handshakeComplete => exact ⟨nofun, nofun⟩
  | terminated => exact ⟨nofun, nofun⟩
  | _ =>
      unfold handler expected
      rw [Option.isSome_ite, Option.some.injEq, eq_comm]

theorem waiting_ne_handler (c : Clock) (s : ZRTPSocket ρ) (state : State) :
    s.waiting c ≠ .handler state := by
  unfold waiting
  by_cases htime : s.isRetransmitTime c.timeoutCheck = true
  · rw [if_pos htime]
    exact nofun
  · rw [if_neg htime]
    exact nofun

theorem waiting_retransmission (c : Clock) (s : ZRTPSocket ρ) :
    s.waiting c = .retransmission ↔ s.isRetransmitTime c.timeoutCheck = true := by
  unfold waiting
  by_cases htime : s.isRetransmitTime c.timeoutCheck = true
  · rw [if_pos htime]
    exact ⟨fun _ => htime, fun _ => rfl⟩
  · rw [if_neg htime]
    exact ⟨nofun, fun h => absurd h htime⟩

/-- The loops are over, and nothing is done any more. -/
theorem iteration_of_over (s : ZRTPSocket ρ) (i : Input) (hover : s.Over) :
    s.iteration i = .nothing := by
  unfold iteration
  cases i.event with
  | close => rfl
  | ioException message => rfl
  | timeout => exact if_pos hover
  | datagram d => exact if_pos hover

/-- A packet that failed its check is nothing, one that passed is dispatched. -/
theorem receive_of_checked {d : Bytes} {s : ZRTPSocket ρ} {good : Bool}
    (h : s.checked d = some good) :
    s.receiveHandshakePacket (s.state ≠ .expectingConfirmAck) d
      = .ok ({ s with buf := s.buf.receive d }, if good then some (s.received d) else none) := by
  refine (receiveHandshakePacket_ok _ d s _ _).mpr ⟨rfl, ?_⟩
  unfold checked at h
  -- In the initiator's last state the packet is taken without a look at its
  -- checksum.
  by_cases hack : s.state = .expectingConfirmAck
  · rw [if_pos hack, Option.some.injEq] at h
    rw [← h]
    exact Or.inl ⟨decide_eq_false (fun hne => hne hack), rfl⟩
  · rw [if_neg hack] at h
    have hcrc : (s.received d).verifyCRC = .ok good := by
      cases hcrc : (s.received d).verifyCRC with
      | ok b =>
          rw [hcrc] at h
          rw [Option.some.inj h]
      | error e =>
          rw [hcrc] at h
          exact nomatch h
    refine Or.inr ⟨decide_eq_true hack, ?_⟩
    cases good with
    | true => exact Or.inl ⟨hcrc, rfl⟩
    | false => exact Or.inr ⟨hcrc, rfl⟩

/-- A check that throws ends the iteration. -/
theorem receive_of_unchecked {d : Bytes} {s : ZRTPSocket ρ} (h : s.checked d = none) :
    ∃ e, s.receiveHandshakePacket (s.state ≠ .expectingConfirmAck) d = .error e := by
  unfold checked at h
  by_cases hack : s.state = .expectingConfirmAck
  · rw [if_pos hack] at h
    exact nomatch h
  · rw [if_neg hack] at h
    cases hcrc : (s.received d).verifyCRC with
    | ok b =>
        rw [hcrc] at h
        exact nomatch h
    | error e =>
        -- The checksum throws on too few bytes, and the receive passes it on.
        refine ⟨e, ?_⟩
        unfold receiveHandshakePacket
        rw [if_pos (decide_eq_true hack)]
        change (s.received d).verifyCRC >>= _ = _
        rw [hcrc]
        rfl

/-- What a packet of the type that is waited for is dispatched to. -/
theorem handled_of_expected (h : Handlers ρ) (c : Clock) (packet : HandshakePacket)
    (s s' : ZRTPSocket ρ) (type : Bytes) (htype : packet.getType = .ok type)
    (hexpected : expected s.state = some type) (hrun : s.dispatch h c packet = .ok s') :
    Handled h c packet s s' := by
  rw [dispatch_eq htype] at hrun
  cases hhandler : handler h s.state type with
  | none =>
      have hsome := (handler_isSome h s.state type).mpr hexpected
      rw [hhandler] at hsome
      exact nomatch hsome
  | some handle =>
      simp only [hhandler] at hrun
      -- The state decides which handler this is.
      cases hstate : s.state with
      | expectingHello =>
          rw [hstate] at hexpected hhandler
          cases hexpected
          cases hhandler
          exact .hello hstate htype hrun
      | expectingHelloAck =>
          rw [hstate] at hexpected hhandler
          cases hexpected
          cases hhandler
          exact .helloAck hstate htype hrun
      | expectingCommit =>
          rw [hstate] at hexpected hhandler
          cases hexpected
          cases hhandler
          exact .commit hstate htype hrun
      | expectingDh1 =>
          rw [hstate] at hexpected hhandler
          cases hexpected
          cases hhandler
          exact .dhOne hstate htype hrun
      | expectingDh2 =>
          rw [hstate] at hexpected hhandler
          cases hexpected
          cases hhandler
          exact .dhTwo hstate htype hrun
      | expectingConfirmOne =>
          rw [hstate] at hexpected hhandler
          cases hexpected
          cases hhandler
          exact .confirmOne hstate htype hrun
      | expectingConfirmTwo =>
          rw [hstate] at hexpected hhandler
          cases hexpected
          cases hhandler
          exact .confirmTwo hstate htype hrun
      | expectingConfirmAck =>
          rw [hstate] at hexpected hhandler
          cases hexpected
          cases hhandler
          exact .confirmAck hstate htype hrun
      | handshakeComplete =>
          rw [hstate] at hexpected
          exact nomatch hexpected
      | terminated =>
          rw [hstate] at hexpected
          exact nomatch hexpected

/-- What an iteration makes of a datagram that its check let pass or not. -/
theorem negotiate_checked (h : Handlers ρ) {s : ZRTPSocket ρ} {d : Bytes} {c : Clock} {good : Bool}
    (hover : ¬ s.Over) (hchecked : s.checked d = some good) :
    s.negotiate h ⟨.datagram d, c⟩ = negotiated
      (if good then { s with buf := s.buf.receive d }.dispatch h c (s.received d)
        else { s with buf := s.buf.receive d }.resendPacketIfTimeout c) := by
  unfold negotiate
  simp only []
  rw [if_neg hover, receive_of_checked hchecked, Java.ok_bind]
  cases good with
  | true => rfl
  | false => rfl

theorem dispatch_unexpected (h : Handlers ρ) (c : Clock) (packet : HandshakePacket)
    (s : ZRTPSocket ρ) (type : Bytes) (htype : packet.getType = .ok type)
    (hexpected : expected s.state ≠ some type) :
    s.dispatch h c packet = s.resendPacketIfTimeout c := by
  rw [dispatch_eq htype]
  cases hhandler : handler h s.state type with
  | none => rfl
  | some handle =>
      -- A handler would mean that the state waits for the type.
      refine absurd ((handler_isSome h s.state type).mp ?_) hexpected
      rw [hhandler]
      rfl

/-- The resend fails as what it is, and is not taken for a packet found
    invalid. -/
theorem negotiated_resendPacket (now : Int) (s : ZRTPSocket ρ) :
    negotiated (s.resendPacket now) = s.resendPacket now := by
  unfold resendPacket
  -- Only a packet found invalid is turned into a failure of its own there.
  by_cases hcount : s.retransmitCount > MAX_RETRANSMIT_COUNT
  · rw [if_pos hcount]
    cases s.lastPacket with
    | none => rfl
    | some p => rfl
  · rw [if_neg hcount]
    rfl

/-- An iteration that found no packet for its handler, in terms of `waiting`. -/
theorem resendPacketIfTimeout_eq (c : Clock) (s : ZRTPSocket ρ) :
    negotiated (s.resendPacketIfTimeout c)
      = if s.waiting c = .retransmission then s.resendPacket c.transmit else .ok s := by
  unfold resendPacketIfTimeout
  by_cases htime : s.isRetransmitTime c.timeoutCheck = true
  · rw [if_pos htime, if_pos ((waiting_retransmission c s).mpr htime), negotiated_resendPacket]
  · rw [if_neg htime, if_neg (fun h => htime ((waiting_retransmission c s).mp h))]
    rfl

/-- What an iteration without a packet for its handler comes to, and what it
    does. -/
theorem negotiate_waiting (h : Handlers ρ) (s : ZRTPSocket ρ) (i : Input)
    (hquiet : ∀ state, s.iteration i ≠ .handler state) (hactive : i.event = .timeout ∨
      ∃ d good, i.event = .datagram d ∧ s.checked d = some good) (hover : ¬ s.Over) :
    s.iteration i = s.waiting i.clock ∧ ∃ buf, s.negotiate h i
      = if s.waiting i.clock = .retransmission
        then { s with buf := buf }.resendPacket i.clock.transmit
        else .ok { s with buf := buf } := by
  rcases i with ⟨event, c⟩
  rcases hactive with hevent | ⟨d, good, hevent, hchecked⟩
  -- On a timeout the buffer stays, and the resend is all there is.
  · simp only at hevent
    subst hevent
    refine ⟨if_neg hover, s.buf, ?_⟩
    unfold negotiate
    simp only []
    rw [if_neg hover, ← resendPacketIfTimeout_eq]
    unfold resendPacketIfTimeout
    by_cases htime : s.isRetransmitTime c.timeoutCheck = true
    · rw [if_pos htime, negotiated_resendPacket]
    · rw [if_neg htime]
      rfl
  · simp only at hevent
    subst hevent
    -- The datagram is in the buffer by now, whatever its checksum came to.
    have hbuf := resendPacketIfTimeout_eq c { s with buf := s.buf.receive d }
    have hiteration : s.iteration ⟨.datagram d, c⟩ = match good with
        | false => s.waiting c
        | true => if (s.received d).getType.toOption = expected s.state then .handler s.state
          else s.waiting c := by
      unfold iteration
      simp only [hchecked]
      rw [if_neg hover]
      cases good with
      | true => rfl
      | false => rfl
    rw [negotiate_checked h hover hchecked]
    cases good with
    | false => exact ⟨hiteration, s.buf.receive d, hbuf⟩
    | true =>
        simp only at hiteration
        -- It passed its check, so it is its type that no handler waits for.
        have hunexpected : ¬ (s.received d).getType.toOption = expected s.state := by
          intro hexpected
          rw [if_pos hexpected] at hiteration
          exact hquiet s.state hiteration
        rw [if_neg hunexpected] at hiteration
        rcases exists_getType_received d s with ⟨type, htype⟩
        refine ⟨hiteration, s.buf.receive d, ?_⟩
        rw [if_pos rfl, dispatch_unexpected h c _ { s with buf := s.buf.receive d } type htype ?_]
        · exact hbuf
        · intro hexpected
          rw [htype] at hunexpected
          exact hunexpected hexpected.symm

/-- The last packet is sent again, or the iteration fails as that does. -/
theorem negotiate_retransmission (h : Handlers ρ) (s : ZRTPSocket ρ) (i : Input)
    (hit : s.iteration i = .retransmission) :
    ∃ buf, s.negotiate h i = { s with buf := buf }.resendPacket i.clock.transmit := by
  have hquiet : ∀ state, s.iteration i ≠ .handler state := by
    rw [hit]
    exact nofun
  have hover : ¬ s.Over := by
    intro hover
    rw [iteration_of_over s i hover] at hit
    exact nomatch hit
  have hactive : i.event = .timeout ∨
      ∃ d good, i.event = .datagram d ∧ s.checked d = some good := by
    unfold iteration at hit
    cases hevent : i.event with
    | timeout => exact Or.inl rfl
    | datagram d =>
        cases hchecked : s.checked d with
        | none => simp only [hevent, if_neg hover, hchecked, reduceCtorEq] at hit
        | some good => exact Or.inr ⟨d, good, rfl, hchecked⟩
    | ioException message => simp only [hevent, reduceCtorEq] at hit
    | close => simp only [hevent, reduceCtorEq] at hit
  rcases negotiate_waiting h s i hquiet hactive hover with ⟨hwaiting, buf, hrun⟩
  rw [if_pos (hwaiting.symm.trans hit)] at hrun
  exact ⟨buf, hrun⟩

/-- The handler of the state runs, on a packet of its type. -/
theorem negotiate_handler (h : Handlers ρ) (s s' : ZRTPSocket ρ) (i : Input) (state : State)
    (hit : s.iteration i = .handler state) (hrun : s.negotiate h i = .ok s') :
    state = s.state ∧ ∃ d, i.event = .datagram d ∧
      Handled h i.clock (s.received d) { s with buf := s.buf.receive d } s' := by
  rcases i with ⟨event, c⟩
  unfold iteration at hit
  cases event with
  | close => exact nomatch hit
  | ioException message => exact nomatch hit
  | timeout =>
      by_cases hover : s.Over
      · simp only [if_pos hover, reduceCtorEq] at hit
      · simp only [if_neg hover] at hit
        exact absurd hit (waiting_ne_handler c s state)
  | datagram d =>
      by_cases hover : s.Over
      · simp only [if_pos hover, reduceCtorEq] at hit
      · simp only [if_neg hover] at hit
        -- A handler runs only on a packet that was checked and is expected.
        cases hchecked : s.checked d with
        | none => simp only [hchecked, reduceCtorEq] at hit
        | some good =>
            rw [negotiate_checked h hover hchecked, negotiated_ok] at hrun
            cases good with
            | false =>
                simp only [hchecked] at hit
                exact absurd hit (waiting_ne_handler c s state)
            | true =>
                simp only [hchecked] at hit
                rcases exists_getType_received d s with ⟨type, htype⟩
                by_cases hexpected : (s.received d).getType.toOption = expected s.state
                · rw [if_pos hexpected, Iteration.handler.injEq] at hit
                  rw [htype] at hexpected
                  exact ⟨hit.symm, d, rfl, handled_of_expected h c (s.received d) _ s' type htype
                    hexpected.symm hrun⟩
                · rw [if_neg hexpected] at hit
                  exact absurd hit (waiting_ne_handler c s state)

/-- The socket stays as it was but for its buffer, unless it is closed. -/
theorem negotiate_nothing (h : Handlers ρ) (s s' : ZRTPSocket ρ) (i : Input)
    (hit : s.iteration i = .nothing) (hrun : s.negotiate h i = .ok s') :
    (∃ buf, s' = { s with buf := buf }) ∨
      i.event = .close ∧ s' = { s with state := .terminated } := by
  by_cases hclose : i.event = .close
  · unfold negotiate at hrun
    rw [hclose] at hrun
    exact Or.inr ⟨hclose, (Except.ok.inj hrun).symm⟩
  · by_cases hover : s.Over
    · refine Or.inl ⟨s.buf, ?_⟩
      unfold negotiate at hrun
      cases hevent : i.event with
      | close => exact absurd hevent hclose
      | timeout =>
          simp only [hevent, if_pos hover, Except.ok.injEq] at hrun
          exact hrun.symm
      | ioException message =>
          simp only [hevent, if_pos hover, Except.ok.injEq] at hrun
          exact hrun.symm
      | datagram d =>
          simp only [hevent, if_pos hover, Except.ok.injEq] at hrun
          exact hrun.symm
    · have hquiet : ∀ state, s.iteration i ≠ .handler state := by
        rw [hit]
        exact nofun
      have hactive : i.event = .timeout ∨
          ∃ d good, i.event = .datagram d ∧ s.checked d = some good := by
        unfold negotiate at hrun
        cases hevent : i.event with
        | close => exact absurd hevent hclose
        | timeout => exact Or.inl rfl
        | ioException message => simp only [hevent, if_neg hover, reduceCtorEq] at hrun
        | datagram d =>
            cases hchecked : s.checked d with
            | some good => exact Or.inr ⟨d, good, rfl, hchecked⟩
            | none =>
                -- A check that throws does not return.
                rcases receive_of_unchecked hchecked with ⟨e, herror⟩
                simp only [hevent, if_neg hover, negotiated_ok, herror, Java.bind_ok,
                  reduceCtorEq, false_and, exists_false] at hrun
      rcases negotiate_waiting h s i hquiet hactive hover with ⟨hwaiting, buf, hbuf⟩
      have hidle : s.waiting i.clock ≠ .retransmission := by
        rw [← hwaiting, hit]
        exact nofun
      rw [if_neg hidle, hrun, Except.ok.injEq] at hbuf
      exact Or.inl ⟨buf, hbuf⟩

/-- Handlers that agree on the state a socket is in make the same of every
    iteration. -/
theorem negotiate_congr (h h' : Handlers ρ) (s : ZRTPSocket ρ) (i : Input)
    (hsame : ∀ type, handler h s.state type = handler h' s.state type) :
    s.negotiate h i = s.negotiate h' i := by
  rcases i with ⟨event, c⟩
  cases event with
  | close => rfl
  | ioException message => rfl
  | timeout => rfl
  | datagram d =>
      -- The datagram is dispatched to one handler, by its type.
      have hdispatch : { s with buf := s.buf.receive d }.dispatch h c (s.received d)
          = { s with buf := s.buf.receive d }.dispatch h' c (s.received d) := by
        rcases exists_getType_received d s with ⟨type, htype⟩
        rw [dispatch_eq htype, dispatch_eq htype]
        simp only [hsame type]
      by_cases hover : s.Over
      · unfold negotiate
        simp only [if_pos hover]
      · cases hchecked : s.checked d with
        | none =>
            rcases receive_of_unchecked hchecked with ⟨e, herror⟩
            unfold negotiate
            simp only [if_neg hover, herror]
            rfl
        | some good =>
            rw [negotiate_checked h hover hchecked, negotiate_checked h' hover hchecked]
            cases good with
            | true => exact congrArg negotiated hdispatch
            | false => rfl

/-! ## The iterations of a run -/

/-- What the iterations of a run come to, up to and with one that throws. -/
def iterations (h : Handlers ρ) : ZRTPSocket ρ → List Input → List Iteration
  | _, [] => []
  | s, i :: is => s.iteration i :: match s.negotiate h i with
    | .ok s' => iterations h s' is
    | .error _ => []

/-- The trace of a run that goes on is its trace so far and the next one. -/
theorem iterations_concat (h : Handlers ρ) (s t : ZRTPSocket ρ) (is : List Input) (i : Input)
    (hrun : Run.run (negotiate h) s is = .ok t) :
    iterations h s (is ++ [i]) = iterations h s is ++ [t.iteration i] := by
  induction is generalizing s with
  | nil =>
      simp only [Run.run, Except.ok.injEq] at hrun
      subst hrun
      simp only [iterations, List.nil_append]
      cases s.negotiate h i with
      | ok s' => rfl
      | error e => rfl
  | cons j is ih =>
      rcases (Run.run_cons _ s t j is).mp hrun with ⟨s', hstep, hrest⟩
      rw [List.cons_append, iterations, iterations, hstep]
      simp only []
      rw [ih s' hrest, List.cons_append]

theorem iterations_take (h : Handlers ρ) (s : ZRTPSocket ρ) (is : List Input) (n : Nat) :
    iterations h s (is.take n) = (iterations h s is).take n := by
  induction n generalizing s is with
  | zero => rfl
  | succ n ih =>
      cases is with
      | nil => rfl
      | cons i is =>
          simp only [List.take_succ_cons, iterations]
          cases s.negotiate h i with
          | ok s' => exact congrArg (s.iteration i :: ·) (ih s' is)
          | error e => simp only [List.take_nil]

/-- A part of a trace is the trace of a part of its run. -/
theorem prefix_of_iterations (h : Handlers ρ) (s t : ZRTPSocket ρ) (is : List Input)
    (its jts : List Iteration) (hrun : Run.run (negotiate h) s is = .ok t)
    (hits : iterations h s is = its ++ jts) :
    ∃ pre post u, is = pre ++ post ∧ Run.run (negotiate h) s pre = .ok u ∧
      iterations h s pre = its := by
  have hsplit := hrun
  rw [← List.take_append_drop its.length is, Run.run_append] at hsplit
  cases hpre : Run.run (negotiate h) s (is.take its.length) with
  | error e =>
      rw [hpre] at hsplit
      exact nomatch hsplit
  | ok u =>
      refine ⟨is.take its.length, is.drop its.length, u, (List.take_append_drop _ _).symm, hpre, ?_⟩
      rw [iterations_take, hits, List.take_left]

/-- The states whose handlers ran. -/
def ran (its : List Iteration) : List State :=
  its.filterMap fun it => match it with
    | .handler state => some state
    | .retransmission => none
    | .nothing => none

theorem ran_append (its jts : List Iteration) : ran (its ++ jts) = ran its ++ ran jts :=
  List.filterMap_append

end ZRTPSocket

end RedPhone
