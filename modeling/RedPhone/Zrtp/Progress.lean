import Mathlib.Tactic.IntervalCases
import RedPhone.Lib.Progress
import RedPhone.Zrtp.Honest

/-!
# An Honest Handshake Can Always Complete

However packets have been duplicated, reordered and held back, two honest
parties are never at a dead end as long as nothing is lost for good. Either the
party that is behind, or the initiator if both are equally far, waits for a
packet that its peer has already sent, and that is accepted whenever it comes.
Each packet accepted takes its receiver one state on, so no more packets are
needed than states are left.

What this asks of the network is that a datagram that has been sent can still
be delivered, and that neither party has been ended before by an error of the
socket or by waiting too long: an iteration that throws has no state after it.
A network that destroys the one packet a party waits for can strand it. Where
the responder has completed it answers nothing any more, and an initiator whose
last acknowledgement is gone never completes.

## Main definitions

* `Network.remaining`: How many packets are still to be accepted.

## Theorems

* `ZRTPInitiatorSocket.waits`, `ZRTPResponderSocket.waits`: Which packet of the
  peer a party waits for.
* `Running.initiator_moves`, `Running.responder_moves`: Who can go on.
* `can_complete`: From every state that is reached both can complete.
-/

namespace RedPhone

open HandshakePacket Undisturbed Progress

/-- The states a socket has before it. -/
def ZRTPSocket.left {ρ : Type} (path : List State) (s : ZRTPSocket ρ) : Nat :=
  path.length - 1 - path.idxOf s.state

/-- The packets that have to be accepted before both have completed. -/
def Network.remaining (n : Network) : Nat :=
  n.initiator.left ZRTPInitiatorSocket.path + n.responder.left ZRTPResponderSocket.path

theorem ZRTPSocket.left_of_place {ρ : Type} {path : List State} {s : ZRTPSocket ρ}
    (hnodup : path.Nodup) {k : Nat} (hk : path[k]? = some s.state) :
    s.left path = path.length - 1 - k := by
  rcases List.getElem?_eq_some_iff.mp hk with ⟨hlt, hstate⟩
  unfold ZRTPSocket.left
  rw [← hstate, hnodup.idxOf_getElem k hlt]

/-- A packet on the wire that is accepted takes its receiver one state on. -/
theorem ZRTPSocket.moves {ρ : Type} {h : Handlers ρ} {path : List State} {s : ZRTPSocket ρ}
    {c : Clock} {d type : Bytes} (hfollows : ZRTPSocket.Follows h path)
    (hnodup : path.Nodup) {k : Nat} (hk : path[k]? = some s.state) (hover : ¬ s.Over)
    (haccepted : Accepted h c s d type) (hexpected : ZRTPSocket.expected s.state = some type) :
    ∃ s', s.negotiate h ⟨.datagram d, c⟩ = .ok s' ∧ path[k + 1]? = some s'.state := by
  rcases haccepted with ⟨hcrc, htype, hhandled⟩
  -- The state has a handler for the packet it expects.
  obtain ⟨handle, hhandle⟩ : ∃ handle, ZRTPSocket.handler h s.state type = some handle :=
    Option.isSome_iff_exists.mp ((ZRTPSocket.handler_isSome h s.state type).mpr hexpected)
  rcases hhandled handle hhandle with ⟨s', hrun⟩
  have hdispatch : { s with buf := s.buf.receive d }.dispatch h c (s.received d) = .ok s' := by
    rw [ZRTPSocket.dispatch_eq htype]
    simp only [hhandle, hrun]
  have hran := ZRTPSocket.handled_of_expected h c _ { s with buf := s.buf.receive d } s' type htype
    hexpected hdispatch
  refine ⟨s', ZRTPSocket.negotiate_of_handled h s s' d c hover (Or.inr hcrc) hran, ?_⟩
  -- Which takes the socket one place on.
  rcases hfollows c _ { s with buf := s.buf.receive d } s' (List.mem_of_getElem? hk) hran with
    ⟨m, hm, hnext⟩
  rcases List.getElem?_eq_some_iff.mp hk with ⟨hlt, _⟩
  rw [(List.getElem?_inj hlt hnodup).mp (hk.trans hm.symm)]
  exact hnext

/-- An initiator waits for the packet its peer enters the state at the same
    place with. -/
theorem ZRTPInitiatorSocket.waits {k : Nat} {state : State} (hk : path[k]? = some state)
    (hnot : state ≠ .handshakeComplete) :
    ∃ peer type, ZRTPResponderSocket.path[k]? = some peer ∧
      ZRTPResponderSocket.entry peer = some type ∧ ZRTPSocket.expected state = some type := by
  rcases List.getElem?_eq_some_iff.mp hk with ⟨hlt, rfl⟩
  have hplace : k < 6 := hlt
  interval_cases k
  · exact ⟨_, _, rfl, rfl, rfl⟩
  · exact ⟨_, _, rfl, rfl, rfl⟩
  · exact ⟨_, _, rfl, rfl, rfl⟩
  · exact ⟨_, _, rfl, rfl, rfl⟩
  · exact ⟨_, _, rfl, rfl, rfl⟩
  · exact absurd rfl hnot

/-- A responder waits for the packet its peer enters the state at the next
    place with. -/
theorem ZRTPResponderSocket.waits {k : Nat} {state : State} (hk : path[k]? = some state)
    (hnot : state ≠ .handshakeComplete) :
    ∃ peer type, ZRTPInitiatorSocket.path[k + 1]? = some peer ∧
      ZRTPInitiatorSocket.entry peer = some type ∧ ZRTPSocket.expected state = some type := by
  rcases List.getElem?_eq_some_iff.mp hk with ⟨hlt, rfl⟩
  have hplace : k < 5 := hlt
  interval_cases k
  · exact ⟨_, _, rfl, rfl, rfl⟩
  · exact ⟨_, _, rfl, rfl, rfl⟩
  · exact ⟨_, _, rfl, rfl, rfl⟩
  · exact ⟨_, _, rfl, rfl, rfl⟩
  · exact absurd rfl hnot

/-- The place of a state that does not come after the last. -/
theorem ZRTPSocket.not_over_of_place {ρ : Type} {path : List State} {s : ZRTPSocket ρ} {k : Nat}
    (hk : path[k]? = some s.state) (hclosed : State.terminated ∉ path)
    (hnot : s.state ≠ .handshakeComplete) : ¬ s.Over := by
  rintro (hs | hs)
  · exact hnot hs
  · rw [hs] at hk
    exact hclosed (List.mem_of_getElem? hk)

namespace Running

variable {C : Crypto} {cfgI cfgR : Config} {databaseI databaseR : RetainedSecretsDatabase}
  {n : Network}

/-- An initiator that is not ahead of its peer can go on. -/
theorem initiator_moves (h : Running C cfgI cfgR databaseI databaseR n)
    (hc : Compatible C cfgI cfgR databaseI databaseR) (c : Clock)
    (hread : Readable cfgI cfgR databaseI databaseR c.retrieve) {k m : Nat}
    (hk : ZRTPInitiatorSocket.path[k]? = some n.initiator.state)
    (hm : ZRTPResponderSocket.path[m]? = some n.responder.state) (hkm : k ≤ m)
    (hnot : n.initiator.state ≠ .handshakeComplete) :
    ∃ s, Network.Step C cfgI cfgR Honest n { n with initiator := s } ∧
      ZRTPInitiatorSocket.path[k + 1]? = some s.state := by
  rcases ZRTPInitiatorSocket.waits hk hnot with ⟨peer, type, hpeer, hentry, hexpected⟩
  -- The peer has come past the state it enters with this packet.
  rcases h.responderSupplied.posted m k peer type hm hkm hpeer hentry with
    ⟨q, j, hq, hqtype, hmem⟩
  -- What the peer has sent is accepted.
  rcases h.initiator_handles hc c hread hmem with ⟨type', haccepted⟩
  have hsame : type' = type := by
    have hread' := (received_wire q hq j n.initiator).2.1.trans hqtype
    rw [haccepted.type_eq, Except.ok.injEq] at hread'
    exact hread'
  subst hsame
  have hover := ZRTPSocket.not_over_of_place hk (by decide) hnot
  rcases ZRTPSocket.moves ZRTPInitiatorSocket.follows (by decide) hk hover haccepted hexpected with
    ⟨s, hstep, hnext⟩
  refine ⟨s, .initiator n ⟨.datagram (q.wire j).data, c⟩ s ⟨?_, fun d hd => ?_⟩ hstep, hnext⟩
  · exact fun hclose => Event.noConfusion hclose
  · rw [← Event.datagram.inj hd]
    exact hmem

/-- A responder that is behind its peer can go on. -/
theorem responder_moves (h : Running C cfgI cfgR databaseI databaseR n)
    (hc : Compatible C cfgI cfgR databaseI databaseR) (c : Clock)
    (hread : Readable cfgI cfgR databaseI databaseR c.retrieve) {k m : Nat}
    (hk : ZRTPInitiatorSocket.path[k]? = some n.initiator.state)
    (hm : ZRTPResponderSocket.path[m]? = some n.responder.state) (hmk : m + 1 ≤ k)
    (hnot : n.responder.state ≠ .handshakeComplete) :
    ∃ s, Network.Step C cfgI cfgR Honest n { n with responder := s } ∧
      ZRTPResponderSocket.path[m + 1]? = some s.state := by
  rcases ZRTPResponderSocket.waits hm hnot with ⟨peer, type, hpeer, hentry, hexpected⟩
  -- The initiator has come past the state it enters with this packet.
  rcases h.initiatorSupplied.posted k (m + 1) peer type hk hmk hpeer hentry with
    ⟨q, j, hq, hqtype, hmem⟩
  rcases h.responder_handles hc c hread hmem with ⟨type', haccepted⟩
  have hsame : type' = type := by
    have hread' := (received_wire q hq j n.responder).2.1.trans hqtype
    rw [haccepted.type_eq, Except.ok.injEq] at hread'
    exact hread'
  subst hsame
  have hover := ZRTPSocket.not_over_of_place hm (by decide) hnot
  rcases ZRTPSocket.moves ZRTPResponderSocket.follows (by decide) hm hover haccepted hexpected with
    ⟨s, hstep, hnext⟩
  refine ⟨s, .responder n ⟨.datagram (q.wire j).data, c⟩ s ⟨?_, fun d hd => ?_⟩ hstep, hnext⟩
  · exact fun hclose => Event.noConfusion hclose
  · rw [← Event.datagram.inj hd]
    exact hmem

/-- As long as one of them has not completed, one of them can go on. -/
theorem nearer (h : Running C cfgI cfgR databaseI databaseR n)
    (hc : Compatible C cfgI cfgR databaseI databaseR) (c : Clock)
    (hread : Readable cfgI cfgR databaseI databaseR c.retrieve)
    (hnot : ¬ (n.initiator.state = .handshakeComplete ∧
      n.responder.state = .handshakeComplete)) :
    ∃ n', Network.Step C cfgI cfgR Honest n n' ∧ Running C cfgI cfgR databaseI databaseR n' ∧
      n'.remaining < n.remaining := by
  rcases h.initiatorPath with ⟨k, hk⟩
  rcases h.responderPath with ⟨m, hm⟩
  have hleftI := ZRTPSocket.left_of_place (by decide) hk
  have hleftR := ZRTPSocket.left_of_place (by decide) hm
  rcases List.getElem?_eq_some_iff.mp hk with ⟨hkl, _⟩
  rcases List.getElem?_eq_some_iff.mp hm with ⟨hml, _⟩
  have hlengthI : ZRTPInitiatorSocket.path.length = 6 := rfl
  have hlengthR : ZRTPResponderSocket.path.length = 5 := rfl
  by_cases hkm : k ≤ m
  · -- An initiator at one of the responder's places has not completed.
    have hinitiator : n.initiator.state ≠ .handshakeComplete := by
      intro hs
      rw [hs] at hk
      have hlast : k = 5 := (List.getElem?_inj hkl (by decide)).mp (hk.trans rfl)
      omega
    rcases h.initiator_moves hc c hread hk hm hkm hinitiator with ⟨s, hstep, hnext⟩
    refine ⟨_, hstep, running_step h hstep, ?_⟩
    have hleft := ZRTPSocket.left_of_place (by decide) hnext
    unfold Network.remaining
    simp only [hleft, hleftI]
    omega
  -- A responder behind the initiator that has completed would have both
  -- complete.
  · have hresponder : n.responder.state ≠ .handshakeComplete := by
      intro hs
      rw [hs] at hm
      have hlast : m = 4 := (List.getElem?_inj hml (by decide)).mp (hm.trans rfl)
      refine hnot ⟨?_, hs⟩
      have hk5 : k = 5 := by omega
      rw [hk5] at hk
      exact (Option.some.inj hk).symm
    rcases h.responder_moves hc c hread hk hm (by omega) hresponder with ⟨s, hstep, hnext⟩
    refine ⟨_, hstep, running_step h hstep, ?_⟩
    have hleft := ZRTPSocket.left_of_place (by decide) hnext
    rcases List.getElem?_eq_some_iff.mp hnext with ⟨hnextl, _⟩
    unfold Network.remaining
    simp only [hleft, hleftR]
    omega

end Running

/-- From every state that two honest parties reach, over a network that
    duplicates, reorders and holds back but destroys no datagram, both can still
    complete: with the packets already on the wire and those they are answered
    with, no more of them than there are states left. Both are running there,
    since an iteration that throws has no state after it. -/
theorem can_complete (C : Crypto) (cfgI cfgR : Config)
    (databaseI databaseR : RetainedSecretsDatabase) (legacy : Bool) (now : Int) (n : Network)
    (hreach : Network.Reaches C cfgI cfgR Honest
      (Network.start C cfgR databaseI databaseR legacy now) n)
    (hc : Compatible C cfgI cfgR databaseI databaseR) (c : Clock)
    (hread : Readable cfgI cfgR databaseI databaseR c.retrieve) :
    ∃ n', ReachesWithin (Network.Step C cfgI cfgR Honest) n.remaining n n' ∧ n.remaining ≤ 9 ∧
      n'.initiator.state = .handshakeComplete ∧ n'.responder.state = .handshakeComplete := by
  -- Each packet leaves one state less.
  rcases reachesWithin_of_measure (r := Network.Step C cfgI cfgR Honest) Network.remaining
    (fun a ha hgoal => ha.nearer hc c hread hgoal) n (running_of_reaches legacy now hreach) with
    ⟨n', hwithin, _, hcomplete⟩
  refine ⟨n', hwithin, ?_, hcomplete⟩
  unfold Network.remaining ZRTPSocket.left
  have hlengthI : ZRTPInitiatorSocket.path.length = 6 := rfl
  have hlengthR : ZRTPResponderSocket.path.length = 5 := rfl
  omega

/-- The initiator has sent its DHPart2 so often that its next attempt would be
    the end of it. Three packets complete the handshake from there. -/
theorem can_complete_unanswered : ∃ n,
    Network.Reaches jce caller callee Honest
      (Network.start jce callee .empty .empty false 0) n ∧
    n.initiator.state = .expectingConfirmOne ∧ n.responder.state = .expectingConfirmTwo ∧
    (∃ c e, ZRTPInitiatorSocket.step jce caller n.initiator ⟨.timeout, c⟩ = .error e) ∧
    ∃ n', ReachesWithin (Network.Step jce caller callee Honest) 3 n n' ∧
      n'.initiator.state = .handshakeComplete ∧ n'.responder.state = .handshakeComplete := by
  rcases reaches_unanswered with ⟨n, hreach, hinitiator, hresponder, hend⟩
  refine ⟨n, hreach, hinitiator, hresponder, hend, ?_⟩
  rcases can_complete jce caller callee .empty .empty false 0 n hreach compatible_strangers
    ⟨0, 0, 0, 0, 0⟩ (readable_strangers 0) with ⟨n', hwithin, _, hcomplete⟩
  have hleft : n.remaining = 3 := by
    unfold Network.remaining ZRTPSocket.left
    rw [hinitiator, hresponder]
    decide
  rw [hleft] at hwithin
  exact ⟨n', hwithin, hcomplete⟩

end RedPhone
