import RedPhone.Zrtp.Undisturbed

/-!
# Which Side Completes First

The initiator has no packet to wait for that is its own: it takes as the
acknowledgement of its Confirm2 whatever is not a handshake packet, since the
responder may be sending audio already. In that state it does not look at
checksums either, audio having none.

So over a network that also corrupts, the initiator completes only after the
responder, as long as no corrupted packet is one of these. What it takes then
is a Conf2Ack, which the invariants of the responder say is made by a completed
responder only, or audio, which is sent by one only. The condition is needed:
a corrupted packet whose first byte is not that of a handshake packet is taken
as the acknowledgement too.

What the responder sends after it has completed is not modelled: any datagram
at all may be delivered then.

## Main definitions

* `Corrupts`: A damaged copy of a datagram, which the checksum reveals.
* `Noisy`: A network that loses, duplicates, reorders, delays and corrupts.
* `NotTakenAsAck`: A datagram not taken as the acknowledgement.

## Theorems

* `ZRTPInitiatorSocket.completes`: How the initiator completes.
* `completesFirst_step`: The invariant.
* `completion_agreement`: The responder completes first.
-/

namespace RedPhone

open HandshakePacket Undisturbed

/-- A copy of a datagram with bytes changed, so that its checksum is wrong. -/
def Corrupts (original d : Bytes) : Prop :=
  d.length = original.length ∧ (ZRTPSocket.ofDatagram d).verifyCRC = .ok false

/-- The network delivers what the parties have sent, at any time and any
    number of times, and damaged copies of it, to the initiator those that are
    `allowed`. Once the responder has completed it sends audio. -/
def Noisy (allowed : ZRTPInitiatorSocket → Bytes → Prop) : Delivery where
  toInitiator n d := d ∈ n.responder.sent ∨
    (∃ m ∈ n.responder.sent, Corrupts m d ∧ allowed n.initiator d) ∨
    n.responder.state = .handshakeComplete
  toResponder n d := d ∈ n.initiator.sent ∨ ∃ m ∈ n.initiator.sent, Corrupts m d

/-- An initiator that waits for its acknowledgement does not take the datagram
    for one. -/
def NotTakenAsAck (s : ZRTPInitiatorSocket) (d : Bytes) : Prop :=
  s.state = .expectingConfirmAck → (s.received d).getType ≠ .ok CONF_ACK_TYPE

/-- The initiator completes by taking a datagram as the acknowledgement. -/
theorem ZRTPInitiatorSocket.completes {C : Crypto} {cfg : Config} {s s' : ZRTPInitiatorSocket}
    {i : Input} (hstep : step C cfg s i = .ok s') (hcomplete : s'.state = .handshakeComplete) :
    s.state = .handshakeComplete ∨ ∃ d, i.event = .datagram d ∧ s.state = .expectingConfirmAck ∧
      (s.received d).getType = .ok CONF_ACK_TYPE := by
  rcases ZRTPSocket.negotiate_ok _ s s' i hstep with ⟨d, hevent, _, _, hhandled⟩ | ⟨hidle, _, _⟩
  -- Only the last handler ends in the state.
  · cases hhandled with
    | hello _ _ hrun =>
        rcases handleHello_ok hrun with ⟨_, _, rfl⟩
        exact nomatch hcomplete
    | helloAck _ _ hrun =>
        rcases handleHelloAck_next (s.received d) hrun with ⟨_, _, _, rfl⟩
        exact nomatch hcomplete
    | commit _ _ hrun => exact nomatch hrun
    | dhOne _ _ hrun =>
        rcases handleDH_ok hrun with ⟨_, _, _, _, _, rfl⟩
        exact nomatch hcomplete
    | dhTwo _ _ hrun =>
        rcases handleDH_ok hrun with ⟨_, _, _, _, _, rfl⟩
        exact nomatch hcomplete
    | confirmOne _ _ hrun =>
        rcases handleConfirmOne_next hrun with ⟨_, _, rfl⟩
        exact nomatch hcomplete
    | confirmTwo _ _ hrun => exact nomatch hrun
    | confirmAck hstate htype _ => exact Or.inr ⟨d, hevent, hstate, htype⟩
  · -- Without a handler the state is entered only by closing, and that is
    -- another one.
    rcases hidle.state_eq with hs | hs
    · exact Or.inl (hs.symm.trans hcomplete)
    · rw [hs] at hcomplete
      exact nomatch hcomplete

/-- A responder that nobody hangs up is not terminated. -/
theorem ZRTPResponderSocket.not_terminated {C : Crypto} {cfg : Config} {s s' : ZRTPResponderSocket}
    {i : Input} (hstep : step C cfg s i = .ok s') (hevent : i.event ≠ .close)
    (h : s.state ≠ .terminated) : s'.state ≠ .terminated := by
  rcases ZRTPSocket.negotiate_ok _ s s' i hstep with ⟨d, _, _, _, hhandled⟩ | ⟨_, hs, _⟩
  · cases hhandled with
    | hello _ _ hrun =>
        rcases handleHello_ok hrun with ⟨_, _, rfl⟩
        exact nofun
    | helloAck _ _ hrun => exact nomatch hrun
    | commit _ _ hrun =>
        rcases handleCommit_next hrun with ⟨_, _, _, rfl⟩
        exact nofun
    | dhOne _ _ hrun =>
        rcases handleDH_next hrun with ⟨_, _, _, rfl⟩
        exact nofun
    | dhTwo _ _ hrun =>
        rcases handleDH_next hrun with ⟨_, _, _, rfl⟩
        exact nofun
    | confirmOne _ _ hrun => exact nomatch hrun
    | confirmTwo _ _ hrun =>
        rcases handleConfirmTwo_next hrun with ⟨_, _, rfl⟩
        exact nofun
    | confirmAck _ _ hrun => exact nomatch hrun
  · -- Only closing leads there.
    rcases hs with hs | hs
    · rw [hs]
      exact h
    · exact absurd hs hevent

/-- The invariant: what the responder has made, and that it completes first. -/
structure CompletesFirst (C : Crypto) (cfgR : Config) (n : Network) : Prop where
  responder : ZRTPResponderSocket.Local C cfgR n.responder
  running : n.responder.state ≠ .terminated
  first : n.initiator.state = .handshakeComplete → n.responder.state = .handshakeComplete

theorem completesFirst_step {C : Crypto} {cfgI cfgR : Config} {n n' : Network}
    (h : CompletesFirst C cfgR n)
    (hstep : Network.Step C cfgI cfgR (Noisy NotTakenAsAck) n n') : CompletesFirst C cfgR n' := by
  have hover : n.responder.Over → n.responder.state = .handshakeComplete :=
    fun ho => ho.resolve_right h.running
  cases hstep with
  | initiator i s hallowed hstep =>
      refine ⟨h.responder, h.running, fun hcomplete => ?_⟩
      rcases ZRTPInitiatorSocket.completes hstep hcomplete with hbefore | ⟨d, hevent, hstate, htype⟩
      · exact h.first hbefore
      · rcases hallowed.2 d hevent with hsent | ⟨_, _, _, hnot⟩ | hmedia
        · -- A Conf2Ack as it was sent, which only a completed responder makes.
          rcases h.responder.sends.sent d hsent with ⟨p, hp, hcarries⟩
          have hsend := ZRTPResponderSocket.made_sendable h.responder.hello h.responder.committed p
            hp
          rw [(received_carried d p n.initiator hcarries hsend).1] at htype
          rcases ZRTPResponderSocket.made_cases h.responder p hp with
            ⟨_, ht⟩ | ht | ⟨_, _, _, ht⟩ | ht | ⟨_, hdone⟩
          · exact absurd (Except.ok.inj (ht.symm.trans htype)) (by decide +kernel)
          · exact absurd (Except.ok.inj (ht.symm.trans htype)) (by decide +kernel)
          · exact absurd (Except.ok.inj (ht.symm.trans htype)) (by decide +kernel)
          · exact absurd (Except.ok.inj (ht.symm.trans htype)) (by decide +kernel)
          · exact hover hdone
        · exact absurd htype (hnot hstate)
        · exact hmedia
  -- Who has completed stays so.
  | responder i s hallowed hstep =>
      rcases ZRTPResponderSocket.local_step h.responder i hstep with ⟨hlocal, hgrows, _⟩
      have hrunning := ZRTPResponderSocket.not_terminated hstep hallowed.1 h.running
      refine ⟨hlocal, hrunning, fun hcomplete => ?_⟩
      exact (hgrows.ended (Or.inl (h.first hcomplete))).resolve_right hrunning

theorem completesFirst_of_reaches {C : Crypto} {cfgI cfgR : Config} {n : Network}
    (databaseI databaseR : RetainedSecretsDatabase) (legacy : Bool) (now : Int)
    (hreach : Network.Reaches C cfgI cfgR (Noisy NotTakenAsAck)
      (Network.start C cfgR databaseI databaseR legacy now) n) : CompletesFirst C cfgR n := by
  induction hreach with
  | refl => exact ⟨ZRTPResponderSocket.local_start databaseR legacy now, nofun, nofun⟩
  | tail _ hstep ih => exact completesFirst_step ih hstep

/-- Over a network that loses, duplicates, reorders, delays and corrupts, an
    initiator that has completed has a responder that has, if no corrupted
    packet is taken for the acknowledgement. -/
theorem completion_agreement (C : Crypto) (cfgI cfgR : Config)
    (databaseI databaseR : RetainedSecretsDatabase) (legacy : Bool) (now : Int) (n : Network)
    (hreach : Network.Reaches C cfgI cfgR (Noisy NotTakenAsAck)
      (Network.start C cfgR databaseI databaseR legacy now) n)
    (hcomplete : n.initiator.state = .handshakeComplete) :
    n.responder.state = .handshakeComplete := by
  exact (completesFirst_of_reaches databaseI databaseR legacy now hreach).first hcomplete

/-- An undisturbed handshake, as one over a noisy network. -/
theorem completion_agreement_undisturbed :
    ∃ n, Network.Reaches jce caller callee (Noisy NotTakenAsAck)
        (Network.start jce callee .empty .empty false 0) n ∧
      n.initiator.state = .handshakeComplete ∧ n.responder.state = .handshakeComplete := by
  rcases reaches_complete (c := ⟨0, 0, 0, 0, 0⟩) (ready 0) false 0 with ⟨n, hreach, hcomplete, _⟩
  have hnoisy := hreach.mono (E := Noisy NotTakenAsAck) (fun _ _ => Or.inl) (fun _ _ => Or.inl)
  exact ⟨n, hnoisy, hcomplete,
    completion_agreement jce caller callee .empty .empty false 0 n hnoisy hcomplete⟩

/-- Zeros, with a checksum that is off by one. -/
def zeroed : Bytes :=
  List.replicate 88 0 ++ Endian.toBE 4 ((Crc32.crc32 (List.replicate 88 0)).toNat + 1)

theorem zeroed_verifyCRC : (ZRTPSocket.ofDatagram zeroed).verifyCRC = .ok false := by
  have hlength : zeroed.length = 92 := by
    rw [zeroed, List.length_append, Endian.length_toBE, List.length_replicate]
  -- The code is that of the body, plus one.
  have hbody : Slice.slice 0 88 zeroed = List.replicate 88 0 := by
    rw [zeroed, Slice.slice_append_left _ _ _ _ (by rw [List.length_replicate])]
    exact List.take_of_length_le (by rw [List.drop_zero, List.length_replicate])
  have hfield : Slice.slice 88 4 zeroed
      = Endian.toBE 4 ((Crc32.crc32 (List.replicate 88 0)).toNat + 1) := by
    rw [zeroed, Slice.slice_append_right _ _ _ _ (by rw [List.length_replicate]),
      List.length_replicate]
    exact List.take_of_length_le (by rw [Nat.sub_self, List.drop_zero, Endian.length_toBE])
  have hcrc := (Crc32.crc32 (List.replicate 88 0)).toNat_lt
  unfold ZRTPSocket.ofDatagram
  rw [List.take_of_length_le (by omega), verifyCRC_ok]
  have hmin : min zeroed.length 4096 = 92 := by omega
  simp only [hmin]
  refine ⟨by omega, by omega, ?_⟩
  rw [hbody, hfield, Endian.ofBE_toBE]
  exact (beq_false_of_ne (by omega)).symm

/-- A Confirm1 that arrives so completes the initiator, though its checksum is
    wrong. -/
theorem completion_without_peer :
    ∃ n, Network.Reaches jce caller callee (Noisy fun _ _ => True)
        (Network.start jce callee .empty .empty false 0) n ∧
      n.initiator.state = .handshakeComplete ∧ n.responder.state = .expectingConfirmTwo := by
  rcases reaches_confirmTwo (c := ⟨0, 0, 0, 0, 0⟩) (ready 0) false 0 with
    ⟨n, m, commit, one, confirm, two, hreach, h⟩
  have hnoisy := hreach.mono (E := Noisy fun _ _ => True) (fun _ _ => Or.inl) (fun _ _ => Or.inl)
  rcases h.madeOne with ⟨iv, hmade⟩
  have hsend := sendable_of_header hmade.header (by decide) (by decide)
  have hlength : zeroed.length = (one.wire 3).data.length := by
    have hsame := wire_sameMessage 3 one hsend.1
    rw [(SameMessage.whole one _ hsame hsend.1).1, hsame.packetLength_eq,
      hmade.header.packetLength_eq]
    rw [zeroed, List.length_append, Endian.length_toBE, List.length_replicate]
    rfl
  have htype : (n.initiator.received zeroed).getType = .ok CONF_ACK_TYPE :=
    ZRTPSocket.getType_received_media 0 _ n.initiator (by decide)
  -- A datagram of zeros has the type of an acknowledgement for a socket in this
  -- state.
  rcases h.takes_ack (c := ⟨0, 0, 0, 0, 0⟩) (ready 0) _ htype with ⟨s, hstep, hcomplete⟩
  refine ⟨⟨s, n.responder⟩, hnoisy.tail (.initiator n ⟨.datagram _, _⟩ s ⟨nofun, fun d hd => ?_⟩
    hstep), hcomplete, h.responder.state_eq⟩
  rw [← Event.datagram.inj hd]
  exact Or.inr (Or.inl ⟨_, h.responder.sent, ⟨hlength, zeroed_verifyCRC⟩, trivial⟩)

end RedPhone
