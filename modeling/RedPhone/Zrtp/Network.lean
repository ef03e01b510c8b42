import Mathlib.Logic.Relation
import RedPhone.Zrtp.Responder

/-!
# Two Parties and the Network Between Them

An initiator and a responder, each taking iterations of its loop in any order,
with a network that decides which datagrams each of them meets. What the
network may deliver is a parameter: the datagrams the peer has sent, any number
of times and in any order, for a network that only loses, duplicates, reorders
and delays, and corrupted copies of them for one that also corrupts.

An iteration that throws ends its party's thread. It has no successor here, so
a party that fails simply takes no step on that input, and the states reached
include those of every run in which it had stopped.

What a party has sent is described by the packets it has made. `Sends` says
that every datagram sent carries one of them, and a handler keeps it by making
a packet before sending it. `received_carried` turns a delivered datagram back
into the packet it carries: the receiver reads its type and copies its message.

## Main definitions

* `Network`: The two sockets.
* `Network.Step`: One iteration of either, under a delivery rule.
* `Honest`: Delivery of what was sent.
* `Carries`: A datagram that is a packet as it was sent.
* `Sends`: Everything a party has sent or may resend.

## Theorems

* `Sends.fresh`, `Sends.idle`: What keeps `Sends`.
* `received_carried`: What the receiver makes of a carried packet.
* `received_wire`: What it makes of one just as it was sent.
-/

namespace RedPhone

open Slice HandshakePacket

/-- The two sockets of a call. -/
structure Network where
  initiator : ZRTPInitiatorSocket
  responder : ZRTPResponderSocket

/-- Which datagrams may be delivered to either party. -/
structure Delivery where
  toInitiator : Network → Bytes → Prop
  toResponder : Network → Bytes → Prop

namespace Network

/-- The events of a loop while neither party hangs up. -/
def Allowed (deliver : Bytes → Prop) (e : Event) : Prop :=
  e ≠ .close ∧ ∀ d, e = .datagram d → deliver d

/-- One iteration of one of the parties. -/
inductive Step (C : Crypto) (cfgI cfgR : Config) (D : Delivery) : Network → Network → Prop
  | initiator (n : Network) (i : Input) (s : ZRTPInitiatorSocket)
      (hallowed : Allowed (D.toInitiator n) i.event)
      (hstep : ZRTPInitiatorSocket.step C cfgI n.initiator i = .ok s) :
      Step C cfgI cfgR D n { n with initiator := s }
  | responder (n : Network) (i : Input) (s : ZRTPResponderSocket)
      (hallowed : Allowed (D.toResponder n) i.event)
      (hstep : ZRTPResponderSocket.step C cfgR n.responder i = .ok s) :
      Step C cfgI cfgR D n { n with responder := s }

/-- Any number of iterations. -/
def Reaches (C : Crypto) (cfgI cfgR : Config) (D : Delivery) : Network → Network → Prop :=
  Relation.ReflTransGen (Step C cfgI cfgR D)

/-- Both parties with their caches, the responder having sent its Hello. -/
def start (C : Crypto) (cfgR : Config) (databaseI databaseR : RetainedSecretsDatabase)
    (legacy : Bool) (now : Int) : Network :=
  ⟨ZRTPInitiatorSocket.create databaseI,
    ZRTPResponderSocket.start C cfgR databaseR legacy now⟩

/-- A run over a network is one over any network that delivers more. -/
theorem Reaches.mono {C : Crypto} {cfgI cfgR : Config} {D E : Delivery} {n n' : Network}
    (hI : ∀ n d, D.toInitiator n d → E.toInitiator n d)
    (hR : ∀ n d, D.toResponder n d → E.toResponder n d) (h : Reaches C cfgI cfgR D n n') :
    Reaches C cfgI cfgR E n n' := by
  refine Relation.ReflTransGen.mono (fun a b hstep => ?_) n n' h
  cases hstep with
  | initiator i s hallowed hstep =>
      exact .initiator a i s ⟨hallowed.1, fun d hd => hI a d (hallowed.2 d hd)⟩ hstep
  | responder i s hallowed hstep =>
      exact .responder a i s ⟨hallowed.1, fun d hd => hR a d (hallowed.2 d hd)⟩ hstep

/-- Each party of a run over a network has made a run of its own. -/
theorem Reaches.runs {C : Crypto} {cfgI cfgR : Config} {D : Delivery} {n n' : Network}
    (h : Reaches C cfgI cfgR D n n') :
    (∃ is, Run.run (ZRTPInitiatorSocket.step C cfgI) n.initiator is = .ok n'.initiator) ∧
      ∃ is, Run.run (ZRTPResponderSocket.step C cfgR) n.responder is = .ok n'.responder := by
  induction h with
  | refl => exact ⟨⟨[], rfl⟩, ⟨[], rfl⟩⟩
  | tail _ hstep ih =>
      rcases ih with ⟨⟨is, hI⟩, ⟨js, hR⟩⟩
      cases hstep with
      | initiator i s _ hstep =>
          exact ⟨⟨is ++ [i], (Run.run_concat _ _ _ _ _).mpr ⟨_, hI, hstep⟩⟩, ⟨js, hR⟩⟩
      | responder i s _ hstep =>
          exact ⟨⟨is, hI⟩, ⟨js ++ [i], (Run.run_concat _ _ _ _ _).mpr ⟨_, hR, hstep⟩⟩⟩

end Network

/-- The network delivers what was sent, any of it at any time. -/
def Honest : Delivery where
  toInitiator n d := d ∈ n.responder.sent
  toResponder n d := d ∈ n.initiator.sent

/-! ## Packets in datagrams -/

/-- A packet of a size that is sent. -/
def Sendable (p : HandshakePacket) : Prop := Whole p ∧ p.packetLength ≤ 4096

/-- The datagram is the packet, but for sequence number and checksum. -/
def Carries (d : Bytes) (p : HandshakePacket) : Prop :=
  SameMessage p (ZRTPSocket.ofDatagram d)

/-- Everything a socket has sent, or holds for sending again, is a packet it
    has made. -/
structure Sends {ρ : Type} (Made : HandshakePacket → Prop) (s : ZRTPSocket ρ) : Prop where
  sent : ∀ d ∈ s.sent, ∃ p, Made p ∧ Carries d p
  last : ∀ q, s.lastPacket = some q → ∃ p, Made p ∧ SameMessage p q

theorem ofDatagram_data (p : HandshakePacket) (hp : Sendable p) :
    ZRTPSocket.ofDatagram p.data = p := by
  rcases hp with ⟨⟨hlen, _⟩, h4096⟩
  unfold ZRTPSocket.ofDatagram
  rw [List.take_of_length_le (by omega), Nat.min_eq_left (by omega), hlen]

theorem sendable_of_sameMessage (p q : HandshakePacket) (h : SameMessage p q) (hp : Sendable p) :
    Sendable q :=
  ⟨SameMessage.whole p q h hp.1, by rw [h.packetLength_eq]; exact hp.2⟩

/-- The packet a socket sees is as long as the one that was sent. -/
theorem packetLength_received {ρ : Type} (p : HandshakePacket) (hp : Sendable p)
    (s : ZRTPSocket ρ) : (s.received p.data).packetLength = p.packetLength := by
  have hlength := hp.1.1
  have hmax := hp.2
  unfold ZRTPSocket.received
  simp only []
  omega

/-- Up to its length the buffer has the bytes of the packet. -/
theorem slice_received_data {ρ : Type} (p : HandshakePacket) (hp : Sendable p) (s : ZRTPSocket ρ)
    (off len : Nat) (h : off + len ≤ p.packetLength) :
    slice off len (s.received p.data).data = slice off len p.data := by
  have hdatagram := ofDatagram_data p hp
  have hslice := ZRTPSocket.slice_received p.data s off len (by rw [hdatagram]; exact h)
  rw [hdatagram] at hslice
  exact hslice

/-- Sending a packet puts it in a datagram. -/
theorem carries_wire (sequence : Nat) (p q : HandshakePacket) (h : SameMessage p q)
    (hp : Sendable p) : Carries (q.wire sequence).data p ∧ SameMessage p (q.wire sequence) := by
  have hq := sendable_of_sameMessage p q h hp
  have hwire := SameMessage.trans p q _ h (wire_sameMessage sequence q hq.1)
  unfold Carries
  rw [ofDatagram_data _ (sendable_of_sameMessage p _ hwire hp)]
  exact ⟨hwire, hwire⟩

namespace Sends

variable {ρ : Type} {Made Made' : HandshakePacket → Prop} {s s' : ZRTPSocket ρ}

theorem mono (h : Sends Made s) (hmade : ∀ p, Made p → Made' p) : Sends Made' s := by
  refine ⟨fun d hd => ?_, fun q hq => ?_⟩
  · rcases h.sent d hd with ⟨p, hp, hc⟩
    exact ⟨p, hmade p hp, hc⟩
  · rcases h.last q hq with ⟨p, hp, hc⟩
    exact ⟨p, hmade p hp, hc⟩

/-- A resend sends a packet made before. -/
theorem idle (h : Sends Made s) (hidle : ZRTPSocket.Idle s s') (hsend : ∀ p, Made p → Sendable p) :
    Sends Made s' := by
  rcases hidle.sent with ⟨hsent, hlast⟩ | ⟨q, hq, hsent, hlast⟩
  · refine ⟨?_, ?_⟩
    · rw [hsent]
      exact h.sent
    · rw [hlast]
      exact h.last
  · rcases h.last q hq with ⟨p, hp, hc⟩
    rcases carries_wire s.sequence p q hc (hsend p hp) with ⟨hcarries, hsame⟩
    refine ⟨fun d hd => ?_, fun r hr => ?_⟩
    · rw [hsent] at hd
      rcases List.mem_append.mp hd with hd | hd
      · exact h.sent d hd
      · rw [List.mem_singleton.mp hd]
        exact ⟨p, hp, hcarries⟩
    · rw [hlast, Option.some.injEq] at hr
      rw [← hr]
      exact ⟨p, hp, hsame⟩

/-- A handler sends a packet it has made. -/
theorem fresh (h : Sends Made s) (hmade : ∀ p, Made p → Made' p) (sequence : Nat)
    (p : HandshakePacket) (hsent : s'.sent = s.sent ++ [(p.wire sequence).data])
    (hlast : s'.lastPacket = some (p.wire sequence)) (hp : Made' p) (hsend : Sendable p) :
    Sends Made' s' := by
  rcases carries_wire sequence p p (SameMessage.refl p) hsend with ⟨hcarries, hsame⟩
  refine ⟨fun d hd => ?_, fun q hq => ?_⟩
  · rw [hsent] at hd
    rcases List.mem_append.mp hd with hd | hd
    · exact (h.mono hmade).sent d hd
    · rw [List.mem_singleton.mp hd]
      exact ⟨p, hp, hcarries⟩
  · rw [hlast, Option.some.injEq] at hq
    rw [← hq]
    exact ⟨p, hp, hsame⟩

/-- What a socket sends does not depend on its other fields. -/
theorem congr (h : Sends Made s) (hmade : ∀ p, Made p → Made' p) (hsent : s'.sent = s.sent)
    (hlast : s'.lastPacket = s.lastPacket) : Sends Made' s' := by
  refine ⟨?_, ?_⟩
  · rw [hsent]
    exact (h.mono hmade).sent
  · rw [hlast]
    exact (h.mono hmade).last

end Sends

/-- The receiver of a packet reads its type, and has its message when it
    copies it. -/
theorem received_carried {ρ : Type} (d : Bytes) (p : HandshakePacket) (s : ZRTPSocket ρ)
    (h : Carries d p) (hp : Sendable p) :
    (s.received d).getType = p.getType ∧ d ≠ [] ∧
      (s.received d).headerBugOffset = p.headerBugOffset := by
  have hwhole := SameMessage.whole p _ h hp.1
  have hd : d ≠ [] := by
    rintro rfl
    have := hwhole.2
    unfold ZRTPSocket.ofDatagram at this
    simp only [List.length_nil] at this
    omega
  have hbug := ZRTPSocket.headerBugOffset_received d s hd
  refine ⟨?_, hd, hbug.trans (SameMessage.headerBugOffset_eq p _ h)⟩
  rw [← SameMessage.getType_eq p _ h hp.1]
  -- The type lies inside the datagram, so the buffer shows the datagram's.
  have hhead := ReceiveBuffer.head_receive s.buf d hd
  have htake : (ZRTPSocket.ofDatagram d).data.head? = d.head? := by
    cases d with
    | nil => rfl
    | cons x xs => rfl
  have hfield : Java.region .stringIndexOutOfBounds (s.received d).data
        (MESSAGE_BASE + 4 + (s.received d).headerBugOffset) 8
      = Java.region .stringIndexOutOfBounds (ZRTPSocket.ofDatagram d).data
        (MESSAGE_BASE + 4 + (ZRTPSocket.ofDatagram d).headerBugOffset) 8 := by
    have hroom := hwhole.2
    have hlen := hwhole.1
    have hbuf := (s.buf.receive d).length_eq
    have h12 := headerBugOffset_le (ZRTPSocket.ofDatagram d)
    rw [hbug]
    unfold Java.region MESSAGE_BASE
    rw [if_pos (by unfold ZRTPSocket.received; simp only []; omega), if_pos (by omega)]
    congr 1
    exact ZRTPSocket.slice_received d s _ 8 (by omega)
  have hsome : ∃ x, d.head? = some x := by
    cases d with
    | nil => exact absurd rfl hd
    | cons x xs => exact ⟨x, rfl⟩
  rcases hsome with ⟨x, hx⟩
  rcases List.head?_eq_some_iff.mp (hhead.trans hx) with ⟨ys, hys⟩
  rcases List.head?_eq_some_iff.mp (htake.trans hx) with ⟨zs, hzs⟩
  have hbytes : (s.received d).data = x :: ys := hys
  unfold getType
  rw [hbytes, hzs]
  simp only []
  rw [← hbytes, ← hzs, hfield]

/-- The receiver of a packet as it was sent: the checksum is right, and what it
    copies is what was sent. -/
theorem received_wire {ρ : Type} (p : HandshakePacket) (hp : Sendable p) (sequence : Nat)
    (s : ZRTPSocket ρ) :
    (s.received (p.wire sequence).data).verifyCRC = .ok true ∧
      (s.received (p.wire sequence).data).getType = p.getType ∧
      (s.received (p.wire sequence).data).copyOf = .ok (p.wire sequence) := by
  rcases carries_wire sequence p p (SameMessage.refl p) hp with ⟨hcarries, hsame⟩
  rcases received_carried _ p s hcarries hp with ⟨htype, hne, _⟩
  have hwire := sendable_of_sameMessage p _ hsame hp
  have hlength := hwire.1.1
  have hmax := hwire.2
  refine ⟨?_, htype, ?_⟩
  · -- The checksum is over bytes of the packet only, whatever else is in the
    -- buffer.
    have hgood := verifyCRC_wire sequence p hp.1
    rw [verifyCRC_ok] at hgood ⊢
    rcases hgood with ⟨h4, hin, hcrc⟩
    have hbuf := (s.buf.receive (p.wire sequence).data).length_eq
    rw [packetLength_received _ hwire s, slice_received_data _ hwire s _ _ (by omega),
      slice_received_data _ hwire s _ _ (by omega)]
    refine ⟨h4, ?_, hcrc⟩
    unfold ZRTPSocket.received
    simp only []
    omega
  · rw [ZRTPSocket.copyOf_received]
    exact ⟨hne, (ofDatagram_data _ hwire).symm⟩

end RedPhone
