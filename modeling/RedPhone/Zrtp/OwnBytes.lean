import RedPhone.Lib.Related
import RedPhone.Zrtp.CacheTime
import RedPhone.Zrtp.Declared

/-!
# What a Datagram Is Judged By

The loop hands on a packet that is the whole receive buffer, with the datagram
at its front and what earlier datagrams have left behind it. Most of what reads
it stays inside the datagram: copying takes no more than was received, and the
checksum and the code of a Confirm packet compare with the length first. The
type does not. It is read at a fixed offset, and of a datagram that ends before
its type field, or in the middle of it, the rest comes from the buffer.

Two sockets with the same fields are compared that differ in nothing but their
buffers. A datagram that carries its own type is handled alike by both, whatever
the buffers hold, in the type reported, in what it is taken for and in all that
is kept of it. For one that does not there is always a history, from the same
state and back to it, after which it is taken for something else.

The cache interval of a Confirm1 stays in the buffer when the packet is stored,
and an acknowledgement goes by what is there by then. That interval is no part
of the acknowledgement, so the comparison of the caches presumes that it is the
same; `CacheTime` has when it is the one of the Confirm1.

## Main definitions

* `ReceiveBuffer.Agree`: Two buffers begin with the same bytes.
* `SameState`: Two sockets differ in nothing but their buffers.
* `reportedType`: The type the loop reads.
* `SameOutcome`, `SameHandling`: A datagram is handled alike by both.
* `Typed`, `Judged`: The datagrams that are.
* `filler`: A datagram that is ignored, and leaves a type behind.

## Theorems

* `sameHandling_of_judged`: Such a datagram is handled alike.
* `negotiate_filler`: The filler is ignored in every state.
* `judged_of_reportedType`: One that always has the same type is such.
-/

namespace RedPhone

open Slice HandshakePacket Relational

namespace ReceiveBuffer

/-- Two buffers begin with the same bytes. -/
def Agree (n : Nat) (a b : ReceiveBuffer) : Prop := slice 0 n a.bytes = slice 0 n b.bytes

theorem agree_receive (a b : ReceiveBuffer) (d : Bytes) :
    Agree (min d.length 4096) (a.receive d) (b.receive d) := by
  unfold Agree
  rw [slice_receive _ _ _ _ (by omega) (by omega), slice_receive _ _ _ _ (by omega) (by omega)]

variable {n : Nat} {a b : ReceiveBuffer}

theorem Agree.slice_eq (h : Agree n a b) (off len : Nat) (hle : off + len ≤ n) :
    slice off len a.bytes = slice off len b.bytes :=
  slice_eq_of_slice_eq 0 n off len _ _ h (Nat.zero_le off) (by omega)

/-- A read where two buffers agree, or where both fail. -/
theorem Agree.region_eq (h : Agree n a b) (e : Unchecked) (off len : Nat) (hle : off + len ≤ n) :
    Java.region e a.bytes off len = Java.region e b.bytes off len := by
  unfold Java.region
  rw [a.length_eq, b.length_eq, h.slice_eq off len hle]

/-- Writing the same into both. -/
theorem Agree.put (h : Agree n a b) (off : Nat) (src : Bytes) (hfit : off + src.length ≤ 4096) :
    Agree n (a.put off src) (b.put off src) := by
  have hoffa : off ≤ a.bytes.length := by
    rw [a.length_eq]
    omega
  have hoffb : off ≤ b.bytes.length := by
    rw [b.length_eq]
    omega
  unfold Agree
  rw [put_bytes _ _ _ hfit, put_bytes _ _ _ hfit]
  refine slice_eq_of_getElem? _ _ _ _ _ (fun i hi => ?_)
  rw [getElem?_blit _ _ _ _ hoffa, getElem?_blit _ _ _ _ hoffb,
    getElem?_eq_of_slice_eq 0 0 n _ _ h i hi]

end ReceiveBuffer

namespace ConfirmPacket

open ReceiveBuffer

variable {a b : ReceiveBuffer} {c : ConfirmPacket} (C : Crypto)

/-- The code of a Confirm packet is checked inside the packet. -/
theorem verifyMac_agree (macKey : Bytes) (h : Agree c.packetLength a b) :
    c.verifyMac C macKey a = c.verifyMac C macKey b := by
  unfold verifyMac ENCRYPTED_LENGTH
  by_cases hshort : c.packetLength < 48 + c.bugOffset + 40
  · rw [decide_eq_true hshort]
    rfl
  · rw [Java.arraycopy, Java.arraycopy, h.region_eq _ _ _ (by omega),
      h.region_eq _ _ _ (by omega)]

/-- A Confirm packet that is long enough is decrypted alike in both buffers. -/
theorem decrypt_agree (cipherKey : Bytes) (h : Agree c.packetLength a b) (hbug : c.bugOffset ≤ 12)
    (hlong : 88 + c.bugOffset ≤ c.packetLength) :
    ∃ a' b', c.decrypt C cipherKey a = .ok a' ∧ c.decrypt C cipherKey b = .ok b' ∧
      Agree c.packetLength a' b' := by
  have hplain : (C.aesCfbDecrypt cipherKey (slice (32 + c.bugOffset) 16 a.bytes)
      (slice (48 + c.bugOffset) 40 a.bytes)).length = 40 := by
    rw [C.aesCfbDecrypt_length, length_slice _ _ _ (by rw [a.length_eq]; omega)]
  refine ⟨_, _, (decrypt_ok C cipherKey a _ c hbug).mpr rfl,
    (decrypt_ok C cipherKey b _ c hbug).mpr rfl, ?_⟩
  rw [← h.slice_eq (32 + c.bugOffset) 16 (by omega), ← h.slice_eq (48 + c.bugOffset) 40 (by omega)]
  exact h.put _ _ (by omega)

/-- The interval is where a buffer of its length has it, or nowhere. -/
theorem getCacheTime_related (a b : ReceiveBuffer) (c : ConfirmPacket) :
    Related (fun m n => c.getCacheTime a = c.getCacheTime b → m = n) (c.getCacheTime a)
      (c.getCacheTime b) := by
  have hok : ∀ m n, c.getCacheTime a = .ok m → c.getCacheTime b = .ok n →
      Related (fun m n => c.getCacheTime a = c.getCacheTime b → m = n) (c.getCacheTime a)
        (c.getCacheTime b) := by
    intro m n hm hn
    have hrel : c.getCacheTime a = c.getCacheTime b → m = n := by
      intro heq
      exact Except.ok.inj (hm.symm.trans (heq.trans hn))
    rw [hm, hn] at hrel ⊢
    exact hrel
  -- Whether the interval is inside the buffer does not depend on what is in it.
  by_cases hin : 84 + c.bugOffset + 4 ≤ 4096
  · have hread : ∀ buf : ReceiveBuffer, c.getCacheTime buf
        = .ok (Endian.ofBE (slice (84 + c.bugOffset) 4 buf.bytes)) := by
      intro buf
      unfold getCacheTime Conversions.byteArray4ToLong Java.arraycopy
      rw [Java.region_of_le _ _ _ _ (by rw [buf.length_eq]; exact hin), Java.ok_bind]
    exact hok _ _ (hread a) (hread b)
  · have hfail : ∀ buf : ReceiveBuffer, c.getCacheTime buf
        = .error (.unchecked .arrayIndexOutOfBounds) := by
      intro buf
      unfold getCacheTime Conversions.byteArray4ToLong Java.arraycopy Java.region
      rw [if_neg (by rw [buf.length_eq]; exact hin)]
      rfl
    rw [hfail a, hfail b]
    exact related_error _ _

end ConfirmPacket

/-! ## Two sockets -/

namespace ZRTPSocket

variable {ρ : Type}

/-- Two sockets differ in nothing but their buffers. -/
def SameState (s t : ZRTPSocket ρ) : Prop := t = { s with buf := t.buf }

/-- The type the loop reads from a datagram, if it gets that far. -/
def reportedType (s : ZRTPSocket ρ) (d : Bytes) : Option (Java Bytes) :=
  if s.Over then none
  else if s.state = .expectingConfirmAck ∨ (s.received d).verifyCRC = .ok true then
    some (s.received d).getType
  else none

/-- How much of a datagram is received. -/
def receivedLength (s : ZRTPSocket ρ) (d : Bytes) : Nat :=
  if s.Over then 0 else min d.length 4096

/-- Two sockets after a datagram: they have the same fields, and as much of the
    datagram as was received is the same in their buffers. Their caches are the
    same if a secret was stored with the same interval. -/
structure SameOutcome (n : Nat) (sameInterval : Prop) (s t : ZRTPSocket ρ) : Prop where
  fields : t = { s with buf := t.buf, database := t.database }
  database : sameInterval → t.database = s.database
  agree : s.buf.Agree n t.buf

/-- A datagram is handled alike by two sockets. -/
structure SameHandling (h : Handlers ρ) (sameInterval : Prop) (s t : ZRTPSocket ρ) (d : Bytes)
    (c : Clock) : Prop where
  type : s.reportedType d = t.reportedType d
  outcome : Related (SameOutcome (s.receivedLength d) sameInterval)
    (s.negotiate h ⟨.datagram d, c⟩) (t.negotiate h ⟨.datagram d, c⟩)

/-- A datagram that is no handshake packet, or has the type of one inside. -/
def Typed (d : Bytes) : Prop :=
  d ≠ [] ∧ ((d.head? ≠ some PREFIX_VALUE ∧ d.head? ≠ some LEGACY_HEADER_BUG_PREFIX_VALUE) ∨
    24 + (ofDatagram d).headerBugOffset ≤ d.length)

instance (d : Bytes) : Decidable (Typed d) := inferInstanceAs (Decidable (_ ∧ _))

/-- The loop is over, or has the checksum of the datagram to turn it away by, or
    the datagram has its own type. -/
def Judged (s : ZRTPSocket ρ) (d : Bytes) : Prop :=
  s.Over ∨ (s.state ≠ .expectingConfirmAck ∧ (ofDatagram d).verifyCRC ≠ .ok true) ∨ Typed d

/-! ## What of a packet is the datagram's -/

/-- The checksum is that of the datagram. -/
theorem verifyCRC_received (d : Bytes) (s : ZRTPSocket ρ) :
    (s.received d).verifyCRC = (ofDatagram d).verifyCRC := by
  have hpacket : (s.received d).packetLength = (ofDatagram d).packetLength := rfl
  have hdata : (s.received d).data = (s.buf.receive d).bytes := rfl
  have hbuf := (s.buf.receive d).length_eq
  have hlen : (ofDatagram d).data.length = (ofDatagram d).packetLength := by
    unfold ofDatagram
    rw [List.length_take, Nat.min_comm]
  have hmax : (ofDatagram d).packetLength ≤ 4096 := Nat.min_le_right _ _
  unfold verifyCRC calculateCRC Conversions.byteArray4ToLong Java.arraycopy
  rw [hpacket, hdata]
  by_cases hshort : (ofDatagram d).packetLength < 4
  · rw [if_pos hshort, if_pos hshort]
    rfl
  · rw [if_neg hshort, if_neg hshort, Java.region_of_le _ _ _ _ (by omega),
      Java.region_of_le _ _ _ _ (by omega), Java.region_of_le _ _ _ _ (by omega),
      Java.region_of_le _ _ _ _ (by omega), slice_received d s _ _ (by omega),
      slice_received d s _ _ (by omega)]

/-- The type of what begins like a handshake packet is read from the buffer. -/
theorem getType_received_handshake (d : Bytes) (s : ZRTPSocket ρ) (x : UInt8)
    (hhead : (s.buf.receive d).bytes.head? = some x)
    (hx : ¬ (x ≠ PREFIX_VALUE ∧ x ≠ LEGACY_HEADER_BUG_PREFIX_VALUE)) :
    (s.received d).getType
      = .ok (slice (16 + (s.received d).headerBugOffset) 8 (s.buf.receive d).bytes) := by
  rcases List.head?_eq_some_iff.mp hhead with ⟨ys, hys⟩
  have hbuf := (s.buf.receive d).length_eq
  have hbug := headerBugOffset_le (s.received d)
  have hdata : (s.received d).data = (s.buf.receive d).bytes := rfl
  unfold getType MESSAGE_BASE
  rw [hdata, hys]
  simp only []
  rw [if_neg hx, ← hys, Java.region_of_le _ _ _ _ (by omega)]

/-- The type is that of the datagram, if it has one. -/
theorem getType_received (d : Bytes) (s t : ZRTPSocket ρ) (h : Typed d) :
    (s.received d).getType = (t.received d).getType := by
  rcases h with ⟨hne, h⟩
  cases d with
  | nil => exact absurd rfl hne
  | cons x xs =>
      -- Media needs its first byte only, and a packet all bytes of its type.
      by_cases hx : x ≠ PREFIX_VALUE ∧ x ≠ LEGACY_HEADER_BUG_PREFIX_VALUE
      · rw [getType_received_media x xs s hx, getType_received_media x xs t hx]
      · have hlong : 24 + (ofDatagram (x :: xs)).headerBugOffset ≤ (x :: xs).length := by
          refine h.resolve_left (fun hmedia => hx ?_)
          exact ⟨fun heq => hmedia.1 (congrArg some heq), fun heq => hmedia.2 (congrArg some heq)⟩
        have hbug := headerBugOffset_le (ofDatagram (x :: xs))
        have hin : 16 + (ofDatagram (x :: xs)).headerBugOffset + 8
            ≤ (ofDatagram (x :: xs)).packetLength := by
          change _ ≤ min (x :: xs).length 4096
          omega
        have hfield : ∀ u : ZRTPSocket ρ, (u.received (x :: xs)).getType
            = .ok (slice (16 + (ofDatagram (x :: xs)).headerBugOffset) 8
              (ofDatagram (x :: xs)).data) := by
          intro u
          rw [getType_received_handshake (x :: xs) u x
            (ReceiveBuffer.head_receive u.buf (x :: xs) (List.cons_ne_nil x xs)) hx,
            headerBugOffset_received (x :: xs) u (List.cons_ne_nil x xs),
            slice_received (x :: xs) u _ _ hin]
        rw [hfield s, hfield t]

/-- What two sockets hand to a handler for a datagram. -/
structure SamePacket (a b : ReceiveBuffer) (p q : HandshakePacket) : Prop where
  copy : p.copyOf = q.copyOf
  confirm : ConfirmPacket.ofPacket p = ConfirmPacket.ofPacket q
  bug : (ConfirmPacket.ofPacket p).bugOffset ≤ 12
  agree : a.Agree p.packetLength b

theorem samePacket_received (d : Bytes) (hd : d ≠ []) (s t : ZRTPSocket ρ) :
    SamePacket (s.buf.receive d) (t.buf.receive d) (s.received d) (t.received d) where
  copy := ((copyOf_received d s _).mpr ⟨hd, rfl⟩).trans ((copyOf_received d t _).mpr ⟨hd, rfl⟩).symm
  confirm := by
    unfold ConfirmPacket.ofPacket
    rw [headerBugOffset_received d s hd, headerBugOffset_received d t hd]
    rfl
  bug := headerBugOffset_le (s.received d)
  agree := s.buf.agree_receive t.buf d

/-- Resending does not look at the buffer. -/
theorem related_resend (n : Nat) (sameInterval : Prop) (c : Clock) (s : ZRTPSocket ρ)
    (a b : ReceiveBuffer) (h : a.Agree n b) :
    Related (SameOutcome n sameInterval) ({ s with buf := a }.resendPacketIfTimeout c)
      ({ s with buf := b }.resendPacketIfTimeout c) := by
  have htime : ∀ buf : ReceiveBuffer, { s with buf := buf }.isRetransmitTime c.timeoutCheck
      = s.isRetransmitTime c.timeoutCheck := fun _ => rfl
  unfold resendPacketIfTimeout
  rw [htime a, htime b]
  by_cases hdue : s.isRetransmitTime c.timeoutCheck = true
  · rw [if_pos hdue, if_pos hdue]
    unfold resendPacket
    by_cases hover : s.retransmitCount > MAX_RETRANSMIT_COUNT
    · rw [if_pos hover, if_pos hover]
      cases s.lastPacket with
      | none => exact related_error _ _
      | some p => exact related_error _ _
    · rw [if_neg hover, if_neg hover]
      unfold sendPacket
      cases s.lastPacket with
      | none => exact ⟨rfl, fun _ => rfl, h⟩
      | some p => exact ⟨rfl, fun _ => rfl, h⟩
  · rw [if_neg hdue, if_neg hdue]
    exact ⟨rfl, fun _ => rfl, h⟩

/-- The loop's handlers turn related results into related results. -/
theorem related_negotiated {R : ZRTPSocket ρ → ZRTPSocket ρ → Prop} {x y : Java (ZRTPSocket ρ)}
    (h : Related R x y) : Related R (negotiated x) (negotiated y) := by
  cases x with
  | ok s =>
      cases y with
      | ok t => exact h
      | error e => exact absurd h (fun hf => hf)
  | error e =>
      cases y with
      | ok t => exact absurd h (fun hf => hf)
      | error e' =>
          have hsame : e = e' := h
          rw [hsame]
          cases e' with
          | invalidPacket message => exact related_error R _
          | io message => exact related_error R _
          | negotiationFailed message => exact related_error R _
          | recipientUnavailable message => exact related_error R _
          | unchecked e => exact related_error R _

/-! ## A datagram that is judged on its own bytes -/

theorem SameState.with_buf {s t : ZRTPSocket ρ} (h : SameState s t) (buf : ReceiveBuffer) :
    { t with buf := buf } = { s with buf := buf } := by
  rw [h]

theorem SameState.state_eq {s t : ZRTPSocket ρ} (h : SameState s t) : t.state = s.state := by
  rw [h]

/-- What the loop gets to read of a datagram does not depend on the buffer. -/
theorem receive_passed (s : ZRTPSocket ρ) (d : Bytes)
    (h : s.state = .expectingConfirmAck ∨ (ofDatagram d).verifyCRC = .ok true) :
    s.receiveHandshakePacket (decide (s.state ≠ .expectingConfirmAck)) d
      = .ok ({ s with buf := s.buf.receive d }, some (s.received d)) := by
  refine (receiveHandshakePacket_ok _ d s _ _).mpr ⟨rfl, ?_⟩
  by_cases hack : s.state = .expectingConfirmAck
  · exact Or.inl ⟨decide_eq_false (fun hne => hne hack), rfl⟩
  · refine Or.inr ⟨decide_eq_true hack, Or.inl ⟨?_, rfl⟩⟩
    rw [verifyCRC_received]
    exact h.resolve_left hack

/-- A checksum that is checked is that of the datagram. -/
theorem receive_checked (s : ZRTPSocket ρ) (d : Bytes) (h : s.state ≠ .expectingConfirmAck) :
    s.receiveHandshakePacket (decide (s.state ≠ .expectingConfirmAck)) d
      = (ofDatagram d).verifyCRC >>= fun good =>
        .ok ({ s with buf := s.buf.receive d }, if good then some (s.received d) else none) := by
  rw [decide_eq_true h, ← verifyCRC_received d s]
  rfl

/-- What two sockets with the same fields make of a datagram, if the handler it
    goes to makes the same of what they hand to it. -/
theorem sameHandling_of_judged (h : Handlers ρ) (sameInterval : Prop) (s t : ZRTPSocket ρ)
    (hsame : SameState s t) (d : Bytes) (c : Clock)
    (hown : d ≠ [] → ∀ type handle, handler h s.state type = some handle →
      Related (SameOutcome (min d.length 4096) sameInterval)
        (handle c (s.received d) { s with buf := s.buf.receive d })
        (handle c (t.received d) { s with buf := t.buf.receive d }))
    (hjudged : s.Judged d) : SameHandling h sameInterval s t d c := by
  have hagree := s.buf.agree_receive t.buf d
  have hstate := hsame.state_eq
  by_cases hover : s.Over
  · -- Nothing is received any more.
    have hover' : t.Over := by
      unfold Over at hover ⊢
      rw [hstate]
      exact hover
    refine ⟨?_, ?_⟩
    · unfold reportedType
      rw [if_pos hover, if_pos hover']
    · unfold negotiate
      simp only []
      rw [if_pos hover, if_pos hover', receivedLength, if_pos hover]
      exact ⟨by rw [hsame], fun _ => by rw [hsame], rfl⟩
  · have hover' : ¬ t.Over := by
      unfold Over at hover ⊢
      rw [hstate]
      exact hover
    have hresend := related_resend (min d.length 4096) sameInterval c s _ _ hagree
    refine ⟨?_, ?_⟩
    · unfold reportedType
      rw [if_neg hover, if_neg hover', hstate, verifyCRC_received, verifyCRC_received]
      by_cases hpassed : s.state = .expectingConfirmAck ∨ (ofDatagram d).verifyCRC = .ok true
      · rw [if_pos hpassed, if_pos hpassed]
        rcases hjudged with hj | ⟨hne, hbad⟩ | htyped
        · exact absurd hj hover
        · exact absurd hpassed (fun hp => hp.elim hne hbad)
        · rw [getType_received d s t htyped]
      · rw [if_neg hpassed, if_neg hpassed]
    · unfold negotiate
      simp only []
      rw [if_neg hover, if_neg hover', receivedLength, if_neg hover]
      refine related_negotiated ?_
      by_cases hpassed : s.state = .expectingConfirmAck ∨ (ofDatagram d).verifyCRC = .ok true
      · -- The packet is dispatched, so it has a type of its own.
        have htyped : Typed d := by
          rcases hjudged with hj | ⟨hne, hbad⟩ | htyped
          · exact absurd hj hover
          · exact absurd hpassed (fun hp => hp.elim hne hbad)
          · exact htyped
        rw [receive_passed s d hpassed, receive_passed t d (by rw [hstate]; exact hpassed)]
        simp only [Java.ok_bind]
        rcases exists_getType_received d s with ⟨type, htype⟩
        rw [hsame.with_buf, dispatch_eq htype,
          dispatch_eq ((getType_received d s t htyped).symm.trans htype)]
        cases hhandler : handler h s.state type with
        | none => exact hresend
        | some handle => exact hown htyped.1 type handle hhandler
      · -- The checksum is wrong, or there is no room for one.
        have hne : s.state ≠ .expectingConfirmAck := fun hs => hpassed (Or.inl hs)
        rw [receive_checked s d hne, receive_checked t d (by rw [hstate]; exact hne),
          hsame.with_buf]
        cases hgood : (ofDatagram d).verifyCRC with
        | error e => exact related_error _ e
        | ok good =>
            cases good with
            | true => exact absurd (Or.inr hgood) hpassed
            | false => exact hresend

/-! ## A datagram that is ignored, and leaves a type behind -/

/-- Thirty-six bytes, which is how far a type field can reach. -/
def filler (x : UInt8) : Bytes := PREFIX_VALUE :: List.replicate 35 x

/-- A moment at which it is too early to send anything again. -/
def early (s : ZRTPSocket ρ) : Clock :=
  ⟨s.transmitStartTime + s.retransmitInterval - 1, 0, 0, 0, 0⟩

theorem early_quiet (s : ZRTPSocket ρ) : s.isRetransmitTime s.early.timeoutCheck = false := by
  unfold isRetransmitTime early
  rw [decide_eq_false_iff_not]
  simp only []
  omega

/-- A datagram is ignored when its checksum is wrong and nothing is due. -/
theorem negotiate_bad (h : Handlers ρ) (s : ZRTPSocket ρ) (d : Bytes) (c : Clock)
    (hover : ¬ s.Over) (hstate : s.state ≠ .expectingConfirmAck)
    (hcrc : (ofDatagram d).verifyCRC = .ok false)
    (hquiet : s.isRetransmitTime c.timeoutCheck = false) :
    s.negotiate h ⟨.datagram d, c⟩ = .ok { s with buf := s.buf.receive d } := by
  unfold negotiate
  simp only []
  rw [if_neg hover, negotiated_ok, receive_checked s d hstate, hcrc]
  change resendPacketIfTimeout c { s with buf := s.buf.receive d } = _
  unfold resendPacketIfTimeout
  rw [show isRetransmitTime c.timeoutCheck { s with buf := s.buf.receive d } = false from hquiet]
  rfl

/-- It is ignored, too, when nothing handles its type in this state. -/
theorem negotiate_unhandled (h : Handlers ρ) (s : ZRTPSocket ρ) (d type : Bytes) (c : Clock)
    (hover : ¬ s.Over)
    (hpassed : s.state = .expectingConfirmAck ∨ (ofDatagram d).verifyCRC = .ok true)
    (htype : (s.received d).getType = .ok type) (hhandler : handler h s.state type = none)
    (hquiet : s.isRetransmitTime c.timeoutCheck = false) :
    s.negotiate h ⟨.datagram d, c⟩ = .ok { s with buf := s.buf.receive d } := by
  unfold negotiate
  simp only []
  rw [if_neg hover, negotiated_ok, receive_passed s d hpassed, Java.ok_bind]
  simp only []
  rw [dispatch_eq htype]
  simp only [hhandler]
  unfold resendPacketIfTimeout
  rw [show isRetransmitTime c.timeoutCheck { s with buf := s.buf.receive d } = false from hquiet]
  rfl

/-- The bytes of the filler where a type can be. -/
theorem getElem?_filler (x : UInt8) (i : Nat) (hpos : 0 < i) (hi : i < 36) :
    (filler x)[i]? = some x := by
  cases i with
  | zero => exact absurd hpos (Nat.lt_irrefl 0)
  | succ i =>
      unfold filler
      rw [List.getElem?_cons_succ, List.getElem?_replicate, if_pos (by omega)]

theorem getType_filler (s : ZRTPSocket ρ) (x : UInt8) :
    (s.received (filler x)).getType = .ok (List.replicate 8 x) := by
  have hne : filler x ≠ [] := List.cons_ne_nil _ _
  have hhead := ReceiveBuffer.head_receive s.buf (filler x) hne
  have hbug : (s.received (filler x)).headerBugOffset = 0 := by
    rw [headerBugOffset_received _ s hne]
    rfl
  rw [getType_received_handshake _ s PREFIX_VALUE hhead (fun h => h.1 rfl), hbug,
    ReceiveBuffer.slice_receive _ _ _ _ (by unfold filler; simp) (by omega)]
  rfl

/-- The filler is ignored in every state. -/
theorem negotiate_filler (h : Handlers ρ) (s : ZRTPSocket ρ) (x : UInt8) (hx : x = 0 ∨ x = 1)
    (hover : ¬ s.Over) : s.negotiate h ⟨.datagram (filler x), s.early⟩
      = .ok { s with buf := s.buf.receive (filler x) } := by
  by_cases hstate : s.state = .expectingConfirmAck
  · -- Its type is none of a handshake packet.
    have hne : List.replicate 8 x ≠ CONF_ACK_TYPE := by
      rcases hx with rfl | rfl
      · decide +kernel
      · decide +kernel
    refine negotiate_unhandled h s _ _ _ hover (Or.inl hstate) (getType_filler s x) ?_
      (early_quiet s)
    rw [hstate]
    exact if_neg hne
  · refine negotiate_bad h s _ _ hover hstate ?_ (early_quiet s)
    rcases hx with rfl | rfl
    · decide +kernel
    · decide +kernel

/-- What follows the filler and has no type of its own ends with its type. -/
theorem getType_after_filler (s : ZRTPSocket ρ) (d : Bytes) (h : ¬ Typed d) (x : UInt8) :
    ∃ type, ({ s with buf := s.buf.receive (filler x) }.received d).getType = .ok type ∧
      type[7]? = some x := by
  -- Behind the datagram the bytes of the filler are left.
  have hfill : ∀ i, 0 < i → i < 36 → d.length ≤ i →
      ((s.buf.receive (filler x)).receive d).bytes[i]? = some x := by
    intro i hpos hi hd
    have hold : ¬ i < (d.take 4096).length := by
      rw [List.length_take]
      omega
    have hnew : i < ((filler x).take 4096).length := hi
    unfold ReceiveBuffer.receive
    simp only []
    rw [getElem?_overwrite, if_neg hold, getElem?_overwrite, if_pos hnew, List.getElem?_take,
      if_pos (by omega)]
    exact getElem?_filler x i hpos hi
  have hread : ∀ y, ((s.buf.receive (filler x)).receive d).bytes.head? = some y →
      ¬ (y ≠ PREFIX_VALUE ∧ y ≠ LEGACY_HEADER_BUG_PREFIX_VALUE) →
      d.length < 24 + ({ s with buf := s.buf.receive (filler x) }.received d).headerBugOffset →
      ∃ type, ({ s with buf := s.buf.receive (filler x) }.received d).getType = .ok type ∧
        type[7]? = some x := by
    intro y hhead hy hshort
    have hbug := headerBugOffset_le ({ s with buf := s.buf.receive (filler x) }.received d)
    refine ⟨_, getType_received_handshake d _ y hhead hy, ?_⟩
    rw [getElem?_slice, if_pos (by omega)]
    exact hfill _ (by omega) (by omega) (by omega)
  cases d with
  | nil =>
      exact hread PREFIX_VALUE (ReceiveBuffer.head_receive s.buf _ (List.cons_ne_nil _ _))
        (fun hy => hy.1 rfl) (by simp only [List.length_nil]; omega)
  | cons y ys =>
      have hne := List.cons_ne_nil y ys
      have hbug := headerBugOffset_received (y :: ys) { s with buf := s.buf.receive (filler x) } hne
      refine hread y (ReceiveBuffer.head_receive _ (y :: ys) hne) ?_ ?_
      · intro hy
        refine h ⟨hne, Or.inl ⟨fun heq => hy.1 ?_, fun heq => hy.2 ?_⟩⟩
        · exact Option.some.inj heq
        · exact Option.some.inj heq
      · rw [hbug]
        by_contra hlong
        exact h ⟨hne, Or.inr (by omega)⟩

/-- A datagram that has the same type whatever filler comes before it is judged
    on its own bytes. -/
theorem judged_of_reportedType (s : ZRTPSocket ρ) (d : Bytes)
    (hsame : ∀ x, x = 0 ∨ x = 1 →
      s.reportedType d = reportedType { s with buf := s.buf.receive (filler x) } d) :
    s.Judged d := by
  by_contra hnot
  have hover : ¬ s.Over := fun hover => hnot (Or.inl hover)
  have htyped : ¬ Typed d := fun htyped => hnot (Or.inr (Or.inr htyped))
  have hpassed : s.state = .expectingConfirmAck ∨ (ofDatagram d).verifyCRC = .ok true := by
    by_contra hfailed
    exact hnot (Or.inr (Or.inl ⟨fun hs => hfailed (Or.inl hs), fun hok => hfailed (Or.inr hok)⟩))
  -- The type reported ends with whatever filler came before.
  have htype : ∀ x : UInt8, x = 0 ∨ x = 1 → ∃ type : Bytes, s.reportedType d = some (.ok type) ∧
      type[7]? = some x := by
    intro x hx
    rcases getType_after_filler s d htyped x with ⟨type, htype, hlast⟩
    refine ⟨type, ?_, hlast⟩
    rw [hsame x hx]
    unfold reportedType
    rw [if_neg (show ¬ Over { s with buf := s.buf.receive (filler x) } from hover),
      verifyCRC_received, if_pos (show _ ∨ _ from hpassed), htype]
  rcases htype 0 (Or.inl rfl) with ⟨zeros, hzeros, hzero⟩
  rcases htype 1 (Or.inr rfl) with ⟨ones, hones, hone⟩
  have heq : zeros = ones := Except.ok.inj (Option.some.inj (hzeros.symm.trans hones))
  rw [heq, hone] at hzero
  exact absurd hzero (by decide)

end ZRTPSocket

end RedPhone
