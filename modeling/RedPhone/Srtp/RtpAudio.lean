import RedPhone.Srtp.SequenceCounter
import RedPhone.Srtp.SrtpStream

/-!
# Sending and Receiving Audio

The sender numbers its packets and encrypts each under its number. The
receiver recovers the number from the header, by way of its sequence counter,
and decrypts under what it recovered.

It does so in that order: the counter has moved by the time the code is
checked. A datagram that is then dropped has moved it all the same, and the
next genuine packet is looked for near where a stranger has led. Its code is
right whatever number it is decrypted under, so it is returned, as noise.
`genuine_iff` says when that does not happen: each genuine packet has to be in
the window of the number to which all the datagrams before it lead, the
dropped ones included.

## Main definitions

* `RtpAudioSender`, `send`: The sending side.
* `RtpAudioReceiver`, `receive`: The receiving side.
* `sendAll`: The datagrams of a list of frames.
* `longId`: The number to which datagrams lead.
* `Survives`: Datagrams the receiver gets through.
* `Arrival`: What one call of `recv` may return.
* `Faithful`: The genuine packets returned are those sent.
* `InReach`: The genuine packets are near where everything before them leads.

## Theorems

* `sendAll_ok`: Each frame is protected under its position.
* `receive_ok`: What a call that returned has done.
* `run_spec`, `run_of_survives`: Which datagrams a receiver gets through, and
  where they lead.
* `genuine_iff`: When the genuine packets are returned as they were sent.
* `inReach_of_schedule`: Genuine packets alone stay in reach.
* `genuine_garbled`: Two stray datagrams garble a genuine packet.
-/

namespace RedPhone

open Slice

/-- The buffer `CallAudioManager::start` receives into. -/
def RECEIVE_BUFFER_SIZE : Nat := 4096

/-- The buffer `MicrophoneReader` encodes into. -/
def ENCODED_AUDIO_SIZE : Nat := 1024

/-! ## The sending side -/

/-- The sending side, with the number of its next packet. -/
structure RtpAudioSender where
  sequenceNumber : UInt32

/-- What the microphone hands to the sender. -/
structure Frame where
  timestamp : UInt32
  encodedData : Bytes
  length_le : encodedData.length ≤ ENCODED_AUDIO_SIZE

namespace RtpAudioSender

variable (O : OpenSsl) (params : SrtpStreamParameters)

def start : RtpAudioSender := ⟨0⟩

/-- Encrypt a frame under the next number, and send what is in the block. -/
def send (s : RtpAudioSender) (frame : Frame) : Cpp (Bytes × RtpAudioSender) := do
  let packet := RtpPacket.ofPayload frame.encodedData s.sequenceNumber frame.timestamp
  let packet ← SrtpStream.encrypt O params packet s.sequenceNumber.toNat
  let datagram ← Cpp.read packet.packet 0 packet.getSerializedPacketLen
  .ok (datagram, ⟨s.sequenceNumber + 1⟩)

/-- The datagrams of a list of frames. -/
def sendAll : RtpAudioSender → List Frame → Cpp (List Bytes)
  | _, [] => .ok []
  | s, frame :: frames => do
    let (datagram, s) ← send O params s frame
    let datagrams ← sendAll s frames
    .ok (datagram :: datagrams)

/-- The datagram of a frame with a given number. -/
def datagram (n : Nat) (frame : Frame) : Bytes :=
  SrtpStream.protect O params n (RtpPacket.header (UInt32.ofNat n) frame.timestamp)
    frame.encodedData

theorem send_ok (n : Nat) (hn : n < 4294967296) (frame : Frame) :
    send O params ⟨UInt32.ofNat n⟩ frame
      = .ok (datagram O params n frame, ⟨UInt32.ofNat (n + 1)⟩) := by
  have hframe := frame.length_le
  unfold ENCODED_AUDIO_SIZE at hframe
  have hnumber : (UInt32.ofNat n).toNat = n := by
    rw [UInt32.toNat_ofNat']
    omega
  have hencrypt := SrtpStream.encrypt_ofPayload O params frame.encodedData (UInt32.ofNat n)
    frame.timestamp (by omega) n
  -- The whole block is sent.
  have hread := SrtpStream.read_protect O params n (UInt32.ofNat n) frame.timestamp
    frame.encodedData (by omega)
  unfold send
  rw [hnumber]
  refine (Run.bind_ok _ _ _).mpr ⟨_, hencrypt, ?_⟩
  refine (Run.bind_ok _ _ _).mpr ⟨datagram O params n frame, hread, ?_⟩
  rw [Except.ok.injEq, UInt32.ofNat_add]
  rfl

/-- Each frame is protected under its position. -/
theorem sendAll_ok (frames : List Frame) (n : Nat) (h : n + frames.length ≤ 4294967296) :
    sendAll O params ⟨UInt32.ofNat n⟩ frames
      = .ok (frames.mapIdx fun i frame => datagram O params (n + i) frame) := by
  induction frames generalizing n with
  | nil => rfl
  | cons frame frames ih =>
      rw [List.length_cons] at h
      rw [sendAll, List.mapIdx_cons]
      refine (Run.bind_ok _ _ _).mpr ⟨_, send_ok O params n (by omega) frame, ?_⟩
      refine (Run.bind_ok _ _ _).mpr ⟨_, ih (n + 1) (by omega), ?_⟩
      simp only [Nat.add_zero, Nat.add_assoc, Nat.add_comm 1]

end RtpAudioSender

/-! ## The receiving side -/

/-- The receiving side. -/
structure RtpAudioReceiver where
  sequenceCounter : SequenceCounter

namespace RtpAudioReceiver

variable (O : OpenSsl) (params : SrtpStreamParameters)

def start : RtpAudioReceiver := ⟨.start⟩

/-- One call, with what `recv` has, or nothing where it failed. The counter is
    led on before the code is checked. -/
def receive (s : RtpAudioReceiver) (encodedDataLen : Nat) :
    Option Bytes → Cpp (Option RtpPacket × RtpAudioReceiver)
  | none => .ok (none, s)
  | some received => do
    let packet := RtpPacket.ofReceived (received.take encodedDataLen)
    let shortId ← packet.getSequenceNumber
    let (logicalSequence, sequenceCounter) ← s.sequenceCounter.convertNext shortId
    let result ← SrtpStream.decrypt O params packet logicalSequence
    .ok (result, ⟨sequenceCounter⟩)

/-- One call, for the receiver it leaves. -/
def step (s : RtpAudioReceiver) (received : Option Bytes) : Cpp RtpAudioReceiver := do
  let (_, s') ← s.receive O params RECEIVE_BUFFER_SIZE received
  .ok s'

/-- The short number of a datagram. -/
def shortId (d : Bytes) : Int := Endian.ofBE (slice 2 2 d)

/-- The number to which datagrams lead. -/
def longId (received : List (Option Bytes)) : Int :=
  Window.track 65536 0 (received.filterMap (Option.map shortId))

/-- Datagrams that have a header each and never lead out of the type of the
    counter. -/
def Survives (received : List (Option Bytes)) : Prop :=
  ∀ before, before <+: received →
    Cpp.IsInt64 (longId before) ∧ ∀ d, some d ∈ before → RTP_HEADER_SIZE ≤ d.length

/-- What a call that had a datagram has done, if it returned. -/
theorem receive_ok (s : RtpAudioReceiver) (d : Bytes) (result : Option RtpPacket)
    (s' : RtpAudioReceiver) :
    s.receive O params RECEIVE_BUFFER_SIZE (some d) = .ok (result, s')
      ↔ RTP_HEADER_SIZE ≤ d.length ∧
        s'.sequenceCounter = s.sequenceCounter.next (UInt16.ofNat (Endian.ofBE (slice 2 2 d))) ∧
        Cpp.IsInt64 s'.sequenceCounter.prevLongId ∧
        SrtpStream.decrypt O params (.ofReceived (d.take RECEIVE_BUFFER_SIZE))
          s'.sequenceCounter.prevLongId = .ok result := by
  have htake : (d.take RECEIVE_BUFFER_SIZE).length = min RECEIVE_BUFFER_SIZE d.length :=
    List.length_take
  have hfield : slice 2 2 (d.take RECEIVE_BUFFER_SIZE) = slice 2 2 d :=
    slice_take _ _ _ _ (by unfold RECEIVE_BUFFER_SIZE; omega)
  -- The number is read from the part that was taken in.
  have hget : RTP_HEADER_SIZE ≤ d.length →
      (RtpPacket.ofReceived (d.take RECEIVE_BUFFER_SIZE)).getSequenceNumber
        = .ok (UInt16.ofNat (Endian.ofBE (slice 2 2 d))) := by
    intro hle
    rw [RtpPacket.getSequenceNumber_ok]
    · exact congrArg (fun field => Except.ok (UInt16.ofNat (Endian.ofBE field))) hfield
    · change RTP_HEADER_SIZE ≤ (d.take RECEIVE_BUFFER_SIZE).length
      rw [htake]
      unfold RTP_HEADER_SIZE RECEIVE_BUFFER_SIZE at *
      omega
  constructor
  · intro h
    rcases (Run.bind_ok _ _ _).mp h with ⟨short, hshort, h⟩
    rcases (Run.bind_ok _ _ _).mp h with ⟨⟨long, counter⟩, hconvert, h⟩
    rcases (Run.bind_ok _ _ _).mp h with ⟨decrypted, hdecrypt, h⟩
    rw [Except.ok.injEq, Prod.mk.injEq] at h
    rcases h with ⟨rfl, rfl⟩
    -- What is decrypted has a header, and so has the datagram.
    have hle : RTP_HEADER_SIZE ≤ (d.take RECEIVE_BUFFER_SIZE).length :=
      SrtpStream.le_of_decrypt O params _ _ _ hdecrypt
    have hlong : RTP_HEADER_SIZE ≤ d.length := by
      rw [htake] at hle
      omega
    rw [hget hlong, Except.ok.injEq] at hshort
    rcases (SequenceCounter.convertNext_ok _ _ _ _).mp hconvert with ⟨hnext, hlongId, hrange⟩
    refine ⟨hlong, ?_, hrange, ?_⟩
    · rw [hshort]
      exact hnext
    · rw [← hlongId]
      exact hdecrypt
  · rintro ⟨hlong, hnext, hrange, hdecrypt⟩
    have hconvert : s.sequenceCounter.convertNext (UInt16.ofNat (Endian.ofBE (slice 2 2 d)))
        = .ok (s'.sequenceCounter.prevLongId, s'.sequenceCounter) :=
      (SequenceCounter.convertNext_ok _ _ _ _).mpr ⟨hnext, rfl, hrange⟩
    refine (Run.bind_ok _ _ _).mpr ⟨_, hget hlong, ?_⟩
    refine (Run.bind_ok _ _ _).mpr ⟨_, hconvert, ?_⟩
    exact (Run.bind_ok _ _ _).mpr ⟨_, hdecrypt, rfl⟩

/-- A datagram with a header is decrypted or dropped. -/
theorem decrypt_returns (d : Bytes) (hd : RTP_HEADER_SIZE ≤ d.length) (logicalSequence : Int) :
    ∃ result, SrtpStream.decrypt O params (.ofReceived (d.take RECEIVE_BUFFER_SIZE)) logicalSequence
      = .ok result := by
  have htake : (d.take RECEIVE_BUFFER_SIZE).length = min RECEIVE_BUFFER_SIZE d.length :=
    List.length_take
  unfold RTP_HEADER_SIZE RECEIVE_BUFFER_SIZE at *
  have hssrc := RtpPacket.getSsrc_ok (.ofReceived (d.take 4096)) (by
    change 12 ≤ (d.take 4096).length
    omega)
  exact ⟨_, SrtpStream.decrypt_ofReceived O params _ (by unfold RTP_HEADER_SIZE; omega) (by omega)
    logicalSequence _ hssrc⟩

/-- Where a call leads the counter. -/
theorem longId_concat (received : List (Option Bytes)) (d : Bytes) :
    longId (received ++ [some d]) = Window.nearest 65536 (longId received) (shortId d) := by
  unfold longId
  rw [List.filterMap_append, ← Window.track_concat]
  rfl

theorem survives_concat (received : List (Option Bytes)) (r : Option Bytes) :
    Survives (received ++ [r])
      ↔ Survives received ∧ Cpp.IsInt64 (longId (received ++ [r])) ∧
        ∀ d, r = some d → RTP_HEADER_SIZE ≤ d.length := by
  constructor
  · intro h
    have hwhole := h _ (List.prefix_refl _)
    refine ⟨fun before hbefore => h before (hbefore.trans (List.prefix_append _ _)), hwhole.1, ?_⟩
    rintro d rfl
    exact hwhole.2 d (List.mem_append_right _ (List.mem_singleton_self _))
  · rintro ⟨h, hrange, hd⟩ before hbefore
    rcases List.prefix_concat_iff.mp hbefore with hwhole | hshorter
    · -- The whole list adds one datagram to what was survived already.
      refine ⟨by rw [hwhole]; exact hrange, ?_⟩
      intro d hmem
      rw [hwhole, List.mem_append, List.mem_singleton] at hmem
      rcases hmem with hold | hnew
      · exact (h received (List.prefix_refl _)).2 d hold
      · exact hd d hnew.symm
    · exact h before hshorter

/-- A step that returned: nothing arrived, or the counter was led on. -/
theorem step_ok (s s' : RtpAudioReceiver) (r : Option Bytes) :
    step O params s r = .ok s' ↔
      (r = none ∧ s' = s) ∨
      ∃ d, r = some d ∧ RTP_HEADER_SIZE ≤ d.length ∧
        s'.sequenceCounter = s.sequenceCounter.next (UInt16.ofNat (Endian.ofBE (slice 2 2 d))) ∧
        Cpp.IsInt64 s'.sequenceCounter.prevLongId := by
  cases r with
  | none =>
      constructor
      · intro h
        exact Or.inl ⟨rfl, (Except.ok.inj h).symm⟩
      · rintro (⟨_, rfl⟩ | ⟨d, hd, _⟩)
        · rfl
        · exact nomatch hd
  | some d =>
      constructor
      · intro h
        rcases (Run.bind_ok _ _ _).mp h with ⟨⟨result, t⟩, hreceive, ht⟩
        rw [Except.ok.injEq] at ht
        rw [ht] at hreceive
        rcases (receive_ok O params s d result s').mp hreceive with ⟨hlen, hnext, hrange, _⟩
        exact Or.inr ⟨d, rfl, hlen, hnext, hrange⟩
      · rintro (⟨hd, _⟩ | ⟨d', hd, hlen, hnext, hrange⟩)
        · exact nomatch hd
        · rw [Option.some.injEq] at hd
          rw [← hd] at hlen hnext
          -- Decrypting returns whatever the bytes are.
          rcases decrypt_returns O params d hlen s'.sequenceCounter.prevLongId with
            ⟨result, hresult⟩
          have hreceive := (receive_ok O params s d result s').mpr ⟨hlen, hnext, hrange, hresult⟩
          exact (Run.bind_ok _ _ _).mpr ⟨_, hreceive, rfl⟩

/-- The counter is led to the nearest number with the low bits received. -/
theorem next_shortId (s : SequenceCounter) (d : Bytes) :
    (s.next (UInt16.ofNat (Endian.ofBE (slice 2 2 d)))).prevLongId
      = Window.nearest 65536 s.prevLongId (shortId d) := by
  rw [SequenceCounter.next_prevLongId]
  refine Window.nearest_congr _ _ _ _ ?_
  rw [UInt16.toNat_ofNat', shortId]
  omega

/-- What a receiver got through, it survives, and it was led where that leads. -/
theorem run_spec (received : List (Option Bytes)) (s : RtpAudioReceiver)
    (h : Run.run (step O params) start received = .ok s) :
    s.sequenceCounter.prevLongId = longId received ∧ Survives received := by
  refine Run.invariant_of_run (step O params)
    (fun received s => s.sequenceCounter.prevLongId = longId received ∧ Survives received) start
    ?_ ?_ received s h
  · refine ⟨rfl, ?_⟩
    intro before hbefore
    rw [List.prefix_nil.mp hbefore]
    exact ⟨by decide, fun d hd => absurd hd List.not_mem_nil⟩
  · rintro received s r s' ⟨hlong, hsurvives⟩ hstep
    rcases (step_ok O params s s' r).mp hstep with ⟨rfl, rfl⟩ | ⟨d, rfl, hlen, hnext, hrange⟩
    · -- A failed call adds nothing to the numbers.
      have hsame : longId (received ++ [none]) = longId received := by
        unfold longId
        rw [List.filterMap_append]
        exact congrArg _ (List.append_nil _)
      rw [hsame]
      refine ⟨hlong, (survives_concat received none).mpr ⟨hsurvives, ?_, nofun⟩⟩
      rw [hsame]
      exact (hsurvives received (List.prefix_refl _)).1
    · have hlead : s'.sequenceCounter.prevLongId = longId (received ++ [some d]) := by
        rw [longId_concat, hnext, next_shortId, hlong]
      refine ⟨hlead, (survives_concat received (some d)).mpr ⟨hsurvives, ?_, ?_⟩⟩
      · rw [← hlead]
        exact hrange
      · intro d' hd'
        rw [← Option.some.inj hd']
        exact hlen

/-- What a receiver survives, it gets through. -/
theorem run_of_survives (received : List (Option Bytes)) (h : Survives received) :
    ∃ s, Run.run (step O params) start received = .ok s := by
  induction received using List.reverseRecOn with
  | nil => exact ⟨start, rfl⟩
  | append_singleton received r ih =>
      rcases (survives_concat received r).mp h with ⟨hsurvives, hrange, hlen⟩
      rcases ih hsurvives with ⟨s, hrun⟩
      have hlong := (run_spec O params received s hrun).1
      cases r with
      | none =>
          exact ⟨s, (Run.run_concat _ _ _ _ _).mpr
            ⟨s, hrun, (step_ok O params s s none).mpr (Or.inl ⟨rfl, rfl⟩)⟩⟩
      | some d =>
          refine ⟨⟨s.sequenceCounter.next (UInt16.ofNat (Endian.ofBE (slice 2 2 d)))⟩,
            (Run.run_concat _ _ _ _ _).mpr ⟨s, hrun, (step_ok O params _ _ _).mpr (Or.inr
              ⟨d, rfl, hlen d rfl, rfl, ?_⟩)⟩⟩
          rw [longId_concat, ← hlong, ← next_shortId] at hrange
          exact hrange

end RtpAudioReceiver

/-! ## A sender and a receiver -/

/-- The frames of a call. -/
structure Outgoing where
  frames : List Frame
  few : frames.length < 4294967296

/-- What one call of `recv` may return: a packet of the sender, by its number,
    any other datagram, or nothing. -/
inductive Arrival
  | genuine (i : Nat)
  | other (d : Bytes)
  | failed
  deriving DecidableEq

/-- What arrives, given what was sent. -/
def Arrival.received (sent : List Bytes) : Arrival → Option Bytes
  | .genuine i => sent[i]?
  | .other d => some d
  | .failed => none

open RtpAudioReceiver

variable (O : OpenSsl) (params : SrtpStreamParameters)

/-- Every genuine packet that is returned is decrypted under its own number,
    to the frame that was sent. -/
def Faithful (out : Outgoing) (sent : List Bytes) (arrivals : List Arrival) : Prop :=
  ∀ (before : List Arrival) (i : Nat) (after : List Arrival) (frame : Frame)
    (s s' : RtpAudioReceiver) (packet : RtpPacket),
    arrivals = before ++ .genuine i :: after →
    out.frames[i]? = some frame →
    Run.run (step O params) start (before.map (·.received sent)) = .ok s →
    s.receive O params RECEIVE_BUFFER_SIZE (Arrival.received sent (.genuine i))
      = .ok (some packet, s') →
    s'.sequenceCounter.prevLongId = i ∧ packet.payload = frame.encodedData

/-- Every genuine packet that can be returned is in the window of the number
    to which the datagrams before it lead. -/
def InReach (out : Outgoing) (sent : List Bytes) (arrivals : List Arrival) : Prop :=
  ∀ (before : List Arrival) (i : Nat) (after : List Arrival) (frame : Frame),
    arrivals = before ++ .genuine i :: after → out.frames[i]? = some frame →
    frame.encodedData ≠ [] →
    Survives ((before ++ [Arrival.genuine i]).map (·.received sent)) →
    Window.InWindow 65536 (longId (before.map (·.received sent))) i

/-- The short number of a packet of the sender. -/
theorem shortId_datagram (n : Nat) (frame : Frame) :
    shortId (RtpAudioSender.datagram O params n frame) % 65536 = (n : Int) % 65536 := by
  have hfield : slice 2 2 (RtpAudioSender.datagram O params n frame)
      = Endian.toBE 2 (UInt32.ofNat n).toNat := by
    unfold RtpAudioSender.datagram SrtpStream.protect
    rw [List.append_assoc]
    rfl
  rw [shortId, hfield, Endian.ofBE_toBE, UInt32.toNat_ofNat']
  omega

theorem length_datagram (n : Nat) (frame : Frame) :
    (RtpAudioSender.datagram O params n frame).length
      = RTP_HEADER_SIZE + frame.encodedData.length + SRTP_MAC_SIZE := by
  unfold RtpAudioSender.datagram
  rw [SrtpStream.length_protect, RtpPacket.length_header]

/-- What the receiver makes of a packet of the sender. -/
theorem receive_datagram (n : Nat) (frame : Frame) (s : RtpAudioReceiver) :
    (∀ packet s', s.receive O params RECEIVE_BUFFER_SIZE
        (some (RtpAudioSender.datagram O params n frame)) = .ok (some packet, s') →
      frame.encodedData ≠ [] ∧
      s'.sequenceCounter.prevLongId = Window.nearest 65536 s.sequenceCounter.prevLongId n ∧
      packet.payload = SrtpStream.cipher O params s'.sequenceCounter.prevLongId 0
        (SrtpStream.cipher O params n 0 frame.encodedData)) ∧
    (frame.encodedData ≠ [] →
      Cpp.IsInt64 (Window.nearest 65536 s.sequenceCounter.prevLongId n) →
      ∃ packet s', s.receive O params RECEIVE_BUFFER_SIZE
        (some (RtpAudioSender.datagram O params n frame)) = .ok (some packet, s')) := by
  have hlen := length_datagram O params n frame
  have hframe := frame.length_le
  have hmin : RTP_HEADER_SIZE ≤ (RtpAudioSender.datagram O params n frame).length := by omega
  have htake : (RtpAudioSender.datagram O params n frame).take RECEIVE_BUFFER_SIZE
      = RtpAudioSender.datagram O params n frame := by
    refine List.take_of_length_le ?_
    rw [hlen]
    unfold RECEIVE_BUFFER_SIZE RTP_HEADER_SIZE SRTP_MAC_SIZE
    unfold ENCODED_AUDIO_SIZE at hframe
    omega
  -- The number that is restored is the nearest one with these low bits.
  have hnear : (s.sequenceCounter.next (UInt16.ofNat (Endian.ofBE (slice 2 2
      (RtpAudioSender.datagram O params n frame))))).prevLongId
        = Window.nearest 65536 s.sequenceCounter.prevLongId n := by
    rw [next_shortId]
    exact Window.nearest_congr _ _ _ _ (shortId_datagram O params n frame)
  constructor
  · intro packet s' hreceive
    rcases (receive_ok O params s _ _ s').mp hreceive with ⟨_, hnext, _, hdecrypt⟩
    rw [htake] at hdecrypt
    -- A frame without a payload is not accepted.
    have hne : frame.encodedData ≠ [] := by
      intro hnil
      unfold RtpAudioSender.datagram at hdecrypt
      rw [hnil, SrtpStream.decrypt_protect_nil] at hdecrypt
      exact nomatch hdecrypt
    rcases SrtpStream.decrypt_protect O params n s'.sequenceCounter.prevLongId (UInt32.ofNat n)
      frame.timestamp frame.encodedData hne (by unfold ENCODED_AUDIO_SIZE at hframe; omega) with
      ⟨returned, hreturned, hpayload⟩
    -- Decrypting returns one packet only.
    have hsame : returned = packet :=
      Option.some.inj (Except.ok.inj (hreturned.symm.trans hdecrypt))
    refine ⟨hne, ?_, by rw [← hsame]; exact hpayload⟩
    rw [hnext, hnear]
  · intro hne hrange
    rw [← hnear] at hrange
    rcases SrtpStream.decrypt_protect O params n _ (UInt32.ofNat n) frame.timestamp
      frame.encodedData hne (by unfold ENCODED_AUDIO_SIZE at hframe; omega) with
      ⟨returned, hreturned, _⟩
    exact ⟨returned, ⟨_⟩, (receive_ok O params s _ _ ⟨_⟩).mpr
      ⟨hmin, rfl, hrange, by rw [htake]; exact hreturned⟩⟩

/-- The genuine packets are returned as they were sent exactly when each is in
    the window of the number to which all that arrived before it leads,
    whether or not it was dropped. -/
theorem genuine_iff (out : Outgoing) :
    ∃ sent, RtpAudioSender.sendAll O params .start out.frames = .ok sent ∧
      ∀ arrivals, Faithful O params out sent arrivals ↔ InReach out sent arrivals := by
  have hfew := out.few
  refine ⟨_, RtpAudioSender.sendAll_ok O params out.frames 0 (by omega), fun arrivals => ?_⟩
  generalize hsent : (out.frames.mapIdx fun i frame =>
    RtpAudioSender.datagram O params (0 + i) frame) = sent
  -- A frame is sent under its place among the frames.
  have hget : ∀ i frame, out.frames[i]? = some frame →
      sent[i]? = some (RtpAudioSender.datagram O params i frame) := by
    intro i frame hframe
    rw [← hsent, List.getElem?_mapIdx, hframe, Nat.zero_add]
    rfl
  constructor
  · intro hfaithful before i after frame hsplit hframe hne hsurvives
    rw [List.map_append, List.map_singleton, survives_concat] at hsurvives
    rcases run_of_survives O params _ hsurvives.1 with ⟨s, hrun⟩
    have hlong := (run_spec O params _ s hrun).1
    have harrived : Arrival.received sent (.genuine i)
        = some (RtpAudioSender.datagram O params i frame) := hget i frame hframe
    -- The receiver restores the nearest number, which is the own one within
    -- reach.
    have hnear : longId (before.map (·.received sent)
          ++ [some (RtpAudioSender.datagram O params i frame)])
        = Window.nearest 65536 (longId (before.map (·.received sent))) i := by
      rw [longId_concat]
      exact Window.nearest_congr _ _ _ _ (shortId_datagram O params i frame)
    have hrange := hsurvives.2.1
    rw [harrived, hnear, ← hlong] at hrange
    rcases (receive_datagram O params i frame s).2 hne hrange with ⟨packet, s', hreceive⟩
    have hnext := ((receive_datagram O params i frame s).1 packet s' hreceive).2.1
    have hown := (hfaithful before i after frame s s' packet hsplit hframe hrun
      (by rw [harrived]; exact hreceive)).1
    rw [hnext, hlong] at hown
    exact (Window.nearest_eq_iff 65536 (by omega) _ _).mp hown
  · intro hreach before i after frame s s' packet hsplit hframe hrun hreceive
    have harrived : Arrival.received sent (.genuine i)
        = some (RtpAudioSender.datagram O params i frame) := hget i frame hframe
    rw [harrived] at hreceive
    rcases (receive_datagram O params i frame s).1 packet s' hreceive with
      ⟨hne, hnext, hpayload⟩
    -- The call that receives it is one more step of the run.
    have hrun' : Run.run (step O params) start
        ((before ++ [Arrival.genuine i]).map (·.received sent)) = .ok s' := by
      rw [List.map_append, List.map_singleton, harrived]
      exact (Run.run_concat _ _ _ _ _).mpr ⟨s, hrun, (Run.bind_ok _ _ _).mpr ⟨_, hreceive, rfl⟩⟩
    have hwindow := hreach before i after frame hsplit hframe hne (run_spec O params _ s' hrun').2
    rw [← (run_spec O params _ s hrun).1] at hwindow
    have hown : s'.sequenceCounter.prevLongId = i :=
      hnext.trans ((Window.nearest_eq_iff 65536 (by omega) _ _).mpr hwindow)
    refine ⟨hown, ?_⟩
    rw [hpayload, hown, SrtpStream.cipher_cipher]

/-- The number of an arrival, if it is a packet of the sender. -/
def Arrival.number : Arrival → Option Int
  | .genuine i => some i
  | _ => none

/-- Without strangers the receiver is led by the numbers of the packets. -/
theorem longId_genuine (out : Outgoing) (sent : List Bytes)
    (hsent : RtpAudioSender.sendAll O params .start out.frames = .ok sent)
    (arrivals : List Arrival) (hown : ∀ a ∈ arrivals,
      a = .failed ∨ ∃ i, a = .genuine i ∧ i < out.frames.length) :
    longId (arrivals.map (·.received sent))
      = Window.track 65536 0 (arrivals.filterMap Arrival.number) := by
  have hfew := out.few
  have hdatagrams := RtpAudioSender.sendAll_ok O params out.frames 0 (by omega)
  have heq := Except.ok.inj (hsent.symm.trans hdatagrams)
  induction arrivals using List.reverseRecOn with
  | nil => rfl
  | append_singleton arrivals a ih =>
      -- Each arrival moves the number as the track moves.
      have hbefore := ih (fun b hb => hown b (List.mem_append_left _ hb))
      rw [List.map_append, List.map_singleton, List.filterMap_append]
      rcases hown a (List.mem_append_right _ (List.mem_singleton_self _)) with
        rfl | ⟨i, rfl, hi⟩
      · -- A failed call leaves both sides alone.
        unfold longId at hbefore ⊢
        rw [List.filterMap_append, List.filterMap_cons_none rfl, List.filterMap_cons_none rfl,
          List.filterMap_nil, List.append_nil, List.filterMap_nil, List.append_nil]
        exact hbefore
      · have harrived : Arrival.received sent (.genuine i)
            = some (RtpAudioSender.datagram O params i out.frames[i]) := by
          change sent[i]? = _
          rw [heq, List.getElem?_mapIdx, List.getElem?_eq_getElem hi, Nat.zero_add]
          rfl
        have hnumber : List.filterMap Arrival.number [.genuine i] = [(i : Int)] := rfl
        rw [harrived, longId_concat, hnumber, Window.track_concat, hbefore]
        exact Window.nearest_congr _ _ _ _ (shortId_datagram O params i _)

/-- Genuine packets alone, each a short step from the last, stay in reach. -/
theorem inReach_of_schedule (out : Outgoing) (sent : List Bytes)
    (hsent : RtpAudioSender.sendAll O params .start out.frames = .ok sent)
    (arrivals : List Arrival) (hown : ∀ a ∈ arrivals,
      a = .failed ∨ ∃ i, a = .genuine i ∧ i < out.frames.length)
    (hfollows : Window.Follows 65536 0 (arrivals.filterMap Arrival.number)) :
    InReach out sent arrivals := by
  intro before i after frame hsplit _ _ _
  rw [hsplit] at hown hfollows
  rw [longId_genuine O params out sent hsent before
    (fun a ha => hown a (List.mem_append_left _ ha))]
  have hnumbers : (before ++ Arrival.genuine i :: after).filterMap Arrival.number
      = before.filterMap Arrival.number ++ [(i : Int)] ++ after.filterMap Arrival.number := by
    rw [List.filterMap_append, List.append_assoc]
    rfl
  rw [hnumbers] at hfollows
  exact Window.track_of_follows 65536 (by omega) _ _ _
    (Window.follows_append_left _ _ _ _ hfollows)

/-! ## Two stray datagrams -/

def silentKeys : SrtpStreamParameters :=
  ⟨List.replicate 16 0, List.replicate 20 0, List.replicate 14 0, rfl, rfl, rfl⟩

/-- Two frames of one byte. -/
def silence : Outgoing :=
  ⟨List.replicate 2 ⟨0, [0], by unfold ENCODED_AUDIO_SIZE; rw [List.length_singleton]; omega⟩,
    by rw [List.length_replicate]; omega⟩

/-- A header with a number, and zeros where a payload and its code would be. -/
def stray (n : Nat) : Bytes :=
  Endian.toBE 2 32768 ++ Endian.toBE 2 n ++ List.replicate 29 0

/-- The receiver drops both, and decrypts the next genuine packet under a
    number the sender has not used. -/
theorem genuine_garbled :
    ¬ SrtpStream.Verifies openSsl silentKeys (stray 30000) ∧
    ¬ SrtpStream.Verifies openSsl silentKeys (stray 60000) ∧
    ∃ sent s s' packet,
      RtpAudioSender.sendAll openSsl silentKeys .start silence.frames = .ok sent ∧
      Run.run (step openSsl silentKeys) start [some (stray 30000), some (stray 60000)] = .ok s ∧
      s.receive openSsl silentKeys RECEIVE_BUFFER_SIZE sent[1]? = .ok (some packet, s') ∧
      s'.sequenceCounter.prevLongId = 65537 ∧ packet.payload ≠ [0] := by
  refine ⟨by decide +kernel, by decide +kernel, ?_⟩
  have hsurvives : Survives [some (stray 30000), some (stray 60000)] := by
    refine (survives_concat [some (stray 30000)] _).mpr ⟨?_, by decide +kernel, ?_⟩
    · refine (survives_concat [] _).mpr ⟨?_, by decide +kernel, ?_⟩
      · intro before hbefore
        rw [List.prefix_nil.mp hbefore]
        exact ⟨by decide, fun d hd => absurd hd List.not_mem_nil⟩
      · intro d hd
        rw [← Option.some.inj hd]
        decide +kernel
    · intro d hd
      rw [← Option.some.inj hd]
      decide +kernel
  rcases run_of_survives openSsl silentKeys _ hsurvives with ⟨s, hrun⟩
  -- The two strays have brought the number to 60000.
  have hlong : s.sequenceCounter.prevLongId = 60000 := by
    rw [(run_spec openSsl silentKeys _ s hrun).1]
    decide +kernel
  -- So the second datagram is taken for one of the next round.
  have hnear : Window.nearest 65536 s.sequenceCounter.prevLongId ((1 : Nat) : Int) = 65537 := by
    rw [hlong]
    rfl
  let frame : Frame := ⟨0, [0], by unfold ENCODED_AUDIO_SIZE; rw [List.length_singleton]; omega⟩
  rcases (receive_datagram openSsl silentKeys 1 frame s).2 (List.cons_ne_nil _ _)
    (by rw [hnear]; decide) with ⟨packet, s', hreceive⟩
  rcases (receive_datagram openSsl silentKeys 1 frame s).1 packet s' hreceive with
    ⟨_, hnext, hpayload⟩
  rw [hnear] at hnext
  refine ⟨_, s, s', packet, RtpAudioSender.sendAll_ok openSsl silentKeys silence.frames 0
    (by change 0 + 2 ≤ 4294967296; omega), hrun, hreceive, hnext, ?_⟩
  rw [hpayload, hnext]
  change SrtpStream.cipher openSsl silentKeys 65537 0
    (SrtpStream.cipher openSsl silentKeys 1 0 [0]) ≠ [0]
  decide +kernel

end RedPhone
