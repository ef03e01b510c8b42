import RedPhone.Srtp.RtpAudio
import RedPhone.Zrtp.Honest
import RedPhone.Zrtp.Retransmission

/-!
# What One Party Says

A call from the handshake to the frames that come out at the other end. The
keys of both streams are those of the master secret, crossed over, and the
frames go over the socket the handshake went over. What is left of the
handshake on the wire arrives at the receiver of the audio as well, and like
every datagram it moves the counter by which numbers are restored.

It does so by its own number, which is small: the packets of a handshake are
numbered from zero, and there are only so many of them. So they cannot lead the
counter away from the first frames of a call, and later on they can only from
frames that are half a round of numbers off.

## Main definitions

* `ZRTPSocket.Numbered`: The packets sent carry the numbers of their places.
* `AudioKeys.streams`: The keys as the native code copies them.
* `Arrival.place`: The number an arrival has.
* `Hears`: What is sent is returned by the receiver.

## Theorems

* `numbered_of_reaches`, `sent_le_of_reaches`: How the packets of a handshake
  are numbered.
* `hears`: A receiver with the keys of the sender hears it.
* `call_heard`: And so do the parties of a call.
-/

namespace RedPhone

open HandshakePacket Slice Undisturbed

/-! ## The packets of the handshake -/

namespace ZRTPSocket

/-- The packets sent carry the numbers of their places. -/
structure Numbered {ρ : Type} (s : ZRTPSocket ρ) : Prop where
  sequence_eq : s.sequence = s.sent.length
  sent : ∀ (k : Nat) d, s.sent[k]? = some d → ∃ p, Sendable p ∧ d = (p.wire k).data

/-- The handlers number what they send. -/
def Counts {ρ : Type} (h : Handlers ρ) : Prop :=
  ∀ c packet s s', Handled h c packet s s' → s.sequence = s.sent.length →
    s'.sequence = s'.sent.length

section

variable {ρ : Type} {h : Handlers ρ} {s s' : ZRTPSocket ρ}

theorem length_concat (hseq : s.sequence = s.sent.length) (d : Bytes) :
    s.sequence + 1 = (s.sent ++ [d]).length := by
  rw [List.length_append, List.length_singleton, hseq]

theorem sequence_step (hcounts : Counts h) (hseq : s.sequence = s.sent.length) (i : Input)
    (hstep : s.negotiate h i = .ok s') : s'.sequence = s'.sent.length := by
  cases hit : s.iteration i with
  | handler state =>
      rcases negotiate_handler h s s' i state hit hstep with ⟨_, d, _, hhandled⟩
      exact hcounts i.clock _ _ s' hhandled hseq
  | retransmission =>
      rcases negotiate_retransmission h s i hit with ⟨buf, hresend⟩
      rw [hresend] at hstep
      unfold resendPacket at hstep
      by_cases hcount : s.retransmitCount > MAX_RETRANSMIT_COUNT
      · simp only [hcount, if_true] at hstep
        cases hlast : s.lastPacket with
        | none => simp only [hlast, reduceCtorEq] at hstep
        | some p => simp only [hlast, reduceCtorEq] at hstep
      · simp only [hcount, if_false, Except.ok.injEq] at hstep
        -- Only what there is to send again gets a number.
        cases hlast : s.lastPacket with
        | none =>
            rw [← hstep, hlast]
            exact hseq
        | some p =>
            rw [← hstep, hlast]
            exact length_concat hseq _
  | nothing =>
      rcases negotiate_nothing h s s' i hit hstep with ⟨buf, rfl⟩ | ⟨_, rfl⟩
      · exact hseq
      · exact hseq

/-- A packet sent under the next number. -/
theorem Numbered.concat (hn : Numbered s) (p : HandshakePacket) (hp : Sendable p)
    (hsent : s'.sent = s.sent ++ [(p.wire s.sequence).data])
    (hseq : s'.sequence = s'.sent.length) : Numbered s' := by
  refine ⟨hseq, fun k d hd => ?_⟩
  rw [hsent] at hd
  by_cases hlt : k < s.sent.length
  · rw [List.getElem?_append_left hlt] at hd
    exact hn.sent k d hd
  · rw [List.getElem?_append_right (by omega)] at hd
    rcases List.getElem?_eq_some_iff.mp hd with ⟨hk, hget⟩
    rw [List.length_singleton] at hk
    have hlast : k = s.sequence := by rw [hn.sequence_eq]; omega
    refine ⟨p, hp, ?_⟩
    rw [List.getElem_singleton] at hget
    rw [hlast, hget]

/-- Whatever an iteration sends is numbered. -/
theorem Numbered.posting {C : Crypto} {S : Seal} {path : List State} {entry : State → Option Bytes}
    (hn : Numbered s) (hs : Supplied C S path entry s) (ht : Posting C S path entry s s')
    (hseq : s'.sequence = s'.sent.length) : Numbered s' := by
  have hsame : s'.sent = s.sent → Numbered s' := by
    intro hsent
    refine ⟨hseq, ?_⟩
    rw [hsent]
    exact hn.sent
  cases ht with
  | answered k type hk hk' hentry ha =>
      rcases ha.packet with ⟨p, hp, _, hsent, _⟩
      exact hn.concat p hp.1 hsent hseq
  | finished k hk hk' hentry hf => exact hsame hf.sent_eq
  | stayed hidle =>
      rcases hidle.sent with ⟨hsent, _⟩ | ⟨p, hp, hsent, _⟩
      · exact hsame hsent
      · exact hn.concat p (hs.mails.last p hp).1 hsent hseq

end

end ZRTPSocket

open ZRTPSocket

theorem ZRTPInitiatorSocket.counts (C : Crypto) (cfg : Config) :
    Counts (ZRTPInitiatorSocket.handlers C cfg) := by
  intro c packet s s' hhandled hseq
  cases hhandled with
  | hello _ _ hrun =>
      rcases handleHello_ok hrun with ⟨_, _, rfl⟩
      exact length_concat hseq _
  | helloAck _ _ hrun =>
      rcases handleHelloAck_next packet hrun with ⟨_, _, _, rfl⟩
      exact length_concat hseq _
  | commit _ _ hrun => simp only [handlers, Java.raise, reduceCtorEq] at hrun
  | dhOne _ _ hrun =>
      rcases handleDH_ok hrun with ⟨_, _, _, _, _, rfl⟩
      exact length_concat hseq _
  | dhTwo _ _ hrun =>
      rcases handleDH_ok hrun with ⟨_, _, _, _, _, rfl⟩
      exact length_concat hseq _
  | confirmOne _ _ hrun =>
      rcases handleConfirmOne_next hrun with ⟨_, _, rfl⟩
      exact length_concat hseq _
  | confirmTwo _ _ hrun => simp only [handlers, reduceCtorEq] at hrun
  | confirmAck _ _ hrun =>
      rcases handleConfirmAck_next packet hrun with ⟨_, rfl⟩
      exact hseq

theorem ZRTPResponderSocket.counts (C : Crypto) (cfg : Config) :
    Counts (ZRTPResponderSocket.handlers C cfg) := by
  intro c packet s s' hhandled hseq
  cases hhandled with
  | hello _ _ hrun =>
      rcases handleHello_ok hrun with ⟨_, _, rfl⟩
      exact length_concat hseq _
  | helloAck _ _ hrun => simp only [handlers, Java.raise, reduceCtorEq] at hrun
  | commit _ _ hrun =>
      rcases handleCommit_next hrun with ⟨_, _, _, rfl⟩
      exact length_concat hseq _
  | dhOne _ _ hrun =>
      rcases handleDH_next hrun with ⟨_, _, _, rfl⟩
      exact length_concat hseq _
  | dhTwo _ _ hrun =>
      rcases handleDH_next hrun with ⟨_, _, _, rfl⟩
      exact length_concat hseq _
  | confirmOne _ _ hrun => simp only [handlers, reduceCtorEq] at hrun
  | confirmTwo _ _ hrun =>
      rcases handleConfirmTwo_next hrun with ⟨_, _, rfl⟩
      exact length_concat hseq _
  | confirmAck _ _ hrun => simp only [handlers, Java.raise, reduceCtorEq] at hrun

section

variable {C : Crypto} {cfgI cfgR : Config} {databaseI databaseR : RetainedSecretsDatabase}
  {n : Network}

theorem numbered_of_reaches (legacy : Bool) (now : Int)
    (hreach : Network.Reaches C cfgI cfgR Honest
      (Network.start C cfgR databaseI databaseR legacy now) n) :
    Numbered n.initiator ∧ Numbered n.responder := by
  induction hreach with
  | refl =>
      refine ⟨⟨rfl, fun k d hd => ?_⟩, ⟨rfl, fun k d hd => ?_⟩⟩
      · exact absurd hd (Option.some_ne_none d).symm
      · -- The responder has sent its Hello.
        have hhello := (cfgR.hello_made C legacy).header
        have hcount := cfgR.version.keyAgreements_count
        rcases List.getElem?_eq_some_iff.mp hd with ⟨hk, hget⟩
        have hzero : k = 0 := Nat.lt_one_iff.mp hk
        subst hzero
        exact ⟨_, sendable_of_header hhello (by omega) (by omega), hget.symm⟩
  | tail hreach hstep ih =>
      have hrunning := running_of_reaches legacy now hreach
      cases hstep with
      | initiator i s _ hstep =>
          refine ⟨?_, ih.2⟩
          exact ih.1.posting hrunning.initiatorSupplied
            (ZRTPInitiatorSocket.posting_step hrunning.paired.initiator i hstep)
            (sequence_step (ZRTPInitiatorSocket.counts C cfgI) ih.1.sequence_eq i hstep)
      | responder i s _ hstep =>
          refine ⟨ih.1, ?_⟩
          exact ih.2.posting hrunning.responderSupplied
            (ZRTPResponderSocket.posting_step hrunning.paired.responder i hstep)
            (sequence_step (ZRTPResponderSocket.counts C cfgR) ih.2.sequence_eq i hstep)

/-- How many packets the two parties have sent at most. -/
theorem sent_le_of_reaches (legacy : Bool) (now : Int) {D : Delivery}
    (hreach : Network.Reaches C cfgI cfgR D
      (Network.start C cfgR databaseI databaseR legacy now) n) :
    n.initiator.sent.length ≤ 188 ∧ n.responder.sent.length ≤ 235 := by
  rcases hreach.runs with ⟨⟨is, hI⟩, ⟨js, hR⟩⟩
  have hinitiator : Retransmits (ZRTPInitiatorSocket.handlers C cfgI) 0 188
      (ZRTPInitiatorSocket.create databaseI) :=
    retransmits_of_path ZRTPInitiatorSocket.path (by decide) ZRTPInitiatorSocket.follows
      (ZRTPInitiatorSocket.freshens C cfgI) rfl rfl
      ⟨rfl, Nat.zero_le _, rfl, ⟨fun _ => rfl, fun _ => rfl⟩, Or.inl ⟨rfl, rfl⟩⟩ (by decide)
  have hresponder : Retransmits (ZRTPResponderSocket.handlers C cfgR) 1 235
      (ZRTPResponderSocket.start C cfgR databaseR legacy now) := by
    refine retransmits_of_path ZRTPResponderSocket.path (by decide) ZRTPResponderSocket.follows
      (ZRTPResponderSocket.freshens C cfgR) rfl rfl
      ⟨rfl, Nat.zero_le _, rfl, ⟨fun hlast => ?_, fun hempty => ?_⟩, Or.inr ⟨fun hempty => ?_, ?_⟩⟩
      (by decide)
    · exact absurd hlast (Option.some_ne_none _)
    · exact absurd hempty (List.cons_ne_nil _ _)
    · exact absurd hempty (List.cons_ne_nil _ _)
    · exact Nat.le_refl 47
  exact ⟨hinitiator.total is _ hI, hresponder.total js _ hR⟩

/-- A packet as it was sent has its number where audio has one. -/
theorem shortId_wire (p : HandshakePacket) (hp : Sendable p) (k : Nat) (hk : k < 65536) :
    RtpAudioReceiver.shortId (p.wire k).data = k ∧ RTP_HEADER_SIZE ≤ (p.wire k).data.length := by
  have hwhole := SameMessage.whole p _ (wire_sameMessage k p hp.1) hp.1
  have hroom := hwhole.2
  have hlen := hwhole.1
  have hdata := hp.1.1
  have h28 := hp.1.2
  have h1 := length_setSequenceNumber k p (by omega)
  have hfield : slice 2 2 (p.wire k).data = Endian.toBE 2 k := by
    -- The checksum is written behind it.
    unfold wire setCRC put
    rw [show (p.setSequenceNumber k).packetLength = p.packetLength from rfl,
      slice_blit_of_disjoint _ _ _ _ _ (by omega) (Or.inl (by omega))]
    unfold setSequenceNumber put
    exact slice_blit_self _ _ _ _ (by omega) (Conversions.length_shortToByteArray k)
  refine ⟨?_, by unfold RTP_HEADER_SIZE; omega⟩
  unfold RtpAudioReceiver.shortId
  rw [hfield, Endian.ofBE_toBE, Nat.mod_eq_of_lt (by omega)]

end

/-! ## The keys of the streams -/

/-- The keys of a stream, of each array as much as there is room for. -/
def constructSrtpStreamParameters (cipherKey macKey salt : Bytes) : Cpp SrtpStreamParameters :=
  if h : SRTP_AES_KEY_SIZE ≤ cipherKey.length ∧ SRTP_MAC_KEY_SIZE ≤ macKey.length ∧
      SRTP_SALT_SIZE ≤ salt.length then
    .ok ⟨cipherKey.take SRTP_AES_KEY_SIZE, macKey.take SRTP_MAC_KEY_SIZE, salt.take SRTP_SALT_SIZE,
      List.length_take_of_le h.1, List.length_take_of_le h.2.1, List.length_take_of_le h.2.2⟩
  else .error .outOfBounds

/-- The two streams of a native `CallAudioManager`. -/
structure Streams where
  sender : SrtpStreamParameters
  receiver : SrtpStreamParameters

/-- The keys as `CallAudioManager_create` hands them to its streams. -/
def AudioKeys.streams (k : AudioKeys) : Cpp Streams := do
  let sender ← constructSrtpStreamParameters k.senderCipherKey k.senderMacKey k.senderSalt
  let receiver ← constructSrtpStreamParameters k.receiverCipherKey k.receiverMacKey k.receiverSalt
  .ok ⟨sender, receiver⟩

/-- Arrays of the right size are copied. -/
theorem exists_constructSrtpStreamParameters (cipherKey macKey salt : Bytes)
    (hcipher : cipherKey.length = SRTP_AES_KEY_SIZE) (hmac : macKey.length = SRTP_MAC_KEY_SIZE)
    (hsalt : salt.length = SRTP_SALT_SIZE) :
    ∃ params, constructSrtpStreamParameters cipherKey macKey salt = .ok params := by
  unfold constructSrtpStreamParameters
  rw [dif_pos ⟨hcipher.ge, hmac.ge, hsalt.ge⟩]
  exact ⟨_, rfl⟩

/-- Both parties of a call have the same two streams, the other way round. -/
theorem MasterSecret.streams_create (C : Crypto) (sharedSecret totalHash zidi zidr : Bytes) :
    ∃ one two, (create C sharedSecret totalHash zidi zidr).initiatingAudioKeys.streams
        = .ok ⟨one, two⟩ ∧
      (create C sharedSecret totalHash zidi zidr).responderAudioKeys.streams = .ok ⟨two, one⟩ := by
  have hlen : ∀ label n, n ≤ 32 →
      (calculateKDF C sharedSecret totalHash zidi zidr label n).length = n :=
    fun label n => length_calculateKDF C sharedSecret totalHash zidi zidr label
  rcases exists_constructSrtpStreamParameters _ _ _ (hlen "Initiator SRTP master key" 16 (by omega))
    (hlen "Initiator HMAC key" 20 (by omega)) (hlen "Initiator SRTP master salt" 14 (by omega))
    with ⟨one, hone⟩
  rcases exists_constructSrtpStreamParameters _ _ _ (hlen "Responder SRTP master key" 16 (by omega))
    (hlen "Responder HMAC key" 20 (by omega)) (hlen "Responder SRTP master salt" 14 (by omega))
    with ⟨two, htwo⟩
  refine ⟨one, two, ?_, ?_⟩
  · exact (Run.bind_ok _ _ _).mpr ⟨one, hone, (Run.bind_ok _ _ _).mpr ⟨two, htwo, rfl⟩⟩
  · exact (Run.bind_ok _ _ _).mpr ⟨two, htwo, (Run.bind_ok _ _ _).mpr ⟨one, hone, rfl⟩⟩

/-! ## Hearing -/

/-- The number an arrival has, or none if nothing arrived. -/
def Arrival.place : Arrival → Option Int
  | .genuine i => some i
  | .other d => some (RtpAudioReceiver.shortId d)
  | .failed => none

/-- Each arrival is less than half a round of numbers from the one before. -/
def Followed (arrivals : List Arrival) : Prop :=
  Window.Follows 65536 0 (arrivals.filterMap Arrival.place)

/-- What may arrive: a frame of the call, a datagram left over, or nothing. -/
def Comes (out : Outgoing) (strays : List Bytes) (a : Arrival) : Prop :=
  a = .failed ∨ (∃ i, a = .genuine i ∧ i < out.frames.length) ∨ ∃ d ∈ strays, a = .other d

/-- What the receiver is to return for an arrival: a frame with its payload and
    its time, and nothing for what is no frame. -/
structure Returned (O : OpenSsl) (params : SrtpStreamParameters) (out : Outgoing) (a : Arrival)
    (result : Option RtpPacket) : Prop where
  nothing : a = .failed → result = none
  frame : ∀ i frame, a = .genuine i → out.frames[i]? = some frame →
    if frame.encodedData = [] then result = none
    else ∃ packet, result = some packet ∧ packet.payload = frame.encodedData ∧
      packet.getTimestamp = .ok frame.timestamp
  stray : ∀ d, a = .other d → ¬ SrtpStream.Verifies O params d → result = none

/-- A receiver gets through every run of arrivals it can follow, and returns
    what was sent. -/
def Hears (O : OpenSsl) (sender receiver : SrtpStreamParameters) (strays : List Bytes) : Prop :=
  ∀ out : Outgoing, ∃ sent, RtpAudioSender.sendAll O sender .start out.frames = .ok sent ∧
    ∀ before a, (∀ b ∈ before ++ [a], Comes out strays b) → Followed (before ++ [a]) →
      ∃ s result s',
        Run.run (RtpAudioReceiver.step O receiver) .start (before.map (·.received sent)) = .ok s ∧
        s.receive O receiver RECEIVE_BUFFER_SIZE (a.received sent) = .ok (result, s') ∧
        Returned O receiver out a result

theorem length_datagram_le (O : OpenSsl) (params : SrtpStreamParameters) (n : Nat) (frame : Frame) :
    (RtpAudioSender.datagram O params n frame).length ≤ RECEIVE_BUFFER_SIZE := by
  have hlen := length_datagram O params n frame
  have hframe := frame.length_le
  unfold ENCODED_AUDIO_SIZE at hframe
  unfold RECEIVE_BUFFER_SIZE RTP_HEADER_SIZE SRTP_MAC_SIZE at *
  omega

section

variable (O : OpenSsl) (params : SrtpStreamParameters)

open RtpAudioReceiver

/-- Receiving what fits the buffer, near the number it is taken for. -/
theorem receive_near (s : RtpAudioReceiver) (d : Bytes) (n : Int)
    (hd : RTP_HEADER_SIZE ≤ d.length ∧ d.length ≤ RECEIVE_BUFFER_SIZE)
    (hn : n % 65536 = shortId d % 65536)
    (hwindow : Window.InWindow 65536 s.sequenceCounter.prevLongId n) (hrange : Cpp.IsInt64 n)
    (result : Option RtpPacket)
    (hdecrypt : SrtpStream.decrypt O params (.ofReceived d) n = .ok result) :
    ∃ s', s.receive O params RECEIVE_BUFFER_SIZE (some d) = .ok (result, s') := by
  have hnext : (s.sequenceCounter.next (UInt16.ofNat (Endian.ofBE (slice 2 2 d)))).prevLongId
      = n := by
    rw [next_shortId, Window.nearest_congr 65536 _ _ _ hn.symm]
    exact (Window.nearest_eq_iff 65536 (by omega) _ _).mpr hwindow
  generalize hcounter : s.sequenceCounter.next (UInt16.ofNat (Endian.ofBE (slice 2 2 d))) = counter
    at hnext
  refine ⟨⟨counter⟩, (receive_ok O params s d result ⟨counter⟩).mpr
    ⟨hd.1, hcounter.symm, ?_, ?_⟩⟩
  · rw [hnext]
    exact hrange
  · rw [hnext, List.take_of_length_le hd.2]
    exact hdecrypt

/-- A frame that is decrypted under its own number comes back. -/
theorem decrypt_datagram (n : Nat) (frame : Frame) :
    ∃ result, SrtpStream.decrypt O params (.ofReceived (RtpAudioSender.datagram O params n frame)) n
        = .ok result ∧
      if frame.encodedData = [] then result = none
      else ∃ packet, result = some packet ∧ packet.payload = frame.encodedData ∧
        packet.getTimestamp = .ok frame.timestamp := by
  have hframe := frame.length_le
  unfold ENCODED_AUDIO_SIZE at hframe
  unfold RtpAudioSender.datagram
  by_cases hempty : frame.encodedData = []
  · simp only [hempty, if_true]
    exact ⟨none, SrtpStream.decrypt_protect_nil O params n n _ _, rfl⟩
  · rcases SrtpStream.decrypt_protect_eq O params n n (UInt32.ofNat n) frame.timestamp
      frame.encodedData hempty (by omega) with ⟨mac, hdecrypt⟩
    rw [SrtpStream.cipher_cipher, List.append_assoc] at hdecrypt
    simp only [hempty, if_false]
    refine ⟨_, hdecrypt, _, rfl, ?_, RtpPacket.getTimestamp_header _ _ _ _⟩
    have hmiddle := slice_append_mid (RtpPacket.header (UInt32.ofNat n) frame.timestamp)
      frame.encodedData mac
    rw [RtpPacket.length_header] at hmiddle
    unfold RtpPacket.payload
    rw [Int.toNat_natCast, ← List.append_assoc]
    exact hmiddle

/-- What carries no code of the keys is dropped. -/
theorem decrypt_stray (d : Bytes)
    (hd : RTP_HEADER_SIZE ≤ d.length ∧ d.length ≤ RECEIVE_BUFFER_SIZE) (n : Int) :
    ∃ result, SrtpStream.decrypt O params (.ofReceived d) n = .ok result ∧
      (¬ SrtpStream.Verifies O params d → result = none) := by
  have hmax := hd.2
  unfold RECEIVE_BUFFER_SIZE at hmax
  refine ⟨_, SrtpStream.decrypt_ofReceived O params d hd.1 (by omega) n _
    (RtpPacket.getSsrc_ok (.ofReceived d) hd.1), fun hverifies => ?_⟩
  rw [if_neg hverifies]

/-- Arrivals with the numbers they have lead where these lead. -/
theorem longId_place (out : Outgoing) (sent : List Bytes)
    (hsent : RtpAudioSender.sendAll O params .start out.frames = .ok sent) (strays : List Bytes)
    (arrivals : List Arrival) (hcomes : ∀ a ∈ arrivals, Comes out strays a) :
    longId (arrivals.map (·.received sent))
      = Window.track 65536 0 (arrivals.filterMap Arrival.place) := by
  have hfew := out.few
  have heq := Except.ok.inj
    (hsent.symm.trans (RtpAudioSender.sendAll_ok O params out.frames 0 (by omega)))
  induction arrivals using List.reverseRecOn with
  | nil => rfl
  | append_singleton arrivals a ih =>
      have hbefore := ih fun b hb => hcomes b (List.mem_append_left _ hb)
      have hplace : ∀ n d, a.received sent = some d → a.place = some n →
          n % 65536 = shortId d % 65536 → longId ((arrivals ++ [a]).map (·.received sent))
            = Window.track 65536 0 ((arrivals ++ [a]).filterMap Arrival.place) := by
        intro n d hreceived hn hmod
        rw [List.map_append, List.map_singleton, List.filterMap_append, hreceived, longId_concat,
          List.filterMap_cons_some hn, List.filterMap_nil, Window.track_concat, hbefore]
        exact Window.nearest_congr 65536 _ _ _ hmod.symm
      rcases hcomes a (List.mem_append_right _ (List.mem_singleton_self a)) with
        rfl | ⟨i, rfl, hi⟩ | ⟨d, _, rfl⟩
      · -- A failed call leaves both sides alone.
        rw [List.map_append, List.filterMap_append, List.map_singleton,
          List.filterMap_cons_none rfl, List.filterMap_nil, List.append_nil, ← hbefore]
        unfold longId
        rw [List.filterMap_append]
        exact congrArg _ (List.append_nil _)
      · refine hplace i (RtpAudioSender.datagram O params i out.frames[i]) ?_ rfl ?_
        · change sent[i]? = _
          rw [heq, List.getElem?_mapIdx, List.getElem?_eq_getElem hi, Nat.zero_add]
          rfl
        · exact (shortId_datagram O params i _).symm
      · exact hplace (shortId d) d rfl rfl rfl

theorem place_bounds (out : Outgoing) (strays : List Bytes) (a : Arrival)
    (hcomes : Comes out strays a) (n : Int) (hn : a.place = some n) : 0 ≤ n ∧ n < 4294967296 := by
  have hfew := out.few
  rcases hcomes with rfl | ⟨i, rfl, hi⟩ | ⟨d, _, rfl⟩
  · exact absurd hn (Option.some_ne_none n).symm
  · rw [← Option.some.inj hn]
    omega
  · have hlt := Endian.ofBE_lt (slice 2 2 d)
    have hlen : (slice 2 2 d).length ≤ 2 := List.length_take_le 2 _
    have hpow : 256 ^ (slice 2 2 d).length ≤ 256 ^ 2 := Nat.pow_le_pow_right (by omega) hlen
    rw [← Option.some.inj hn]
    unfold shortId
    omega

/-- What can be followed is survived. -/
theorem survives_of_followed (out : Outgoing) (sent : List Bytes)
    (hsent : RtpAudioSender.sendAll O params .start out.frames = .ok sent) (strays : List Bytes)
    (hstrays : ∀ d ∈ strays, RTP_HEADER_SIZE ≤ d.length) (arrivals : List Arrival)
    (hcomes : ∀ a ∈ arrivals, Comes out strays a) (hfollowed : Followed arrivals) :
    Survives (arrivals.map (·.received sent)) := by
  have hfew := out.few
  have heq := Except.ok.inj
    (hsent.symm.trans (RtpAudioSender.sendAll_ok O params out.frames 0 (by omega)))
  induction arrivals using List.reverseRecOn with
  | nil =>
      intro before hbefore
      rw [List.prefix_nil.mp hbefore]
      exact ⟨by decide, fun d hd => absurd hd List.not_mem_nil⟩
  | append_singleton arrivals a ih =>
      have hlong := longId_place O params out sent hsent strays _ hcomes
      have hshorter : Followed arrivals := by
        unfold Followed at hfollowed ⊢
        rw [List.filterMap_append] at hfollowed
        exact Window.follows_append_left _ _ _ _ hfollowed
      rw [List.map_append, List.map_singleton] at hlong ⊢
      refine (survives_concat _ _).mpr ⟨ih (fun b hb => hcomes b (List.mem_append_left _ hb))
        hshorter, ?_, ?_⟩
      · -- The receiver is led to one of the numbers, and none of them is large.
        rw [hlong]
        have hmem := Window.track_mem_of_follows 65536 (by omega) _ _ hfollowed
        rcases List.mem_cons.mp hmem with hstart | hmem
        · rw [hstart]
          decide
        · rcases List.mem_filterMap.mp hmem with ⟨b, hb, hplace⟩
          have hbounds := place_bounds out strays b (hcomes b hb) _ hplace
          unfold Cpp.IsInt64
          omega
      · intro d hd
        rcases hcomes a (List.mem_append_right _ (List.mem_singleton_self a)) with
          rfl | ⟨i, rfl, hi⟩ | ⟨e, he, rfl⟩
        · exact absurd hd (Option.some_ne_none d).symm
        · change sent[i]? = _ at hd
          rw [heq, List.getElem?_mapIdx, List.getElem?_eq_getElem hi] at hd
          rw [← Option.some.inj hd, length_datagram]
          omega
        · rw [← Option.some.inj hd]
          exact hstrays e he

/-- A receiver with the keys of the sender hears it, among datagrams left over
    that it has room for. -/
theorem hears (strays : List Bytes)
    (hstrays : ∀ d ∈ strays, RTP_HEADER_SIZE ≤ d.length ∧ d.length ≤ RECEIVE_BUFFER_SIZE) :
    Hears O params params strays := by
  intro out
  have hfew := out.few
  have hsent := RtpAudioSender.sendAll_ok O params out.frames 0 (by omega)
  refine ⟨_, hsent, fun before a hcomes hfollowed => ?_⟩
  generalize hlist : (out.frames.mapIdx fun i frame =>
    RtpAudioSender.datagram O params (0 + i) frame) = sent at hsent ⊢
  have hbefore : ∀ b ∈ before, Comes out strays b :=
    fun b hb => hcomes b (List.mem_append_left _ hb)
  have hshorter : Followed before := by
    unfold Followed at hfollowed ⊢
    rw [List.filterMap_append] at hfollowed
    exact Window.follows_append_left _ _ _ _ hfollowed
  rcases run_of_survives O params _ (survives_of_followed O params out sent hsent strays
    (fun d hd => (hstrays d hd).1) before hbefore hshorter) with ⟨s, hrun⟩
  have hlong := (run_spec O params _ s hrun).1
  rw [longId_place O params out sent hsent strays before hbefore] at hlong
  have hcome := hcomes a (List.mem_append_right _ (List.mem_singleton_self a))
  -- What comes next is near the number all the others have led to.
  have hnear : ∀ n, a.place = some n → Window.InWindow 65536 s.sequenceCounter.prevLongId n ∧
      Cpp.IsInt64 n := by
    intro n hn
    have hbounds := place_bounds out strays a hcome n hn
    refine ⟨?_, by unfold Cpp.IsInt64; omega⟩
    rw [hlong]
    refine Window.track_of_follows 65536 (by omega) _ n 0 ?_
    unfold Followed at hfollowed
    rw [List.filterMap_append, List.filterMap_cons_some hn, List.filterMap_nil] at hfollowed
    exact hfollowed
  rcases hcome with rfl | ⟨i, rfl, hi⟩ | ⟨d, hd, rfl⟩
  · exact ⟨s, none, s, hrun, rfl, fun _ => rfl, fun i _ ha => Arrival.noConfusion ha,
      fun d ha => Arrival.noConfusion ha⟩
  · have harrived : Arrival.received sent (.genuine i)
        = some (RtpAudioSender.datagram O params i out.frames[i]) := by
      change sent[i]? = _
      rw [← hlist, List.getElem?_mapIdx, List.getElem?_eq_getElem hi, Nat.zero_add]
      rfl
    rcases hnear i rfl with ⟨hwindow, hrange⟩
    rcases decrypt_datagram O params i out.frames[i] with ⟨result, hdecrypt, hresult⟩
    have hlen := length_datagram O params i out.frames[i]
    rcases receive_near O params s _ i ⟨by omega, length_datagram_le O params i _⟩
      (shortId_datagram O params i _).symm hwindow hrange result hdecrypt with ⟨s', hreceive⟩
    refine ⟨s, result, s', hrun, by rw [harrived]; exact hreceive,
      fun ha => Arrival.noConfusion ha, fun j frame ha hframe => ?_,
      fun d ha => Arrival.noConfusion ha⟩
    rw [Arrival.genuine.injEq] at ha
    rw [← ha, List.getElem?_eq_getElem hi, Option.some.injEq] at hframe
    rw [← hframe]
    exact hresult
  · rcases hnear (shortId d) rfl with ⟨hwindow, hrange⟩
    rcases decrypt_stray O params d (hstrays d hd) (shortId d) with ⟨result, hdecrypt, hresult⟩
    rcases receive_near O params s d (shortId d) (hstrays d hd) rfl hwindow hrange result hdecrypt
      with ⟨s', hreceive⟩
    refine ⟨s, result, s', hrun, hreceive, fun ha => Arrival.noConfusion ha,
      fun j frame ha => Arrival.noConfusion ha, fun e ha hverifies => ?_⟩
    rw [Arrival.other.injEq] at ha
    exact hresult (ha ▸ hverifies)

end

/-- Frames early in a call and packets of its handshake can be followed in any
    order. -/
theorem followed_of_early (out : Outgoing) (strays : List Bytes) (arrivals : List Arrival)
    (hcomes : ∀ a ∈ arrivals, Comes out strays a)
    (hstrays : ∀ d ∈ strays, RtpAudioReceiver.shortId d < 32768)
    (hearly : ∀ i, .genuine i ∈ arrivals → i < 32768) : Followed arrivals := by
  refine Window.follows_of_lt 65536 _ 0 ⟨by decide, by decide⟩ fun n hn => ?_
  rcases List.mem_filterMap.mp hn with ⟨a, ha, hplace⟩
  refine ⟨(place_bounds out strays a (hcomes a ha) n hplace).1, ?_⟩
  rcases hcomes a ha with rfl | ⟨i, rfl, _⟩ | ⟨d, hd, rfl⟩
  · exact absurd hplace (Option.some_ne_none n).symm
  · have hi := hearly i ha
    rw [← Option.some.inj hplace]
    omega
  · have hsmall := hstrays d hd
    rw [← Option.some.inj hplace]
    omega

/-- What a numbered party has sent fits the receiver of the audio, and has a
    small number there. -/
theorem ZRTPSocket.Numbered.strays {ρ : Type} {s : ZRTPSocket ρ} (hn : Numbered s)
    (hlen : s.sent.length ≤ 235) (d : Bytes) (hd : d ∈ s.sent) :
    (RTP_HEADER_SIZE ≤ d.length ∧ d.length ≤ RECEIVE_BUFFER_SIZE) ∧
      RtpAudioReceiver.shortId d < 32768 := by
  rcases List.getElem?_of_mem hd with ⟨k, hk⟩
  rcases List.getElem?_eq_some_iff.mp hk with ⟨hlt, _⟩
  rcases hn.sent k d hk with ⟨p, hp, rfl⟩
  rcases shortId_wire p hp k (by omega) with ⟨hshort, hmin⟩
  have hwire := sendable_of_sameMessage p _ (wire_sameMessage k p hp.1) hp
  have hmax := hwire.2
  have hwhole := hwire.1.1
  refine ⟨⟨hmin, ?_⟩, ?_⟩
  · unfold RECEIVE_BUFFER_SIZE
    omega
  · rw [hshort]
    omega

/-- When both parties of an honest handshake have completed, each hears the
    other: of all that is sent over the wire, frames and what is left of the
    handshake, lost, repeated and out of order, the frames that arrive come out
    as they went in, as long as they can be followed. Early in a call they
    always can. -/
theorem call_heard (O : OpenSsl) (C : Crypto) (cfgI cfgR : Config)
    (databaseI databaseR : RetainedSecretsDatabase) (legacy : Bool) (now : Int) (n : Network)
    (hreach : Network.Reaches C cfgI cfgR Honest
      (Network.start C cfgR databaseI databaseR legacy now) n)
    (hcommute : cfgI.keys.Commute C cfgR.keys)
    (hnc : ∀ a b, n.initiator.role.retainedSecrets = some a →
      n.responder.role.retainedSecrets = some b →
      RetainedSecretsCalculator.NoCollision C a b (fillers cfgI cfgR))
    (hI : n.initiator.state = .handshakeComplete) (hR : n.responder.state = .handshakeComplete) :
    ∃ mI mR kI kR, n.initiator.masterSecret = some mI ∧ n.responder.masterSecret = some mR ∧
      mI.initiatingAudioKeys.streams = .ok kI ∧ mR.responderAudioKeys.streams = .ok kR ∧
      Hears O kI.sender kR.receiver n.initiator.sent ∧
      Hears O kR.sender kI.receiver n.responder.sent ∧
      ∀ out arrivals, (∀ a ∈ arrivals, Comes out n.initiator.sent a) ∨
          (∀ a ∈ arrivals, Comes out n.responder.sent a) →
        (∀ i, .genuine i ∈ arrivals → i < 32768) → Followed arrivals := by
  have h : Running C cfgI cfgR databaseI databaseR n := running_of_reaches legacy now hreach
  rcases numbered_of_reaches legacy now hreach with ⟨hnI, hnR⟩
  rcases sent_le_of_reaches legacy now hreach with ⟨hlenI, hlenR⟩
  rcases h.initiatorDrawn.stored hI with ⟨mI, _, _, _, hmI, _⟩
  rcases h.responderDrawn.stored hR with ⟨mR, _, _, _, hmR, _⟩
  have hsecret := h.paired.masterSecret_eq hcommute hnc mI mR hmI hmR
  subst hsecret
  -- The keys have their lengths because of what they are derived with.
  rcases h.paired.initiator.keyed mI hmI with ⟨_, _, _, haccepted⟩
  rcases haccepted.derived with
    ⟨_, _, _, _, _, _, dhResult, totalHash, _, _, s1, zidi, zidr, _, _, _, _, _, _, _, _, _, _, _,
      _, _, hderived⟩
  rcases MasterSecret.streams_create C
    (SecretCalculator.calculateSharedSecret C dhResult totalHash s1 zidi zidr) totalHash zidi zidr
    with ⟨one, two, hone, htwo⟩
  rw [← hderived] at hone htwo
  have hstraysI := hnI.strays (by omega)
  have hstraysR := hnR.strays hlenR
  refine ⟨mI, mI, ⟨one, two⟩, ⟨two, one⟩, hmI, hmR, hone, htwo,
    hears O one _ fun d hd => (hstraysI d hd).1, hears O two _ fun d hd => (hstraysR d hd).1, ?_⟩
  rintro out arrivals (hcomes | hcomes) hearly
  · exact followed_of_early out _ arrivals hcomes (fun d hd => (hstraysI d hd).2) hearly
  · exact followed_of_early out _ arrivals hcomes (fun d hd => (hstraysR d hd).2) hearly

/-- Two parties that have never called each other. -/
theorem call_heard_undisturbed :
    ∃ n, Network.Reaches jce caller callee Honest
        (Network.start jce callee .empty .empty false 0) n ∧
      ∃ mI mR kI kR, n.initiator.masterSecret = some mI ∧ n.responder.masterSecret = some mR ∧
        mI.initiatingAudioKeys.streams = .ok kI ∧ mR.responderAudioKeys.streams = .ok kR ∧
        Hears openSsl kI.sender kR.receiver n.initiator.sent ∧
        Hears openSsl kR.sender kI.receiver n.responder.sent := by
  rcases reaches_complete (c := ⟨0, 0, 0, 0, 0⟩) (ready 0) false 0 with ⟨n, hreach, hI, hR⟩
  have h : Running jce caller callee .empty .empty n := running_of_reaches false 0 hreach
  rcases call_heard openSsl jce caller callee .empty .empty false 0 n hreach commute
    (h.noCollision compatible_strangers) hI hR with
    ⟨mI, mR, kI, kR, hmI, hmR, hkI, hkR, hone, htwo, _⟩
  exact ⟨n, hreach, mI, mR, kI, kR, hmI, hmR, hkI, hkR, hone, htwo⟩

end RedPhone
