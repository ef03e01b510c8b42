import RedPhone.Zrtp.Checked
import RedPhone.Zrtp.InitiatorState

/-!
# What an Iteration Throws

An iteration of the negotiation loops throws what is in its signature, or
something nobody on the negotiation thread handles. Which of the two depends
on what the handler throws that a state has for a type, and this module brings
the question down to that.

The two roles read the same things in the same way in several places: the
secrets cached for the sender of a Hello, the public value of a DHPart, the
code of a DHPart whose key comes out of a Confirm packet. These are here as
well.

## Main definitions

* `Declared`: The exceptions of the negotiation's signature.
* `handler`: The handler a state has for a type.
* `Bare`: A computation whose failures are not the negotiation's.
* `SecretsUsable`, `Agreeable`, `Confirmable`: What the cache, a DHPart, and a
  DHPart before its Confirm packet have to be like.

## Theorems

* `handler_cases`: What holds of all methods of a role.
* `dispatch_eq`: Where a packet goes.
* `declared_negotiate`: When an iteration throws only what is declared.
* `clean_confirm`: When taking a Confirm packet is clean.
* `bare_getRetainedSecrets`: Reading the cache.
-/

namespace RedPhone

open HandshakePacket RetainedSecretsCalculator Java

/-- The exceptions in the signature of the negotiation. -/
def JavaException.Declared : JavaException → Prop
  | .negotiationFailed _ => True
  | .recipientUnavailable _ => True
  | .invalidPacket _ => False
  | .io _ => False
  | .unchecked _ => False

theorem forall_eq_both {α β : Type} (P : α → β → Prop) (x : α) (y : β) :
    (∀ a b, x = a → y = b → P a b) ↔ P x y := by
  constructor
  · intro h
    exact h x y rfl rfl
  · rintro h _ _ rfl rfl
    exact h

namespace ZRTPSocket

variable {ρ : Type}

/-- The handler a state has for a type of packet. -/
def handler (h : Handlers ρ) : State → Bytes →
    Option (Clock → HandshakePacket → ZRTPSocket ρ → Java (ZRTPSocket ρ))
  | .expectingHello, type => if type = HelloPacket.TYPE then some h.handleHello else none
  | .expectingHelloAck, type => if type = HELLO_ACK_TYPE then some h.handleHelloAck else none
  | .expectingCommit, type => if type = CommitPacket.TYPE then some h.handleCommit else none
  | .expectingDh1, type => if type = DHPacket.TYPE_ONE then some h.handleDH else none
  | .expectingDh2, type => if type = DHPacket.TYPE_TWO then some h.handleDH else none
  | .expectingConfirmOne, type =>
    if type = ConfirmPacket.TYPE_ONE then some h.handleConfirmOne else none
  | .expectingConfirmTwo, type =>
    if type = ConfirmPacket.TYPE_TWO then some h.handleConfirmTwo else none
  | .expectingConfirmAck, type => if type = CONF_ACK_TYPE then some h.handleConfirmAck else none
  | .handshakeComplete, _ => none
  | .terminated, _ => none

/-- What holds of each method of a role holds of the handler a state has for a
    type. -/
theorem handler_cases {h : Handlers ρ}
    (P : (Clock → HandshakePacket → ZRTPSocket ρ → Java (ZRTPSocket ρ)) → Prop)
    (hhello : P h.handleHello) (hhelloAck : P h.handleHelloAck) (hcommit : P h.handleCommit)
    (hdh : P h.handleDH) (hconfirmOne : P h.handleConfirmOne)
    (hconfirmTwo : P h.handleConfirmTwo) (hconfirmAck : P h.handleConfirmAck)
    {state : State} {type : Bytes}
    {handle : Clock → HandshakePacket → ZRTPSocket ρ → Java (ZRTPSocket ρ)}
    (hhandle : handler h state type = some handle) : P handle := by
  -- Each state has one handler, for one type.
  have hpick : ∀ {expected : Bytes} {own}, P own →
      (if type = expected then some own else none) = some handle → P handle := by
    intro expected own hown hhandle
    rcases Option.ite_none_right_eq_some.mp hhandle with ⟨_, hsome⟩
    exact Option.some.inj hsome ▸ hown
  cases state with
  | expectingHello => exact hpick hhello hhandle
  | expectingHelloAck => exact hpick hhelloAck hhandle
  | expectingCommit => exact hpick hcommit hhandle
  | expectingDh1 => exact hpick hdh hhandle
  | expectingDh2 => exact hpick hdh hhandle
  | expectingConfirmOne => exact hpick hconfirmOne hhandle
  | expectingConfirmTwo => exact hpick hconfirmTwo hhandle
  | expectingConfirmAck => exact hpick hconfirmAck hhandle
  | handshakeComplete => exact absurd hhandle nofun
  | terminated => exact absurd hhandle nofun

/-- What is asked of the handler for the type of a packet is asked of the one
    handler a state has, if the packet is of its type. -/
theorem forall_handler (x : Java Bytes) (expected : Bytes)
    (handle : Clock → HandshakePacket → ZRTPSocket ρ → Java (ZRTPSocket ρ))
    (P : (Clock → HandshakePacket → ZRTPSocket ρ → Java (ZRTPSocket ρ)) → Prop) :
    (∀ type k, x = .ok type → (if type = expected then some handle else none) = some k → P k) ↔
      (x = .ok expected → P handle) := by
  constructor
  · intro h hx
    exact h expected handle hx (if_pos rfl)
  · intro h type k hx hk
    rw [Option.ite_none_right_eq_some] at hk
    rcases hk with ⟨rfl, hk⟩
    rw [← Option.some.inj hk]
    exact h hx

theorem clean_resendPacket (now : Int) (s : ZRTPSocket ρ) : Clean (s.resendPacket now) := by
  intro e h
  unfold resendPacket at h
  by_cases hcount : s.retransmitCount > MAX_RETRANSMIT_COUNT
  · rw [if_pos hcount] at h
    cases hlast : s.lastPacket with
    | none =>
        rw [hlast] at h
        rw [← Except.error.inj h]
        trivial
    | some p =>
        rw [hlast] at h
        rw [← Except.error.inj h]
        trivial
  · rw [if_neg hcount] at h
    exact nomatch h

theorem clean_resendPacketIfTimeout (c : Clock) (s : ZRTPSocket ρ) :
    Clean (s.resendPacketIfTimeout c) := by
  unfold resendPacketIfTimeout
  by_cases htime : s.isRetransmitTime c.timeoutCheck = true
  · rw [if_pos htime]
    exact clean_resendPacket _ _
  · rw [if_neg htime]
    exact clean_ok s

/-- A packet goes to the handler its type has in a state, or else the socket
    may resend. -/
theorem dispatch_eq {h : Handlers ρ} {c : Clock} {packet : HandshakePacket} {s : ZRTPSocket ρ}
    {type : Bytes} (htype : packet.getType = .ok type) :
    s.dispatch h c packet = match handler h s.state type with
      | some handle => handle c packet s
      | none => s.resendPacketIfTimeout c := by
  have hif : ∀ (expected : Bytes)
      (handle : Clock → HandshakePacket → ZRTPSocket ρ → Java (ZRTPSocket ρ)),
      (if type = expected then handle c packet s else s.resendPacketIfTimeout c)
        = match if type = expected then some handle else none with
          | some handle => handle c packet s
          | none => s.resendPacketIfTimeout c := by
    intro expected handle
    by_cases hexpected : type = expected
    · rw [if_pos hexpected, if_pos hexpected]
    · rw [if_neg hexpected, if_neg hexpected]
  unfold dispatch
  rw [htype, Java.ok_bind]
  -- Of the conditions in the chain a state leaves one, or none.
  cases hstate : s.state with
  | handshakeComplete =>
      simp only [handler, reduceCtorEq, and_false, if_false]
      rfl
  | terminated =>
      simp only [handler, reduceCtorEq, and_false, if_false]
      rfl
  | _ =>
      simp only [handler, reduceCtorEq, and_false, if_false, and_true]
      exact hif _ _

/-- Dispatching is clean when the handler is, if there is one. -/
theorem clean_dispatch (h : Handlers ρ) (c : Clock) (packet : HandshakePacket) (s : ZRTPSocket ρ)
    (type : Bytes) (htype : packet.getType = .ok type) :
    Clean (s.dispatch h c packet) ↔
      ∀ handle, handler h s.state type = some handle → Clean (handle c packet s) := by
  rw [dispatch_eq htype]
  cases handler h s.state type with
  | none => exact ⟨fun _ _ hnone => (nomatch hnone), fun _ => clean_resendPacketIfTimeout c s⟩
  | some handle => simp only [Option.some.injEq, forall_eq']

/-- The handlers of the loops turn what is caught into what is declared. -/
theorem declared_negotiated {α : Type} (x : Java α) :
    (∀ e, negotiated x = .error e → e.Declared) ↔ Clean x := by
  cases x with
  | ok a => exact ⟨fun _ => clean_ok a, fun _ e h => (nomatch h)⟩
  | error e =>
      constructor
      · intro h e' he'
        rw [← Except.error.inj he']
        -- Two of the exceptions pass through, and they are not declared.
        cases e with
        | invalidPacket message => trivial
        | negotiationFailed message => trivial
        | recipientUnavailable message => trivial
        | io message => exact h _ rfl
        | unchecked e => exact h _ rfl
      · intro h e' he'
        have hcaught := h e rfl
        cases e with
        | invalidPacket message =>
            rw [← Except.error.inj he']
            trivial
        | negotiationFailed message =>
            rw [← Except.error.inj he']
            trivial
        | recipientUnavailable message =>
            rw [← Except.error.inj he']
            trivial
        | io message => exact absurd hcaught (fun hc => hc)
        | unchecked e => exact absurd hcaught (fun hc => hc)

/-- The resend outside of a handler throws only what is declared. -/
theorem declared_resendPacketIfTimeout (c : Clock) (s : ZRTPSocket ρ) (e : JavaException)
    (h : s.resendPacketIfTimeout c = .error e) : e.Declared := by
  have hsame : negotiated (s.resendPacketIfTimeout c) = .error e := by
    rw [h]
    unfold resendPacketIfTimeout resendPacket at h
    split_ifs at h
    · cases hlast : s.lastPacket with
      | none =>
          rw [hlast] at h
          rw [← Except.error.inj h]
          rfl
      | some p =>
          rw [hlast] at h
          rw [← Except.error.inj h]
          rfl
  exact (declared_negotiated _).mpr (clean_resendPacketIfTimeout c s) e hsame

/-- A packet in the buffer has a type. -/
theorem exists_getType_received (d : Bytes) (s : ZRTPSocket ρ) :
    ∃ type, (s.received d).getType = .ok type := by
  have hlen : (s.received d).data.length = 4096 := (s.buf.receive d).length_eq
  have hbug := headerBugOffset_le (s.received d)
  unfold getType MESSAGE_BASE
  cases hdata : (s.received d).data with
  | nil =>
      rw [hdata, List.length_nil] at hlen
      omega
  | cons x xs =>
      simp only []
      rw [← hdata]
      split_ifs
      · exact ⟨_, rfl⟩
      · exact ⟨_, region_of_le _ _ _ _ (by omega)⟩

/-- Receiving is clean unless there is no room for a checksum to check. -/
theorem clean_receiveHandshakePacket (verifyCRC : Bool) (d : Bytes) (s : ZRTPSocket ρ) :
    Clean (s.receiveHandshakePacket verifyCRC d) ↔ (verifyCRC = true → 4 ≤ d.length) := by
  have hcrc := clean_verifyCRC (s.received d) (by
    change min d.length 4096 ≤ (s.buf.receive d).bytes.length
    rw [(s.buf.receive d).length_eq]
    omega)
  have hlen : (s.received d).packetLength = min d.length 4096 := rfl
  unfold receiveHandshakePacket
  cases verifyCRC with
  | false => exact ⟨fun _ h => (nomatch h), fun _ => clean_ok _⟩
  | true =>
      simp only [if_true, true_imp_iff]
      rw [clean_bind]
      change Clean (s.received d).verifyCRC ∧ _ ↔ _
      rw [hcrc, hlen]
      exact ⟨fun h => by omega, fun h => ⟨by omega, fun _ _ => clean_ok _⟩⟩

/-- One iteration throws only what is declared exactly when a datagram that
    has to have a checksum is long enough for one, and the handler it goes to
    is clean. -/
theorem declared_negotiate (h : Handlers ρ) (s : ZRTPSocket ρ) (i : Input) :
    (∀ e, s.negotiate h i = .error e → e.Declared) ↔
      ∀ d, i.event = .datagram d → ¬ s.Over →
        (s.state ≠ .expectingConfirmAck → 4 ≤ d.length) ∧
        (s.state = .expectingConfirmAck ∨ (s.received d).verifyCRC = .ok true →
          ∀ type handle, (s.received d).getType = .ok type →
            handler h s.state type = some handle →
            Clean (handle i.clock (s.received d) { s with buf := s.buf.receive d })) := by
  unfold negotiate
  cases i.event with
  | close => exact ⟨fun _ d h => (nomatch h), fun _ e h => (nomatch h)⟩
  | timeout =>
      refine ⟨fun _ d h => (nomatch h), fun _ e h => ?_⟩
      simp only [] at h
      by_cases hover : s.Over
      · rw [if_pos hover] at h
        exact nomatch h
      · rw [if_neg hover] at h
        exact declared_resendPacketIfTimeout _ _ e h
  | ioException message =>
      refine ⟨fun _ d h => (nomatch h), fun _ e h => ?_⟩
      simp only [] at h
      by_cases hover : s.Over
      · rw [if_pos hover] at h
        exact nomatch h
      · rw [if_neg hover] at h
        rw [← Except.error.inj h]
        trivial
  | datagram d =>
      simp only [Event.datagram.injEq, forall_eq']
      by_cases hover : s.Over
      · rw [if_pos hover]
        exact ⟨fun _ h => absurd hover h, fun _ e h => (nomatch h)⟩
      · rw [if_neg hover, declared_negotiated, clean_bind]
        simp only [hover, not_false_eq_true, true_imp_iff]
        rcases exists_getType_received d s with ⟨type, htype⟩
        have hdispatch := clean_dispatch h i.clock (s.received d) { s with buf := s.buf.receive d }
          type htype
        rw [clean_receiveHandshakePacket, decide_eq_true_iff]
        refine and_congr_right (fun _ => ?_)
        constructor
        · intro hrest hpassed type' handle htype' hhandle
          rw [htype, Except.ok.injEq] at htype'
          rw [← htype'] at hhandle
          refine hdispatch.mp (hrest ({ s with buf := s.buf.receive d }, some (s.received d)) ?_)
            handle hhandle
          refine (receiveHandshakePacket_ok _ d s _ _).mpr ⟨rfl, ?_⟩
          by_cases hstate : s.state = .expectingConfirmAck
          · exact Or.inl ⟨decide_eq_false (fun hne => hne hstate), rfl⟩
          · exact Or.inr ⟨decide_eq_true hstate, Or.inl ⟨hpassed.resolve_left hstate, rfl⟩⟩
        · rintro hrest ⟨t, packet⟩ hreceive
          rcases (receiveHandshakePacket_ok _ d s t packet).mp hreceive with ⟨rfl, hpacket⟩
          rcases hpacket with ⟨hstate, rfl⟩ | ⟨_, ⟨hgood, rfl⟩ | ⟨_, rfl⟩⟩
          · have hack := Classical.not_not.mp (decide_eq_false_iff_not.mp hstate)
            exact hdispatch.mpr (fun handle => hrest (Or.inl hack) type handle htype)
          · exact hdispatch.mpr (fun handle => hrest (Or.inr hgood) type handle htype)
          · -- A wrong checksum is a reason to resend, not to fail.
            exact clean_resendPacketIfTimeout _ _

/-- A socket that has received, and not yet looked. -/
theorem idle_receive (d : Bytes) (s : ZRTPSocket ρ) : Idle s { s with buf := s.buf.receive d } :=
  ⟨rfl, rfl, rfl, Or.inl rfl, Or.inl ⟨rfl, rfl⟩⟩

theorem copied_received (d : Bytes) (s : ZRTPSocket ρ) (p : HandshakePacket)
    (h : (s.received d).copyOf = .ok p) : Copied p := by
  refine copied_copyOf _ p ?_ h
  change min d.length 4096 ≤ (s.buf.receive d).bytes.length
  rw [(s.buf.receive d).length_eq]
  omega

theorem copyOf_received_of_le (d : Bytes) (s : ZRTPSocket ρ) (hd : 4 ≤ d.length) :
    (s.received d).copyOf = .ok (ofDatagram d) := by
  refine (copyOf_received d s _).mpr ⟨?_, rfl⟩
  rintro rfl
  exact absurd hd (Nat.not_succ_le_zero 3)

end ZRTPSocket

/-- The secrets cached for the sender of a Hello can be read and used as keys. -/
def SecretsUsable (P : Platform) (db : RetainedSecretsDatabase) (number : String) (now : Int)
    (hello : HandshakePacket) : Prop :=
  ∀ zid, HelloPacket.getZID hello = .ok zid →
    ∃ secrets, db.getRetainedSecrets P number zid now = .ok secrets ∧ Keyable secrets

/-- A computation that throws nothing the negotiation handles: where it throws
    it is not clean. -/
def Bare {α : Type} (x : Java α) : Prop :=
  ∀ e, x = .error e → ¬ e.Caught

theorem Bare.exists_ok {α : Type} {x : Java α} (h : Bare x) (hclean : Clean x) :
    ∃ a, x = .ok a := by
  cases x with
  | ok a => exact ⟨a, rfl⟩
  | error e => exact absurd (hclean e rfl) (h e rfl)

theorem bare_bind {α β : Type} {x : Java α} {f : α → Java β} (hx : Bare x) (hf : ∀ a, Bare (f a)) :
    Bare (x >>= f) := by
  intro e h
  rcases (bind_error x f e).mp h with herror | ⟨a, _, herror⟩
  · exact hx e herror
  · exact hf a e herror

theorem bare_ok {α : Type} (a : α) : Bare (.ok a : Java α) := by
  intro e h
  exact nomatch h

theorem bare_decodeLoop (len : Nat) (source b4 out : Bytes) :
    Bare (Base64.decodeLoop len source b4 out) := by
  induction source generalizing b4 out with
  | nil => exact bare_ok out
  | cons c source ih =>
      unfold Base64.decodeLoop
      simp only []
      cases Base64.STANDARD_DECODABET[(c &&& 0x7f).toNat]? with
      | none =>
          intro e h hcaught
          rw [← Except.error.inj h] at hcaught
          exact hcaught
      | some sbiDecode =>
          simp only []
          split_ifs
          · exact bare_ok _
          · exact ih _ _
          · exact ih _ _
          · exact ih _ _
          · intro e h hcaught
            rw [← Except.error.inj h] at hcaught
            exact hcaught

theorem bare_decodeSecret (P : Platform) (column : Option Bytes) :
    Bare (RetainedSecretsDatabase.decodeSecret P column) := by
  cases column with
  | none => exact bare_ok none
  | some encoded =>
      unfold RetainedSecretsDatabase.decodeSecret
      simp only []
      by_cases hempty : encoded = []
      · rw [if_pos hempty]
        exact bare_ok none
      · rw [if_neg hempty]
        have hbytes : Bare (Base64.decodeBytes encoded) := by
          unfold Base64.decodeBytes
          split_ifs
          · exact bare_ok []
          · intro e h hcaught
            rw [← Except.error.inj h] at hcaught
            exact hcaught
          · exact bare_decodeLoop _ _ _ _
        have hdecode : Bare (Base64.decode P.gunzip encoded) :=
          bare_bind hbytes (fun _ => bare_ok _)
        -- What the decoder throws goes on unchanged.
        cases hresult : Base64.decode P.gunzip encoded with
        | ok bytes => exact bare_ok _
        | error e =>
            rw [hresult] at hdecode
            intro e' h'
            rw [← Except.error.inj h']
            exact hdecode e rfl

/-- Reading the cache throws only what nothing on the negotiation thread
    handles, if it throws at all. -/
theorem bare_getRetainedSecrets (P : Platform) (db : RetainedSecretsDatabase) (number : String)
    (zid : Bytes) (now : Int) : Bare (db.getRetainedSecrets P number zid now) := by
  unfold RetainedSecretsDatabase.getRetainedSecrets
  induction db.query (RetainedSecretsDatabase.encodedKey P number zid) with
  | nil => exact bare_ok _
  | cons r rows ih =>
      unfold RetainedSecretsDatabase.readSecrets
      by_cases hexpired : now > r.expires
      · rw [if_pos hexpired]
        exact ih
      · rw [if_neg hexpired]
        have hread : Bare (do
            let rs1 ← RetainedSecretsDatabase.decodeSecret P r.rs1
            let rs2 ← RetainedSecretsDatabase.decodeSecret P r.rs2
            .ok ⟨rs1, rs2⟩ : Java RetainedSecrets) :=
          bare_bind (bare_decodeSecret P _) (fun _ =>
            bare_bind (bare_decodeSecret P _) (fun _ => bare_ok _))
        split
        · exact ih
        · exact hread

/-- A DHPart packet has the fields its key agreement gives it, and a public
    value the key agreement accepts. -/
structure Agreeable (C : Crypto) (cfg : Config) (d : DHPacket) : Prop where
  long : 88 + d.packet.headerBugOffset + d.agreementType.pvrLength ≤ d.packet.data.length
  accepted : ∀ pvr, d.getPvr = .ok pvr →
    ∃ r, SecretCalculator.calculateKeyAgreement C cfg.keys d.agreementType pvr = .ok r

/-- The DHPart before a Confirm packet whose code is right has room for a code
    of its own, which is only checked now. -/
def Confirmable (C : Crypto) (macKey : Bytes) (buf : ReceiveBuffer) (packet : HandshakePacket)
    (d : DHPacket) : Prop :=
  (ConfirmPacket.ofPacket packet).verifyMac C macKey buf = .ok () →
    96 + d.packet.headerBugOffset + d.agreementType.pvrLength ≤ d.packet.data.length

/-- Checking, decrypting and opening a Confirm packet, as either role does. -/
theorem clean_confirm {α : Type} (C : Crypto) (macKey cipherKey : Bytes) (buf : ReceiveBuffer)
    (packet : HandshakePacket) (o : Option DHPacket) (d : DHPacket) (ho : o = some d)
    (hlong : 56 + d.packet.headerBugOffset ≤ d.packet.data.length)
    (f : ReceiveBuffer → DHPacket → Java α) (hf : ∀ buf', Clean (f buf' d)) :
    Clean (do
        (ConfirmPacket.ofPacket packet).verifyMac C macKey buf
        let buf' ← (ConfirmPacket.ofPacket packet).decrypt C cipherKey buf
        let preimage ← (ConfirmPacket.ofPacket packet).getPreimage buf'
        let foreignDH ← orNull o
        foreignDH.verifyMac C preimage
        f buf' foreignDH)
      ↔ Confirmable C macKey buf packet d := by
  have hbug : (ConfirmPacket.ofPacket packet).bugOffset ≤ 12 := headerBugOffset_le packet
  have hnull : orNull o = .ok d := (orNull_ok _ _).mpr ho
  have hdecrypt := (ConfirmPacket.decrypt_ok C cipherKey buf _ _ hbug).mpr rfl
  rw [clean_bind]
  constructor
  · rintro ⟨_, h⟩ hmac
    have hrest := h () hmac
    rw [clean_bind_ok hdecrypt, clean_bind_ok (ConfirmPacket.getPreimage_ok _ _ hbug),
      clean_bind_ok hnull, clean_bind, DHPacket.clean_verifyMac _ _ _ hlong] at hrest
    exact hrest.1
  · intro h
    refine ⟨ConfirmPacket.clean_verifyMac _ _ _ _ hbug, fun _ hmac => ?_⟩
    rw [clean_bind_ok hdecrypt, clean_bind_ok (ConfirmPacket.getPreimage_ok _ _ hbug),
      clean_bind_ok hnull, clean_bind, DHPacket.clean_verifyMac _ _ _ hlong]
    exact ⟨h hmac, fun _ _ => hf _⟩

theorem exists_isLegacyConfirmConnection (hello : HandshakePacket)
    (hlong : 88 + hello.headerBugOffset ≤ hello.data.length) :
    ∃ legacy, isLegacyConfirmConnection hello = .ok legacy := by
  have hclient : HelloPacket.getClientId hello
      = .ok (Text.decodeUtf8 (Slice.slice (28 + hello.headerBugOffset) 16 hello.data)) :=
    (bind_ok _ _ _).mpr ⟨_, region_of_le _ _ _ _ (by omega), rfl⟩
  exact ⟨_, (bind_ok _ _ _).mpr ⟨_, hclient, rfl⟩⟩

/-- Secrets that are keys are so for either role. -/
theorem calculateDerivatives_of_keyable (C : Crypto) (role : Role) (secrets : RetainedSecrets)
    (h : Keyable secrets) : ∃ ids, calculateDerivatives C role secrets = .ok ids :=
  ⟨_, (calculateDerivatives_ok C role secrets _).mpr ⟨h, rfl⟩⟩

theorem keyable_of_clean (C : Crypto) (role : Role) (secrets : RetainedSecrets)
    (h : Clean (calculateDerivatives C role secrets)) : Keyable secrets := by
  have hoptional : ∀ secret, Clean (calculateOptional C role secret) → secret ≠ some [] := by
    rintro secret hclean rfl
    exact hclean _ rfl
  unfold calculateDerivatives at h
  rw [clean_bind] at h
  have h1 := hoptional _ h.1
  have hok := (calculateOptional_ok C role secrets.rs1 _).mpr ⟨h1, rfl⟩
  exact ⟨h1, hoptional _ ((clean_bind _ _).mp (h.2 _ hok)).1⟩

theorem exists_getS1 (C : Crypto) (role : Role) (secrets : RetainedSecrets) (h : Keyable secrets)
    (id1 id2 : Option Bytes) : ∃ s1, getS1 C role secrets id1 id2 = .ok s1 := by
  cases role with
  | initiator =>
      rcases calculateDerivatives_of_keyable C .responder secrets h with ⟨ids, hids⟩
      unfold getS1 initiatorGetS1
      simp only [hids, ok_bind]
      exact ⟨_, rfl⟩
  | responder =>
      rcases calculateDerivatives_of_keyable C .initiator secrets h with ⟨ids, hids⟩
      unfold getS1 responderGetS1
      simp only [hids, ok_bind]
      exact ⟨_, rfl⟩

/-- The fields of a DHPart in front of its public value. -/
theorem exists_derivatives (d : DHPacket)
    (hlong : 88 + d.packet.headerBugOffset ≤ d.packet.data.length) :
    ∃ rs1 rs2, d.getDerivativeSecretOne = .ok rs1 ∧ d.getDerivativeSecretTwo = .ok rs2 :=
  ⟨_, _, region_of_le _ _ _ _ (by omega), region_of_le _ _ _ _ (by omega)⟩

end RedPhone
