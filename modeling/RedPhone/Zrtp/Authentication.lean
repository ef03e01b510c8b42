import RedPhone.Zrtp.Undisturbed

/-!
# What a Completed Handshake Has Verified

The checks of a handshake are spread over its handlers, and each is made on
packets that were stored one or more packets earlier: the Hello is checked when
the Commit or the DHPart reveals `H2`, the Commit when the DHPart reveals `H1`,
the DHPart when the Confirm reveals `H0`. A socket that completes has made all
of them, on the packets it still stores, whatever arrived and in whatever
order.

The invariant ties each state to the checks that must have been made to get
there, on the packets that are stored in that state. Each handler advances it
by the check it makes, and everything else leaves the stored packets alone.

The conditions are stated on the bytes of the packets, not through the methods
that check them.

## Main definitions

* `Arrived`: A packet that is a datagram received in the run.
* `HelloVerified`, `CommitVerified`, `DHVerified`, `HviVerified`,
  `ConfirmVerified`: What each check says.
* `InitiatorAuthenticated`, `ResponderAuthenticated`: The whole chain.

## Theorems

* `ZRTPInitiatorSocket.inv_step`, `ZRTPResponderSocket.inv_step`: What one
  iteration preserves.
* `handshake_authenticated`: A handshake completes only with the whole chain.
-/

namespace RedPhone

open Slice HandshakePacket

/-- A packet that was received as a datagram. -/
def Arrived (inputs : List Input) (p : HandshakePacket) : Prop :=
  ∃ i ∈ inputs, ∃ d, i.event = .datagram d ∧ d ≠ [] ∧ p = ZRTPSocket.ofDatagram d

/-- The code of a Hello is right under `H2`, and `H2` hashes to its `H3`. -/
def HelloVerified (C : Crypto) (hello : HandshakePacket) (h2 : Bytes) : Prop :=
  let b := hello.headerBugOffset
  slice (44 + b) 32 hello.data = C.sha256 h2 ∧
    ∃ options, HelloPacket.getOptionsLength hello = .ok options ∧
      (C.hmacSha256 h2 (slice (12 + b) (80 + options) hello.data)).take 8
        = slice (92 + b + options) 8 hello.data

/-- The code of a Commit is right under `H1`, and `H1` hashes to its `H2`. -/
def CommitVerified (C : Crypto) (commit : HandshakePacket) (h1 : Bytes) : Prop :=
  let b := commit.headerBugOffset
  slice (24 + b) 32 commit.data = C.sha256 h1 ∧
    (C.hmacSha256 h1 (slice (12 + b) 108 commit.data)).take 8 = slice (120 + b) 8 commit.data

/-- The code of a DHPart is right under `H0`, and `H0` hashes to its `H1`. -/
def DHVerified (C : Crypto) (dh : DHPacket) (h0 : Bytes) : Prop :=
  let b := dh.packet.headerBugOffset
  slice (24 + b) 32 dh.packet.data = C.sha256 h0 ∧
    (C.hmacSha256 h0 (slice (12 + b) (dh.agreementType.dhLength - 8) dh.packet.data)).take 8
      = slice (88 + dh.agreementType.pvrLength + b) 8 dh.packet.data

/-- The commitment of a Commit is the hash of two messages. -/
def HviVerified (C : Crypto) (commit : HandshakePacket) (dhBytes helloBytes : Bytes) : Prop :=
  slice (88 + commit.headerBugOffset) 32 commit.data = C.sha256 (dhBytes ++ helloBytes)

/-- The encrypted part of a Confirm packet has its code, and begins with `H0`. -/
def ConfirmVerified (C : Crypto) (confirm : HandshakePacket) (macKey zrtpKey h0 : Bytes) : Prop :=
  let b := confirm.headerBugOffset
  88 + b ≤ confirm.packetLength ∧
    (C.hmacSha256 macKey (slice (48 + b) 40 confirm.data)).take 8 = slice (24 + b) 8 confirm.data ∧
    h0 = (C.aesCfbDecrypt zrtpKey (slice (32 + b) 16 confirm.data)
      (slice (48 + b) 40 confirm.data)).take 32

/-- What an initiator has verified when its handshake is complete. -/
def InitiatorAuthenticated (C : Crypto) (inputs : List Input) (s : ZRTPInitiatorSocket) : Prop :=
  ∃ hello dh masterSecret confirm h0,
    s.role.foreignHello = some hello ∧ Arrived inputs hello ∧
    s.role.foreignDH = some dh ∧ Arrived inputs dh.packet ∧
    s.masterSecret = some masterSecret ∧ Arrived inputs confirm ∧
    HelloVerified C hello (C.sha256 (C.sha256 h0)) ∧ DHVerified C dh h0 ∧
    ConfirmVerified C confirm masterSecret.macR masterSecret.zrtpKeyR h0

/-- What a responder has verified when its handshake is complete. -/
def ResponderAuthenticated (C : Crypto) (inputs : List Input) (s : ZRTPResponderSocket) : Prop :=
  ∃ hello commit dh masterSecret confirm h0 dhBytes helloBytes,
    s.role.foreignHello = some hello ∧ Arrived inputs hello ∧
    s.role.foreignCommit = some commit ∧ Arrived inputs commit ∧
    s.role.foreignDH = some dh ∧ Arrived inputs dh.packet ∧
    s.masterSecret = some masterSecret ∧ Arrived inputs confirm ∧
    dh.packet.getMessageBytes = .ok dhBytes ∧
    s.role.localHello.getMessageBytes = .ok helloBytes ∧
    HelloVerified C hello (C.sha256 (C.sha256 h0)) ∧ CommitVerified C commit (C.sha256 h0) ∧
    HviVerified C commit dhBytes helloBytes ∧ DHVerified C dh h0 ∧
    ConfirmVerified C confirm masterSecret.macI masterSecret.zrtpKeyI h0

/-! ## The checks -/

theorem Arrived.concat {inputs : List Input} {p : HandshakePacket} (i : Input)
    (h : Arrived inputs p) : Arrived (inputs ++ [i]) p := by
  rcases h with ⟨j, hj, d, hd, hp⟩
  exact ⟨j, List.mem_append_left _ hj, d, hd, hp⟩

/-- A packet copied out of the buffer has arrived. -/
theorem arrived_of_copyOf {ρ : Type} (inputs : List Input) (i : Input) (d : Bytes)
    (s : ZRTPSocket ρ) (p : HandshakePacket) (hi : i.event = .datagram d)
    (h : (s.received d).copyOf = .ok p) : Arrived (inputs ++ [i]) p := by
  rcases (ZRTPSocket.copyOf_received d s p).mp h with ⟨hd, hp⟩
  exact ⟨i, List.mem_append_right _ (List.mem_singleton.mpr rfl), d, hi, hd, hp⟩

theorem arrived_of_dhCopyOf {ρ : Type} (inputs : List Input) (i : Input) (d : Bytes)
    (s : ZRTPSocket ρ) (t : AgreementType) (dh : DHPacket) (hi : i.event = .datagram d)
    (h : DHPacket.copyOf (s.received d) t = .ok dh) : Arrived (inputs ++ [i]) dh.packet := by
  simp only [DHPacket.copyOf, Java.bind_ok, Except.ok.injEq] at h
  rcases h with ⟨p, hp, rfl⟩
  exact arrived_of_copyOf inputs i d s p hi hp

theorem helloVerified_of_verifyMac (C : Crypto) (h2 : Bytes) (hello : HandshakePacket)
    (h : HelloPacket.verifyMac C h2 hello = .ok ()) : HelloVerified C hello h2 := by
  rcases (HelloPacket.verifyMac_ok C h2 hello ()).mp h with
    ⟨_, options, h3, _, _, hoptions, hh3, hmac⟩
  rcases (HandshakePacket.verifyMac_ok C h2 _ _ h3 hello ()).mp hmac with ⟨_, _, hcode, hhash⟩
  rw [HelloPacket.getH3, Java.arraycopy, Java.region_ok] at hh3
  refine ⟨hh3.2.trans hhash.symm, options, hoptions, ?_⟩
  rw [Nat.add_comm 12]
  exact hcode

theorem commitVerified_of_verifyMac (C : Crypto) (h1 : Bytes) (commit : HandshakePacket)
    (h : CommitPacket.verifyMac C h1 commit = .ok ()) : CommitVerified C commit h1 := by
  rcases (CommitPacket.verifyMac_ok C h1 commit ()).mp h with ⟨h2, hh2, hmac⟩
  rcases (HandshakePacket.verifyMac_ok C h1 _ _ h2 commit ()).mp hmac with ⟨_, _, hcode, hhash⟩
  rw [CommitPacket.getHash, Java.arraycopy, Java.region_ok] at hh2
  refine ⟨hh2.2.trans hhash.symm, ?_⟩
  rw [Nat.add_comm 12]
  exact hcode

theorem dhVerified_of_verifyMac (C : Crypto) (h0 : Bytes) (dh : DHPacket)
    (h : dh.verifyMac C h0 = .ok ()) : DHVerified C dh h0 := by
  rcases (DHPacket.verifyMac_ok C h0 dh ()).mp h with ⟨h1, hh1, hmac⟩
  rcases (HandshakePacket.verifyMac_ok C h0 _ _ h1 dh.packet ()).mp hmac with ⟨_, _, hcode, hhash⟩
  rw [DHPacket.getHash, Java.arraycopy, Java.region_ok] at hh1
  refine ⟨hh1.2.trans hhash.symm, ?_⟩
  rw [Nat.add_comm 12]
  exact hcode

theorem hviVerified_of_verifyHvi (C : Crypto) (helloBytes dhBytes : Bytes)
    (commit : HandshakePacket) (h : CommitPacket.verifyHvi C helloBytes dhBytes commit = .ok ()) :
    HviVerified C commit dhBytes helloBytes := by
  have hhvi := (CommitPacket.verifyHvi_ok C helloBytes dhBytes commit ()).mp h
  rw [CommitPacket.getHvi, Java.arraycopy, Java.region_ok] at hhvi
  exact hhvi.2

/-- The preimage of a Confirm packet is the first 32 bytes decrypted. -/
theorem getPreimage_decrypt (C : Crypto) (key : Bytes) (buf buf' : ReceiveBuffer)
    (c : ConfirmPacket) (hbug : c.bugOffset ≤ 12) (preimage : Bytes)
    (hdecrypt : c.decrypt C key buf = .ok buf') (hpre : c.getPreimage buf' = .ok preimage) :
    preimage = (C.aesCfbDecrypt key (slice (32 + c.bugOffset) 16 buf.bytes)
      (slice (48 + c.bugOffset) 40 buf.bytes)).take 32 := by
  rw [ConfirmPacket.getPreimage_ok buf' c hbug, Except.ok.injEq] at hpre
  -- The preimage is the first part of what has been decrypted in place.
  have hinner := slice_slice 0 32 (48 + c.bugOffset) 40 buf'.bytes (by omega)
  rw [ConfirmPacket.slice_decrypt C key buf buf' c hbug hdecrypt] at hinner
  rw [← hpre]
  exact hinner.symm.trans (by unfold slice; rw [List.drop_zero])

/-- A Confirm packet checked and decrypted in the buffer is one that arrived
    with its code right. -/
theorem confirmVerified_of_verifyMac {ρ : Type} (C : Crypto) (macKey zrtpKey preimage : Bytes)
    (d : Bytes) (s : ZRTPSocket ρ) (buf : ReceiveBuffer)
    (hmac : (ConfirmPacket.ofPacket (s.received d)).verifyMac C macKey (s.buf.receive d) = .ok ())
    (hdecrypt : (ConfirmPacket.ofPacket (s.received d)).decrypt C zrtpKey (s.buf.receive d)
      = .ok buf)
    (hpre : (ConfirmPacket.ofPacket (s.received d)).getPreimage buf = .ok preimage) :
    d ≠ [] ∧ ConfirmVerified C (ZRTPSocket.ofDatagram d) macKey zrtpKey preimage := by
  have hbug : (ConfirmPacket.ofPacket (s.received d)).bugOffset ≤ 12 :=
    headerBugOffset_le (s.received d)
  have hpreimage := getPreimage_decrypt C zrtpKey _ buf _ hbug preimage hdecrypt hpre
  rw [ConfirmPacket.verifyMac_ok C macKey _ _ hbug] at hmac
  rcases hmac with ⟨hlen, hcode⟩
  -- An empty datagram is too short for a code.
  have hd : d ≠ [] := by
    rintro rfl
    simp only [ConfirmPacket.ofPacket, ZRTPSocket.received, List.length_nil] at hlen
    omega
  have hoffset : (ConfirmPacket.ofPacket (s.received d)).bugOffset
      = (ZRTPSocket.ofDatagram d).headerBugOffset := ZRTPSocket.headerBugOffset_received d s hd
  have hlength : (ConfirmPacket.ofPacket (s.received d)).packetLength
      = (ZRTPSocket.ofDatagram d).packetLength := rfl
  rw [hoffset, hlength] at hlen
  rw [hoffset] at hcode hpreimage
  -- Inside the packet the buffer has the bytes of the datagram.
  rw [ZRTPSocket.slice_received d s _ _ (by omega), ZRTPSocket.slice_received d s _ _ (by omega)]
    at hcode hpreimage
  exact ⟨hd, hlen, hcode, hpreimage⟩

/-! ## The initiator -/

namespace ZRTPInitiatorSocket

/-- What has been verified in each state. -/
structure Inv (C : Crypto) (inputs : List Input) (s : ZRTPInitiatorSocket) : Prop where
  hello : ∀ p, s.role.foreignHello = some p → Arrived inputs p
  keyed : s.state = .expectingConfirmOne ∨ s.state = .expectingConfirmAck ∨
      s.state = .handshakeComplete → ∃ hello dh masterSecret,
    s.role.foreignHello = some hello ∧ s.role.foreignDH = some dh ∧
    s.masterSecret = some masterSecret ∧ Arrived inputs dh.packet ∧
    HelloVerified C hello (C.sha256 (slice (24 + dh.packet.headerBugOffset) 32 dh.packet.data))
  confirmed : s.state = .expectingConfirmAck ∨ s.state = .handshakeComplete →
    ∃ dh masterSecret confirm h0, s.role.foreignDH = some dh ∧
    s.masterSecret = some masterSecret ∧ Arrived inputs confirm ∧ DHVerified C dh h0 ∧
    ConfirmVerified C confirm masterSecret.macR masterSecret.zrtpKeyR h0

theorem Inv.concat {C : Crypto} {inputs : List Input} {s : ZRTPInitiatorSocket} (i : Input)
    (h : Inv C inputs s) : Inv C (inputs ++ [i]) s := by
  refine ⟨fun p hp => (h.hello p hp).concat i, fun hs => ?_, fun hs => ?_⟩
  · rcases h.keyed hs with ⟨hello, dh, ms, hhello, hdh, hms, harrived, hverified⟩
    exact ⟨hello, dh, ms, hhello, hdh, hms, harrived.concat i, hverified⟩
  · rcases h.confirmed hs with ⟨dh, ms, confirm, h0, hdh, hms, harrived, hverified⟩
    exact ⟨dh, ms, confirm, h0, hdh, hms, harrived.concat i, hverified⟩

/-- An iteration without a handler leaves what is stored. -/
theorem Inv.idle {C : Crypto} {inputs : List Input} {s s' : ZRTPInitiatorSocket}
    (h : Inv C inputs s) (hidle : ZRTPSocket.Idle s s') : Inv C inputs s' := by
  -- The only state that is entered is that of a closed socket.
  have hstate : ∀ t, t ≠ State.terminated → s'.state = t → s.state = t := by
    intro t ht hs
    rcases hidle.state_eq with heq | heq
    · rw [← heq, hs]
    · exact absurd (hs.symm.trans heq) ht
  refine ⟨?_, fun hs => ?_, fun hs => ?_⟩
  · rw [hidle.role_eq]
    exact h.hello
  · rw [hidle.role_eq, hidle.masterSecret_eq]
    exact h.keyed (hs.imp (hstate _ (by decide))
      (Or.imp (hstate _ (by decide)) (hstate _ (by decide))))
  · rw [hidle.role_eq, hidle.masterSecret_eq]
    exact h.confirmed (hs.imp (hstate _ (by decide)) (hstate _ (by decide)))

/-- An accepted DHPart1 has revealed the key of the Hello's code. -/
theorem inv_handleDH {C : Crypto} {cfg : Config} {inputs : List Input} {i : Input} {d : Bytes}
    {s s' : ZRTPInitiatorSocket} (hevent : i.event = .datagram d) (hi : Inv C (inputs ++ [i]) s)
    (hrun : handleDH C cfg i.clock (s.received d) { s with buf := s.buf.receive d } = .ok s') :
    Inv C (inputs ++ [i]) s' := by
  rcases handleDH_ok hrun with ⟨dh, localDH, ms, haccepted, _, rfl⟩
  rcases haccepted.copy with ⟨t, _, hcopy⟩
  rcases haccepted.verified with ⟨hello, h1, hhello, hh1, hmac⟩
  rw [DHPacket.getHash, Java.arraycopy, Java.region_ok] at hh1
  refine ⟨hi.hello, fun _ => ?_, fun hs => ?_⟩
  · refine ⟨hello, dh, ms, hhello, rfl, rfl, arrived_of_dhCopyOf inputs i d s t dh hevent hcopy, ?_⟩
    -- The hash in the DHPart is the key of the code of the Hello.
    rw [hh1.2]
    exact helloVerified_of_verifyMac C _ hello hmac
  · simp only [ZRTPSocket.sendFreshPacket_state, reduceCtorEq, or_self] at hs

/-- One iteration preserves the invariant: each handler adds the check it
    makes, on the packet that has just arrived. -/
theorem inv_step (C : Crypto) (cfg : Config) (inputs : List Input) (s s' : ZRTPInitiatorSocket)
    (i : Input) (h : Inv C inputs s) (hstep : step C cfg s i = .ok s') :
    Inv C (inputs ++ [i]) s' := by
  rcases ZRTPSocket.negotiate_ok _ s s' i hstep with ⟨d, hevent, _, _, hhandled⟩ | ⟨hidle, _⟩
  · have hi := h.concat i
    cases hhandled with
    | hello hstate htype hrun =>
        rcases handleHello_ok hrun with ⟨hello, hcopy, rfl⟩
        refine ⟨fun p hp => ?_, fun hs => ?_, fun hs => ?_⟩
        · simp only [ZRTPSocket.sendFreshPacket_role, Option.some.injEq] at hp
          rw [← hp]
          exact arrived_of_copyOf inputs i d s hello hevent hcopy
        · simp only [ZRTPSocket.sendFreshPacket_state, reduceCtorEq, or_self] at hs
        · simp only [ZRTPSocket.sendFreshPacket_state, reduceCtorEq, or_self] at hs
    | helloAck hstate htype hrun =>
        rcases handleHelloAck_next (s.received d) hrun with ⟨_, _, _, rfl⟩
        refine ⟨hi.hello, fun hs => ?_, fun hs => ?_⟩
        · simp only [ZRTPSocket.sendFreshPacket_state, reduceCtorEq, or_self] at hs
        · simp only [ZRTPSocket.sendFreshPacket_state, reduceCtorEq, or_self] at hs
    | commit hstate htype hrun => simp only [handlers, Java.raise, reduceCtorEq] at hrun
    | dhOne hstate htype hrun => exact inv_handleDH hevent hi hrun
    | dhTwo hstate htype hrun => exact inv_handleDH hevent hi hrun
    | confirmOne hstate htype hrun =>
        rcases handleConfirmOne_ok hrun with ⟨_, _, ms, buf, preimage, dh, _, _, hms, hmac,
          hdecrypt, hpre, hdh, hverify, rfl⟩
        -- The Confirm packet reveals the preimage the stored DHPart is checked
        -- under.
        rcases confirmVerified_of_verifyMac C _ _ preimage d s buf hmac hdecrypt hpre with
          ⟨hd, hconfirm⟩
        refine ⟨hi.hello, fun _ => hi.keyed (Or.inl hstate), fun _ => ?_⟩
        exact ⟨dh, ms, _, preimage, hdh, hms,
          ⟨i, List.mem_append_right _ (List.mem_singleton.mpr rfl), d, hevent, hd, rfl⟩,
          dhVerified_of_verifyMac C preimage dh hverify, hconfirm⟩
    | confirmTwo hstate htype hrun => simp only [handlers, reduceCtorEq] at hrun
    | confirmAck hstate htype hrun =>
        rcases handleConfirmAck_next (s.received d) hrun with ⟨_, rfl⟩
        exact ⟨hi.hello, fun _ => hi.keyed (Or.inr (Or.inl hstate)),
          fun _ => hi.confirmed (Or.inl hstate)⟩
  · exact (h.idle hidle).concat i

/-- The invariant holds after every run. -/
theorem inv_run (C : Crypto) (cfg : Config) (database : RetainedSecretsDatabase)
    (inputs : List Input) (s : ZRTPInitiatorSocket)
    (hrun : Run.run (step C cfg) (create database) inputs = .ok s) : Inv C inputs s := by
  refine Run.invariant_of_run (step C cfg) (Inv C) (create database) ⟨?_, ?_, ?_⟩
    (fun is s i s' => inv_step C cfg is s s' i) inputs s hrun
  · intro p hp
    simp only [create, ZRTPSocket.create, reduceCtorEq] at hp
  · simp only [create, ZRTPSocket.create, reduceCtorEq, or_self, false_imp_iff]
  · simp only [create, ZRTPSocket.create, reduceCtorEq, or_self, false_imp_iff]

theorem authenticated_of_run (C : Crypto) (cfg : Config) (database : RetainedSecretsDatabase)
    (inputs : List Input) (s : ZRTPInitiatorSocket)
    (hrun : Run.run (step C cfg) (create database) inputs = .ok s)
    (hcomplete : s.state = .handshakeComplete) : InitiatorAuthenticated C inputs s := by
  have h := inv_run C cfg database inputs s hrun
  rcases h.keyed (Or.inr (Or.inr hcomplete)) with ⟨hello, dh, ms, hhello, hdh, hms, hadh, hverified⟩
  rcases h.confirmed (Or.inr hcomplete) with ⟨dh', ms', confirm, h0, hdh', hms', hac, hv', hc⟩
  -- Both parts of the invariant speak of the packets that are stored.
  rw [hdh, Option.some.injEq] at hdh'
  rw [hms, Option.some.injEq] at hms'
  subst hdh' hms'
  refine ⟨hello, dh, ms, confirm, h0, hhello, h.hello hello hhello, hdh, hadh, hms, hac, ?_, hv',
    hc⟩
  rw [← hv'.1]
  exact hverified

end ZRTPInitiatorSocket

/-! ## The responder -/

namespace ZRTPResponderSocket

/-- What has been verified in each state. -/
structure Inv (C : Crypto) (inputs : List Input) (s : ZRTPResponderSocket) : Prop where
  hello : ∀ p, s.role.foreignHello = some p → Arrived inputs p
  committed : s.state = .expectingDh2 ∨ s.state = .expectingConfirmTwo ∨
      s.state = .handshakeComplete → ∃ hello commit,
    s.role.foreignHello = some hello ∧ s.role.foreignCommit = some commit ∧
    Arrived inputs commit ∧
    HelloVerified C hello (slice (24 + commit.headerBugOffset) 32 commit.data)
  keyed : s.state = .expectingConfirmTwo ∨ s.state = .handshakeComplete →
    ∃ commit dh masterSecret dhBytes helloBytes,
    s.role.foreignCommit = some commit ∧ s.role.foreignDH = some dh ∧
    s.masterSecret = some masterSecret ∧ Arrived inputs dh.packet ∧
    dh.packet.getMessageBytes = .ok dhBytes ∧
    s.role.localHello.getMessageBytes = .ok helloBytes ∧
    CommitVerified C commit (slice (24 + dh.packet.headerBugOffset) 32 dh.packet.data) ∧
    HviVerified C commit dhBytes helloBytes
  confirmed : s.state = .handshakeComplete → ∃ dh masterSecret confirm h0,
    s.role.foreignDH = some dh ∧ s.masterSecret = some masterSecret ∧ Arrived inputs confirm ∧
    DHVerified C dh h0 ∧ ConfirmVerified C confirm masterSecret.macI masterSecret.zrtpKeyI h0

theorem Inv.concat {C : Crypto} {inputs : List Input} {s : ZRTPResponderSocket} (i : Input)
    (h : Inv C inputs s) : Inv C (inputs ++ [i]) s := by
  refine ⟨fun p hp => (h.hello p hp).concat i, fun hs => ?_, fun hs => ?_, fun hs => ?_⟩
  · rcases h.committed hs with ⟨hello, commit, hhello, hcommit, harrived, hverified⟩
    exact ⟨hello, commit, hhello, hcommit, harrived.concat i, hverified⟩
  · rcases h.keyed hs with ⟨commit, dh, ms, db, hb, hcommit, hdh, hms, harrived, hverified⟩
    exact ⟨commit, dh, ms, db, hb, hcommit, hdh, hms, harrived.concat i, hverified⟩
  · rcases h.confirmed hs with ⟨dh, ms, confirm, h0, hdh, hms, harrived, hverified⟩
    exact ⟨dh, ms, confirm, h0, hdh, hms, harrived.concat i, hverified⟩

/-- An iteration without a handler leaves what is stored. -/
theorem Inv.idle {C : Crypto} {inputs : List Input} {s s' : ZRTPResponderSocket}
    (h : Inv C inputs s) (hidle : ZRTPSocket.Idle s s') : Inv C inputs s' := by
  -- The only state that is entered is that of a closed socket.
  have hstate : ∀ t, t ≠ State.terminated → s'.state = t → s.state = t := by
    intro t ht hs
    rcases hidle.state_eq with heq | heq
    · rw [← heq, hs]
    · exact absurd (hs.symm.trans heq) ht
  refine ⟨?_, fun hs => ?_, fun hs => ?_, fun hs => ?_⟩
  · rw [hidle.role_eq]
    exact h.hello
  · rw [hidle.role_eq]
    exact h.committed (hs.imp (hstate _ (by decide))
      (Or.imp (hstate _ (by decide)) (hstate _ (by decide))))
  · rw [hidle.role_eq, hidle.masterSecret_eq]
    exact h.keyed (hs.imp (hstate _ (by decide)) (hstate _ (by decide)))
  · rw [hidle.role_eq, hidle.masterSecret_eq]
    exact h.confirmed (hstate _ (by decide) hs)

/-- An accepted DHPart2 has revealed the key of the Commit's code, and is what
    the Commit committed to. -/
theorem inv_handleDH {C : Crypto} {cfg : Config} {inputs : List Input} {i : Input} {d : Bytes}
    {s s' : ZRTPResponderSocket} (hevent : i.event = .datagram d) (hi : Inv C (inputs ++ [i]) s)
    (hstate : s.state = .expectingDh2)
    (hrun : handleDH C cfg i.clock (s.received d) { s with buf := s.buf.receive d } = .ok s') :
    Inv C (inputs ++ [i]) s' := by
  rcases handleDH_ok hrun with ⟨dh, ms, _, _, haccepted, _, _, rfl⟩
  rcases haccepted.copy with ⟨t, _, hcopy⟩
  rcases haccepted.verified with ⟨commit, h1, hb, db, hcommit, hh1, hmac, hhb, hdb, hhvi⟩
  rw [DHPacket.getHash, Java.arraycopy, Java.region_ok] at hh1
  refine ⟨hi.hello, fun _ => hi.committed (Or.inl hstate), fun _ => ?_, fun hs => ?_⟩
  · refine ⟨commit, dh, ms, db, hb, hcommit, rfl, rfl,
      arrived_of_dhCopyOf inputs i d s t dh hevent hcopy, hdb, hhb, ?_,
      hviVerified_of_verifyHvi C hb db commit hhvi⟩
    -- The hash in the DHPart is the key of the code of the Commit.
    rw [hh1.2]
    exact commitVerified_of_verifyMac C _ commit hmac
  · simp only [ZRTPSocket.sendFreshPacket_state, reduceCtorEq] at hs

/-- One iteration preserves the invariant. The responder is never in the state
    that expects a DHPart1. -/
theorem inv_step (C : Crypto) (cfg : Config) (inputs : List Input) (s s' : ZRTPResponderSocket)
    (i : Input) (h : Inv C inputs s ∧ s.state ≠ .expectingDh1) (hstep : step C cfg s i = .ok s') :
    Inv C (inputs ++ [i]) s' ∧ s'.state ≠ .expectingDh1 := by
  rcases ZRTPSocket.negotiate_ok _ s s' i hstep with ⟨d, hevent, _, _, hhandled⟩ | ⟨hidle, _⟩
  · have hi := h.1.concat i
    cases hhandled with
    | hello hstate htype hrun =>
        rcases handleHello_ok hrun with ⟨hello, hcopy, rfl⟩
        refine ⟨⟨fun p hp => ?_, fun hs => ?_, fun hs => ?_, fun hs => ?_⟩, ?_⟩
        · simp only [ZRTPSocket.sendFreshPacket_role, Option.some.injEq] at hp
          rw [← hp]
          exact arrived_of_copyOf inputs i d s hello hevent hcopy
        · simp only [ZRTPSocket.sendFreshPacket_state, reduceCtorEq, or_self] at hs
        · simp only [ZRTPSocket.sendFreshPacket_state, reduceCtorEq, or_self] at hs
        · simp only [ZRTPSocket.sendFreshPacket_state, reduceCtorEq] at hs
        · simp only [ne_eq, ZRTPSocket.sendFreshPacket_state, reduceCtorEq, not_false_eq_true]
    | helloAck hstate htype hrun => simp only [handlers, Java.raise, reduceCtorEq] at hrun
    | commit hstate htype hrun =>
        rcases handleCommit_ok hrun with ⟨commit, hello, _, _, _, _, _, h2, hcopy, hhello, _, _, _,
          _, _, hh2, hmac, rfl⟩
        rw [CommitPacket.getHash, Java.arraycopy, Java.region_ok] at hh2
        refine ⟨⟨hi.hello, fun _ => ?_, fun hs => ?_, fun hs => ?_⟩, ?_⟩
        · refine ⟨hello, commit, hhello, rfl,
            arrived_of_copyOf inputs i d s commit hevent hcopy, ?_⟩
          -- The hash in the Commit is the key of the code of the Hello.
          rw [hh2.2]
          exact helloVerified_of_verifyMac C _ hello hmac
        · simp only [ZRTPSocket.sendFreshPacket_state, reduceCtorEq, or_self] at hs
        · simp only [ZRTPSocket.sendFreshPacket_state, reduceCtorEq] at hs
        · simp only [ne_eq, ZRTPSocket.sendFreshPacket_state, reduceCtorEq, not_false_eq_true]
    | dhOne hstate htype hrun => exact absurd hstate h.2
    | dhTwo hstate htype hrun =>
        refine ⟨inv_handleDH hevent hi hstate hrun, ?_⟩
        rcases handleDH_next hrun with ⟨_, _, _, rfl⟩
        simp only [ne_eq, ZRTPSocket.sendFreshPacket_state, reduceCtorEq, not_false_eq_true]
    | confirmOne hstate htype hrun => simp only [handlers, reduceCtorEq] at hrun
    | confirmTwo hstate htype hrun =>
        rcases handleConfirmTwo_ok hrun with ⟨_, ms, buf, preimage, dh, db, _, hms, hmac, hdecrypt,
          hpre, hdh, hverify, rfl⟩
        -- The Confirm packet reveals the preimage the stored DHPart is checked
        -- under.
        rcases confirmVerified_of_verifyMac C _ _ preimage d s buf hmac hdecrypt hpre with
          ⟨hd, hconfirm⟩
        refine ⟨⟨hi.hello, fun _ => hi.committed (Or.inr (Or.inl hstate)),
          fun _ => hi.keyed (Or.inl hstate), fun _ => ?_⟩, ?_⟩
        · exact ⟨dh, ms, _, preimage, hdh, hms,
            ⟨i, List.mem_append_right _ (List.mem_singleton.mpr rfl), d, hevent, hd, rfl⟩,
            dhVerified_of_verifyMac C preimage dh hverify, hconfirm⟩
        · simp only [ne_eq, ZRTPSocket.sendFreshPacket_state, reduceCtorEq, not_false_eq_true]
    | confirmAck hstate htype hrun => simp only [handlers, Java.raise, reduceCtorEq] at hrun
  · refine ⟨(h.1.idle hidle).concat i, fun hs => ?_⟩
    rcases hidle.state_eq with heq | heq
    · exact h.2 (heq.symm.trans hs)
    · rw [heq] at hs
      exact absurd hs (by decide)

/-- The invariant holds after every run. -/
theorem inv_run (C : Crypto) (cfg : Config) (database : RetainedSecretsDatabase) (legacy : Bool)
    (now : Int) (inputs : List Input) (s : ZRTPResponderSocket)
    (hrun : Run.run (step C cfg) (start C cfg database legacy now) inputs = .ok s) :
    Inv C inputs s ∧ s.state ≠ .expectingDh1 := by
  refine Run.invariant_of_run (step C cfg) (fun is s => Inv C is s ∧ s.state ≠ .expectingDh1)
    (start C cfg database legacy now) ⟨⟨fun p hp => ?_, fun hs => ?_, fun hs => ?_, fun hs => ?_⟩,
      nofun⟩ (fun is s i s' => inv_step C cfg is s s' i) inputs s hrun
  · exact nomatch hp
  · simp only [start, create, ZRTPSocket.create, ZRTPSocket.sendFreshPacket_state, reduceCtorEq,
      or_self] at hs
  · simp only [start, create, ZRTPSocket.create, ZRTPSocket.sendFreshPacket_state, reduceCtorEq,
      or_self] at hs
  · exact nomatch hs

theorem authenticated_of_run (C : Crypto) (cfg : Config) (database : RetainedSecretsDatabase)
    (legacy : Bool) (now : Int) (inputs : List Input) (s : ZRTPResponderSocket)
    (hrun : Run.run (step C cfg) (start C cfg database legacy now) inputs = .ok s)
    (hcomplete : s.state = .handshakeComplete) : ResponderAuthenticated C inputs s := by
  have h := (inv_run C cfg database legacy now inputs s hrun).1
  rcases h.committed (Or.inr (Or.inr hcomplete)) with ⟨hello, commit, hhello, hcommit, hac, hv⟩
  rcases h.keyed (Or.inr hcomplete) with ⟨commit', dh, ms, db, hb, hcommit', hdh, hms, had, hdb,
    hhb, hcv, hhvi⟩
  rcases h.confirmed hcomplete with ⟨dh', ms', confirm, h0, hdh', hms', haconf, hdv, hconf⟩
  -- All parts of the invariant speak of the packets that are stored.
  rw [hcommit, Option.some.injEq] at hcommit'
  rw [hdh, Option.some.injEq] at hdh'
  rw [hms, Option.some.injEq] at hms'
  subst hcommit' hdh' hms'
  -- Each key is the hash of the next one, down to the preimage.
  rw [hdv.1] at hcv
  rw [hcv.1] at hv
  exact ⟨hello, commit, dh, ms, confirm, h0, db, hb, hhello, h.hello hello hhello, hcommit, hac,
    hdh, had, hms, haconf, hdb, hhb, hv, hcv, hhvi, hdv, hconf⟩

end ZRTPResponderSocket

/-- A socket of either role completes its handshake only with the whole chain
    verified on the packets it stores, whatever arrived in its run. -/
theorem handshake_authenticated (C : Crypto) (cfg : Config) (database : RetainedSecretsDatabase) :
    (∀ (inputs : List Input) (s : ZRTPInitiatorSocket),
      Run.run (ZRTPInitiatorSocket.step C cfg) (ZRTPInitiatorSocket.create database) inputs
        = .ok s →
      s.state = .handshakeComplete → InitiatorAuthenticated C inputs s) ∧
    (∀ (legacy : Bool) (now : Int) (inputs : List Input) (s : ZRTPResponderSocket),
      Run.run (ZRTPResponderSocket.step C cfg)
        (ZRTPResponderSocket.start C cfg database legacy now) inputs = .ok s →
      s.state = .handshakeComplete → ResponderAuthenticated C inputs s) :=
  ⟨ZRTPInitiatorSocket.authenticated_of_run C cfg database,
    ZRTPResponderSocket.authenticated_of_run C cfg database⟩

/-- Both parties of an undisturbed handshake. -/
theorem handshake_authenticated_undisturbed :
    ∃ is js i r, InitiatorAuthenticated jce is i ∧ i.state = .handshakeComplete ∧
      ResponderAuthenticated jce js r ∧ r.state = .handshakeComplete := by
  -- The channel between the two loses nothing.
  rcases Undisturbed.reaches_complete (c := ⟨0, 0, 0, 0, 0⟩) (Undisturbed.ready 0) false 0 with
    ⟨n, hreach, hI, hR⟩
  rcases hreach.runs with ⟨⟨is, hrunI⟩, ⟨js, hrunR⟩⟩
  exact ⟨is, js, n.initiator, n.responder,
    (handshake_authenticated jce Undisturbed.caller .empty).1 is _ hrunI hI, hI,
    (handshake_authenticated jce Undisturbed.callee .empty).2 false 0 js _ hrunR hR, hR⟩

end RedPhone
