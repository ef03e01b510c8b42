import RedPhone.Zrtp.Authentication

/-!
# Where the Cache Interval Comes From

The initiator checks and decrypts the responder's Confirm1 when it arrives,
and stores the retained secret one packet later, with the cache interval the
Confirm1 asked for. All the other packet classes copy what they keep.
`ConfirmPacket` does not: it keeps the buffer of the socket, which every later
receive overwrites, and reads the interval out of it only when the
acknowledgement has come.

So the stored interval is the one of the Confirm1 exactly when what has been
received since has left those four bytes of the buffer as they were. The
Conf2Ack does, being too short to reach them. Audio, which is taken as an
acknowledgement too, does not.

## Main definitions

* `carriedInterval`: The interval inside a Confirm1.
* `intervalRead`: The interval read when a datagram is the acknowledgement.
* `receives`: A buffer after datagrams.

## Theorems

* `accepts_confirmOne`: The buffer has the interval of an accepted Confirm1.
* `waits_run`: While it waits the initiator only receives.
* `stored_interval_iff`: When the interval stored is the one of the Confirm1.
* `receives_short`: Short datagrams leave the interval as it was.
-/

namespace RedPhone

open Slice HandshakePacket RetainedSecretsCalculator Undisturbed

/-- The interval in the encrypted part of a Confirm packet. -/
def carriedInterval (C : Crypto) (zrtpKey : Bytes) (confirm : HandshakePacket) : Nat :=
  let b := confirm.headerBugOffset
  Endian.ofBE (slice 36 4 (C.aesCfbDecrypt zrtpKey (slice (32 + b) 16 confirm.data)
    (slice (48 + b) 40 confirm.data)))

/-- Decrypting leaves the interval in the buffer. -/
theorem interval_decrypt {ρ : Type} (C : Crypto) (zrtpKey d : Bytes) (s : ZRTPSocket ρ)
    (buf : ReceiveBuffer) (hd : d ≠ [])
    (hlen : 88 + (ZRTPSocket.ofDatagram d).headerBugOffset ≤ (ZRTPSocket.ofDatagram d).packetLength)
    (hdecrypt : (ConfirmPacket.ofPacket (s.received d)).decrypt C zrtpKey (s.buf.receive d)
      = .ok buf) :
    Endian.ofBE (slice (84 + (s.received d).headerBugOffset) 4 buf.bytes)
      = carriedInterval C zrtpKey (ZRTPSocket.ofDatagram d) := by
  have hbug := ZRTPSocket.headerBugOffset_received d s hd
  have hplain := ConfirmPacket.slice_decrypt C zrtpKey _ buf _ (headerBugOffset_le (s.received d))
    hdecrypt
  -- The interval is a field of what was decrypted in place.
  have hinner := slice_slice 36 4 (48 + (s.received d).headerBugOffset) 40 buf.bytes (by omega)
  simp only [ConfirmPacket.ofPacket] at hplain
  unfold carriedInterval
  simp only []
  rw [← ZRTPSocket.slice_received d s _ _ (by omega),
    ← ZRTPSocket.slice_received d s _ _ (by omega), ← hbug, ← hplain, hinner,
    show 48 + (s.received d).headerBugOffset + 36
      = 84 + (s.received d).headerBugOffset by omega]

/-- The datagrams among the inputs of a run. -/
def datagrams (inputs : List Input) : List Bytes :=
  inputs.filterMap fun i => match i.event with
    | .datagram d => some d
    | _ => none

/-- A buffer after datagrams have been received into it. -/
def receives (buf : ReceiveBuffer) (ds : List Bytes) : ReceiveBuffer :=
  ds.foldl ReceiveBuffer.receive buf

/-- Datagrams that end before a field leave it as it was. -/
theorem receives_short (buf : ReceiveBuffer) (ds : List Bytes) (off len : Nat)
    (h : ∀ d ∈ ds, d.length ≤ off) :
    slice off len (receives buf ds).bytes = slice off len buf.bytes := by
  induction ds generalizing buf with
  | nil => rfl
  | cons d ds ih =>
      unfold receives at ih ⊢
      rw [List.foldl_cons, ih _ (fun e he => h e (List.mem_cons_of_mem d he))]
      exact buf.slice_receive_of_le d off len (h d List.mem_cons_self)

namespace ZRTPInitiatorSocket

variable {C : Crypto} {cfg : Config} {s s' : ZRTPInitiatorSocket} {i : Input}

/-- The cache interval `handleConfirmAck` reads when it is handed a datagram. -/
def intervalRead (s : ZRTPInitiatorSocket) (d : Bytes) : Java Nat := do
  let confirmPacket ← Java.orNull s.role.confirmPacket
  confirmPacket.getCacheTime (s.buf.receive d)

/-- An initiator that accepts a Confirm1 keeps its offset, and has its
    interval in the buffer. -/
theorem accepts_confirmOne (hstep : step C cfg s i = .ok s') (hs : s.state = .expectingConfirmOne)
    (hs' : s'.state = .expectingConfirmAck) :
    ∃ d masterSecret h0, i.event = .datagram d ∧ s.masterSecret = some masterSecret ∧
      ConfirmVerified C (ZRTPSocket.ofDatagram d) masterSecret.macR masterSecret.zrtpKeyR h0 ∧
      s'.role.confirmPacket = some ⟨(ZRTPSocket.ofDatagram d).headerBugOffset, min d.length 4096⟩ ∧
      Endian.ofBE (slice (84 + (ZRTPSocket.ofDatagram d).headerBugOffset) 4 s'.buf.bytes)
        = carriedInterval C masterSecret.zrtpKeyR (ZRTPSocket.ofDatagram d) := by
  rcases ZRTPSocket.negotiate_ok _ s s' i hstep with ⟨d, hevent, _, _, hhandled⟩ | ⟨hidle, _, _⟩
  · -- No other handler runs in this state.
    cases hhandled with
    | hello hstate _ _ => exact nomatch hs.symm.trans hstate
    | helloAck hstate _ _ => exact nomatch hs.symm.trans hstate
    | commit hstate _ _ => exact nomatch hs.symm.trans hstate
    | dhOne hstate _ _ => exact nomatch hs.symm.trans hstate
    | dhTwo hstate _ _ => exact nomatch hs.symm.trans hstate
    | confirmTwo hstate _ _ => exact nomatch hs.symm.trans hstate
    | confirmAck hstate _ _ => exact nomatch hs.symm.trans hstate
    | confirmOne _ _ hrun =>
        rcases handleConfirmOne_ok hrun with ⟨_, _, ms, buf, h0, _, _, _, hms, hmac, hdecrypt, hpre,
          _, _, rfl⟩
        rcases confirmVerified_of_verifyMac C ms.macR ms.zrtpKeyR h0 d s buf hmac hdecrypt hpre with
          ⟨hd, hverified⟩
        have hbug := ZRTPSocket.headerBugOffset_received d s hd
        refine ⟨d, ms, h0, hevent, hms, hverified, ?_, ?_⟩
        · rw [ZRTPSocket.sendFreshPacket_role, ← hbug]
          rfl
        · rw [← hbug]
          exact interval_decrypt C ms.zrtpKeyR d s buf hd hverified.1 hdecrypt
  · rcases hidle.state_eq with hstate | hstate
    · -- Without a handler the state is the same, or that of a closed socket.
      exact nomatch hs'.symm.trans (hstate.trans hs)
    · exact nomatch hs'.symm.trans hstate

/-- An initiator that waits for the acknowledgement takes it or does nothing. -/
theorem ack_cases (hstep : step C cfg s i = .ok s') (hs : s.state = .expectingConfirmAck) :
    (∃ d, i.event = .datagram d ∧ handleConfirmAck C cfg i.clock (s.received d)
      { s with buf := s.buf.receive d } = .ok s') ∨
    (ZRTPSocket.Idle s s' ∧ s'.buf = receives s.buf (datagrams [i])) := by
  rcases ZRTPSocket.negotiate_ok _ s s' i hstep with
    ⟨d, hevent, _, _, hhandled⟩ | ⟨hidle, _, ⟨hover | hnone, hbuf⟩ | ⟨d, hevent, hbuf⟩⟩
  · cases hhandled with
    | hello hstate _ _ => exact nomatch hs.symm.trans hstate
    | helloAck hstate _ _ => exact nomatch hs.symm.trans hstate
    | commit hstate _ _ => exact nomatch hs.symm.trans hstate
    | dhOne hstate _ _ => exact nomatch hs.symm.trans hstate
    | dhTwo hstate _ _ => exact nomatch hs.symm.trans hstate
    | confirmOne hstate _ _ => exact nomatch hs.symm.trans hstate
    | confirmTwo hstate _ _ => exact nomatch hs.symm.trans hstate
    | confirmAck _ _ hrun => exact Or.inl ⟨d, hevent, hrun⟩
  · -- A socket that waits is not over.
    rcases hover with h | h
    · exact nomatch hs.symm.trans h
    · exact nomatch hs.symm.trans h
  · refine Or.inr ⟨hidle, ?_⟩
    rw [hbuf, datagrams, List.filterMap_cons]
    cases hevent : i.event with
    | datagram d => exact absurd hevent (hnone d)
    | timeout => rfl
    | ioException message => rfl
    | close => rfl
  · refine Or.inr ⟨hidle, ?_⟩
    rw [hbuf, datagrams, List.filterMap_cons, hevent]
    rfl

/-- It goes on waiting and has only received, or its loop is over. -/
theorem waits_step (hstep : step C cfg s i = .ok s') (hs : s.state = .expectingConfirmAck) :
    s'.Over ∨ s'.state = .expectingConfirmAck ∧
      s'.role.confirmPacket = s.role.confirmPacket ∧ s'.buf = receives s.buf (datagrams [i]) := by
  rcases ack_cases hstep hs with ⟨d, _, hrun⟩ | ⟨hidle, hbuf⟩
  · rcases handleConfirmAck_next (s.received d) hrun with ⟨_, rfl⟩
    exact Or.inl (Or.inl rfl)
  · rcases hidle.state_eq with heq | heq
    · exact Or.inr ⟨heq.trans hs, congrArg _ hidle.role_eq, hbuf⟩
    · exact Or.inl (Or.inr heq)

/-- A loop that is over stays over. -/
theorem over_step (hstep : step C cfg s i = .ok s') (hs : s.Over) : s'.Over := by
  rcases ZRTPSocket.negotiate_ok _ s s' i hstep with ⟨_, _, hover, _⟩ | ⟨hidle, _, _⟩
  · exact absurd hs hover
  · rcases hidle.state_eq with heq | heq
    · unfold ZRTPSocket.Over
      rw [heq]
      exact hs
    · exact Or.inr heq

/-- While it waits, the initiator keeps the offset of its Confirm1, and the
    buffer has whatever was received last. -/
theorem waits_run (is : List Input) :
    ∀ s s', Run.run (step C cfg) s is = .ok s' → s.state = .expectingConfirmAck →
      s'.Over ∨ s'.state = .expectingConfirmAck ∧
        s'.role.confirmPacket = s.role.confirmPacket ∧ s'.buf = receives s.buf (datagrams is) := by
  intro s s' hrun hs
  refine Run.invariant_of_run (step C cfg)
    (fun is t => t.Over ∨ t.state = .expectingConfirmAck ∧
      t.role.confirmPacket = s.role.confirmPacket ∧ t.buf = receives s.buf (datagrams is)) s
    (Or.inr ⟨hs, rfl, rfl⟩) ?_ is s' hrun
  rintro is t i t' (hover | ⟨hstate, hconfirm, hbuf⟩) hstep
  · exact Or.inl (over_step hstep hover)
  · rcases waits_step hstep hstate with hover | ⟨hstate', hconfirm', hbuf'⟩
    · exact Or.inl hover
    · refine Or.inr ⟨hstate', hconfirm'.trans hconfirm, ?_⟩
      rw [hbuf', hbuf, datagrams, datagrams, datagrams, List.filterMap_append, receives, receives,
        receives, List.foldl_append]

/-- An initiator that completes stores the secret with the interval it read. -/
theorem completes_with (hstep : step C cfg s i = .ok s') (hs : s.state = .expectingConfirmAck)
    (hs' : s'.state = .handshakeComplete) :
    ∃ d interval masterSecret foreignZid continuity, i.event = .datagram d ∧
      intervalRead s d = .ok interval ∧ s.masterSecret = some masterSecret ∧
      s'.database = s.database.completeHandshake cfg.platform cfg.remoteNumber foreignZid
        masterSecret.rs1 interval continuity i.clock.expiration i.clock.store := by
  rcases ack_cases hstep hs with ⟨d, hevent, hrun⟩ | ⟨hidle, _⟩
  · rcases handleConfirmAck_ok (s.received d) hrun with ⟨_, _, _, _, continuity, _, zid, ms,
      confirm, interval, _, _, _, _, _, _, _, hms, hconfirm, hcache, rfl⟩
    refine ⟨d, interval, ms, zid, continuity, hevent, ?_, hms, rfl⟩
    unfold intervalRead
    rw [(Java.orNull_ok _ _).mpr hconfirm]
    exact hcache
  · rcases hidle.state_eq with heq | heq
    · exact absurd (hs'.symm.trans (heq.trans hs)) (by decide)
    · exact absurd (hs'.symm.trans heq) (by decide)

/-- The interval stored with the retained secret is the one inside the Confirm1
    that was accepted exactly when the datagrams received after it, up to the
    one taken as the acknowledgement, leave its four bytes in the buffer. -/
theorem stored_interval_iff (C : Crypto) (cfg : Config) (s₁ s₂ s₃ s₄ : ZRTPInitiatorSocket)
    (i₁ i : Input) (mid : List Input) (hone : s₁.state = .expectingConfirmOne)
    (haccept : step C cfg s₁ i₁ = .ok s₂) (htaken : s₂.state = .expectingConfirmAck)
    (hmid : Run.run (step C cfg) s₂ mid = .ok s₃) (hwait : s₃.state = .expectingConfirmAck)
    (hack : step C cfg s₃ i = .ok s₄) (hcomplete : s₄.state = .handshakeComplete) :
    ∃ d₁ masterSecret h0 d interval rs1 foreignZid continuity,
      i₁.event = .datagram d₁ ∧ s₁.masterSecret = some masterSecret ∧
      ConfirmVerified C (ZRTPSocket.ofDatagram d₁) masterSecret.macR masterSecret.zrtpKeyR h0 ∧
      i.event = .datagram d ∧ intervalRead s₃ d = .ok interval ∧
      s₄.database = s₃.database.completeHandshake cfg.platform cfg.remoteNumber foreignZid rs1
        interval continuity i.clock.expiration i.clock.store ∧
      (interval = carriedInterval C masterSecret.zrtpKeyR (ZRTPSocket.ofDatagram d₁) ↔
        let off := 84 + (ZRTPSocket.ofDatagram d₁).headerBugOffset
        slice off 4 (receives s₂.buf (datagrams (mid ++ [i]))).bytes
          = slice off 4 s₂.buf.bytes) := by
  rcases accepts_confirmOne haccept hone htaken with
    ⟨d₁, ms, h0, hevent₁, hms, hverified, hconfirm, hcarried⟩
  rcases completes_with hack hwait hcomplete with
    ⟨d, interval, ms', zid, continuity, hevent, hread, _, hdb⟩
  rcases waits_run mid s₂ s₃ hmid htaken with hover | ⟨_, hsame, hbuf⟩
  · rcases hover with h | h
    · exact nomatch hwait.symm.trans h
    · exact nomatch hwait.symm.trans h
  refine ⟨d₁, ms, h0, d, interval, ms'.rs1, zid, continuity, hevent₁, hms, hverified, hevent, hread,
    hdb, ?_⟩
  have hdatagrams : datagrams (mid ++ [i]) = datagrams mid ++ [d] := by
    unfold datagrams
    rw [List.filterMap_append, List.filterMap_cons, hevent]
    rfl
  -- The interval is read from the buffer as the last datagram leaves it.
  have hfinal : receives s₂.buf (datagrams (mid ++ [i])) = s₃.buf.receive d := by
    rw [hdatagrams, hbuf, receives, receives, List.foldl_append]
    rfl
  have h12 := headerBugOffset_le (ZRTPSocket.ofDatagram d₁)
  unfold intervalRead at hread
  rw [hsame, hconfirm, (Java.orNull_ok _ _).mpr rfl, Java.ok_bind,
    ConfirmPacket.getCacheTime_ok _ _ h12, Except.ok.injEq] at hread
  simp only [hfinal, ← hcarried, ← hread]
  constructor
  · intro heq
    -- Four bytes are equal exactly if their numbers are.
    refine Endian.ofBE_injective _ _ ?_ heq
    rw [length_slice _ _ _ (by rw [(s₃.buf.receive d).length_eq]; omega),
      length_slice _ _ _ (by rw [s₂.buf.length_eq]; omega)]
  · intro heq
    rw [heq]

/-- A caller that has accepted its callee's Confirm1. -/
theorem exists_waiting :
    ∃ pre s₁ i₁ s₂ d₁ masterSecret, Run.run (step jce caller) (create .empty) pre = .ok s₁ ∧
      s₁.state = .expectingConfirmOne ∧ step jce caller s₁ i₁ = .ok s₂ ∧
      s₂.state = .expectingConfirmAck ∧ i₁.event = .datagram d₁ ∧
      s₁.masterSecret = some masterSecret ∧
      carriedInterval jce masterSecret.zrtpKeyR (ZRTPSocket.ofDatagram d₁) = 0xffffffff ∧
      (∃ confirm, s₂.role.confirmPacket = some confirm ∧ confirm.bugOffset = 0) ∧
      ∀ d, (s₂.received d).getType = .ok CONF_ACK_TYPE →
        ∃ s, step jce caller s₂ ⟨.datagram d, ⟨0, 0, 0, 0, 0⟩⟩ = .ok s ∧
          s.state = .handshakeComplete := by
  rcases reaches_confirmOne (c := ⟨0, 0, 0, 0, 0⟩) (ready 0) false 0 with
    ⟨n, m, commit, one, hreach, h⟩
  rcases hreach.runs with ⟨⟨pre, hpre⟩, _⟩
  rcases h.takes_confirm (c := ⟨0, 0, 0, 0, 0⟩) (ready 0) with ⟨s₂, confirm, two, hstep, _, h₂⟩
  rcases accepts_confirmOne hstep h.initiator.state_eq h₂.initiator.state_eq with
    ⟨d₁, ms, _, hevent, hms, _, hconfirm, hcarried⟩
  have hsame : s₂.role.confirmPacket = some confirm := by rw [h₂.initiator.role_eq]
  have hoffset := h₂.offset
  have hcache := h₂.cacheTime
  rw [hsame, Option.some.injEq] at hconfirm
  rw [hconfirm] at hoffset hcache
  rw [ConfirmPacket.getCacheTime_ok _ _ (headerBugOffset_le _), Except.ok.injEq] at hcache
  exact ⟨pre, n.initiator, _, s₂, d₁, ms, hpre, h.initiator.state_eq, hstep, h₂.initiator.state_eq,
    hevent, hms, hcarried.symm.trans hcache, ⟨_, hsame, h₂.offset⟩,
    fun d hd => h₂.takes_ack (ready 0) d hd⟩

/-- A byte of audio completes it, with the interval of the Confirm1. -/
theorem stored_interval_kept :
    ∃ s₂ s₄ rs1 zid continuity, s₂.state = .expectingConfirmAck ∧
      step jce caller s₂ ⟨.datagram [0x80], ⟨0, 0, 0, 0, 0⟩⟩ = .ok s₄ ∧
      s₄.state = .handshakeComplete ∧ s₄.database = s₂.database.completeHandshake
        caller.platform caller.remoteNumber zid rs1 0xffffffff continuity 0 0 := by
  rcases exists_waiting with
    ⟨_, s₁, i₁, s₂, d₁, ms, _, hone, hstep, htwo, hevent, hms, hcarried, _, hacks⟩
  rcases hacks [0x80] (ZRTPSocket.getType_received_media _ _ s₂ (by decide)) with ⟨s₄, hack, hdone⟩
  rcases stored_interval_iff jce caller s₁ s₂ s₂ s₄ i₁ _ [] hone hstep htwo rfl htwo hack hdone with
    ⟨d₁', ms', _, _, interval, rs1, zid, continuity, hevent', hms', _, _, _, hdb, hiff⟩
  rw [hevent, Event.datagram.injEq] at hevent'
  rw [hms, Option.some.injEq] at hms'
  subst hevent' hms'
  -- A single byte ends before the interval.
  have hinterval := hiff.mpr (receives_short _ _ _ _ (by
    intro d hd
    rw [List.mem_singleton.mp hd, List.length_singleton]
    omega))
  rw [hinterval, hcarried] at hdb
  exact ⟨s₂, s₄, rs1, zid, continuity, htwo, hack, hdone, hdb⟩

/-- Eighty-eight bytes of audio complete it with an interval of their own. -/
theorem stored_interval_overwritten :
    ∃ pre s₁ i₁ s₂ s₄ d₁ masterSecret rs1 zid continuity,
      Run.run (step jce caller) (create .empty) pre = .ok s₁ ∧ s₁.state = .expectingConfirmOne ∧
      step jce caller s₁ i₁ = .ok s₂ ∧ s₂.state = .expectingConfirmAck ∧
      i₁.event = .datagram d₁ ∧ s₁.masterSecret = some masterSecret ∧
      carriedInterval jce masterSecret.zrtpKeyR (ZRTPSocket.ofDatagram d₁) = 0xffffffff ∧
      step jce caller s₂ ⟨.datagram (List.replicate 88 0x80), ⟨0, 0, 0, 0, 0⟩⟩ = .ok s₄ ∧
      s₄.state = .handshakeComplete ∧
      intervalRead s₂ (List.replicate 88 0x80) = .ok 0x80808080 ∧
      s₄.database = s₂.database.completeHandshake caller.platform caller.remoteNumber zid rs1
        0x80808080 continuity 0 0 := by
  rcases exists_waiting with
    ⟨pre, s₁, i₁, s₂, d₁, ms, hpre, hone, hstep, htwo, hevent, hms, hcarried,
      ⟨confirm, hconfirm, hoffset⟩, hacks⟩
  rcases hacks (List.replicate 88 0x80)
    (ZRTPSocket.getType_received_media 0x80 (List.replicate 87 0x80) s₂ (by decide)) with
    ⟨s₄, hack, hdone⟩
  -- The bytes of the audio are where the interval was.
  have hread : intervalRead s₂ (List.replicate 88 0x80) = .ok 0x80808080 := by
    unfold intervalRead
    rw [hconfirm, (Java.orNull_ok _ _).mpr rfl, Java.ok_bind,
      ConfirmPacket.getCacheTime_ok _ _ (by omega), hoffset,
      ReceiveBuffer.slice_receive _ _ _ _ (by decide) (by decide)]
    decide +kernel
  rcases completes_with hack htwo hdone with ⟨d, interval, ms', zid, continuity, hd, hread', _, hdb⟩
  rw [← Event.datagram.inj hd, hread, Except.ok.injEq] at hread'
  rw [← hread'] at hdb
  exact ⟨pre, s₁, i₁, s₂, s₄, d₁, ms, ms'.rs1, zid, continuity, hpre, hone, hstep, htwo, hevent,
    hms, hcarried, hack, hdone, hread, hdb⟩

end ZRTPInitiatorSocket

end RedPhone
