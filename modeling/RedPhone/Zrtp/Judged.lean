import RedPhone.Zrtp.OwnBytes

/-!
# Judging a Datagram on Its Own Bytes

What the handlers of both roles do with a packet comes from the datagram, as
`OwnBytes` has it of the loop: they copy it, or compare its length with the last
field they read, or do not look at it. So what is asked of a datagram is the
same for either role, and in every state.

## Theorems

* `ZRTPInitiatorSocket.own_handler`, `ZRTPResponderSocket.own_handler`: The
  handlers make the same of a packet in either buffer.
* `judged_iff`: The datagrams that are handled alike after all histories.
* `judged_fails`: Five bytes that are a Hello or nothing.
-/

namespace RedPhone

open HandshakePacket RetainedSecretsCalculator Relational ZRTPSocket

variable {C : Crypto} {cfg : Config} {c : Clock} {a b : ReceiveBuffer} {p q : HandshakePacket}
  {P : Prop}

/-- Checking and opening a Confirm packet, in either buffer. What comes next
    gets the same preimage, and buffers that agree where they did. -/
theorem related_confirm {α : Type} {R : α → α → Prop} (macKey cipherKey : Bytes)
    (h : SamePacket a b p q) (f : ReceiveBuffer → Bytes → Java α)
    (hf : ∀ a' b' preimage, a'.Agree p.packetLength b' →
      88 + (ConfirmPacket.ofPacket p).bugOffset ≤ p.packetLength →
      Related R (f a' preimage) (f b' preimage)) :
    Related R
      (do
        (ConfirmPacket.ofPacket p).verifyMac C macKey a
        let buf ← (ConfirmPacket.ofPacket p).decrypt C cipherKey a
        let preimage ← (ConfirmPacket.ofPacket p).getPreimage buf
        f buf preimage)
      (do
        (ConfirmPacket.ofPacket p).verifyMac C macKey b
        let buf ← (ConfirmPacket.ofPacket p).decrypt C cipherKey b
        let preimage ← (ConfirmPacket.ofPacket p).getPreimage buf
        f buf preimage) := by
  have hagree : a.Agree (ConfirmPacket.ofPacket p).packetLength b := h.agree
  rw [← ConfirmPacket.verifyMac_agree C macKey hagree]
  refine related_bind_same (fun _ hmac => ?_)
  -- A code that is right is inside the packet, and so is what it covers.
  have hlong := ((ConfirmPacket.verifyMac_ok C macKey a _ h.bug _).mp hmac).1
  rcases ConfirmPacket.decrypt_agree C cipherKey hagree h.bug hlong with
    ⟨a', b', hdecrypta, hdecryptb, hagree'⟩
  rw [hdecrypta, hdecryptb, Java.ok_bind, Java.ok_bind]
  have hpreimage := hagree'.region_eq .arrayIndexOutOfBounds
    (48 + (ConfirmPacket.ofPacket p).bugOffset) 32 (by omega)
  unfold ConfirmPacket.getPreimage Java.arraycopy
  rw [← hpreimage]
  exact related_bind_same (fun preimage _ => hf a' b' preimage hagree' hlong)

namespace ZRTPInitiatorSocket

variable {s : ZRTPInitiatorSocket}

theorem own_handleHello (h : SamePacket a b p q) :
    Related (SameOutcome p.packetLength P) (handleHello C cfg c p { s with buf := a })
      (handleHello C cfg c q { s with buf := b }) := by
  unfold handleHello
  rw [← h.copy]
  refine related_bind_same (fun foreignHello _ => ?_)
  exact ⟨rfl, fun _ => rfl, h.agree⟩

/-- The acknowledgement of a Hello is not looked at. -/
theorem own_handleHelloAck (h : SamePacket a b p q) :
    Related (SameOutcome p.packetLength P) (handleHelloAck C cfg c p { s with buf := a })
      (handleHelloAck C cfg c q { s with buf := b }) := by
  unfold handleHelloAck
  refine related_bind_same (fun foreignHello _ => ?_)
  refine related_bind_same (fun zid _ => ?_)
  refine related_bind_same (fun secrets _ => ?_)
  refine related_bind_same (fun derivatives _ => ?_)
  refine related_bind_same (fun agreementType _ => ?_)
  refine related_bind_same (fun helloBytes _ => ?_)
  refine related_bind_same (fun commit _ => ?_)
  exact ⟨rfl, fun _ => rfl, h.agree⟩

theorem own_handleDH (h : SamePacket a b p q) :
    Related (SameOutcome p.packetLength P) (handleDH C cfg c p { s with buf := a })
      (handleDH C cfg c q { s with buf := b }) := by
  unfold handleDH
  refine related_bind_same (fun _ _ => ?_)
  refine related_bind_same (fun agreementType _ => ?_)
  unfold DHPacket.copyOf
  rw [← h.copy]
  refine related_bind_same (fun foreignDH _ => ?_)
  refine related_bind_same (fun h1 _ => ?_)
  refine related_bind_same (fun foreignHello _ => ?_)
  refine related_bind_same (fun _ _ => ?_)
  refine related_bind_same (fun pvr _ => ?_)
  refine related_bind_same (fun dhResult _ => ?_)
  refine related_bind_same (fun commit _ => ?_)
  refine related_bind_same (fun localDH _ => ?_)
  refine related_bind_same (fun totalHash _ => ?_)
  refine related_bind_same (fun rs1 _ => ?_)
  refine related_bind_same (fun rs2 _ => ?_)
  refine related_bind_same (fun secrets _ => ?_)
  refine related_bind_same (fun s1 _ => ?_)
  refine related_bind_same (fun localHello _ => ?_)
  refine related_bind_same (fun zidi _ => ?_)
  refine related_bind_same (fun zidr _ => ?_)
  exact ⟨rfl, fun _ => rfl, h.agree⟩

/-- A Confirm1 is checked, opened and kept by its own bytes. -/
theorem own_handleConfirmOne (h : SamePacket a b p q) :
    Related (SameOutcome p.packetLength P) (handleConfirmOne C cfg c p { s with buf := a })
      (handleConfirmOne C cfg c q { s with buf := b }) := by
  unfold handleConfirmOne
  refine related_bind_same (fun foreignHello _ => ?_)
  refine related_bind_same (fun legacyConfirm _ => ?_)
  simp only [← h.confirm]
  refine related_bind_same (fun ms _ => ?_)
  refine related_confirm ms.macR ms.zrtpKeyR h _ (fun a' b' preimage hagree _ => ?_)
  refine related_bind_same (fun foreignDH _ => ?_)
  refine related_bind_same (fun _ _ => ?_)
  exact ⟨rfl, fun _ => rfl, hagree⟩

/-- An acknowledgement is not looked at, but the buffer is: the interval of the
    Confirm1 is in it. -/
theorem own_handleConfirmAck (h : SamePacket a b p q) :
    Related (SameOutcome p.packetLength
        ((Java.orNull s.role.confirmPacket >>= fun confirm => confirm.getCacheTime a)
          = Java.orNull s.role.confirmPacket >>= fun confirm => confirm.getCacheTime b))
      (handleConfirmAck C cfg c p { s with buf := a })
      (handleConfirmAck C cfg c q { s with buf := b }) := by
  unfold handleConfirmAck
  refine related_bind_same (fun secrets _ => ?_)
  refine related_bind_same (fun foreignDH _ => ?_)
  refine related_bind_same (fun rs1ID _ => ?_)
  refine related_bind_same (fun rs2ID _ => ?_)
  refine related_bind_same (fun continuity _ => ?_)
  refine related_bind_same (fun foreignHello _ => ?_)
  refine related_bind_same (fun foreignZid _ => ?_)
  refine related_bind_same (fun ms _ => ?_)
  refine related_bind_same (fun confirm hconfirm => ?_)
  refine related_bind (ConfirmPacket.getCacheTime_related a b confirm) (fun m n hmn => ?_)
  refine ⟨rfl, fun hsame => ?_, h.agree⟩
  rw [show Java.orNull s.role.confirmPacket = .ok confirm from hconfirm, Java.ok_bind,
    Java.ok_bind] at hsame
  rw [hmn hsame]

/-- The handlers make the same of a packet in either buffer. -/
theorem own_handler (h : SamePacket a b p q) (state : State) (type : Bytes)
    (handle : Clock → HandshakePacket → ZRTPInitiatorSocket → Java ZRTPInitiatorSocket)
    (hhandler : handler (handlers C cfg) state type = some handle) :
    Related (SameOutcome p.packetLength
        ((Java.orNull s.role.confirmPacket >>= fun confirm => confirm.getCacheTime a)
          = Java.orNull s.role.confirmPacket >>= fun confirm => confirm.getCacheTime b))
      (handle c p { s with buf := a }) (handle c q { s with buf := b }) := by
  refine handler_cases (fun handle => Related _ (handle c p { s with buf := a })
    (handle c q { s with buf := b })) ?_ ?_ ?_ ?_ ?_ ?_ ?_ hhandler
  · exact own_handleHello h
  · exact own_handleHelloAck h
  · exact related_error _ _
  · exact own_handleDH h
  · exact own_handleConfirmOne h
  · exact related_error _ _
  · exact own_handleConfirmAck h

end ZRTPInitiatorSocket

namespace ZRTPResponderSocket

variable {s : ZRTPResponderSocket}

theorem own_handleHello (h : SamePacket a b p q) :
    Related (SameOutcome p.packetLength P) (handleHello c p { s with buf := a })
      (handleHello c q { s with buf := b }) := by
  unfold handleHello
  rw [← h.copy]
  refine related_bind_same (fun foreignHello _ => ?_)
  exact ⟨rfl, fun _ => rfl, h.agree⟩

theorem own_handleCommit (h : SamePacket a b p q) :
    Related (SameOutcome p.packetLength P) (handleCommit C cfg c p { s with buf := a })
      (handleCommit C cfg c q { s with buf := b }) := by
  unfold handleCommit
  rw [← h.copy]
  refine related_bind_same (fun foreignCommit _ => ?_)
  refine related_bind_same (fun foreignHello _ => ?_)
  refine related_bind_same (fun zid _ => ?_)
  refine related_bind_same (fun secrets _ => ?_)
  refine related_bind_same (fun derivatives _ => ?_)
  refine related_bind_same (fun agreementType _ => ?_)
  refine related_bind_same (fun h2 _ => ?_)
  refine related_bind_same (fun _ _ => ?_)
  exact ⟨rfl, fun _ => rfl, h.agree⟩

theorem own_handleDH (h : SamePacket a b p q) :
    Related (SameOutcome p.packetLength P) (handleDH C cfg c p { s with buf := a })
      (handleDH C cfg c q { s with buf := b }) := by
  unfold handleDH
  refine related_bind_same (fun agreementType _ => ?_)
  unfold DHPacket.copyOf
  rw [← h.copy]
  refine related_bind_same (fun foreignDH _ => ?_)
  refine related_bind_same (fun foreignCommit _ => ?_)
  refine related_bind_same (fun h1 _ => ?_)
  refine related_bind_same (fun _ _ => ?_)
  refine related_bind_same (fun helloBytes _ => ?_)
  refine related_bind_same (fun dhBytes _ => ?_)
  refine related_bind_same (fun _ _ => ?_)
  refine related_bind_same (fun pvr _ => ?_)
  refine related_bind_same (fun dhResult _ => ?_)
  refine related_bind_same (fun localDH _ => ?_)
  refine related_bind_same (fun totalHash _ => ?_)
  refine related_bind_same (fun rs1 _ => ?_)
  refine related_bind_same (fun rs2 _ => ?_)
  refine related_bind_same (fun secrets _ => ?_)
  refine related_bind_same (fun s1 _ => ?_)
  refine related_bind_same (fun foreignHello _ => ?_)
  refine related_bind_same (fun zidi _ => ?_)
  refine related_bind_same (fun zidr _ => ?_)
  refine related_bind_same (fun legacyConfirm _ => ?_)
  exact ⟨rfl, fun _ => rfl, h.agree⟩

/-- A Confirm2 is used at once, so its interval is its own. -/
theorem own_handleConfirmTwo (h : SamePacket a b p q) :
    Related (SameOutcome p.packetLength P) (handleConfirmTwo C cfg c p { s with buf := a })
      (handleConfirmTwo C cfg c q { s with buf := b }) := by
  unfold handleConfirmTwo
  refine related_bind_same (fun foreignHello _ => ?_)
  refine related_bind_same (fun legacyConfirm _ => ?_)
  simp only [← h.confirm]
  refine related_bind_same (fun ms _ => ?_)
  refine related_confirm ms.macI ms.zrtpKeyI h _ (fun a' b' preimage hagree hlong => ?_)
  refine related_bind_same (fun foreignDH _ => ?_)
  refine related_bind_same (fun _ _ => ?_)
  refine related_bind_same (fun secrets _ => ?_)
  refine related_bind_same (fun rs1ID _ => ?_)
  refine related_bind_same (fun rs2ID _ => ?_)
  refine related_bind_same (fun continuity _ => ?_)
  refine related_bind_same (fun foreignZid _ => ?_)
  -- The interval lies inside what was decrypted, which is the same in both
  -- buffers.
  have hinterval := hagree.region_eq .arrayIndexOutOfBounds
    (84 + (ConfirmPacket.ofPacket p).bugOffset) 4 (by omega)
  have hcache : (ConfirmPacket.ofPacket p).getCacheTime a'
      = (ConfirmPacket.ofPacket p).getCacheTime b' := by
    unfold ConfirmPacket.getCacheTime Conversions.byteArray4ToLong Java.arraycopy
    rw [hinterval]
  simp only [sendFreshPacket_buf, ← hcache]
  refine related_bind_same (fun cacheTime _ => ?_)
  exact ⟨rfl, fun _ => rfl, hagree⟩

/-- The handlers make the same of a packet in either buffer. -/
theorem own_handler (h : SamePacket a b p q) (state : State) (type : Bytes)
    (handle : Clock → HandshakePacket → ZRTPResponderSocket → Java ZRTPResponderSocket)
    (hhandler : handler (handlers C cfg) state type = some handle) :
    Related (SameOutcome p.packetLength P) (handle c p { s with buf := a })
      (handle c q { s with buf := b }) := by
  refine handler_cases (fun handle => Related _ (handle c p { s with buf := a })
    (handle c q { s with buf := b })) ?_ ?_ ?_ ?_ ?_ ?_ ?_ hhandler
  · exact own_handleHello h
  · exact related_error _ _
  · exact own_handleCommit h
  · exact own_handleDH h
  · exact related_error _ _
  · exact own_handleConfirmTwo h
  · exact related_error _ _

end ZRTPResponderSocket

/-- Where the handlers make the same of a packet in either buffer, a datagram is
    handled alike after all histories that lead to one state exactly when it is
    judged on its own bytes. -/
theorem judged_iff_of_own {ρ : Type} (h : Handlers ρ)
    (step : ZRTPSocket ρ → Input → Java (ZRTPSocket ρ)) (hstep : ∀ s i, step s i = s.negotiate h i)
    (start : ZRTPSocket ρ) (sameInterval : ZRTPSocket ρ → ZRTPSocket ρ → Prop)
    (is : List Input) (s : ZRTPSocket ρ) (hrun : Run.run step start is = .ok s) (d : Bytes)
    (hown : ∀ t c, SameState s t → d ≠ [] → ∀ type handle, handler h s.state type = some handle →
      Related (SameOutcome (min d.length 4096) (sameInterval s t))
        (handle c (s.received d) { s with buf := s.buf.receive d })
        (handle c (t.received d) { s with buf := t.buf.receive d })) :
    (∀ js t c, Run.run step start js = .ok t → SameState s t →
        SameHandling h (sameInterval s t) s t d c) ↔ s.Judged d := by
  constructor
  · intro hsame
    by_cases hover : s.Over
    · exact Or.inl hover
    · -- Filler leads back to the same state, and leaves any type behind.
      refine judged_of_reportedType s d (fun x hx => ?_)
      have hback : Run.run step start (is ++ [⟨.datagram (filler x), s.early⟩])
          = .ok { s with buf := s.buf.receive (filler x) } := by
        refine (Run.run_concat _ _ _ _ _).mpr ⟨s, hrun, ?_⟩
        rw [hstep]
        exact negotiate_filler h s x hx hover
      exact (hsame _ _ s.early hback rfl).type
  · intro hjudged js t c _ hst
    exact sameHandling_of_judged h _ s t hst d c (hown t c hst) hjudged

/-- Whatever either role has received, a datagram is handled alike after all
    histories that lead to the same state exactly when it is judged on its own
    bytes. -/
theorem judged_iff (C : Crypto) (cfg : Config) (database : RetainedSecretsDatabase)
    (includeLegacyHeaderBug : Bool) (now : Int) (d : Bytes) :
    (∀ is s, Run.run (ZRTPInitiatorSocket.step C cfg) (ZRTPInitiatorSocket.create database) is
        = .ok s →
      ((∀ js t c, Run.run (ZRTPInitiatorSocket.step C cfg) (ZRTPInitiatorSocket.create database) js
          = .ok t → SameState s t →
        SameHandling (ZRTPInitiatorSocket.handlers C cfg) (s.intervalRead d = t.intervalRead d) s t
          d c) ↔ s.Judged d)) ∧
    (∀ is s, Run.run (ZRTPResponderSocket.step C cfg)
        (ZRTPResponderSocket.start C cfg database includeLegacyHeaderBug now) is = .ok s →
      ((∀ js t c, Run.run (ZRTPResponderSocket.step C cfg)
          (ZRTPResponderSocket.start C cfg database includeLegacyHeaderBug now) js = .ok t →
        SameState s t →
        SameHandling (ZRTPResponderSocket.handlers C cfg) True s t d c) ↔ s.Judged d)) := by
  constructor
  · intro is s hrun
    refine judged_iff_of_own _ _ (fun _ _ => rfl) _
      (fun s t : ZRTPInitiatorSocket => s.intervalRead d = t.intervalRead d) is s hrun d
      (fun t c hst hd type handle hh => ?_)
    have hrole : t.role = s.role := by rw [hst]
    unfold ZRTPInitiatorSocket.intervalRead
    rw [hrole]
    exact ZRTPInitiatorSocket.own_handler (s := s) (samePacket_received d hd s t) s.state type
      handle hh
  · intro is s hrun
    refine judged_iff_of_own _ _ (fun _ _ => rfl) _ (fun _ _ => True) is s hrun d
      (fun t c _ hd type handle hh => ?_)
    exact ZRTPResponderSocket.own_handler (s := s) (samePacket_received d hd s t) s.state type
      handle hh

/-! ## Five bytes after nothing, and after something that was ignored -/

/-- The type of a Hello in a packet whose checksum is wrong. -/
def mislabelled : Bytes :=
  PREFIX_VALUE :: List.replicate 15 0 ++ HelloPacket.TYPE ++ List.replicate 12 0

/-- A first byte and its checksum. -/
def fragment : Bytes := PREFIX_VALUE :: Endian.toBE 4 0xcfb5ffe9

/-- An initiator that has received nothing reports a type of zeros for the
    fragment and goes on waiting. One that has ignored the other packet is in the
    same state, reports a Hello, and takes the fragment for it. -/
theorem judged_fails :
    ∃ s t s' t', Run.run (ZRTPInitiatorSocket.step jce Undisturbed.caller)
        (ZRTPInitiatorSocket.create .empty) [] = .ok s ∧
      Run.run (ZRTPInitiatorSocket.step jce Undisturbed.caller)
        (ZRTPInitiatorSocket.create .empty) [⟨.datagram mislabelled, ⟨0, 0, 0, 0, 0⟩⟩] = .ok t ∧
      SameState s t ∧
      s.reportedType fragment = some (.ok (List.replicate 8 0)) ∧
      t.reportedType fragment = some (.ok HelloPacket.TYPE) ∧
      ZRTPInitiatorSocket.step jce Undisturbed.caller s ⟨.datagram fragment, ⟨0, 0, 0, 0, 0⟩⟩
        = .ok s' ∧ s'.state = .expectingHello ∧
      ZRTPInitiatorSocket.step jce Undisturbed.caller t ⟨.datagram fragment, ⟨0, 0, 0, 0, 0⟩⟩
        = .ok t' ∧ t'.state = .expectingHelloAck ∧
      ¬ SameHandling (ZRTPInitiatorSocket.handlers jce Undisturbed.caller)
        (s.intervalRead fragment = t.intervalRead fragment) s t fragment ⟨0, 0, 0, 0, 0⟩ := by
  let s : ZRTPInitiatorSocket := ZRTPInitiatorSocket.create .empty
  let t : ZRTPInitiatorSocket := { s with buf := s.buf.receive mislabelled }
  have hcrc : (ofDatagram fragment).verifyCRC = .ok true := by decide +kernel
  have hignored : ZRTPInitiatorSocket.step jce Undisturbed.caller s
      ⟨.datagram mislabelled, ⟨0, 0, 0, 0, 0⟩⟩ = .ok t :=
    negotiate_bad _ s mislabelled _ (by decide) (by decide) (by decide +kernel) (by decide)
  have hzeros : (s.received fragment).getType = .ok (List.replicate 8 0) := by decide +kernel
  have hhello : (t.received fragment).getType = .ok HelloPacket.TYPE := by decide +kernel
  have hreported : ∀ u : ZRTPInitiatorSocket, u.state = .expectingHello →
      u.reportedType fragment = some (u.received fragment).getType := by
    intro u hu
    have hover : ¬ u.Over := by
      unfold Over
      rw [hu]
      decide
    unfold reportedType
    rw [if_neg hover, if_pos (Or.inr (by rw [verifyCRC_received]; exact hcrc))]
  have hnone : handler (ZRTPInitiatorSocket.handlers jce Undisturbed.caller) s.state
      (List.replicate 8 0) = none := by
    have hne : List.replicate 8 0 ≠ HelloPacket.TYPE := by decide +kernel
    rw [show s.state = .expectingHello from rfl, handler, if_neg hne]
  have hwaits : ZRTPInitiatorSocket.step jce Undisturbed.caller s
      ⟨.datagram fragment, ⟨0, 0, 0, 0, 0⟩⟩ = .ok { s with buf := s.buf.receive fragment } :=
    negotiate_unhandled _ s fragment _ _ (by decide) (Or.inr hcrc) hzeros hnone (by decide)
  -- The other one copies the five bytes as the Hello of its peer.
  have hcopy : (t.received fragment).copyOf = .ok (ofDatagram fragment) :=
    (copyOf_received fragment t _).mpr ⟨List.cons_ne_nil _ _, rfl⟩
  have hhandled : ∃ t', ZRTPInitiatorSocket.handleHello jce Undisturbed.caller ⟨0, 0, 0, 0, 0⟩
      (t.received fragment) { t with buf := t.buf.receive fragment } = .ok t' ∧
      t'.state = .expectingHelloAck := by
    unfold ZRTPInitiatorSocket.handleHello
    rw [hcopy, Java.ok_bind]
    exact ⟨_, rfl, rfl⟩
  rcases hhandled with ⟨t', hrun, hstate⟩
  have htakes : ZRTPInitiatorSocket.step jce Undisturbed.caller t
      ⟨.datagram fragment, ⟨0, 0, 0, 0, 0⟩⟩ = .ok t' :=
    negotiate_of_handled _ t t' fragment _ (by decide)
      (Or.inr (by rw [verifyCRC_received]; exact hcrc)) (.hello rfl hhello hrun)
  refine ⟨s, t, _, t', rfl, (Run.run_cons _ _ _ _ _).mpr ⟨t, hignored, rfl⟩, rfl, ?_, ?_, hwaits,
    rfl, htakes, hstate, ?_⟩
  · rw [hreported s rfl, hzeros]
  · rw [hreported t rfl, hhello]
  · intro hsame
    have htype := hsame.type
    rw [hreported s rfl, hreported t rfl, hzeros, hhello] at htype
    exact absurd htype (by decide +kernel)

end RedPhone
