import RedPhone.Zrtp.StateOrder
import RedPhone.Zrtp.Undisturbed

/-!
# What Is on the Wire

What a party has sent by its state. Each state of a role but the first of the
initiator is entered by sending one packet, so a party that has come to a state
has sent the packets of the states before it as well, with a checksum that is
right whether it was sent for the first time or again.

The Confirm packets are the only ones whose receiver needs a secret to accept
them. They are made under the master secret their sender holds, which does not
change once it is there: `Sealed` is what is kept about them.

The other half of what a party needs to go on is in its cache. Nothing is stored
before the handshake is over, and the secrets a party has looked up are what its
cache had for the peer's identity: `Drawn`.

## Main definitions

* `Posted`: A packet of a type has been sent.
* `Sealed`: A Confirm packet is made under the master secret.
* `Mails`: What is sent is on the wire as packets are.
* `Posting`: What an iteration does to what is sent.
* `Supplied`: What a party has sent by its state.
* `Retains`: What a party that completes has stored.
* `ZRTPInitiatorSocket.Drawn`, `ZRTPResponderSocket.Drawn`: Where the retained
  secrets come from.

## Theorems

* `Supplied.answer`, `Supplied.idle`, `Supplied.finish`: What keeps `Supplied`.
* `ZRTPInitiatorSocket.posting_step`, `ZRTPResponderSocket.posting_step`: What an
  iteration of either role does.
* `ZRTPInitiatorSocket.supplied_step`, `ZRTPResponderSocket.supplied_step`: It
  keeps `Supplied`.
* `ZRTPInitiatorSocket.drawn_step`, `ZRTPResponderSocket.drawn_step`: And keeps
  `Drawn`.
-/

namespace RedPhone

open HandshakePacket RetainedSecretsCalculator

/-! ## Copies of packets made -/

/-- A packet sent again has the header it was made with. -/
theorem HandshakePacket.HasHeader.copy {type : Bytes} {length : Nat} {legacy : Bool}
    {p q : HandshakePacket} (h : HasHeader type length legacy p) (hlen : 12 ≤ length)
    (hsame : SameMessage p q) : HasHeader type length legacy q := by
  have hoffset := legacyOffset_le legacy
  have hroom := h.packetLength_eq
  refine ⟨?_, ?_, ?_, ?_, ?_⟩
  · rw [hsame.packetLength_eq, h.packetLength_eq]
  · rw [hsame.length_eq, h.data_length]
  · rw [SameMessage.head_eq p q hsame, h.head_eq]
  · rw [SameMessage.slice_eq p q hsame _ 2 (by omega) (by omega), h.length_eq]
  · rw [SameMessage.slice_eq p q hsame _ 8 (by omega) (by omega), h.type_eq]

/-- A Confirm packet sent again has the fields it was made with. -/
theorem ConfirmPacket.Made.copy {C : Crypto} {type macKey cipherKey h0 iv : Bytes} {legacy : Bool}
    {p q : HandshakePacket} (h : ConfirmPacket.Made C type macKey cipherKey h0 iv legacy p)
    (hsame : SameMessage p q) : ConfirmPacket.Made C type macKey cipherKey h0 iv legacy q := by
  have hroom := h.header.packetLength_eq
  unfold ConfirmPacket.CONFIRM_LENGTH at hroom
  have hbody : Slice.slice (48 + legacyOffset legacy) 40 q.data
      = Slice.slice (48 + legacyOffset legacy) 40 p.data :=
    SameMessage.slice_eq p q hsame _ 40 (by omega) (by omega)
  refine ⟨h.header.copy (by decide) hsame, ?_, ?_, ?_⟩
  · rw [SameMessage.slice_eq p q hsame _ 16 (by omega) (by omega), h.vector]
  · rw [hbody]
    exact h.encrypted
  · rw [SameMessage.slice_eq p q hsame _ 8 (by omega) (by omega), hbody, h.mac]

/-- How a role makes its Confirm packet of a master secret. -/
structure Seal where
  type : Bytes
  macKey : MasterSecret → Bytes
  cipherKey : MasterSecret → Bytes
  h0 : Bytes

/-- A packet that can be sent, and that is made under the master secret held if
    it is a Confirm packet. -/
def Sealed (C : Crypto) (S : Seal) (secret : Option MasterSecret) (p : HandshakePacket) : Prop :=
  Sendable p ∧ (p.getType = .ok S.type → ∃ m iv legacy, secret = some m ∧
    ConfirmPacket.Made C S.type (S.macKey m) (S.cipherKey m) S.h0 iv legacy p)

namespace Sealed

variable {C : Crypto} {S : Seal} {secret secret' : Option MasterSecret} {p q : HandshakePacket}

theorem copy (h : Sealed C S secret p) (hsame : SameMessage p q) : Sealed C S secret q := by
  refine ⟨sendable_of_sameMessage p q hsame h.1, fun htype => ?_⟩
  rw [SameMessage.getType_eq p q hsame h.1.1] at htype
  rcases h.2 htype with ⟨m, iv, legacy, hm, hmade⟩
  exact ⟨m, iv, legacy, hm, hmade.copy hsame⟩

theorem mono (h : Sealed C S secret p) (hsecret : ∀ m, secret = some m → secret' = some m) :
    Sealed C S secret' p := by
  refine ⟨h.1, fun htype => ?_⟩
  rcases h.2 htype with ⟨m, iv, legacy, hm, hmade⟩
  exact ⟨m, iv, legacy, hsecret m hm, hmade⟩

/-- Only Confirm packets need a secret. -/
theorem of_header {type : Bytes} {length : Nat} {legacy : Bool} (h : HasHeader type length legacy p)
    (hlen : 12 ≤ length) (hmax : length ≤ 4000) (htype : type ≠ S.type) : Sealed C S secret p := by
  refine ⟨sendable_of_header h hlen hmax, fun hread => ?_⟩
  rw [h.getType_eq hlen, Except.ok.injEq] at hread
  exact absurd hread htype

end Sealed

/-! ## What a socket has sent -/

/-- A packet of the type is on the wire. -/
def Posted {ρ : Type} (type : Bytes) (s : ZRTPSocket ρ) : Prop :=
  ∃ q k, Sendable q ∧ q.getType = .ok type ∧ (q.wire k).data ∈ s.sent

/-- What a socket has sent, and holds for sending again, are packets that fit. -/
structure Mails {ρ : Type} (Fit : HandshakePacket → Prop) (s : ZRTPSocket ρ) : Prop where
  sent : ∀ d ∈ s.sent, ∃ q k, Fit q ∧ d = (q.wire k).data
  last : ∀ q, s.lastPacket = some q → Fit q

/-- The socket sent a packet of the type, and kept its master secret if it had
    one. -/
structure Answers {ρ : Type} (C : Crypto) (S : Seal) (type : Bytes) (s s' : ZRTPSocket ρ) :
    Prop where
  packet : ∃ p, Sealed C S s'.masterSecret p ∧ p.getType = .ok type ∧
    s'.sent = s.sent ++ [(p.wire s.sequence).data] ∧ s'.lastPacket = some (p.wire s.sequence)
  keeps : ∀ m, s.masterSecret = some m → s'.masterSecret = some m

/-- The socket entered its last state, for which nothing is sent. -/
structure Finishes {ρ : Type} (s s' : ZRTPSocket ρ) : Prop where
  sent_eq : s'.sent = s.sent
  last_eq : s'.lastPacket = s.lastPacket
  secret_eq : s'.masterSecret = s.masterSecret

/-- What an iteration does to what a role has sent: it enters the next state of
    the path, with the packet of that state or with none, or it stays. -/
inductive Posting {ρ : Type} (C : Crypto) (S : Seal) (path : List State)
    (entry : State → Option Bytes) (s s' : ZRTPSocket ρ) : Prop
  | answered (k : Nat) (type : Bytes) (hk : path[k]? = some s.state)
      (hk' : path[k + 1]? = some s'.state) (hentry : entry s'.state = some type)
      (ha : Answers C S type s s')
  | finished (k : Nat) (hk : path[k]? = some s.state) (hk' : path[k + 1]? = some s'.state)
      (hentry : entry s'.state = none) (hf : Finishes s s')
  | stayed (hidle : ZRTPSocket.Idle s s')

/-- What a role has sent by its state: the packets that the states of its path
    are entered with, up to the one it is in. -/
structure Supplied {ρ : Type} (C : Crypto) (S : Seal) (path : List State)
    (entry : State → Option Bytes) (s : ZRTPSocket ρ) : Prop where
  mails : Mails (Sealed C S s.masterSecret) s
  posted : ∀ (m n : Nat) (state : State) (type : Bytes), path[m]? = some s.state → n ≤ m →
    path[n]? = some state → entry state = some type → Posted type s

section

variable {ρ : Type} {C : Crypto} {S : Seal} {path : List State} {entry : State → Option Bytes}
  {type : Bytes} {s s' : ZRTPSocket ρ}

theorem Posted.mono (h : Posted type s) (hsent : ∀ d ∈ s.sent, d ∈ s'.sent) : Posted type s' := by
  rcases h with ⟨q, k, hq, htype, hmem⟩
  exact ⟨q, k, hq, htype, hsent _ hmem⟩

/-- A resend sends what fits again. -/
theorem Mails.idle (h : Mails (Sealed C S s.masterSecret) s) (hidle : ZRTPSocket.Idle s s') :
    Mails (Sealed C S s'.masterSecret) s' ∧ ∀ d ∈ s.sent, d ∈ s'.sent := by
  rw [hidle.masterSecret_eq]
  rcases hidle.sent with ⟨hsent, hlast⟩ | ⟨p, hp, hsent, hlast⟩
  · refine ⟨⟨?_, ?_⟩, ?_⟩
    · rw [hsent]
      exact h.sent
    · rw [hlast]
      exact h.last
    · rw [hsent]
      exact fun _ hd => hd
  · have hfit := h.last p hp
    refine ⟨⟨fun d hd => ?_, fun q hq => ?_⟩, fun d hd => ?_⟩
    · rw [hsent] at hd
      rcases List.mem_append.mp hd with hd | hd
      · exact h.sent d hd
      · exact ⟨p, s.sequence, hfit, List.mem_singleton.mp hd⟩
    · rw [hlast, Option.some.injEq] at hq
      rw [← hq]
      exact hfit.copy (wire_sameMessage s.sequence p hfit.1.1)
    · rw [hsent]
      exact List.mem_append_left _ hd

/-- A packet sent for the first time. -/
theorem Mails.answer (h : Mails (Sealed C S s.masterSecret) s) (ha : Answers C S type s s') :
    Mails (Sealed C S s'.masterSecret) s' ∧ Posted type s' ∧ ∀ d ∈ s.sent, d ∈ s'.sent := by
  rcases ha.packet with ⟨p, hfit, htype, hsent, hlast⟩
  refine ⟨⟨fun d hd => ?_, fun q hq => ?_⟩, ⟨p, s.sequence, hfit.1, htype, ?_⟩, fun d hd => ?_⟩
  · rw [hsent] at hd
    rcases List.mem_append.mp hd with hd | hd
    · rcases h.sent d hd with ⟨q, k, hq, hdata⟩
      exact ⟨q, k, hq.mono ha.keeps, hdata⟩
    · exact ⟨p, s.sequence, hfit, List.mem_singleton.mp hd⟩
  · rw [hlast, Option.some.injEq] at hq
    rw [← hq]
    exact hfit.copy (wire_sameMessage s.sequence p hfit.1.1)
  · rw [hsent]
    exact List.mem_append_right _ (List.mem_singleton_self _)
  · rw [hsent]
    exact List.mem_append_left _ hd

/-- A socket that is over stays so. -/
theorem ZRTPSocket.over_of_idle (hidle : ZRTPSocket.Idle s s') (hover : s.Over) : s'.Over := by
  rcases hidle.state_eq with hs | hs
  · unfold ZRTPSocket.Over
    rw [hs]
    exact hover
  · exact Or.inr hs

namespace Supplied

/-- Moving on along the path keeps what was sent before. -/
theorem posted_of_next (h : Supplied C S path entry s) (hnodup : path.Nodup) {k : Nat}
    (hk : path[k]? = some s.state) (hk' : path[k + 1]? = some s'.state)
    (hsent : ∀ d ∈ s.sent, d ∈ s'.sent)
    (hnew : ∀ type, entry s'.state = some type → Posted type s') (m n : Nat) (state : State)
    (type : Bytes) (hm : path[m]? = some s'.state) (hn : n ≤ m) (hstate : path[n]? = some state)
    (hentry : entry state = some type) : Posted type s' := by
  rcases List.getElem?_eq_some_iff.mp hk' with ⟨hlt, _⟩
  -- The path has each state once, so the place is the next one.
  have hplace : k + 1 = m := (List.getElem?_inj hlt hnodup).mp (hk'.trans hm.symm)
  by_cases hlast : n = k + 1
  · rw [hlast, hk', Option.some.injEq] at hstate
    rw [← hstate] at hentry
    exact hnew type hentry
  · exact (h.posted k n state type hk (by omega) hstate hentry).mono hsent

/-- At the start of the path only the packet of the first state is there. -/
theorem first (hnodup : path.Nodup) (hfirst : path[0]? = some s.state)
    (hmails : Mails (Sealed C S s.masterSecret) s)
    (hnew : ∀ type, entry s.state = some type → Posted type s) : Supplied C S path entry s := by
  refine ⟨hmails, fun m n state type hm hn hstate hentry => ?_⟩
  rcases List.getElem?_eq_some_iff.mp hfirst with ⟨hlt, _⟩
  have hzero : 0 = m := (List.getElem?_inj hlt hnodup).mp (hfirst.trans hm.symm)
  have hn0 : n = 0 := by omega
  rw [hn0, hfirst, Option.some.injEq] at hstate
  rw [← hstate] at hentry
  exact hnew type hentry

/-- Entering the next state by sending its packet. -/
theorem answer (h : Supplied C S path entry s) (hnodup : path.Nodup) {k : Nat}
    (hk : path[k]? = some s.state) (hk' : path[k + 1]? = some s'.state)
    (hentry : entry s'.state = some type) (ha : Answers C S type s s') :
    Supplied C S path entry s' := by
  rcases h.mails.answer ha with ⟨hmails, hposted, hsent⟩
  refine ⟨hmails, h.posted_of_next hnodup hk hk' hsent (fun type' htype' => ?_)⟩
  rw [hentry, Option.some.injEq] at htype'
  exact htype' ▸ hposted

/-- Entering the next state without sending anything. -/
theorem finish (h : Supplied C S path entry s) (hnodup : path.Nodup) {k : Nat}
    (hk : path[k]? = some s.state) (hk' : path[k + 1]? = some s'.state)
    (hentry : entry s'.state = none) (hf : Finishes s s') : Supplied C S path entry s' := by
  refine ⟨⟨?_, ?_⟩, h.posted_of_next hnodup hk hk' ?_ (fun type' htype' => ?_)⟩
  · rw [hf.sent_eq, hf.secret_eq]
    exact h.mails.sent
  · rw [hf.last_eq, hf.secret_eq]
    exact h.mails.last
  · rw [hf.sent_eq]
    exact fun _ hd => hd
  · rw [hentry] at htype'
    exact absurd htype' (Option.some_ne_none _).symm

/-- Staying in a state, or being closed. -/
theorem idle (h : Supplied C S path entry s) (hclosed : State.terminated ∉ path)
    (hidle : ZRTPSocket.Idle s s') : Supplied C S path entry s' := by
  rcases h.mails.idle hidle with ⟨hmails, hsent⟩
  refine ⟨hmails, fun m n state type hm hn hstate hentry => ?_⟩
  rcases hidle.state_eq with hs | hs
  · rw [hs] at hm
    exact (h.posted m n state type hm hn hstate hentry).mono hsent
  · rw [hs] at hm
    exact absurd (List.mem_of_getElem? hm) hclosed

theorem posting (h : Supplied C S path entry s) (hnodup : path.Nodup)
    (hclosed : State.terminated ∉ path) (ht : Posting C S path entry s s') :
    Supplied C S path entry s' := by
  cases ht with
  | answered k type hk hk' hentry ha => exact h.answer hnodup hk hk' hentry ha
  | finished k hk hk' hentry hf => exact h.finish hnodup hk hk' hentry hf
  | stayed hidle => exact h.idle hclosed hidle

end Supplied

end

/-- A party has stored the retained secret of its master secret for the peer's
    identity, with the continuity the ids in the peer's DHPart show. -/
def Retains (C : Crypto) (role : Role) (cfg : Config) (database : RetainedSecretsDatabase)
    (m : MasterSecret) (secrets : RetainedSecrets) (hello : HandshakePacket) (dh : DHPacket)
    (after : RetainedSecretsDatabase) : Prop :=
  ∃ zid rs1ID rs2ID continuity cacheTime readTime storeTime,
    HelloPacket.getZID hello = .ok zid ∧ dh.getDerivativeSecretOne = .ok rs1ID ∧
    dh.getDerivativeSecretTwo = .ok rs2ID ∧
    hasContinuity C role secrets (some rs1ID) (some rs2ID) = .ok continuity ∧
    cacheTime < 4294967296 ∧
    after = database.completeHandshake cfg.platform cfg.remoteNumber zid m.rs1 cacheTime continuity
      readTime storeTime

/-- A cache interval is a number of four bytes. -/
theorem getCacheTime_lt {confirm : ConfirmPacket} {buf : ReceiveBuffer} {cacheTime : Nat}
    (h : confirm.getCacheTime buf = .ok cacheTime) : cacheTime < 4294967296 := by
  simp only [ConfirmPacket.getCacheTime, Conversions.byteArray4ToLong, Java.bind_ok,
    Except.ok.injEq] at h
  rcases h with ⟨field, hfield, rfl⟩
  rcases (Java.region_ok _ _ _ _ _).mp hfield with ⟨hle, rfl⟩
  have hlen := Slice.length_slice _ _ _ hle
  have hlt := Endian.ofBE_lt (Slice.slice (84 + confirm.bugOffset) 4 buf.bytes)
  rw [hlen] at hlt
  exact hlt

/-! ## The initiator -/

namespace ZRTPInitiatorSocket

/-- The Confirm2 of an initiator. -/
def confirmSeal (C : Crypto) (cfg : Config) : Seal :=
  ⟨ConfirmPacket.TYPE_TWO, MasterSecret.macI, MasterSecret.zrtpKeyI, (cfg.hashChain C).h0⟩

/-- The packet an initiator sends when it enters a state. -/
def entry : State → Option Bytes
  | .expectingHelloAck => some HelloPacket.TYPE
  | .expectingDh1 => some CommitPacket.TYPE
  | .expectingConfirmOne => some DHPacket.TYPE_TWO
  | .expectingConfirmAck => some ConfirmPacket.TYPE_TWO
  | _ => none

variable {C : Crypto} {cfg : Config} {s s' : ZRTPInitiatorSocket}

theorem supplied_create (database : RetainedSecretsDatabase) :
    Supplied C (confirmSeal C cfg) path entry (create database) := by
  refine .first (by decide) rfl ⟨fun d hd => absurd hd List.not_mem_nil, fun q hq => ?_⟩
    (fun type htype => ?_)
  · exact absurd hq (Option.some_ne_none q).symm
  · exact absurd htype (Option.some_ne_none type).symm

theorem posting_step (hlocal : Local C cfg s) (i : Input) (hstep : step C cfg s i = .ok s') :
    Posting C (confirmSeal C cfg) path entry s s' := by
  rcases local_step hlocal i hstep with ⟨hlocal', _, _⟩
  have hcount := cfg.version.keyAgreements_count
  -- Only the Confirm2 is of the type of the Confirm2.
  have hello_ne : HelloPacket.TYPE ≠ ConfirmPacket.TYPE_TWO := by decide +kernel
  have commit_ne : CommitPacket.TYPE ≠ ConfirmPacket.TYPE_TWO := by decide +kernel
  have dh_ne : DHPacket.TYPE_TWO ≠ ConfirmPacket.TYPE_TWO := by decide +kernel
  rcases ZRTPSocket.negotiate_ok _ s s' i hstep with ⟨d, _, _, _, hhandled⟩ | ⟨hidle, _, _⟩
  · cases hhandled with
    | hello hstate _ hrun =>
        rcases handleHello_ok hrun with ⟨foreignHello, _, rfl⟩
        have hheader := (cfg.hello_made C foreignHello.isLegacyHeaderBugPresent).header
        refine .answered 0 _ (congrArg some hstate.symm) rfl rfl
          ⟨⟨_, .of_header hheader (by omega) (by omega) hello_ne,
            hheader.getType_eq (by omega), rfl, rfl⟩, fun _ hm => hm⟩
    | helloAck hstate _ hrun =>
        rcases handleHelloAck_next (s.received d) hrun with ⟨_, localDH, commit, rfl⟩
        rcases hlocal'.committed localDH rfl with ⟨_, c, _, _, _, _, _, _, _, hc, _, _, _, _, _,
          hmade⟩
        rw [← Option.some.inj hc] at hmade
        refine .answered 1 _ (congrArg some hstate.symm) rfl rfl
          ⟨⟨_, .of_header hmade.header (by decide) (by decide) commit_ne,
            hmade.header.getType_eq (by decide), rfl, rfl⟩, fun _ hm => hm⟩
    | commit _ _ hrun => simp only [handlers, Java.raise, reduceCtorEq] at hrun
    | dhOne hstate _ hrun =>
        -- There was no master secret before, and what is sent needs none.
        have hunkeyed := hlocal.unkeyed (Or.inr (Or.inr hstate))
        rcases handleDH_ok hrun with ⟨_, localDH, _, _, hdh, rfl⟩
        rcases hlocal.committed localDH hdh with ⟨_, _, _, _, t, _, _, _, _, _, _, _, _, hmade, _,
          _⟩
        have hlen := t.dhLength_eq
        have hpvr := t.pvrLength_le
        refine .answered 2 _ (congrArg some hstate.symm) rfl rfl
          ⟨⟨_, .of_header hmade.header (by omega) (by omega) dh_ne,
            hmade.header.getType_eq (by omega), rfl, rfl⟩, fun m hm => ?_⟩
        exact absurd (hunkeyed.symm.trans hm) (Option.some_ne_none m).symm
    | dhTwo hstate _ _ => exact absurd hstate hlocal.states.2.1
    | confirmOne hstate _ hrun =>
        rcases handleConfirmOne_ok hrun with
          ⟨_, legacyConfirm, ms, _, _, _, _, _, hms, _, _, _, _, _, rfl⟩
        have hmade := ConfirmPacket.create_made C ConfirmPacket.TYPE_TWO ms.macI ms.zrtpKeyI
          (cfg.hashChain C) (ConfirmPacket.iv legacyConfirm cfg.confirmIv)
          s.role.includeLegacyHeaderBug ConfirmPacket.length_TYPE_TWO cfg.h0_length
          (ConfirmPacket.length_iv legacyConfirm _ cfg.confirmIv_length)
        refine .answered 3 _ (congrArg some hstate.symm) rfl rfl
          ⟨⟨_, ⟨sendable_of_header hmade.header (by decide) (by decide), fun _ => ?_⟩,
            hmade.header.getType_eq (by decide), rfl, rfl⟩, fun _ hm => hm⟩
        exact ⟨ms, _, _, hms, hmade⟩
    | confirmTwo _ _ hrun => simp only [handlers, reduceCtorEq] at hrun
    | confirmAck hstate _ hrun =>
        rcases handleConfirmAck_next (s.received d) hrun with ⟨_, rfl⟩
        exact .finished 4 (congrArg some hstate.symm) rfl rfl ⟨rfl, rfl, rfl⟩
  · exact .stayed hidle

theorem supplied_step (hlocal : Local C cfg s) (h : Supplied C (confirmSeal C cfg) path entry s)
    (i : Input) (hstep : step C cfg s i = .ok s') : Supplied C (confirmSeal C cfg) path entry s' :=
  h.posting (by decide) (by decide) (posting_step hlocal i hstep)

/-- The retained secrets are what the cache had for the peer, and nothing is
    stored in it before the end. -/
structure Drawn (C : Crypto) (cfg : Config) (database : RetainedSecretsDatabase)
    (s : ZRTPInitiatorSocket) : Prop where
  fresh : HelloOnce s
  unstored : s.Over ∨ s.database = database
  drawn : ∀ a, s.role.retainedSecrets = some a → ∃ hello zid now,
    s.role.foreignHello = some hello ∧ HelloPacket.getZID hello = .ok zid ∧
    database.getRetainedSecrets cfg.platform cfg.remoteNumber zid now = .ok a
  stored : s.state = .handshakeComplete → ∃ m a hello d, s.masterSecret = some m ∧
    s.role.retainedSecrets = some a ∧ s.role.foreignHello = some hello ∧
    s.role.foreignDH = some d ∧ Retains C .initiator cfg database m a hello d s.database

theorem drawn_create (database : RetainedSecretsDatabase) :
    Drawn C cfg database (create database) :=
  ⟨fun _ => rfl, Or.inr rfl, fun a ha => absurd ha (Option.some_ne_none a).symm,
    fun hs => State.noConfusion hs⟩

/-- An iteration that leaves the Hello, the retained secrets and the cache. -/
theorem Drawn.same {database : RetainedSecretsDatabase} (h : Drawn C cfg database s)
    (hfresh : HelloOnce s') (hhello : ∀ p, s.role.foreignHello = some p →
      s'.role.foreignHello = some p) (hsecrets : s'.role.retainedSecrets = s.role.retainedSecrets)
    (hdatabase : s'.database = s.database) (hover : ¬ s.Over)
    (hstate : s'.state ≠ .handshakeComplete) : Drawn C cfg database s' := by
  refine ⟨hfresh, Or.inr (hdatabase.trans (h.unstored.resolve_left hover)), ?_,
    fun hs => absurd hs hstate⟩
  rw [hsecrets]
  intro a ha
  rcases h.drawn a ha with ⟨hello, zid, now, hhello', hread⟩
  exact ⟨hello, zid, now, hhello hello hhello', hread⟩

/-- An iteration without a handler. -/
theorem Drawn.idle {database : RetainedSecretsDatabase} (h : Drawn C cfg database s)
    (hfresh : HelloOnce s') (hidle : ZRTPSocket.Idle s s') : Drawn C cfg database s' := by
  refine ⟨hfresh, ?_, ?_, fun hs => ?_⟩
  · rw [hidle.database_eq]
    exact h.unstored.imp_left (ZRTPSocket.over_of_idle hidle)
  · rw [hidle.role_eq]
    exact h.drawn
  · rw [hidle.role_eq, hidle.masterSecret_eq, hidle.database_eq]
    rcases hidle.state_eq with hstate | hstate
    · exact h.stored (hstate.symm.trans hs)
    · exact State.noConfusion (hstate.symm.trans hs)

theorem drawn_step {database : RetainedSecretsDatabase} (h : Drawn C cfg database s) (i : Input)
    (hstep : step C cfg s i = .ok s') : Drawn C cfg database s' := by
  rcases helloOnce_step h.fresh i hstep with ⟨hfresh, hkept⟩
  rcases ZRTPSocket.negotiate_ok _ s s' i hstep with ⟨d, _, hover, _, hhandled⟩ | ⟨hidle, _, _⟩
  · cases hhandled with
    | hello _ _ hrun =>
        rcases handleHello_ok hrun with ⟨_, _, rfl⟩
        exact h.same hfresh hkept rfl rfl hover (fun hs => State.noConfusion hs)
    | helloAck _ _ hrun =>
        -- The secrets are looked up here, by the identity in the Hello.
        rcases handleHelloAck_ok (s.received d) hrun with
          ⟨hello, zid, secrets, _, _, _, _, _, hhello, hzid, hread, _, _, _, _, _, rfl⟩
        have hdatabase := h.unstored.resolve_left hover
        refine ⟨hfresh, Or.inr hdatabase,
          fun a ha => ⟨hello, zid, i.clock.retrieve, hhello, hzid, ?_⟩,
          fun hs => State.noConfusion hs⟩
        rw [← hdatabase, ← Option.some.inj ha]
        exact hread
    | commit _ _ hrun => simp only [handlers, Java.raise, reduceCtorEq] at hrun
    | dhOne _ _ hrun =>
        rcases handleDH_ok hrun with ⟨_, _, _, _, _, rfl⟩
        exact h.same hfresh hkept rfl rfl hover (fun hs => State.noConfusion hs)
    | dhTwo _ _ hrun =>
        rcases handleDH_ok hrun with ⟨_, _, _, _, _, rfl⟩
        exact h.same hfresh hkept rfl rfl hover (fun hs => State.noConfusion hs)
    | confirmOne _ _ hrun =>
        rcases handleConfirmOne_next hrun with ⟨_, _, rfl⟩
        exact h.same hfresh hkept rfl rfl hover (fun hs => State.noConfusion hs)
    | confirmTwo _ _ hrun => simp only [handlers, reduceCtorEq] at hrun
    | confirmAck _ _ hrun =>
        rcases handleConfirmAck_ok (s.received d) hrun with
          ⟨secrets, dh, rs1, rs2, continuity, hello, zid, m, confirm, cacheTime, hsecrets, hdh,
            hrs1, hrs2, hcontinuity, hhello, hzid, hm, _, hcache, rfl⟩
        have hdatabase : s.database = database := h.unstored.resolve_left hover
        refine ⟨hfresh, Or.inl (Or.inl rfl), h.drawn, fun _ => ⟨m, secrets, hello, dh, hm, hsecrets,
          hhello, hdh, zid, rs1, rs2, continuity, cacheTime, i.clock.expiration, i.clock.store,
          hzid, hrs1, hrs2, hcontinuity, getCacheTime_lt hcache, ?_⟩⟩
        rw [← hdatabase]
  · exact h.idle hfresh hidle

end ZRTPInitiatorSocket

/-! ## The responder -/

namespace ZRTPResponderSocket

/-- The Confirm1 of a responder. -/
def confirmSeal (C : Crypto) (cfg : Config) : Seal :=
  ⟨ConfirmPacket.TYPE_ONE, MasterSecret.macR, MasterSecret.zrtpKeyR, (cfg.hashChain C).h0⟩

/-- The packet a responder sends when it enters a state. -/
def entry : State → Option Bytes
  | .expectingHello => some HelloPacket.TYPE
  | .expectingCommit => some HELLO_ACK_TYPE
  | .expectingDh2 => some DHPacket.TYPE_ONE
  | .expectingConfirmTwo => some ConfirmPacket.TYPE_ONE
  | .handshakeComplete => some CONF_ACK_TYPE
  | _ => none

variable {C : Crypto} {cfg : Config} {s s' : ZRTPResponderSocket}

theorem hello_ne_confirmOne : HelloPacket.TYPE ≠ ConfirmPacket.TYPE_ONE := by decide +kernel

theorem supplied_start (database : RetainedSecretsDatabase) (legacy : Bool) (now : Int) :
    Supplied C (confirmSeal C cfg) path entry (start C cfg database legacy now) := by
  have hcount := cfg.version.keyAgreements_count
  have hheader := (cfg.hello_made C legacy).header
  -- The Hello is the first packet of an empty mailbox.
  have hanswer : Answers C (confirmSeal C cfg) HelloPacket.TYPE (create C cfg database legacy)
      (start C cfg database legacy now) :=
    ⟨⟨_, .of_header hheader (by omega) (by omega) hello_ne_confirmOne,
      hheader.getType_eq (by omega), rfl, rfl⟩, fun _ hm => hm⟩
  have hempty : Mails (Sealed C (confirmSeal C cfg) (create C cfg database legacy).masterSecret)
      (create C cfg database legacy) :=
    ⟨fun d hd => absurd hd List.not_mem_nil, fun q hq => absurd hq (Option.some_ne_none q).symm⟩
  rcases hempty.answer hanswer with ⟨hmails, hposted, _⟩
  refine .first (by decide) rfl hmails (fun type htype => ?_)
  rw [← Option.some.inj htype]
  exact hposted

theorem posting_step (hlocal : Local C cfg s) (i : Input) (hstep : step C cfg s i = .ok s') :
    Posting C (confirmSeal C cfg) path entry s s' := by
  rcases local_step hlocal i hstep with ⟨hlocal', _, _⟩
  have ack_ne : HELLO_ACK_TYPE ≠ ConfirmPacket.TYPE_ONE := by decide +kernel
  have dh_ne : DHPacket.TYPE_ONE ≠ ConfirmPacket.TYPE_ONE := by decide +kernel
  have confAck_ne : CONF_ACK_TYPE ≠ ConfirmPacket.TYPE_ONE := by decide +kernel
  rcases ZRTPSocket.negotiate_ok _ s s' i hstep with ⟨d, _, _, _, hhandled⟩ | ⟨hidle, _, _⟩
  · cases hhandled with
    | hello hstate _ hrun =>
        rcases handleHello_ok hrun with ⟨_, _, rfl⟩
        have hheader := HandshakePacket.create_header HELLO_ACK_TYPE 12
          s.role.includeLegacyHeaderBug length_HELLO_ACK_TYPE (by decide)
        exact .answered 0 _ (congrArg some hstate.symm) rfl rfl
          ⟨⟨_, .of_header hheader (by decide) (by decide) ack_ne, hheader.getType_eq (by decide),
            rfl, rfl⟩, fun _ hm => hm⟩
    | helloAck _ _ hrun => simp only [handlers, Java.raise, reduceCtorEq] at hrun
    | commit hstate _ hrun =>
        rcases handleCommit_next hrun with ⟨_, _, localDH, rfl⟩
        rcases hlocal'.committed localDH rfl with ⟨_, _, t, _, _, _, hmade⟩
        have hlen := t.dhLength_eq
        have hpvr := t.pvrLength_le
        exact .answered 1 _ (congrArg some hstate.symm) rfl rfl
          ⟨⟨_, .of_header hmade.header (by omega) (by omega) dh_ne,
            hmade.header.getType_eq (by omega), rfl, rfl⟩, fun _ hm => hm⟩
    | dhOne hstate _ _ => exact absurd hstate hlocal.states
    | dhTwo hstate _ hrun =>
        have hunkeyed := hlocal.unkeyed (Or.inr (Or.inr hstate))
        rcases handleDH_ok hrun with ⟨_, ms, _, legacyConfirm, _, _, _, rfl⟩
        have hmade := ConfirmPacket.create_made C ConfirmPacket.TYPE_ONE ms.macR ms.zrtpKeyR
          (cfg.hashChain C) (ConfirmPacket.iv legacyConfirm cfg.confirmIv)
          s.role.includeLegacyHeaderBug ConfirmPacket.length_TYPE_ONE cfg.h0_length
          (ConfirmPacket.length_iv legacyConfirm _ cfg.confirmIv_length)
        -- The Confirm1 is made under the keys that are derived here.
        refine .answered 2 _ (congrArg some hstate.symm) rfl rfl
          ⟨⟨_, ⟨sendable_of_header hmade.header (by decide) (by decide), fun _ => ?_⟩,
            hmade.header.getType_eq (by decide), rfl, rfl⟩, fun m hm => ?_⟩
        · exact ⟨ms, _, _, rfl, hmade⟩
        · exact absurd (hunkeyed.symm.trans hm) (Option.some_ne_none m).symm
    | confirmOne _ _ hrun => simp only [handlers, reduceCtorEq] at hrun
    | confirmTwo hstate _ hrun =>
        rcases handleConfirmTwo_next hrun with ⟨_, _, rfl⟩
        have hheader := HandshakePacket.create_header CONF_ACK_TYPE 12
          s.role.includeLegacyHeaderBug length_CONF_ACK_TYPE (by decide)
        exact .answered 3 _ (congrArg some hstate.symm) rfl rfl
          ⟨⟨_, .of_header hheader (by decide) (by decide) confAck_ne,
            hheader.getType_eq (by decide), rfl, rfl⟩, fun _ hm => hm⟩
    | confirmAck _ _ hrun => simp only [handlers, Java.raise, reduceCtorEq] at hrun
  · exact .stayed hidle

theorem supplied_step (hlocal : Local C cfg s) (h : Supplied C (confirmSeal C cfg) path entry s)
    (i : Input) (hstep : step C cfg s i = .ok s') : Supplied C (confirmSeal C cfg) path entry s' :=
  h.posting (by decide) (by decide) (posting_step hlocal i hstep)

/-- The retained secrets are what the cache had for the peer, and nothing is
    stored in it before the end. -/
structure Drawn (C : Crypto) (cfg : Config) (database : RetainedSecretsDatabase)
    (s : ZRTPResponderSocket) : Prop where
  early : s.state = .expectingHello → s.role.retainedSecrets = none
  unstored : s.Over ∨ s.database = database
  drawn : ∀ a, s.role.retainedSecrets = some a → ∃ hello zid now,
    s.role.foreignHello = some hello ∧ HelloPacket.getZID hello = .ok zid ∧
    database.getRetainedSecrets cfg.platform cfg.remoteNumber zid now = .ok a
  stored : s.state = .handshakeComplete → ∃ m a hello d, s.masterSecret = some m ∧
    s.role.retainedSecrets = some a ∧ s.role.foreignHello = some hello ∧
    s.role.foreignDH = some d ∧ Retains C .responder cfg database m a hello d s.database

theorem drawn_start (database : RetainedSecretsDatabase) (legacy : Bool) (now : Int) :
    Drawn C cfg database (start C cfg database legacy now) :=
  ⟨fun _ => rfl, Or.inr rfl, fun a ha => absurd ha (Option.some_ne_none a).symm,
    fun hs => State.noConfusion hs⟩

/-- An iteration that leaves the Hello, the retained secrets and the cache. -/
theorem Drawn.same {database : RetainedSecretsDatabase} (h : Drawn C cfg database s)
    (hhello : s'.role.foreignHello = s.role.foreignHello)
    (hsecrets : s'.role.retainedSecrets = s.role.retainedSecrets)
    (hdatabase : s'.database = s.database) (hover : ¬ s.Over)
    (hearly : s'.state ≠ .expectingHello) (hstate : s'.state ≠ .handshakeComplete) :
    Drawn C cfg database s' := by
  refine ⟨fun hs => absurd hs hearly, Or.inr (hdatabase.trans (h.unstored.resolve_left hover)), ?_,
    fun hs => absurd hs hstate⟩
  rw [hsecrets, hhello]
  exact h.drawn

/-- An iteration without a handler. -/
theorem Drawn.idle {database : RetainedSecretsDatabase} (h : Drawn C cfg database s)
    (hidle : ZRTPSocket.Idle s s') : Drawn C cfg database s' := by
  refine ⟨fun hs => ?_, ?_, ?_, fun hs => ?_⟩
  · rw [hidle.role_eq]
    rcases hidle.state_eq with hstate | hstate
    · exact h.early (hstate.symm.trans hs)
    · exact State.noConfusion (hstate.symm.trans hs)
  · rw [hidle.database_eq]
    exact h.unstored.imp_left (ZRTPSocket.over_of_idle hidle)
  · rw [hidle.role_eq]
    exact h.drawn
  · rw [hidle.role_eq, hidle.masterSecret_eq, hidle.database_eq]
    rcases hidle.state_eq with hstate | hstate
    · exact h.stored (hstate.symm.trans hs)
    · exact State.noConfusion (hstate.symm.trans hs)

/-- What a responder that takes the Confirm2 stores. -/
theorem handleConfirmTwo_stored {c : Clock} {packet : HandshakePacket}
    (hrun : handleConfirmTwo C cfg c packet s = .ok s') :
    s'.role = s.role ∧ s'.masterSecret = s.masterSecret ∧ s'.state = .handshakeComplete ∧
      ∃ m a hello d, s.masterSecret = some m ∧ s.role.retainedSecrets = some a ∧
        s.role.foreignHello = some hello ∧ s.role.foreignDH = some d ∧
        Retains C .responder cfg s.database m a hello d s'.database := by
  simp only [handleConfirmTwo, Java.bind_ok, Java.orNull_ok, Except.ok.injEq] at hrun
  rcases hrun with ⟨hello, hhello, _, _, m, hm, _, _, buf, _, _, _, d, hd, _, _, a, ha, rs1, hrs1,
    rs2, hrs2, continuity, hcontinuity, zid, hzid, cacheTime, hcache, rfl⟩
  exact ⟨rfl, rfl, rfl, m, a, hello, d, hm, ha, hhello, hd, zid, rs1, rs2, continuity, cacheTime,
    c.expiration, c.store, hzid, hrs1, hrs2, hcontinuity, getCacheTime_lt hcache, rfl⟩

theorem drawn_step {database : RetainedSecretsDatabase} (h : Drawn C cfg database s) (i : Input)
    (hstep : step C cfg s i = .ok s') : Drawn C cfg database s' := by
  rcases ZRTPSocket.negotiate_ok _ s s' i hstep with ⟨d, _, hover, _, hhandled⟩ | ⟨hidle, _, _⟩
  · cases hhandled with
    | hello hstate _ hrun =>
        -- Another Hello is no trouble, as nothing has been looked up yet.
        have hnone := h.early hstate
        rcases handleHello_ok hrun with ⟨_, _, rfl⟩
        refine ⟨fun hs => State.noConfusion hs, Or.inr (h.unstored.resolve_left hover),
          fun a ha => ?_, fun hs => State.noConfusion hs⟩
        exact absurd (hnone.symm.trans ha) (Option.some_ne_none a).symm
    | helloAck _ _ hrun => simp only [handlers, Java.raise, reduceCtorEq] at hrun
    | commit _ _ hrun =>
        rcases handleCommit_ok hrun with
          ⟨_, hello, zid, secrets, _, _, _, _, _, hhello, hzid, hread, _, _, _, _, _, rfl⟩
        have hdatabase := h.unstored.resolve_left hover
        refine ⟨fun hs => State.noConfusion hs, Or.inr hdatabase,
          fun a ha => ⟨hello, zid, i.clock.retrieve, hhello, hzid, ?_⟩,
          fun hs => State.noConfusion hs⟩
        rw [← hdatabase, ← Option.some.inj ha]
        exact hread
    | dhOne _ _ hrun =>
        rcases handleDH_next hrun with ⟨_, _, _, rfl⟩
        exact h.same rfl rfl rfl hover (fun hs => State.noConfusion hs)
          (fun hs => State.noConfusion hs)
    | dhTwo _ _ hrun =>
        rcases handleDH_next hrun with ⟨_, _, _, rfl⟩
        exact h.same rfl rfl rfl hover (fun hs => State.noConfusion hs)
          (fun hs => State.noConfusion hs)
    | confirmOne _ _ hrun => simp only [handlers, reduceCtorEq] at hrun
    | confirmTwo _ _ hrun =>
        have hdatabase : s.database = database := h.unstored.resolve_left hover
        rcases handleConfirmTwo_stored hrun with ⟨hrole, hsecret, hstate, m, a, hello, dh, hm, ha,
          hhello, hdh, hstored⟩
        refine ⟨fun hs => ?_, Or.inl (Or.inl hstate), ?_, fun _ => ?_⟩
        · exact State.noConfusion (hstate.symm.trans hs)
        · rw [hrole]
          exact h.drawn
        · rw [hrole, hsecret, ← hdatabase]
          exact ⟨m, a, hello, dh, hm, ha, hhello, hdh, hstored⟩
    | confirmAck _ _ hrun => simp only [handlers, Java.raise, reduceCtorEq] at hrun
  · exact h.idle hidle

end ZRTPResponderSocket

end RedPhone
