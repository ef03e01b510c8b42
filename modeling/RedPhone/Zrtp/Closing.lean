import RedPhone.Zrtp.Parties
import RedPhone.Zrtp.Undisturbed

/-!
# Closing a Negotiation

`close` writes `TERMINATED` and closes the datagram socket, from another
thread. That this is the end of the negotiation is what the loops are written
for: their conditions and their `catch` clauses ask for `TERMINATED`, and a
datagram socket that is closed fails in silence.

There are two ways in which closing is not final. A handler writes the state as
well, and does not look at it before, so a `close` that falls between the
loop's look at the state and the handler's `setState` is undone by it. And the
loop that `close` wakes from receiving looks at the clock before it looks at the
state: where a retransmission has fallen due it begins to send a packet, on a
socket that was closed before.

What has begun to be sent is counted from the statement on that sends it. So a
packet that is about to be sent when `close` returns is the one in progress,
and a packet that is only found to be due afterwards is another one.

## Main definitions

* `Overwrites`: The step that undoes a `close`.
* `Resends`: The step that finds a retransmission due after it.
* `begun`: How many packets have begun to be sent.
* `Final`: Closing is final in a run.

## Theorems

* `closed_step`: What a statement does once the socket is closed.
* `final_iff`: Closing is final when there are no such steps.
* `close_final_iff`: The same for both roles.
* `close_overwritten`: A Hello that undoes a `close`.
* `close_resent`: A Hello that is sent again after one.
-/

namespace RedPhone

open HandshakePacket Interleaving

/-- There is a packet to be sent again, and the threshold is not reached. -/
def ZRTPSocket.CanResend {ρ : Type} (s : ZRTPSocket ρ) : Prop :=
  s.lastPacket.isSome = true ∧ s.retransmitCount ≤ MAX_RETRANSMIT_COUNT

instance {ρ : Type} (s : ZRTPSocket ρ) : Decidable s.CanResend :=
  inferInstanceAs (Decidable (_ ∧ _))

namespace Negotiation

variable {ρ : Type} {P : Party ρ} {m m' : Negotiation ρ}

/-- A handler's `setState` that finds the socket terminated. -/
def Overwrites (m : Negotiation ρ) : Turn → Prop
  | .thread _ => m.socket.state = .terminated ∧ ∃ l handled store, m.pc = .setState l handled store
  | .finish => False
  | .close => False

/-- A retransmission that falls due when `close` has returned, in the iteration
    whose receiving it ended. A packet whose type cannot be read throws before
    the clock is asked. -/
def Resends (m : Negotiation ρ) : Turn → Prop
  | .thread i => m.closer = .returned ∧
    (∃ l packet, m.pc = .dispatch l packet ∧
      ∀ p, packet = some p → ∃ type, p.getType = .ok type) ∧
    m.socket.isRetransmitTime i.clock.timeoutCheck = true ∧ m.socket.CanResend
  | .finish => False
  | .close => False

/-- What is left of `negotiateFinish` and of what comes before it, from the
    condition of a loop on that is not entered again. -/
def behind : Loop → Nat
  | .start => 5
  | .finish => 3

/-- How many statements the negotiation thread has to go when the socket is
    closed. -/
def statementsLeft : Pc ρ → Nat
  | .greet => 6
  | .test l => behind l
  | .testTerminated => 2
  | .argument => 7
  | .receive l _ => behind l + 3
  | .dispatch l _ => behind l + 2
  | .setState l _ _ => behind l + 3
  | .send l _ _ => behind l + 2
  | .store l _ => behind l + 1
  | .resend l => behind l + 1
  | .caught l _ => behind l
  | .epilogue => 1
  | .returned .start => 4
  | .returned .finish => 0
  | .threw _ => 0

theorem behind_bounds (l : Loop) : 3 ≤ behind l ∧ behind l ≤ 5 := by
  cases l with
  | start => exact ⟨by decide, by decide⟩
  | finish => exact ⟨by decide, by decide⟩

theorem statementsLeft_le (pc : Pc ρ) : statementsLeft pc ≤ 8 := by
  have hbehind := behind_bounds
  cases pc with
  | returned l =>
      cases l with
      | start => exact Nat.le_of_ble_eq_true rfl
      | finish => exact Nat.zero_le 8
  | test l => exact Nat.le_trans (hbehind l).2 (by decide)
  | caught l e => exact Nat.le_trans (hbehind l).2 (by decide)
  | receive l verifyCRC => exact Nat.add_le_add_right (hbehind l).2 3
  | setState l handled store => exact Nat.add_le_add_right (hbehind l).2 3
  | dispatch l packet => exact Nat.le_trans (Nat.add_le_add_right (hbehind l).2 2) (by decide)
  | send l handled store => exact Nat.le_trans (Nat.add_le_add_right (hbehind l).2 2) (by decide)
  | store l packet => exact Nat.le_trans (Nat.add_le_add_right (hbehind l).2 1) (by decide)
  | resend l => exact Nat.le_trans (Nat.add_le_add_right (hbehind l).2 1) (by decide)
  | _ => exact Nat.le_of_ble_eq_true rfl

/-- The packet that is in progress: the thread is at the statement that sends
    it, and there is something to send. -/
def sending (P : Party ρ) (m : Negotiation ρ) : Nat :=
  match m.pc with
  | .greet => if (P.greeting m.socket).isSome then 1 else 0
  | .send _ handled _ => if handled.sequence = m.socket.sequence then 0 else 1
  | .resend _ => if m.socket.CanResend then 1 else 0
  | _ => 0

/-- The packets that have begun to be sent. -/
def begun (P : Party ρ) (m : Negotiation ρ) : Nat := m.sends + sending P m

/-- `close` has returned, and nothing has undone it. -/
def Closed (m : Negotiation ρ) : Prop :=
  m.closer = .returned ∧ m.closed = true ∧ m.socket.state = .terminated

/-- The negotiation thread is out of its loops. -/
def Out (m : Negotiation ρ) : Prop :=
  (∃ l, m.pc = .returned l) ∨ ∃ e, m.pc = .threw e

/-- Closing is final. In every state after it has returned, the state of the
    socket is `TERMINATED` and no packet has begun to be sent that had not
    before, and the negotiation thread goes on until it is out of the loops,
    which takes it no more than eight statements. -/
def Final (P : Party ρ) (start : Negotiation ρ) (is : List Turn) : Prop :=
  ∀ pre post later s t, is = pre ++ (post ++ later) → Run.run (step P) start pre = .ok s →
    s.closer = .returned → Run.run (step P) s post = .ok t →
      t.socket.state = .terminated ∧ begun P t ≤ begun P s ∧ post.length ≤ 8 ∧
      (Out t ∨ ∀ i, ∃ t', t.thread P i = .ok t')

/-! ## Once the socket is closed -/

theorem goto_begun_le {pc : Pc ρ} (h : sending P (m.goto pc) ≤ sending P m) :
    begun P (m.goto pc) ≤ begun P m :=
  Nat.add_le_add_left h m.sends

/-- The places a thread goes through are fewer and fewer. -/
theorem passes_left {s : ZRTPSocket ρ} {closed : Bool} {c : Clock} {q pc : Pc ρ}
    (hclosed : closed = true) (hstate : s.state = .terminated) (h : Passes s closed c q pc) :
    statementsLeft pc + 1 ≤ statementsLeft q := by
  cases h with
  | entered h =>
      rw [hstate] at h
      exact absurd h nofun
  | complete h =>
      rw [hstate] at h
      exact absurd h nofun
  | going h => exact absurd hstate h
  | receiveFailed l verifyCRC e h =>
      rw [hclosed] at h
      exact absurd h nofun
  | thrown l e e' =>
      have hleft : 1 ≤ behind l := Nat.le_trans (by decide) (behind_bounds l).1
      exact hleft
  | notDue l packet h => exact Nat.le_succ _
  | dispatchFailed l packet e => exact Nat.le_succ _
  | nothing l verifyCRC => exact Nat.le_refl _
  | due l packet h => exact Nat.le_refl _
  | storeFailed l packet e => exact Nat.le_refl _
  | resendFailed l e => exact Nat.le_refl _
  | _ => exact Nat.le_of_ble_eq_true rfl

/-- Nothing begins to be sent where the thread only looks, but where it finds a
    retransmission due. -/
theorem passes_sending {c : Clock} {pc : Pc ρ} (h : Passes m.socket m.closed c m.pc pc) :
    sending P (m.goto pc) ≤ sending P m ∨
      (∃ l packet, m.pc = .dispatch l packet ∧ pc = .resend l) ∧
        m.socket.isRetransmitTime c.timeoutCheck = true ∧ m.socket.CanResend := by
  have hnothing (hpc : sending P (m.goto pc) = 0) : sending P (m.goto pc) ≤ sending P m :=
    hpc ▸ Nat.zero_le _
  generalize hq : m.pc = q at h
  cases h with
  | due l packet hdue =>
      by_cases hcan : m.socket.CanResend
      · exact Or.inr ⟨⟨l, packet, rfl, rfl⟩, hdue, hcan⟩
      · exact Or.inl (hnothing (if_neg hcan))
  | notDue l packet hdue => exact Or.inl (hnothing rfl)
  | _ => exact Or.inl (hnothing rfl)

theorem sendAs_count_le (m : Negotiation ρ) (s : ZRTPSocket ρ) :
    (if s.sequence = m.socket.sequence then 0 else 1) ≤ 1 := by
  split
  · exact Nat.zero_le 1
  · exact Nat.le_refl 1

/-- A socket that cannot send again what it has sent takes no number for it. -/
theorem resendPacket_sequence {s s' : ZRTPSocket ρ} {now : Int} (hcan : ¬ s.CanResend)
    (h : s.resendPacket now = .ok s') : s'.sequence = s.sequence := by
  unfold ZRTPSocket.resendPacket at h
  by_cases hcount : s.retransmitCount > MAX_RETRANSMIT_COUNT
  · rw [if_pos hcount] at h
    cases hlast : s.lastPacket with
    | none => simp only [hlast, reduceCtorEq] at h
    | some packet => simp only [hlast, reduceCtorEq] at h
  · rw [if_neg hcount, Except.ok.injEq] at h
    cases hlast : s.lastPacket with
    | none =>
        rw [← h, hlast]
        rfl
    | some packet => exact absurd ⟨hlast ▸ rfl, Nat.le_of_not_gt hcount⟩ hcan

/-- The greeting that is sent is the one that was about to be. -/
theorem greet_begun {i : Input} (hpc : m.pc = .greet) (h : m.thread P i = .ok m') :
    begun P m' ≤ begun P m := by
  unfold thread at h
  rw [hpc] at h
  simp only [] at h
  unfold begun sending
  cases hgreeting : P.greeting m.socket with
  | none =>
      rw [hgreeting, Except.ok.injEq] at h
      rw [← h]
      exact Nat.le_add_right _ _
  | some packet =>
      rw [hgreeting, Except.ok.injEq] at h
      rw [← h, hpc]
      exact Nat.add_le_add_left (sendAs_count_le m _) _

/-- So is the packet that is sent again, if there is one. -/
theorem resend_begun {i : Input} {l : Loop} (hpc : m.pc = .resend l)
    (h : m.thread P i = .ok m') : begun P m' ≤ begun P m := by
  unfold thread at h
  rw [hpc] at h
  simp only [] at h
  unfold begun sending
  by_cases hcan : m.socket.CanResend
  · cases hresend : m.socket.resendPacket i.clock.transmit with
    | error e =>
        rw [hresend, Except.ok.injEq] at h
        rw [← h]
        exact Nat.le_add_right _ _
    | ok s =>
        rw [hresend, Except.ok.injEq] at h
        rw [← h, hpc, if_pos hcan]
        exact Nat.add_le_add_left (sendAs_count_le m s) _
  · cases hresend : m.socket.resendPacket i.clock.transmit with
    | error e =>
        rw [hresend, Except.ok.injEq] at h
        rw [← h]
        exact Nat.le_add_right _ _
    | ok s =>
        -- Without a packet nothing takes a number.
        rw [hresend, Except.ok.injEq] at h
        have hsame : s.sequence = m.socket.sequence := resendPacket_sequence hcan hresend
        rw [← h, goto, sendAs, hsame, if_pos rfl]
        exact Nat.le_add_right _ _

/-- A packet whose type cannot be read is not followed by a retransmission. -/
theorem resend_typed {i : Input} {l : Loop} {packet : Option HandshakePacket}
    (hpc : m.pc = .dispatch l packet) (h : m.thread P i = .ok (m.goto (.resend l))) :
    ∀ p, packet = some p → ∃ type, p.getType = .ok type := by
  rintro p rfl
  unfold thread at h
  rw [hpc] at h
  cases htype : p.getType with
  | ok type => exact ⟨type, rfl⟩
  | error e => simp only [htype, Except.ok.injEq, goto, Negotiation.mk.injEq, reduceCtorEq,
      and_false, false_and] at h

/-- Where no retransmission falls due nothing begins to be sent. -/
theorem begun_thread {i : Input} (hm : Closed m) (hno : ¬ Overwrites m (.thread i))
    (hquiet : ¬ Resends m (.thread i)) (h : m.thread P i = .ok m') : begun P m' ≤ begun P m := by
  rcases hm with ⟨hcloser, hclosed, hstate⟩
  cases does_of_thread h with
  | passes pc hpasses =>
      rcases passes_sending hpasses with hsending | ⟨⟨l, packet, hpc, rfl⟩, hdue, hcan⟩
      · exact goto_begun_le hsending
      · exact absurd ⟨hcloser, ⟨l, packet, hpc, resend_typed hpc h⟩, hdue, hcan⟩ hquiet
  | sends l s hpc hsecret =>
      rcases hpc with ⟨hpc, -⟩ | hpc
      · exact greet_begun hpc h
      · exact resend_begun hpc h
  | receives l verifyCRC buf packet hpc hopen =>
      rw [hclosed] at hopen
      exact absurd hopen nofun
  | handles l packet type handle handled store hpc hhandle hrun =>
      -- A terminated socket has no handler.
      rw [hstate] at hhandle
      exact absurd hhandle nofun
  | setsState l handled store hpc => exact absurd ⟨hstate, l, handled, store, hpc⟩ hno
  | answers l handled store hpc =>
      have hsent : sending P ((m.sendAs handled).goto (Pc.sent l store)) = 0 := by
        cases store with
        | none => rfl
        | some packet => rfl
      unfold begun
      rw [hsent, sending, hpc]
      exact Nat.le_refl _
  | stores l packet database hpc => exact Nat.le_add_right _ _

/-- What a statement does once the socket is closed. -/
structure Winds (P : Party ρ) (m m' : Negotiation ρ) (turn : Turn) : Prop where
  closed : Closed m'
  left : statementsLeft m'.pc + 1 ≤ statementsLeft m.pc
  begun : ¬ Resends m turn → begun P m' ≤ begun P m

theorem winds_thread {i : Input} (hm : Closed m) (hno : ¬ Overwrites m (.thread i))
    (h : m.thread P i = .ok m') : Winds P m m' (.thread i) := by
  refine ⟨?_, ?_, fun hquiet => begun_thread hm hno hquiet h⟩
  · rcases thread_shared h with ⟨hclosed, hcloser, hstate | ⟨l, handled, store, hpc, -⟩⟩
    · exact ⟨hcloser.trans hm.1, hclosed.trans hm.2.1, hstate.trans hm.2.2⟩
    · exact absurd ⟨hm.2.2, l, handled, store, hpc⟩ hno
  · rcases hm with ⟨-, hclosed, hstate⟩
    cases does_of_thread h with
    | passes pc hpasses => exact passes_left hclosed hstate hpasses
    | sends l s hpc hsecret =>
        rcases hpc with ⟨hpc, rfl⟩ | hpc
        · rw [hpc]
          exact Nat.le_refl _
        · rw [hpc]
          exact Nat.le_refl _
    | receives l verifyCRC buf packet hpc hopen =>
        rw [hclosed] at hopen
        exact absurd hopen nofun
    | handles l packet type handle handled store hpc hhandle hrun =>
        rw [hstate] at hhandle
        exact absurd hhandle nofun
    | setsState l handled store hpc => exact absurd ⟨hstate, l, handled, store, hpc⟩ hno
    | answers l handled store hpc =>
        have hsent : statementsLeft (Pc.sent l store : Pc ρ) ≤ behind l + 1 := by
          cases store with
          | none => exact Nat.le_succ _
          | some packet => exact Nat.le_refl _
        rw [hpc]
        exact Nat.add_le_add_right hsent 1
    | stores l packet database hpc =>
        rw [hpc]
        exact Nat.le_refl _

theorem step_finish (h : m.step P .finish = .ok m') :
    m.pc = .returned .start ∧ m' = m.goto (.test .finish) := by
  unfold step at h
  simp only [] at h
  split at h
  · rename_i hpc
    exact ⟨hpc, (Except.ok.inj h).symm⟩
  · simp only [reduceCtorEq] at h

/-- Once the socket is closed, each statement brings the thread nearer to the
    end of the negotiation. -/
theorem closed_step {turn : Turn} (hm : Closed m) (hno : ¬ Overwrites m turn)
    (h : m.step P turn = .ok m') : Winds P m m' turn := by
  cases turn with
  | thread i => exact winds_thread hm hno h
  | finish =>
      rcases step_finish h with ⟨hpc, rfl⟩
      refine ⟨hm, ?_, fun _ => Nat.le_add_right _ _⟩
      rw [hpc]
      exact Nat.le_refl _
  | close =>
      have hblocked : m.step P .close = .error .blocked := by
        unfold step close
        rw [hm.1]
      rw [hblocked] at h
      exact absurd h nofun

/-! ## Runs -/

theorem closed_run {post : List Turn} {s t : Negotiation ρ} (hs : Closed s)
    (hmeets : Meets (step P) (fun m turn => ¬ Overwrites m turn ∧ ¬ Resends m turn) s post)
    (hrun : Run.run (step P) s post = .ok t) :
    Closed t ∧ begun P t ≤ begun P s ∧ post.length ≤ 8 := by
  have hkept := kept_of_meets (Q := fun m => Closed m ∧ begun P m ≤ begun P s)
    (fun m turn m' hm hno hstep => by
      have hwinds := closed_step hm.1 hno.1 hstep
      exact ⟨hwinds.closed, Nat.le_trans (hwinds.begun hno.2) hm.2⟩) ⟨hs, Nat.le_refl _⟩ hmeets hrun
  have hbound := bounded_of_meets (Q := Closed) (fun _ => true) (fun m => statementsLeft m.pc)
    (fun m turn m' hm hno hstep => by
      have hwinds := closed_step hm hno.1 hstep
      exact ⟨hwinds.closed, hwinds.left⟩) hs hmeets hrun
  rw [List.countP_true] at hbound
  have hleft := statementsLeft_le s.pc
  exact ⟨hkept.1, hkept.2, by omega⟩

/-- What `close` has done so far, nothing has undone. -/
def Kept (m : Negotiation ρ) : Prop :=
  Sound m ∧ (m.closer ≠ .idle → m.socket.state = .terminated)

theorem kept_step {turn : Turn} (hm : Kept m) (hno : ¬ Overwrites m turn)
    (h : m.step P turn = .ok m') : Kept m' := by
  refine ⟨sound_step hm.1 h, ?_⟩
  cases turn with
  | thread i =>
      -- The thread writes a state only after a handler, and then it overwrites
      -- the one of the closer.
      rcases thread_shared h with ⟨_, hcloser, hstate | ⟨l, handled, store, hpc, _⟩⟩
      · rw [hcloser, hstate]
        exact hm.2
      · rw [hcloser]
        intro hbegun
        exact absurd ⟨hm.2 hbegun, l, handled, store, hpc⟩ hno
  | finish =>
      rcases step_finish h with ⟨_, rfl⟩
      exact hm.2
  | close =>
      intro _
      unfold step close at h
      cases hcloser : m.closer with
      | idle =>
          simp only [hcloser, Except.ok.injEq] at h
          rw [← h]
      | closing =>
          simp only [hcloser, Except.ok.injEq] at h
          rw [← h]
          exact hm.2 (by rw [hcloser]; exact nofun)
      | returned => simp only [hcloser, reduceCtorEq] at h

/-- Once a `close` is undone, it remains so: the state is written by handlers
    from then on, and they do not write `TERMINATED`. -/
theorem undone_step {turn : Turn} (hm : Sound m ∧ m.closer ≠ .idle ∧ m.socket.state ≠ .terminated)
    (h : m.step P turn = .ok m') :
    Sound m' ∧ m'.closer ≠ .idle ∧ m'.socket.state ≠ .terminated := by
  rcases hm with ⟨hsound, hbegun, hstate⟩
  refine ⟨sound_step hsound h, ?_⟩
  cases turn with
  | thread i =>
      rcases thread_shared h with ⟨_, hcloser, hsame | ⟨l, handled, store, hpc, hset⟩⟩
      · rw [hcloser, hsame]
        exact ⟨hbegun, hstate⟩
      · rw [hcloser, hset]
        exact ⟨hbegun, (hsound.handled l handled store (Or.inl hpc)).1.1⟩
  | finish =>
      rcases step_finish h with ⟨_, rfl⟩
      exact ⟨hbegun, hstate⟩
  | close =>
      unfold step close at h
      cases hcloser : m.closer with
      | idle => exact absurd hcloser hbegun
      | closing =>
          simp only [hcloser, Except.ok.injEq] at h
          rw [← h]
          exact ⟨nofun, hstate⟩
      | returned => simp only [hcloser, reduceCtorEq] at h

/-- The step that overwrites undoes the `close`. -/
theorem undone_of_overwrites {turn : Turn} (hm : Sound m) (hover : Overwrites m turn)
    (h : m.step P turn = .ok m') :
    Sound m' ∧ m'.closer ≠ .idle ∧ m'.socket.state ≠ .terminated := by
  cases turn with
  | finish => exact absurd hover id
  | close => exact absurd hover id
  | thread i =>
      rcases hover with ⟨hstate, l, handled, store, hpc⟩
      have hset : m.step P (.thread i) = .ok { m with
          socket := { m.socket with state := handled.state }, pc := .send l handled store } := by
        unfold step thread
        rw [hpc]
      rw [hset, Except.ok.injEq] at h
      refine ⟨sound_step hm (hset.trans (congrArg Except.ok h)), ?_⟩
      rw [← h]
      exact ⟨hm.terminated hstate, (hm.handled l handled store (Or.inl hpc)).1.1⟩

variable {s₀ : ZRTPSocket ρ} {is : List Turn}

theorem closed_of_meets {pre post : List Turn} {s : Negotiation ρ} (hover : ¬ s₀.Over)
    (hmeets : Meets (step P) (fun m turn => ¬ Overwrites m turn ∧ ¬ Resends m turn) (create s₀)
      (pre ++ post))
    (hpre : Run.run (step P) (create s₀) pre = .ok s) (hreturned : s.closer = .returned) :
    Closed s := by
  have hkept := kept_of_meets (Q := Kept) (fun m turn m' hm hno hstep => kept_step hm hno.1 hstep)
    ⟨sound_create s₀ hover, fun h => absurd rfl h⟩ (meets_append hpre hmeets).1 hpre
  refine ⟨hreturned, hkept.1.closed hreturned, hkept.2 ?_⟩
  rw [hreturned]
  exact nofun

/-- A step that finds a retransmission due begins to send a packet. -/
theorem begun_of_resends {turn : Turn} (hstate : m.socket.state = .terminated)
    (hresends : Resends m turn) (h : m.step P turn = .ok m') :
    begun P m' = begun P m + 1 := by
  cases turn with
  | finish => exact absurd hresends id
  | close => exact absurd hresends id
  | thread i =>
      rcases hresends with ⟨-, ⟨l, packet, hpc, htyped⟩, hdue, hcan⟩
      have hresend : m.step P (.thread i) = .ok (m.goto (.resend l)) := by
        unfold step thread
        rw [hpc]
        cases packet with
        | none => simp only [hdue, if_true]
        | some p =>
            rcases htyped p rfl with ⟨type, htype⟩
            -- A terminated socket has no handler for the packet.
            have hnone : ZRTPSocket.handlerIn P.handlers l m.socket.state type = none := by
              rw [hstate]
              cases l with
              | start => rfl
              | finish => rfl
            simp only [htype, choose, hnone, hdue, if_true]
      rw [hresend, Except.ok.injEq] at h
      rw [← h]
      unfold begun sending
      rw [hpc]
      exact congrArg (m.sends + ·) (if_pos hcan)

/-- In a run at whose end `close` has returned, closing is final exactly when
    no handler has overwritten what it wrote, and no retransmission has fallen
    due behind it. -/
theorem final_iff {t : Negotiation ρ} (hover : ¬ s₀.Over)
    (hrun : Run.run (step P) (create s₀) is = .ok t) (hreturned : t.closer = .returned) :
    Final P (create s₀) is ↔
      Meets (step P) (fun m turn => ¬ Overwrites m turn ∧ ¬ Resends m turn) (create s₀) is := by
  constructor
  · intro hfinal pre turn post u hsplit hpre
    have hsound : Sound u :=
      invariant Sound (sound_create s₀ hover) (fun m turn m' hm hstep => sound_step hm hstep) hpre
    have hwhole := hrun
    rw [hsplit, run_append_ok] at hwhole
    rcases hwhole with ⟨u', hpre', hrest⟩
    rw [hpre, Except.ok.injEq] at hpre'
    subst hpre'
    rcases (Run.run_cons _ _ _ _ _).mp hrest with ⟨v, hstep, hpost⟩
    constructor
    · intro hoverwrites
      -- From such a step on the state is not terminated again.
      have hundone := invariant (fun m : Negotiation ρ => Sound m ∧ m.closer ≠ .idle ∧
        m.socket.state ≠ .terminated) (undone_of_overwrites hsound hoverwrites hstep)
        (fun m turn m' hm hstep => undone_step hm hstep) hpost
      exact hundone.2.2 (hfinal is [] [] t t (List.append_nil is).symm hrun hreturned rfl).1
    · intro hresends
      -- The step alone begins to send one packet more.
      have hclosed : u.closer = .returned := by
        cases turn with
        | thread i => exact hresends.1
        | finish => exact absurd hresends id
        | close => exact absurd hresends id
      have hone : Run.run (step P) u [turn] = .ok v :=
        (Run.run_cons _ _ _ _ _).mpr ⟨v, hstep, rfl⟩
      have hstate := (hfinal pre [] (turn :: post) u u hsplit hpre hclosed rfl).1
      have hbegun := (hfinal pre [turn] post u v hsplit hpre hclosed hone).2.1
      rw [begun_of_resends hstate hresends hstep] at hbegun
      exact Nat.not_succ_le_self _ hbegun
  · rintro hmeets pre post later s t rfl hpre hclosed hpost
    have hs := closed_of_meets hover hmeets hpre hclosed
    have hafter := (meets_append hpost (meets_append hpre hmeets).2).1
    rcases closed_run hs hafter hpost with ⟨ht, hbegun, hlength⟩
    refine ⟨ht.2.2, hbegun, hlength, ?_⟩
    -- The thread is out of its loops, or can go on with any input.
    by_cases hout : Out t
    · exact Or.inl hout
    · refine Or.inr (fun i => thread_of_closed P i ht.2.1 (fun l hl => hout (Or.inl ⟨l, hl⟩)) ?_)
      exact fun e he => hout (Or.inr ⟨e, he⟩)

/-- `close` does not go back. -/
theorem closer_step {turn : Turn} (hm : m.closer ≠ .idle) (h : m.step P turn = .ok m') :
    m'.closer ≠ .idle := by
  cases turn with
  | thread i =>
      rcases thread_shared h with ⟨-, hcloser, -⟩
      rw [hcloser]
      exact hm
  | finish =>
      rcases step_finish h with ⟨-, rfl⟩
      exact hm
  | close =>
      unfold step close at h
      cases hcloser : m.closer with
      | idle => exact absurd hcloser hm
      | closing =>
          simp only [hcloser, Except.ok.injEq] at h
          rw [← h]
          exact nofun
      | returned => simp only [hcloser, reduceCtorEq] at h

/-- Where `close` has not been called, nothing of it can be undone. -/
theorem meets_of_idle {t : Negotiation ρ} (hover : ¬ s₀.Over)
    (hrun : Run.run (step P) (create s₀) is = .ok t) (hidle : t.closer = .idle) :
    Meets (step P) (fun m turn => ¬ Overwrites m turn ∧ ¬ Resends m turn) (create s₀) is := by
  intro pre turn post u hsplit hpre
  have hsound : Sound u :=
    invariant Sound (sound_create s₀ hover) (fun m turn m' hm hstep => sound_step hm hstep) hpre
  rw [hsplit, run_append_ok] at hrun
  rcases hrun with ⟨u', hpre', hrest⟩
  rw [hpre, Except.ok.injEq] at hpre'
  subst hpre'
  have hbefore : u.closer = .idle := by
    by_contra hbegun
    exact invariant (fun m : Negotiation ρ => m.closer ≠ .idle) hbegun
      (fun m turn m' hm hstep => closer_step hm hstep) hrest hidle
  cases turn with
  | thread i =>
      refine ⟨fun hoverwrites => hsound.terminated hoverwrites.1 hbefore, fun hresends => ?_⟩
      exact absurd (hbefore.symm.trans hresends.1) (by decide)
  | finish => exact ⟨id, id⟩
  | close => exact ⟨id, id⟩

/-- The law of closing, for a run at whose end `close` has returned. -/
def ClosingLaw (P : Party ρ) (start : Negotiation ρ) (is : List Turn) : Prop :=
  ∀ t, Run.run (step P) start is = .ok t → t.closer = .returned →
    (Final P start is ↔
      Meets (step P) (fun m turn => ¬ Overwrites m turn ∧ ¬ Resends m turn) start is)

theorem closingLaw (P : Party ρ) (hover : ¬ s₀.Over) : ClosingLaw P (create s₀) is :=
  fun _ hrun hreturned => final_iff hover hrun hreturned

/-- Either role's negotiation, closed at any point, is closed for good exactly
    when no handler's `setState` has found the socket terminated and the loop
    that `close` woke has found no retransmission due. -/
theorem close_final_iff (C : Crypto) (cfg : Config) (database : RetainedSecretsDatabase)
    (includeLegacyHeaderBug : Bool) (is : List Turn) :
    ClosingLaw (initiator C cfg) (create (ZRTPInitiatorSocket.create database)) is ∧
    ClosingLaw (responder C cfg)
      (create (ZRTPResponderSocket.create C cfg database includeLegacyHeaderBug)) is := by
  constructor
  · refine closingLaw _ ?_
    rintro (hover | hover)
    · have hcomplete : State.expectingHello = .handshakeComplete := hover
      exact absurd hcomplete (by decide)
    · have hterminated : State.expectingHello = .terminated := hover
      exact absurd hterminated (by decide)
  · refine closingLaw _ ?_
    rintro (hover | hover)
    · have hcomplete : State.expectingHello = .handshakeComplete := hover
      exact absurd hcomplete (by decide)
    · have hterminated : State.expectingHello = .terminated := hover
      exact absurd hterminated (by decide)

/-! ## Runs of the initiator -/

/-- A statement of the negotiation thread at a time at which nothing arrives. -/
def statement (timeoutCheck : Int) : Turn := .thread ⟨.timeout, ⟨timeoutCheck, 0, 0, 0, 0⟩⟩

/-- The initiator receives a Hello, and its handler is about to write the
    state. -/
def hearing : List Turn :=
  [statement 0, statement 0,
    .thread ⟨.datagram ((Undisturbed.hello jce Undisturbed.callee false).wire 0).data,
      ⟨0, 0, 0, 0, 0⟩⟩,
    statement 0]

theorem run_hearing : ∃ m handled,
    Run.run (step (initiator jce Undisturbed.caller)) (create (ZRTPInitiatorSocket.create .empty))
      hearing = .ok m ∧ m.pc = .setState .start handled none ∧ m.closer = .idle ∧
      m.closed = false ∧ handled.state = .expectingHelloAck ∧ handled.transmitStartTime = 0 ∧
      handled.retransmitInterval = 150 ∧ handled.CanResend := by
  have hreceived := received_wire _ (Undisturbed.hello_sendable jce Undisturbed.callee false) 0
    (ZRTPInitiatorSocket.create .empty)
  have hcount := Undisturbed.callee.version.keyAgreements_count
  rw [(Undisturbed.hello_header jce Undisturbed.callee false).getType_eq (by omega)] at hreceived
  unfold hearing
  generalize ((Undisturbed.hello jce Undisturbed.callee false).wire 0).data = d at hreceived ⊢
  generalize hcreate : ZRTPInitiatorSocket.create .empty = s at hreceived ⊢
  have hstart : s.state = .expectingHello := by
    rw [← hcreate]
    rfl
  rcases hreceived with ⟨hcrc, htype, hcopy⟩
  -- What the handler leaves, in the state the loop hands the Hello to it.
  have hhandled : ∃ handled, ZRTPInitiatorSocket.handleHello jce Undisturbed.caller ⟨0, 0, 0, 0, 0⟩
      (s.received d) { s with buf := s.buf.receive d } = .ok handled ∧
      handled.state = .expectingHelloAck ∧ handled.transmitStartTime = 0 ∧
      handled.retransmitInterval = 150 ∧ handled.CanResend := by
    unfold ZRTPInitiatorSocket.handleHello
    rw [hcopy, Java.ok_bind]
    exact ⟨_, rfl, rfl, rfl, rfl, rfl, Nat.zero_le _⟩
  rcases hhandled with ⟨handled, hhandle, hleft⟩
  have hreceive : s.receiveHandshakePacket true d
      = .ok ({ s with buf := s.buf.receive d }, some (s.received d)) :=
    (ZRTPSocket.receiveHandshakePacket_ok _ _ _ _ _).mpr ⟨rfl, Or.inr ⟨rfl, Or.inl ⟨hcrc, rfl⟩⟩⟩
  have hhandler : ZRTPSocket.handlerIn (initiator jce Undisturbed.caller).handlers .start s.state
      HelloPacket.TYPE = some (ZRTPInitiatorSocket.handleHello jce Undisturbed.caller) := by
    simp only [ZRTPSocket.handlerIn, hstart, if_true, ZRTPSocket.handler]
    rfl
  refine ⟨⟨ZRTPSocket.adopt { s with buf := s.buf.receive d } handled, false,
    .setState .start handled none, .idle, 0⟩, handled, ?_, rfl, rfl, rfl, hleft⟩
  refine (Run.run_cons _ _ _ _ _).mpr ⟨⟨s, false, .test .start, .idle, 0⟩, rfl, ?_⟩
  refine (Run.run_cons _ _ _ _ _).mpr ⟨⟨s, false, .receive .start true, .idle, 0⟩, ?_, ?_⟩
  · simp only [step, statement, thread, hstart, if_true, goto]
  refine (Run.run_cons _ _ _ _ _).mpr ⟨⟨{ s with buf := s.buf.receive d }, false,
    .dispatch .start (some (s.received d)), .idle, 0⟩, ?_, ?_⟩
  · simp only [step, thread, hreceive, Bool.false_eq_true, if_false]
  refine (Run.run_cons _ _ _ _ _).mpr ⟨_, ?_, rfl⟩
  simp only [step, statement, thread, htype, choose, hhandler, hhandle]
  rw [if_neg (by rw [hstart]; decide)]

/-- The socket is closed before the handler of the Hello writes the state. -/
def undoing : List Turn := hearing ++ [.close, .close, statement 0]

/-- A Hello that is being handled when the socket is closed takes the state on
    to `EXPECTING_HELLO_ACK`. -/
theorem close_overwritten :
    ¬ Final (initiator jce Undisturbed.caller) (create (ZRTPInitiatorSocket.create .empty))
      undoing := by
  intro hfinal
  rcases run_hearing with ⟨m, handled, hrun, hpc, hcloser, -, hstate, -⟩
  have hundone : Run.run (step (initiator jce Undisturbed.caller)) m
      [.close, .close, statement 0] = .ok ⟨{ m.socket with state := handled.state }, true,
        .send .start handled none, .returned, m.sends⟩ := by
    simp only [Run.run, step, close, hcloser, statement, thread, hpc]
  have hwhole : Run.run (step (initiator jce Undisturbed.caller))
      (create (ZRTPInitiatorSocket.create .empty)) undoing = .ok _ :=
    run_append_ok.mpr ⟨m, hrun, hundone⟩
  have hends := (hfinal _ [] [] _ _ (List.append_nil _).symm hwhole rfl rfl).1
  rw [hstate] at hends
  exact absurd hends (by decide)

/-- The Hello has been answered, and `negotiateFinish` waits for a packet. -/
def waiting : List Turn :=
  hearing ++ [statement 0, statement 0, statement 0, .finish, statement 0, statement 0, statement 0]

theorem run_waiting : ∃ m,
    Run.run (step (initiator jce Undisturbed.caller)) (create (ZRTPInitiatorSocket.create .empty))
      waiting = .ok m ∧ m.pc = .receive .finish true ∧ m.closer = .idle ∧
      m.socket.transmitStartTime = 0 ∧ m.socket.retransmitInterval = 150 ∧
      m.socket.CanResend := by
  rcases run_hearing with ⟨m, handled, hrun, hpc, hcloser, hclosed, hstate, htime, hinterval, hcan⟩
  rcases m with ⟨s, closed, pc, closer, sends⟩
  simp only at hpc hcloser hclosed
  subst hpc hcloser hclosed
  have hnext : Run.run (step (initiator jce Undisturbed.caller))
      ⟨s, false, .setState .start handled none, .idle, sends⟩
      [statement 0, statement 0, statement 0, .finish, statement 0, statement 0, statement 0] =
      .ok (((⟨{ s with state := handled.state }, false, .send .start handled none, .idle, sends⟩ :
        Negotiation _).sendAs handled).goto (.receive .finish true)) := by
    simp only [Run.run, step, statement, thread, goto, sendAs, ZRTPSocket.sendAs, Pc.sent, hstate,
      reduceCtorEq, if_false]
    rfl
  exact ⟨_, run_append_ok.mpr ⟨_, hrun, hnext⟩, rfl, rfl, htime, hinterval, hcan⟩

/-- The socket is closed while the thread waits for a packet, and the thread
    finds it closed. -/
def heard : List Turn :=
  waiting ++ [.close, .close, statement 0, statement 0, statement 0, statement 0, statement 0]

/-- No step is one of the two at another place than theirs. -/
theorem quiet_elsewhere {turn : Turn} (hset : ∀ l handled store, m.pc ≠ .setState l handled store)
    (hdispatch : ∀ l packet, m.pc ≠ .dispatch l packet) :
    ¬ Overwrites m turn ∧ ¬ Resends m turn := by
  cases turn with
  | thread i =>
      refine ⟨?_, ?_⟩
      · rintro ⟨-, l, handled, store, hpc⟩
        exact hset l handled store hpc
      · rintro ⟨-, ⟨l, packet, hpc, -⟩, -⟩
        exact hdispatch l packet hpc
  | finish => exact ⟨id, id⟩
  | close => exact ⟨id, id⟩

/-- The negotiation of a socket that has been closed. -/
def closedAt (s : ZRTPSocket ρ) (sends : Nat) (pc : Pc ρ) : Negotiation ρ :=
  ⟨{ s with state := .terminated }, true, pc, .returned, sends⟩

/-- A thread that waits for a packet when the socket is closed leaves, and
    nothing of it is what closing is not final for, unless a retransmission has
    fallen due. -/
theorem leave_quiet (P : Party ρ) (s : ZRTPSocket ρ) (closed : Bool) (sends : Nat)
    (hnotdue : ({ s with state := .terminated } : ZRTPSocket ρ).isRetransmitTime 0 = false) :
    Run.run (step P) ⟨s, closed, .receive .finish true, .idle, sends⟩ [.close, .close, statement 0,
        statement 0, statement 0, statement 0, statement 0] =
      .ok (closedAt s sends (.returned .finish)) ∧
    Meets (step P) (fun m turn => ¬ Overwrites m turn ∧ ¬ Resends m turn)
      ⟨s, closed, .receive .finish true, .idle, sends⟩
      [.close, .close, statement 0, statement 0, statement 0, statement 0, statement 0] := by
  -- The statements of `close`, and those of the thread behind it.
  have hclosing : step P ⟨s, closed, .receive .finish true, .idle, sends⟩ .close =
      .ok ⟨{ s with state := .terminated }, closed, .receive .finish true, .closing, sends⟩ := rfl
  have hclosed : step P ⟨{ s with state := .terminated }, closed, .receive .finish true, .closing,
      sends⟩ .close = .ok (closedAt s sends (.receive .finish true)) := rfl
  have hreceive : step P (closedAt s sends (.receive .finish true)) (statement 0) =
      .ok (closedAt s sends (.dispatch .finish none)) := rfl
  have hdispatch : step P (closedAt s sends (.dispatch .finish none)) (statement 0) =
      .ok (closedAt s sends (.test .finish)) := by
    simp only [step, statement, thread, closedAt, hnotdue, Bool.false_eq_true, if_false, goto]
  have htest : step P (closedAt s sends (.test .finish)) (statement 0) =
      .ok (closedAt s sends .testTerminated) := rfl
  have hterminated : step P (closedAt s sends .testTerminated) (statement 0) =
      .ok (closedAt s sends .epilogue) := rfl
  have hepilogue : step P (closedAt s sends .epilogue) (statement 0) =
      .ok (closedAt s sends (.returned .finish)) := rfl
  refine ⟨?_, ?_⟩
  · simp only [Run.run, hclosing, hclosed, hreceive, hdispatch, htest, hterminated, hepilogue]
  · rw [meets_cons hclosing, meets_cons hclosed, meets_cons hreceive, meets_cons hdispatch,
      meets_cons htest, meets_cons hterminated, meets_cons hepilogue]
    refine ⟨⟨id, id⟩, ⟨id, id⟩, quiet_elsewhere ?_ ?_, ⟨?_, ?_⟩, quiet_elsewhere ?_ ?_,
      quiet_elsewhere ?_ ?_, quiet_elsewhere ?_ ?_, meets_nil _⟩
    -- Only where the clock is looked at there is something to be shown.
    case refine_4 =>
      rintro ⟨-, -, hdue, -⟩
      exact absurd (hnotdue.symm.trans hdue) Bool.false_ne_true
    case refine_3 =>
      rintro ⟨-, l, handled, store, hpc⟩
      simp only [closedAt, reduceCtorEq] at hpc
    all_goals
      intros
      simp only [closedAt, ne_eq, reduceCtorEq, not_false_eq_true]

/-- The Hello is answered and the socket is closed while the thread waits for
    the next packet. The thread finds it closed before a retransmission is due,
    and leaves. -/
theorem close_final_iff_heard :
    Final (initiator jce Undisturbed.caller) (create (ZRTPInitiatorSocket.create .empty))
      heard := by
  rcases run_waiting with ⟨m, hrun, hpc, hcloser, htime, hinterval, -⟩
  rcases m with ⟨s, closed, pc, closer, sends⟩
  simp only at hpc hcloser htime hinterval
  subst hpc hcloser
  have hover : ¬ (ZRTPInitiatorSocket.create .empty).Over := by
    rintro (hover | hover)
    · exact absurd hover nofun
    · exact absurd hover nofun
  have hnotdue :
      ({ s with state := .terminated } : ZRTPInitiatorSocket).isRetransmitTime 0 = false := by
    unfold ZRTPSocket.isRetransmitTime
    simp only [htime, hinterval]
    decide
  rcases leave_quiet (initiator jce Undisturbed.caller) s closed sends hnotdue with ⟨hafter, hquiet⟩
  have hmeets : Meets (step (initiator jce Undisturbed.caller))
      (fun m turn => ¬ Overwrites m turn ∧ ¬ Resends m turn)
      (create (ZRTPInitiatorSocket.create .empty)) heard :=
    (meets_of_idle hover hrun rfl).append hrun hquiet
  have hwhole : Run.run (step (initiator jce Undisturbed.caller))
      (create (ZRTPInitiatorSocket.create .empty)) heard =
      .ok (closedAt s sends (.returned .finish)) :=
    run_append_ok.mpr ⟨_, hrun, hafter⟩
  exact ((close_final_iff jce Undisturbed.caller .empty false heard).1 _ hwhole rfl).mpr hmeets

/-- The same, but a retransmission is due when the thread has found the socket
    closed. -/
def resending : List Turn := waiting ++ ([.close, .close] ++ [statement 0, statement 150])

/-- A Hello begins to be sent again after `close` has returned. -/
theorem close_resent :
    ¬ Final (initiator jce Undisturbed.caller) (create (ZRTPInitiatorSocket.create .empty))
      resending := by
  intro hfinal
  rcases run_waiting with ⟨m, hrun, hpc, hcloser, htime, hinterval, hcan⟩
  rcases m with ⟨s, closed, pc, closer, sends⟩
  simp only at hpc hcloser htime hinterval hcan
  subst hpc hcloser
  have hdue : ({ s with state := .terminated } : ZRTPInitiatorSocket).isRetransmitTime 150
      = true := by
    unfold ZRTPSocket.isRetransmitTime
    simp only [htime, hinterval]
    decide
  have hclosed : Run.run (step (initiator jce Undisturbed.caller))
      (create (ZRTPInitiatorSocket.create .empty)) (waiting ++ [.close, .close]) =
      .ok ⟨{ s with state := .terminated }, true, .receive .finish true, .returned, sends⟩ :=
    run_append_ok.mpr ⟨_, hrun, rfl⟩
  have hthen : Run.run (step (initiator jce Undisturbed.caller))
      ⟨{ s with state := .terminated }, true, .receive .finish true, .returned, sends⟩
      [statement 0, statement 150] =
      .ok ⟨{ s with state := .terminated }, true, .resend .finish, .returned, sends⟩ := by
    simp only [Run.run, step, statement, thread, goto, hdue, if_true]
  have hsplit : resending =
      (waiting ++ [.close, .close]) ++ ([statement 0, statement 150] ++ []) := by
    rw [resending, List.append_assoc, List.append_nil]
  have hbegun := (hfinal _ _ _ _ _ hsplit hclosed rfl hthen).2.1
  have hsends : begun (initiator jce Undisturbed.caller)
      ⟨{ s with state := .terminated }, true, .resend .finish, .returned, sends⟩ = sends + 1 :=
    congrArg (sends + ·) (if_pos hcan)
  rw [hsends] at hbegun
  exact Nat.not_succ_le_self _ hbegun

end Negotiation

end RedPhone
