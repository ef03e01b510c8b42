import RedPhone.Zrtp.StateOrder

/-!
# How Often a Packet Is Sent Again

A counter, an interval and the time of the last packet are changed in three
methods, and both a timeout and a packet that is ignored lead to them. All of it
follows the trace of a run: the counter is the number of retransmissions since
the last fresh packet, and the interval is a function of the counter.

An initiator that has not got a Hello yet has nothing to send. It counts
retransmissions all the same, and it is only at the end of them that it shows:
the peer is unavailable then, and did not just stop answering.

There is no measure in the loops, and none is needed for the packets they send:
a role has only so many handlers, each runs at most once, and between two of
them there are 46 retransmissions at most.

## Main definitions

* `Iteration.fresh`: Whether an iteration sends a fresh packet.
* `sinceFresh`: The retransmissions since the last one.
* `interval`: The interval after so many retransmissions.
* `Freshens`: What the handlers of a role do to the counter.
* `Paced`: The invariant.
* `Retransmits`: The bounds of a role's retransmissions.

## Theorems

* `paced_step`: What an iteration keeps.
* `count_le_sinceFresh`: Any part of a trace without a fresh packet.
* `retransmits_of_path`: What makes a role's retransmissions bounded.
* `retransmission_bounded`: Those of both roles are.
-/

namespace RedPhone

open HandshakePacket

/-- An iteration that returns and sends a fresh packet: every handler does, but
    the one that completes the initiator. -/
def Iteration.fresh : Iteration → Bool
  | .handler state => state ≠ .expectingConfirmAck
  | .retransmission => false
  | .nothing => false

/-- The retransmissions since the last fresh packet. -/
def sinceFresh (its : List Iteration) : Nat :=
  (its.reverse.takeWhile fun it => !it.fresh).count .retransmission

/-- The interval after so many retransmissions. -/
def interval (n : Nat) : Int := min (RETRANSMIT_INTERVAL_MILLIS * 2 ^ n) 1500

theorem sinceFresh_concat (its : List Iteration) (it : Iteration) :
    sinceFresh (its ++ [it]) = if it.fresh then 0
      else sinceFresh its + if it = .retransmission then 1 else 0 := by
  unfold sinceFresh
  rw [List.reverse_concat, List.takeWhile_cons]
  -- A fresh packet starts the count again.
  by_cases hfresh : it.fresh = true
  · rw [if_pos hfresh, hfresh]
    rfl
  · rw [if_neg hfresh, Bool.not_eq_true] at *
    rw [hfresh, Bool.not_false, if_pos rfl, List.count_cons]
    simp only [beq_iff_eq]

/-- A part of the trace without a fresh packet belongs to those since the last
    one. -/
theorem count_le_sinceFresh (its jts : List Iteration) (hquiet : ∀ it ∈ jts, it.fresh = false) :
    jts.count .retransmission ≤ sinceFresh (its ++ jts) := by
  induction jts using List.reverseRecOn with
  | nil => exact Nat.zero_le _
  | append_singleton jts it ih =>
      -- The last one is not fresh, so it adds to the count of those before it.
      have hit := hquiet it (List.mem_append_right jts (List.mem_singleton_self it))
      have hrest := ih (fun jt hjt => hquiet jt (List.mem_append_left [it] hjt))
      rw [← List.append_assoc, sinceFresh_concat, hit, List.count_append, List.count_singleton]
      simp only [Bool.false_eq_true, if_false, beq_iff_eq]
      omega

theorem interval_succ (n : Nat) : interval (n + 1) = min (interval n * 2) 1500 := by
  unfold interval
  rw [pow_succ, ← mul_assoc]
  omega

theorem interval_le_succ (n : Nat) : interval n ≤ interval (n + 1) := by
  have hpos : (0 : Int) < 2 ^ n := Int.pow_pos (by decide)
  unfold interval RETRANSMIT_INTERVAL_MILLIS
  rw [pow_succ]
  omega

theorem interval_le (n : Nat) : interval n ≤ 1500 := min_le_right _ _

namespace ZRTPSocket

variable {ρ : Type} {h : Handlers ρ} {s s' : ZRTPSocket ρ}

/-- A fresh packet was sent. -/
structure SentFresh (s s' : ZRTPSocket ρ) : Prop where
  count : s'.retransmitCount = 0
  interval : s'.retransmitInterval = RETRANSMIT_INTERVAL_MILLIS
  sent : ∃ p, s'.lastPacket = some p ∧ s'.sent = s.sent ++ [p.data]

/-- Nothing about sending has changed. -/
structure SentNothing (s s' : ZRTPSocket ρ) : Prop where
  count : s'.retransmitCount = s.retransmitCount
  interval : s'.retransmitInterval = s.retransmitInterval
  lastPacket : s'.lastPacket = s.lastPacket
  sent : s'.sent = s.sent

/-- The handlers of a role send a fresh packet, all but the last of the
    initiator. -/
def Freshens (h : Handlers ρ) : Prop :=
  ∀ c packet s s', Handled h c packet s s' →
    if s.state = .expectingConfirmAck then SentNothing s s' else SentFresh s s'

/-- The invariant, for a socket that had sent so many packets before its loops. -/
structure Paced (first : Nat) (its : List Iteration) (s : ZRTPSocket ρ) : Prop where
  count : s.retransmitCount = sinceFresh its
  count_le : s.retransmitCount ≤ MAX_RETRANSMIT_COUNT + 1
  interval : s.retransmitInterval = interval s.retransmitCount
  lastPacket : s.lastPacket = none ↔ s.sent = []
  sent : first + its.countP Iteration.fresh = 0 ∧ s.sent = [] ∨
    s.sent ≠ [] ∧ s.sent.length + (MAX_RETRANSMIT_COUNT + 1)
      ≤ (MAX_RETRANSMIT_COUNT + 2) * (first + its.countP Iteration.fresh) + s.retransmitCount

/-- The resend takes one attempt, and sends what was sent last, if anything. -/
theorem resendPacket_ok (now : Int) (s s' : ZRTPSocket ρ) (hrun : s.resendPacket now = .ok s') :
    s.retransmitCount ≤ MAX_RETRANSMIT_COUNT ∧ s'.retransmitCount = s.retransmitCount + 1 ∧
      s'.retransmitInterval = min (s.retransmitInterval * 2) 1500 ∧
      (s.lastPacket = none ∧ s'.lastPacket = none ∧ s'.sent = s.sent ∨
        s.lastPacket ≠ none ∧ s'.lastPacket ≠ none ∧ ∃ d, s'.sent = s.sent ++ [d]) := by
  unfold resendPacket at hrun
  by_cases hcount : s.retransmitCount > MAX_RETRANSMIT_COUNT
  · rw [if_pos hcount] at hrun
    cases hlast : s.lastPacket with
    | none =>
        rw [hlast] at hrun
        exact nomatch hrun
    | some p =>
        rw [hlast] at hrun
        exact nomatch hrun
  · rw [if_neg hcount, Except.ok.injEq] at hrun
    rw [← hrun]
    refine ⟨by omega, ?_⟩
    cases hlast : s.lastPacket with
    | none => exact ⟨rfl, rfl, Or.inl ⟨rfl, rfl, rfl⟩⟩
    | some p => exact ⟨rfl, rfl, Or.inr ⟨nofun, nofun, _, rfl⟩⟩

/-- An attempt fails when there were as many as are allowed. -/
theorem resendPacket_error (now : Int) (s : ZRTPSocket ρ)
    (hcount : s.retransmitCount = MAX_RETRANSMIT_COUNT + 1) :
    s.resendPacket now = .error (if s.lastPacket = none
      then .recipientUnavailable "Recipient unavailable."
      else .negotiationFailed "Retransmit threshold reached.") := by
  unfold resendPacket
  rw [if_pos (by omega)]
  -- Which error it is depends on whether there was anything to send.
  cases s.lastPacket with
  | none => rfl
  | some p => rfl

theorem countP_fresh_concat (its : List Iteration) (it : Iteration) :
    (its ++ [it]).countP Iteration.fresh
      = its.countP Iteration.fresh + if it.fresh then 1 else 0 := by
  rw [List.countP_append, List.countP_singleton]

/-- An iteration that changes nothing about sending. -/
theorem Paced.quiet {first : Nat} {its : List Iteration} (hpaced : Paced first its s)
    (it : Iteration) (hfresh : it.fresh = false) (hit : it ≠ .retransmission)
    (hsent : SentNothing s s') : Paced first (its ++ [it]) s' := by
  have hcount : sinceFresh (its ++ [it]) = sinceFresh its := by
    rw [sinceFresh_concat, hfresh, if_neg hit]
    rfl
  have hfreshes : (its ++ [it]).countP Iteration.fresh = its.countP Iteration.fresh := by
    rw [countP_fresh_concat, hfresh]
    rfl
  refine ⟨?_, ?_, ?_, ?_, ?_⟩
  · rw [hsent.count, hcount, hpaced.count]
  · rw [hsent.count]
    exact hpaced.count_le
  · rw [hsent.interval, hsent.count]
    exact hpaced.interval
  · rw [hsent.lastPacket, hsent.sent]
    exact hpaced.lastPacket
  · rw [hfreshes, hsent.sent, hsent.count]
    exact hpaced.sent

theorem Paced.handled {first : Nat} {its : List Iteration} (hpaced : Paced first its s)
    (it : Iteration) (hfresh : it.fresh = true) (hsent : SentFresh s s') :
    Paced first (its ++ [it]) s' := by
  have hcount : sinceFresh (its ++ [it]) = 0 := by
    rw [sinceFresh_concat, hfresh]
    rfl
  have hfreshes : (its ++ [it]).countP Iteration.fresh = its.countP Iteration.fresh + 1 := by
    rw [countP_fresh_concat, hfresh]
    rfl
  -- A fresh packet opens a new segment of the trace.
  rcases hsent.sent with ⟨p, hlast, hnew⟩
  have hlength : s'.sent.length = s.sent.length + 1 := by
    rw [hnew, List.length_append, List.length_singleton]
  have hnonempty : s'.sent ≠ [] := by
    intro hempty
    rw [hempty, List.length_nil] at hlength
    omega
  refine ⟨?_, ?_, ?_, ?_, Or.inr ⟨hnonempty, ?_⟩⟩
  · rw [hsent.count, hcount]
  · rw [hsent.count]
    exact Nat.zero_le _
  · rw [hsent.interval, hsent.count]
    rfl
  · rw [hlast]
    exact ⟨nofun, fun hempty => absurd hempty hnonempty⟩
  · -- The packets of an earlier segment are those of a full one at most.
    have hle := hpaced.count_le
    rw [hlength, hfreshes, hsent.count]
    rcases hpaced.sent with ⟨_, hempty⟩ | ⟨_, hbound⟩
    · rw [hempty, List.length_nil]
      unfold MAX_RETRANSMIT_COUNT
      omega
    · unfold MAX_RETRANSMIT_COUNT at *
      omega

theorem Paced.resent {first : Nat} {its : List Iteration} (hpaced : Paced first its s) (now : Int)
    (buf : ReceiveBuffer) (hrun : { s with buf := buf }.resendPacket now = .ok s') :
    Paced first (its ++ [.retransmission]) s' := by
  rcases resendPacket_ok now _ s' hrun with ⟨hle, hcount, hinterval, hsent⟩
  simp only at hle hcount hinterval hsent
  have hsince : sinceFresh (its ++ [.retransmission]) = sinceFresh its + 1 := by
    rw [sinceFresh_concat]
    rfl
  have hfreshes : (its ++ [Iteration.retransmission]).countP Iteration.fresh
      = its.countP Iteration.fresh := by
    rw [countP_fresh_concat]
    rfl
  refine ⟨?_, ?_, ?_, ?_, ?_⟩
  · rw [hcount, hsince, hpaced.count]
  · omega
  · rw [hinterval, hcount, interval_succ, hpaced.interval]
  · rcases hsent with ⟨hnone, hnone', hsame⟩ | ⟨hsome, hsome', d, hnew⟩
    · rw [hnone', hsame, ← hpaced.lastPacket, hnone]
    · rw [hnew]
      exact ⟨fun hnone => absurd hnone hsome', fun hempty => absurd hempty (List.concat_ne_nil d _)⟩
  · rw [hfreshes, hcount]
    rcases hsent with ⟨hnone, _, hsame⟩ | ⟨hsome, _, d, hnew⟩
    · -- There was nothing to send yet.
      have hempty := hpaced.lastPacket.mp hnone
      rcases hpaced.sent with ⟨hfirst, _⟩ | ⟨hnonempty, _⟩
      · exact Or.inl ⟨hfirst, hsame.trans hempty⟩
      · exact absurd hempty hnonempty
    · rcases hpaced.sent with ⟨_, hempty⟩ | ⟨_, hbound⟩
      · exact absurd (hpaced.lastPacket.mpr hempty) hsome
      · refine Or.inr ⟨?_, ?_⟩
        · rw [hnew]
          exact List.concat_ne_nil d _
        · rw [hnew, List.length_append, List.length_singleton]
          omega

/-- What an iteration keeps. -/
theorem paced_step (hfreshens : Freshens h) {first : Nat} {its : List Iteration}
    (hpaced : Paced first its s) (i : Input) (hrun : s.negotiate h i = .ok s') :
    Paced first (its ++ [s.iteration i]) s' := by
  cases hit : s.iteration i with
  | handler state =>
      rcases negotiate_handler h s s' i state hit hrun with ⟨rfl, d, _, hhandled⟩
      have hsends := hfreshens i.clock _ _ s' hhandled
      -- The media packet is answered by nothing.
      by_cases hack : s.state = .expectingConfirmAck
      · rw [if_pos hack] at hsends
        exact hpaced.quiet _ (decide_eq_false (fun hne => hne hack)) nofun
          ⟨hsends.count, hsends.interval, hsends.lastPacket, hsends.sent⟩
      · rw [if_neg hack] at hsends
        exact hpaced.handled _ (decide_eq_true hack) ⟨hsends.count, hsends.interval, hsends.sent⟩
  | retransmission =>
      rcases negotiate_retransmission h s i hit with ⟨buf, hresend⟩
      rw [hresend] at hrun
      exact hpaced.resent i.clock.transmit buf hrun
  | nothing =>
      rcases negotiate_nothing h s s' i hit hrun with ⟨buf, rfl⟩ | ⟨_, rfl⟩
      · exact hpaced.quiet _ rfl nofun ⟨rfl, rfl, rfl, rfl⟩
      · exact hpaced.quiet _ rfl nofun ⟨rfl, rfl, rfl, rfl⟩

theorem paced_run (hfreshens : Freshens h) {first : Nat} {s₀ : ZRTPSocket ρ}
    (hfirst : Paced first [] s₀) (is : List Input) (s : ZRTPSocket ρ)
    (hrun : Run.run (negotiate h) s₀ is = .ok s) : Paced first (iterations h s₀ is) s := by
  refine Run.invariant_of_reached (negotiate h)
    (fun is s => Paced first (iterations h s₀ is) s) s₀ hfirst ?_ is s hrun
  intro is s i s' hrun hpaced hstep
  rw [iterations_concat h s₀ s is i hrun]
  exact paced_step hfreshens hpaced i hstep

/-- The bounds of the retransmissions of a role that sends so many packets
    before its loops: how many there are between two fresh packets and what the
    next attempt comes to, the interval between them, and the packets sent in
    all. -/
structure Retransmits (h : Handlers ρ) (first limit : Nat) (s₀ : ZRTPSocket ρ) : Prop where
  bound : ∀ is s its jts kts, Run.run (negotiate h) s₀ is = .ok s →
    iterations h s₀ is = its ++ jts ++ kts → (∀ it ∈ jts, it.fresh = false) →
    jts.count .retransmission ≤ MAX_RETRANSMIT_COUNT + 1
  attempt : ∀ is s i, Run.run (negotiate h) s₀ is = .ok s → s.iteration i = .retransmission →
    (sinceFresh (iterations h s₀ is) ≤ MAX_RETRANSMIT_COUNT → ∃ s', s.negotiate h i = .ok s') ∧
    (sinceFresh (iterations h s₀ is) = MAX_RETRANSMIT_COUNT + 1 → s.negotiate h i =
      .error (if s.sent = [] then .recipientUnavailable "Recipient unavailable."
        else .negotiationFailed "Retransmit threshold reached."))
  silent : ∀ is s, Run.run (negotiate h) s₀ is = .ok s →
    (s.sent = [] ↔ first = 0 ∧ .expectingHello ∉ ran (iterations h s₀ is))
  starts : s₀.retransmitCount = 0 ∧ s₀.retransmitInterval = RETRANSMIT_INTERVAL_MILLIS
  grows : ∀ is s i s', Run.run (negotiate h) s₀ is = .ok s → s.negotiate h i = .ok s' →
    (s.iteration i).fresh = false → s.retransmitInterval ≤ s'.retransmitInterval
  capped : ∀ is s, Run.run (negotiate h) s₀ is = .ok s → s.retransmitInterval ≤ 1500
  reset : ∀ is s i s', Run.run (negotiate h) s₀ is = .ok s → s.negotiate h i = .ok s' →
    (s.iteration i).fresh = true →
    s'.retransmitCount = 0 ∧ s'.retransmitInterval = RETRANSMIT_INTERVAL_MILLIS
  total : ∀ is s, Run.run (negotiate h) s₀ is = .ok s → s.sent.length ≤ limit

/-- The fresh packets of a trace are sent by the handlers that ran. -/
theorem countP_fresh (its : List Iteration) :
    its.countP Iteration.fresh = (ran its).countP (· ≠ .expectingConfirmAck) := by
  induction its with
  | nil => rfl
  | cons it its ih =>
      rw [List.countP_cons, ih]
      -- An iteration without a handler is not fresh, and one with a handler is
      -- unless it expects media.
      cases it with
      | handler state =>
          rw [show ran (.handler state :: its) = state :: ran its from rfl, List.countP_cons]
          rfl
      | retransmission => rfl
      | nothing => rfl

/-- The handlers that ran are none, or the path's first is among them. -/
theorem countP_fresh_pos {path : List State} (n : Nat) (its : List Iteration)
    (hfirst : path[0]? = some .expectingHello) (hran : ran its = path.take n) :
    its.countP Iteration.fresh = 0 ↔ .expectingHello ∉ ran its := by
  rw [countP_fresh, hran]
  cases path with
  | nil => exact nomatch hfirst
  | cons state path =>
      rw [List.getElem?_cons_zero, Option.some.injEq] at hfirst
      subst hfirst
      cases n with
      | zero => exact ⟨fun _ => nofun, fun _ => rfl⟩
      | succ n =>
          -- The first handler on the path sends a fresh packet.
          rw [List.take_succ_cons, List.countP_cons]
          exact ⟨nofun, fun hmem => absurd List.mem_cons_self hmem⟩

/-- The retransmissions of a role that follows its path and sends a fresh
    packet in each of its handlers. -/
theorem retransmits_of_path (path : List State) (hnodup : path.Nodup)
    (hfollows : Follows h path) (hfreshens : Freshens h) {s₀ : ZRTPSocket ρ} {first limit : Nat}
    (hpath : path[0]? = some .expectingHello) (hstate : s₀.state = .expectingHello)
    (hpaced : Paced first [] s₀)
    (hlimit : ∀ n < path.length, (MAX_RETRANSMIT_COUNT + 2) *
      (first + (path.take n).countP (· ≠ .expectingConfirmAck)) ≤ limit) :
    Retransmits h first limit s₀ := by
  have hrun := paced_run hfreshens hpaced
  have hran := onPath_of_run hnodup hfollows (hpath.trans (congrArg some hstate.symm))
  refine
    { bound := ?_, attempt := ?_, silent := ?_, starts := ?_, grows := ?_, capped := ?_,
      reset := ?_, total := ?_ }
  · -- A part of the trace ends in a socket that was reached, and is at the end
    -- of its trace.
    intro is s its jts kts hs hits hquiet
    rcases prefix_of_iterations h s₀ s is (its ++ jts) kts hs hits with ⟨pre, _, t, _, ht, hpre⟩
    have hpaced' := hrun pre t ht
    have hsince := count_le_sinceFresh its jts hquiet
    rw [← hpre, ← hpaced'.count] at hsince
    exact hsince.trans hpaced'.count_le
  · intro is s i hs hit
    have hpaced' := hrun is s hs
    rcases negotiate_retransmission h s i hit with ⟨buf, hresend⟩
    rw [hresend, ← hpaced'.count]
    -- The next attempt is sent, or it is one too many.
    refine ⟨fun hle => ?_, fun hfull => ?_⟩
    · unfold resendPacket
      rw [if_neg (show ¬ s.retransmitCount > MAX_RETRANSMIT_COUNT by omega)]
      exact ⟨_, rfl⟩
    · rw [resendPacket_error i.clock.transmit { s with buf := buf } hfull]
      simp only [hpaced'.lastPacket]
  · intro is s hs
    -- The bound on the packets is also what shows that there are none.
    rcases hran is s hs with ⟨n, hn, _, _⟩
    rw [← countP_fresh_pos n _ hpath hn]
    rcases (hrun is s hs).sent with ⟨hnone, hempty⟩ | ⟨hnonempty, hbound⟩
    · exact ⟨fun _ => by omega, fun _ => hempty⟩
    · refine ⟨fun hempty => absurd hempty hnonempty, fun ⟨hfirst, hfresh⟩ => ?_⟩
      have hle := (hrun is s hs).count_le
      have hlength := List.length_pos_iff.mpr hnonempty
      rw [hfirst, hfresh] at hbound
      omega
  · have hinterval := hpaced.interval
    rw [hpaced.count] at hinterval
    exact ⟨hpaced.count, hinterval⟩
  · intro is s i s' hs hstep hfresh
    have hpaced' := hrun is s hs
    have hnext := paced_step hfreshens hpaced' i hstep
    rw [hpaced'.interval, hnext.interval, hnext.count, hpaced'.count, sinceFresh_concat, hfresh]
    simp only [Bool.false_eq_true, if_false]
    -- The interval follows the counter, which a retransmission moves by one.
    by_cases hit : s.iteration i = .retransmission
    · rw [if_pos hit]
      exact interval_le_succ _
    · rw [if_neg hit]
      exact Int.le_refl _
  · intro is s hs
    rw [(hrun is s hs).interval]
    exact interval_le _
  · intro is s i s' hs hstep hfresh
    have hnext := paced_step hfreshens (hrun is s hs) i hstep
    have hcount : s'.retransmitCount = 0 := by
      rw [hnext.count, sinceFresh_concat, if_pos hfresh]
    refine ⟨hcount, ?_⟩
    rw [hnext.interval, hcount]
    rfl
  · intro is s hs
    rcases hran is s hs with ⟨n, hn, hlt, _⟩
    -- A segment for each fresh packet, and the path has only so many.
    have hle := hlimit n hlt
    have hcount := (hrun is s hs).count_le
    rw [← hn, ← countP_fresh] at hle
    rcases (hrun is s hs).sent with ⟨_, hempty⟩ | ⟨_, hbound⟩
    · rw [hempty, List.length_nil]
      exact Nat.zero_le _
    · omega

end ZRTPSocket

/-! ## Both roles -/

theorem ZRTPInitiatorSocket.freshens (C : Crypto) (cfg : Config) :
    ZRTPSocket.Freshens (handlers C cfg) := by
  intro c packet s s' hhandled
  cases hhandled with
  | hello hstate _ hrun =>
      rcases handleHello_ok hrun with ⟨_, _, rfl⟩
      rw [hstate]
      exact ⟨rfl, rfl, _, rfl, rfl⟩
  | helloAck hstate _ hrun =>
      rcases handleHelloAck_next packet hrun with ⟨_, _, _, rfl⟩
      rw [hstate]
      exact ⟨rfl, rfl, _, rfl, rfl⟩
  | commit _ _ hrun => exact nomatch hrun
  | dhOne hstate _ hrun =>
      rcases handleDH_ok hrun with ⟨_, _, _, _, _, rfl⟩
      rw [hstate]
      exact ⟨rfl, rfl, _, rfl, rfl⟩
  | dhTwo hstate _ hrun =>
      rcases handleDH_ok hrun with ⟨_, _, _, _, _, rfl⟩
      rw [hstate]
      exact ⟨rfl, rfl, _, rfl, rfl⟩
  | confirmOne hstate _ hrun =>
      rcases handleConfirmOne_next hrun with ⟨_, _, rfl⟩
      rw [hstate]
      exact ⟨rfl, rfl, _, rfl, rfl⟩
  | confirmTwo _ _ hrun => exact nomatch hrun
  | confirmAck hstate _ hrun =>
      rcases handleConfirmAck_next packet hrun with ⟨_, rfl⟩
      rw [hstate]
      exact ⟨rfl, rfl, rfl, rfl⟩

theorem ZRTPResponderSocket.freshens (C : Crypto) (cfg : Config) :
    ZRTPSocket.Freshens (handlers C cfg) := by
  intro c packet s s' hhandled
  cases hhandled with
  | hello hstate _ hrun =>
      rcases handleHello_ok hrun with ⟨_, _, rfl⟩
      rw [hstate]
      exact ⟨rfl, rfl, _, rfl, rfl⟩
  | helloAck _ _ hrun => exact nomatch hrun
  | commit hstate _ hrun =>
      rcases handleCommit_next hrun with ⟨_, _, _, rfl⟩
      rw [hstate]
      exact ⟨rfl, rfl, _, rfl, rfl⟩
  | dhOne hstate _ hrun =>
      rcases handleDH_next hrun with ⟨_, _, _, rfl⟩
      rw [hstate]
      exact ⟨rfl, rfl, _, rfl, rfl⟩
  | dhTwo hstate _ hrun =>
      rcases handleDH_next hrun with ⟨_, _, _, rfl⟩
      rw [hstate]
      exact ⟨rfl, rfl, _, rfl, rfl⟩
  | confirmOne _ _ hrun => exact nomatch hrun
  | confirmTwo hstate _ hrun =>
      rcases handleConfirmTwo_next hrun with ⟨_, _, rfl⟩
      rw [hstate]
      exact ⟨rfl, rfl, _, rfl, rfl⟩
  | confirmAck _ _ hrun => exact nomatch hrun

/-- Retransmissions are bounded in both roles, whatever is received and
    whatever the clock says: an initiator sends 188 packets at most, and a
    responder 235. -/
theorem retransmission_bounded (C : Crypto) (cfg : Config) (database : RetainedSecretsDatabase) :
    ZRTPSocket.Retransmits (ZRTPInitiatorSocket.handlers C cfg) 0 188
      (ZRTPInitiatorSocket.create database) ∧
    ∀ (legacy : Bool) (now : Int),
      ZRTPSocket.Retransmits (ZRTPResponderSocket.handlers C cfg) 1 235
        (ZRTPResponderSocket.start C cfg database legacy now) := by
  refine ⟨?_, fun legacy now => ?_⟩
  · refine ZRTPSocket.retransmits_of_path ZRTPInitiatorSocket.path (by decide)
      ZRTPInitiatorSocket.follows (ZRTPInitiatorSocket.freshens C cfg) rfl rfl ?_ (by decide)
    exact ⟨rfl, Nat.zero_le _, rfl, ⟨fun _ => rfl, fun _ => rfl⟩, Or.inl ⟨rfl, rfl⟩⟩
  · refine ZRTPSocket.retransmits_of_path ZRTPResponderSocket.path (by decide)
      ZRTPResponderSocket.follows (ZRTPResponderSocket.freshens C cfg) rfl rfl ?_ (by decide)
    refine ⟨rfl, Nat.zero_le _, rfl, ⟨nofun, fun hempty => ?_⟩, Or.inr ⟨nofun, ?_⟩⟩
    · exact nomatch hempty
    · exact Nat.le_refl 47

end RedPhone
