import RedPhone.Zrtp.InitiatorHarmless
import RedPhone.Zrtp.Iteration
import RedPhone.Zrtp.ResponderHarmless

/-!
# The Order of the States

The chain of conditions in the loops is shared by both roles, and it would run
any handler of a role in any state. What keeps a role on its own path is only
which state each of its handlers leaves the socket in, and a duplicate, a packet
of the other role or one that comes too early finds no handler in the state it
meets.

`Follows` is that property of the handlers, and everything about the order is
proved from it for both roles at once. What a role has stored by its state, and
that the key agreement does not change, comes from the invariants of the roles.

## Main definitions

* `Follows`: The handlers of a path leave the socket in its next state.
* `OnPath`: The handlers that ran are a first part of a path.
* `Ordered`: The order of states of a role.
* `ZRTPInitiatorSocket.path`, `ZRTPResponderSocket.path`: The states of a role.
* `ZRTPInitiatorSocket.Stored`, `ZRTPResponderSocket.Stored`: What is stored by
  then.

## Theorems

* `path_step`: An iteration stays or takes one step along the path.
* `onPath_of_run`: Every run is on the path.
* `ordered_of_steps`: What makes a role ordered.
* `handshake_ordered`: Both roles are.
-/

namespace RedPhone

open HandshakePacket RetainedSecretsCalculator

namespace ZRTPSocket

variable {ρ : Type} {h : Handlers ρ} {path : List State} {s s' : ZRTPSocket ρ}

/-- A handler that returns, run in a state of the path, leaves the socket in
    the next one. -/
def Follows (h : Handlers ρ) (path : List State) : Prop :=
  ∀ c packet s s', s.state ∈ path → Handled h c packet s s' →
    ∃ n : Nat, path[n]? = some s.state ∧ path[n + 1]? = some s'.state

/-- The handlers that ran are a first part of the path, and the socket is in
    the state after them if nobody closed it. -/
def OnPath (path : List State) (is : List Input) (states : List State) (s : ZRTPSocket ρ) : Prop :=
  ∃ n, states = path.take n ∧ n < path.length ∧
    (path[n]? = some s.state ∨ s.state = .terminated ∧ ∃ i ∈ is, i.event = .close)

/-- What order the states of a role come in, which of its handlers run, and
    what has been stored by then, in every run in which nobody closes the
    socket. The handlers `same` stands for are the role's, with any others in
    place of those that only throw. -/
structure Ordered (h : Handlers ρ) (path : List State) (same : Handlers ρ → Prop)
    (Stored : ZRTPSocket ρ → Prop) (keyAgreementType : ZRTPSocket ρ → Java AgreementType)
    (s₀ : ZRTPSocket ρ) : Prop where
  forward : ∀ pre post s t, (∀ i ∈ pre ++ post, i.event ≠ .close) →
    Run.run (negotiate h) s₀ pre = .ok s → Run.run (negotiate h) s post = .ok t →
    ∃ m n : Nat, m ≤ n ∧ path[m]? = some s.state ∧ path[n]? = some t.state
  handled : ∀ is s, (∀ i ∈ is, i.event ≠ .close) → Run.run (negotiate h) s₀ is = .ok s →
    (ran (iterations h s₀ is)).Nodup ∧
      ∃ n, ran (iterations h s₀ is) = path.take n ∧ path[n]? = some s.state
  never : ∀ h', same h' → ∀ is s i, (∀ i ∈ is, i.event ≠ .close) →
    Run.run (negotiate h) s₀ is = .ok s → s.negotiate h i = s.negotiate h' i
  stored : ∀ is s, (∀ i ∈ is, i.event ≠ .close) → Run.run (negotiate h) s₀ is = .ok s → Stored s
  agreed : ∀ pre post s t k, (∀ i ∈ pre ++ post, i.event ≠ .close) →
    Run.run (negotiate h) s₀ pre = .ok s → Run.run (negotiate h) s post = .ok t →
    keyAgreementType s = .ok k → keyAgreementType t = .ok k

/-- A socket in a state of the path stays there, moves on by its handler, or is
    closed. -/
theorem path_step (hnodup : path.Nodup) (hfollows : Follows h path) {n : Nat} (i : Input)
    (hn : path[n]? = some s.state) (hrun : s.negotiate h i = .ok s') :
    s.iteration i = .handler s.state ∧ path[n + 1]? = some s'.state ∨
    (∀ state, s.iteration i ≠ .handler state) ∧
      (s'.state = s.state ∨ s'.state = .terminated ∧ i.event = .close) := by
  cases hit : s.iteration i with
  | handler state =>
      rcases negotiate_handler h s s' i state hit hrun with ⟨rfl, d, _, hhandled⟩
      have hmem := List.mem_of_getElem? hn
      rcases hfollows i.clock _ { s with buf := s.buf.receive d } s' hmem hhandled with
        ⟨m, hm, hnext⟩
      rcases List.getElem?_eq_some_iff.mp hn with ⟨hlt, _⟩
      -- A state is on the path once, so the handler moves on from here.
      have hsame : n = m := (List.getElem?_inj hlt hnodup).mp (hn.trans hm.symm)
      rw [hsame]
      exact Or.inl ⟨rfl, hnext⟩
  | retransmission =>
      rcases negotiate_retransmission h s i hit with ⟨buf, hresend⟩
      rw [hresend] at hrun
      exact Or.inr ⟨nofun, Or.inl (resendPacket_idle _ _ s' hrun).2.1⟩
  | nothing =>
      -- What is not taken up leaves the state, unless the socket is closed.
      rcases negotiate_nothing h s s' i hit hrun with ⟨buf, rfl⟩ | ⟨hclose, rfl⟩
      · exact Or.inr ⟨nofun, Or.inl rfl⟩
      · exact Or.inr ⟨nofun, Or.inr ⟨rfl, hclose⟩⟩

theorem ran_quiet (its : List Iteration) (it : Iteration) (hquiet : ∀ state, it ≠ .handler state) :
    ran (its ++ [it]) = ran its := by
  rw [ran_append]
  cases it with
  | handler state => exact absurd rfl (hquiet state)
  | retransmission => exact List.append_nil _
  | nothing => exact List.append_nil _

/-- Every run is on the path, whatever it meets. -/
theorem onPath_of_run (hnodup : path.Nodup) (hfollows : Follows h path) {s₀ : ZRTPSocket ρ}
    (hfirst : path[0]? = some s₀.state) (is : List Input) (s : ZRTPSocket ρ)
    (hrun : Run.run (negotiate h) s₀ is = .ok s) :
    OnPath path is (ran (iterations h s₀ is)) s := by
  refine Run.invariant_of_reached (negotiate h)
    (fun is s => OnPath path is (ran (iterations h s₀ is)) s) s₀ ?_ ?_ is s hrun
  · -- Nothing has run yet, and the socket is at the head of the path.
    exact ⟨0, rfl, (List.getElem?_eq_some_iff.mp hfirst).1, Or.inl hfirst⟩
  · rintro is s i s' hrun ⟨n, hran, hlt, hn⟩ hstep
    rw [iterations_concat h s₀ s is i hrun]
    rcases hn with hn | ⟨hterminated, j, hj, hclose⟩
    · rcases path_step hnodup hfollows i hn hstep with ⟨hit, hnext⟩ | ⟨hquiet, hstate⟩
      · -- The handler that ran is the next on the path.
        refine ⟨n + 1, ?_, (List.getElem?_eq_some_iff.mp hnext).1, Or.inl hnext⟩
        rw [hit, ran_append, hran, List.take_add_one, hn]
        rfl
      · -- No handler ran, and the place on the path is the same.
        rw [ran_quiet _ _ hquiet]
        refine ⟨n, hran, hlt, ?_⟩
        rcases hstate with hstate | ⟨hstate, hclose⟩
        · exact Or.inl (hstate ▸ hn)
        · exact Or.inr ⟨hstate, i, List.mem_append_right is (List.mem_singleton_self i), hclose⟩
    · -- A closed socket is over, and does nothing more.
      have hit : s.iteration i = .nothing := iteration_of_over s i (Or.inr hterminated)
      have hquiet : ∀ state, s.iteration i ≠ .handler state := by
        rw [hit]
        exact nofun
      rw [ran_quiet _ _ hquiet]
      refine ⟨n, hran, hlt, Or.inr ⟨?_, j, List.mem_append_left [i] hj, hclose⟩⟩
      rcases negotiate_nothing h s s' i hit hstep with ⟨buf, rfl⟩ | ⟨_, rfl⟩
      · exact hterminated
      · rfl

/-- The same of a run in which nobody closes the socket. -/
theorem ran_of_run (hnodup : path.Nodup) (hfollows : Follows h path) {s₀ : ZRTPSocket ρ}
    (hfirst : path[0]? = some s₀.state) (is : List Input) (s : ZRTPSocket ρ)
    (hopen : ∀ i ∈ is, i.event ≠ .close) (hrun : Run.run (negotiate h) s₀ is = .ok s) :
    ∃ n, ran (iterations h s₀ is) = path.take n ∧ path[n]? = some s.state := by
  rcases onPath_of_run hnodup hfollows hfirst is s hrun with ⟨n, hran, _, hn | ⟨_, i, hi, hclose⟩⟩
  · exact ⟨n, hran, hn⟩
  · exact absurd hclose (hopen i hi)

/-- A run goes forward from wherever on the path it starts. -/
theorem forward_of_run (hnodup : path.Nodup) (hfollows : Follows h path) {m : Nat}
    (hm : path[m]? = some s.state) (post : List Input) (t : ZRTPSocket ρ)
    (hopen : ∀ i ∈ post, i.event ≠ .close) (hrun : Run.run (negotiate h) s post = .ok t) :
    ∃ n, m ≤ n ∧ path[n]? = some t.state := by
  refine Run.invariant_of_run (negotiate h)
    (fun post t => (∀ i ∈ post, i.event ≠ .close) → ∃ n, m ≤ n ∧ path[n]? = some t.state) s
    (fun _ => ⟨m, Nat.le_refl m, hm⟩) ?_ post t hrun hopen
  intro post t i t' ih hstep hopen
  rcases ih (fun j hj => hopen j (List.mem_append_left [i] hj)) with ⟨n, hmn, hn⟩
  rcases path_step hnodup hfollows i hn hstep with ⟨_, hnext⟩ | ⟨_, hstate | ⟨_, hclose⟩⟩
  · exact ⟨n + 1, Nat.le_succ_of_le hmn, hnext⟩
  · exact ⟨n, hmn, hstate ▸ hn⟩
  · exact absurd hclose (hopen i (List.mem_append_right post (List.mem_singleton_self i)))

/-- A role is ordered if its handlers follow its path, if its other handlers
    belong to no state of the path, and if an invariant of its iterations says
    what is stored and keeps the key agreement. -/
theorem ordered_of_steps {same : Handlers ρ → Prop} {Stored : ZRTPSocket ρ → Prop}
    {keyAgreementType : ZRTPSocket ρ → Java AgreementType} {s₀ : ZRTPSocket ρ}
    (hnodup : path.Nodup) (hfollows : Follows h path) (hfirst : path[0]? = some s₀.state)
    (hsame : ∀ h', same h' → ∀ state ∈ path, ∀ type, handler h state type = handler h' state type)
    (I : ZRTPSocket ρ → Prop) (hI : I s₀)
    (hstep : ∀ s i s', I s → s.negotiate h i = .ok s' →
      I s' ∧ ∀ k, keyAgreementType s = .ok k → keyAgreementType s' = .ok k)
    (hstored : ∀ s, I s → Stored s) : Ordered h path same Stored keyAgreementType s₀ := by
  -- What holds of single iterations holds of any part of a run.
  have hinvariant : ∀ s is t, I s → Run.run (negotiate h) s is = .ok t →
      I t ∧ ∀ k, keyAgreementType s = .ok k → keyAgreementType t = .ok k := by
    intro s is t hs hrun
    refine Run.invariant_of_run (negotiate h)
      (fun _ t => I t ∧ ∀ k, keyAgreementType s = .ok k → keyAgreementType t = .ok k) s
      ⟨hs, fun _ hk => hk⟩ ?_ is t hrun
    rintro _ t i t' ⟨ht, hkept⟩ hnext
    rcases hstep t i t' ht hnext with ⟨ht', hkept'⟩
    exact ⟨ht', fun k hk => hkept' k (hkept k hk)⟩
  refine
    { forward := ?_, handled := ?_, never := ?_, stored := ?_, agreed := ?_ }
  · intro pre post s t hopen hpre hpost
    rcases ran_of_run hnodup hfollows hfirst pre s
      (fun i hi => hopen i (List.mem_append_left post hi)) hpre with ⟨m, _, hm⟩
    rcases forward_of_run hnodup hfollows hm post t
      (fun i hi => hopen i (List.mem_append_right pre hi)) hpost with ⟨n, hmn, hn⟩
    exact ⟨m, n, hmn, hm, hn⟩
  · intro is s hopen hrun
    rcases ran_of_run hnodup hfollows hfirst is s hopen hrun with ⟨n, hran, hn⟩
    refine ⟨?_, n, hran, hn⟩
    rw [hran]
    -- A first part of the path repeats nothing, as the path does not.
    exact hnodup.sublist (List.take_sublist n path)
  · intro h' hh' is s i hopen hrun
    rcases ran_of_run hnodup hfollows hfirst is s hopen hrun with ⟨n, _, hn⟩
    -- The handlers differ only in states that are not on the path.
    exact negotiate_congr h h' s i (hsame h' hh' s.state (List.mem_of_getElem? hn))
  · intro is s _ hrun
    exact hstored s (hinvariant s₀ is s hI hrun).1
  · intro pre post s t k _ hpre hpost hk
    exact (hinvariant s post t (hinvariant s₀ pre s hI hpre).1 hpost).2 k hk

end ZRTPSocket

/-! ## The initiator -/

namespace ZRTPInitiatorSocket

/-- The states of an initiator. -/
def path : List State :=
  [.expectingHello, .expectingHelloAck, .expectingDh1, .expectingConfirmOne, .expectingConfirmAck,
    .handshakeComplete]

/-- What an initiator has stored when it has taken so many packets of its
    peer. -/
structure Stored (s : ZRTPInitiatorSocket) : Prop where
  hello : 1 ≤ stage s.state → (∃ p, s.role.foreignHello = some p) ∧ ∃ p, s.role.localHello = some p
  commit : 2 ≤ stage s.state → ∃ secrets commit d k, s.role.retainedSecrets = some secrets ∧
    s.role.commitPacket = some commit ∧ s.role.localDH = some d ∧
    s.getKeyAgreementType = .ok k ∧ d.agreementType = k
  dh : 3 ≤ stage s.state → ∃ ms d k, s.masterSecret = some ms ∧ s.role.foreignDH = some d ∧
    s.getKeyAgreementType = .ok k ∧ d.agreementType = k
  confirm : 4 ≤ stage s.state → ∃ c, s.role.confirmPacket = some c

variable {C : Crypto} {cfg : Config} {s s' : ZRTPInitiatorSocket}

theorem follows : ZRTPSocket.Follows (handlers C cfg) path := by
  intro c packet s s' hmem hhandled
  cases hhandled with
  | hello hstate _ hrun =>
      rcases handleHello_ok hrun with ⟨_, _, rfl⟩
      exact ⟨0, congrArg some hstate.symm, rfl⟩
  | helloAck hstate _ hrun =>
      rcases handleHelloAck_next packet hrun with ⟨_, _, _, rfl⟩
      exact ⟨1, congrArg some hstate.symm, rfl⟩
  | commit _ _ hrun => exact nomatch hrun
  | dhOne hstate _ hrun =>
      rcases handleDH_ok hrun with ⟨_, _, _, _, _, rfl⟩
      exact ⟨2, congrArg some hstate.symm, rfl⟩
  | dhTwo hstate _ _ =>
      -- A DHPart2 goes to the same handler, but no initiator waits for one.
      rw [hstate] at hmem
      exact absurd hmem (by decide)
  | confirmOne hstate _ hrun =>
      rcases handleConfirmOne_next hrun with ⟨_, _, rfl⟩
      exact ⟨3, congrArg some hstate.symm, rfl⟩
  | confirmTwo _ _ hrun => exact nomatch hrun
  | confirmAck hstate _ hrun =>
      rcases handleConfirmAck_next packet hrun with ⟨_, rfl⟩
      exact ⟨4, congrArg some hstate.symm, rfl⟩

theorem stored_of_held (hlocal : Local C cfg s) (hheld : Held s) : Stored s := by
  refine ⟨fun hstage => ?_, fun hstage => ?_, fun hstage => ?_, fun hstage => ?_⟩
  · rcases hheld.hello hstage with ⟨p, hp, _⟩
    exact ⟨⟨p, hp⟩, hheld.localHello hstage⟩
  · rcases hheld.dh hstage with ⟨d, hd⟩
    rcases hlocal.committed d hd with ⟨_, commit, secrets, _, t, _, _, _, _, hcommit, hsecrets, _,
      ht, hmade, _, _⟩
    exact ⟨secrets, commit, d, t, hsecrets, hcommit, hd, ht, hmade.agreementType⟩
  · rcases hheld.keyed hstage with ⟨ms, hms⟩
    rcases hlocal.keyed ms hms with ⟨packet, d, hd, haccepted⟩
    rcases haccepted.copy with ⟨t, ht, hcopy⟩
    exact ⟨ms, d, t, hms, hd, ht, DHPacket.agreementType_copyOf hcopy⟩
  · rcases hheld.confirm hstage with ⟨c, hc, _⟩
    exact ⟨c, hc⟩

/-- The Hello of the peer is stored once, in the first state. -/
def HelloOnce (s : ZRTPInitiatorSocket) : Prop :=
  s.state = .expectingHello → s.role.foreignHello = none

/-- A Hello that is stored stays. -/
theorem helloOnce_step (hfresh : HelloOnce s) (i : Input) (hstep : step C cfg s i = .ok s') :
    HelloOnce s' ∧ ∀ p, s.role.foreignHello = some p → s'.role.foreignHello = some p := by
  rcases ZRTPSocket.negotiate_ok _ s s' i hstep with ⟨d, _, _, _, hhandled⟩ | ⟨hidle, _, _⟩
  · cases hhandled with
    | hello hstate _ hrun =>
        rcases handleHello_ok hrun with ⟨_, _, rfl⟩
        -- There was none before the first.
        refine ⟨nofun, fun p hp => ?_⟩
        rw [hfresh hstate] at hp
        exact nomatch hp
    | helloAck _ _ hrun =>
        rcases handleHelloAck_next (s.received d) hrun with ⟨_, _, _, rfl⟩
        exact ⟨nofun, fun _ hp => hp⟩
    | commit _ _ hrun => exact nomatch hrun
    | dhOne _ _ hrun =>
        rcases handleDH_ok hrun with ⟨_, _, _, _, _, rfl⟩
        exact ⟨nofun, fun _ hp => hp⟩
    | dhTwo _ _ hrun =>
        rcases handleDH_ok hrun with ⟨_, _, _, _, _, rfl⟩
        exact ⟨nofun, fun _ hp => hp⟩
    | confirmOne _ _ hrun =>
        rcases handleConfirmOne_next hrun with ⟨_, _, rfl⟩
        exact ⟨nofun, fun _ hp => hp⟩
    | confirmTwo _ _ hrun => exact nomatch hrun
    | confirmAck _ _ hrun =>
        rcases handleConfirmAck_next (s.received d) hrun with ⟨_, rfl⟩
        exact ⟨nofun, fun _ hp => hp⟩
  · rw [HelloOnce, hidle.role_eq]
    refine ⟨fun hstate => ?_, fun _ hp => hp⟩
    rcases hidle.state_eq with hs | hs
    · exact hfresh (hs.symm.trans hstate)
    · rw [hs] at hstate
      exact nomatch hstate

theorem getKeyAgreementType_kept (hkept : ∀ p, s.role.foreignHello = some p →
      s'.role.foreignHello = some p) (k : AgreementType) (hk : s.getKeyAgreementType = .ok k) :
    s'.getKeyAgreementType = .ok k := by
  unfold getKeyAgreementType at hk ⊢
  -- Only the Hello of the peer is read for it.
  cases hhello : s.role.foreignHello with
  | none =>
      rw [hhello] at hk
      exact nomatch hk
  | some p =>
      rw [hhello] at hk
      rw [hkept p hhello]
      exact hk

/-- The initiator's handlers, with any others for the packets that only the
    responder gets. -/
def SameHandlers (C : Crypto) (cfg : Config) (h : Handlers InitiatorFields) : Prop :=
  ∃ commit confirmTwo,
    h = { handlers C cfg with handleCommit := commit, handleConfirmTwo := confirmTwo }

theorem ordered (database : RetainedSecretsDatabase) :
    ZRTPSocket.Ordered (handlers C cfg) path (SameHandlers C cfg) Stored getKeyAgreementType
      (create database) := by
  refine ZRTPSocket.ordered_of_steps (by decide) follows rfl ?_
    (fun s => Local C cfg s ∧ Held s ∧ HelloOnce s)
    ⟨local_create database, held_create database, fun _ => rfl⟩ ?_
    (fun s hs => stored_of_held hs.1 hs.2.1)
  · rintro h' ⟨commit, confirmTwo, rfl⟩ state hmem type
    cases state with
    | expectingCommit => exact absurd hmem (by decide)
    | expectingConfirmTwo => exact absurd hmem (by decide)
    | _ => rfl
  · rintro s i s' ⟨hlocal, hheld, hfresh⟩ hstep
    rcases helloOnce_step hfresh i hstep with ⟨hfresh', hkept⟩
    exact ⟨⟨(local_step hlocal i hstep).1, held_step hlocal hheld i hstep, hfresh'⟩,
      getKeyAgreementType_kept hkept⟩

end ZRTPInitiatorSocket

/-! ## The responder -/

namespace ZRTPResponderSocket

/-- The states of a responder. -/
def path : List State :=
  [.expectingHello, .expectingCommit, .expectingDh2, .expectingConfirmTwo, .handshakeComplete]

/-- What a responder has stored when it has taken so many packets of its
    peer. Its own Hello is there from the start. -/
structure Stored (s : ZRTPResponderSocket) : Prop where
  hello : 1 ≤ stage s.state → ∃ p, s.role.foreignHello = some p
  commit : 2 ≤ stage s.state → ∃ secrets commit d k, s.role.retainedSecrets = some secrets ∧
    s.role.foreignCommit = some commit ∧ s.role.localDH = some d ∧
    getKeyAgreementType s.role.foreignCommit = .ok k ∧ d.agreementType = k
  dh : 3 ≤ stage s.state → ∃ ms d k, s.masterSecret = some ms ∧ s.role.foreignDH = some d ∧
    getKeyAgreementType s.role.foreignCommit = .ok k ∧ d.agreementType = k

variable {C : Crypto} {cfg : Config} {s s' : ZRTPResponderSocket}

theorem follows : ZRTPSocket.Follows (handlers C cfg) path := by
  intro c packet s s' hmem hhandled
  cases hhandled with
  | hello hstate _ hrun =>
      rcases handleHello_ok hrun with ⟨_, _, rfl⟩
      exact ⟨0, congrArg some hstate.symm, rfl⟩
  | helloAck _ _ hrun => exact nomatch hrun
  | commit hstate _ hrun =>
      rcases handleCommit_next hrun with ⟨_, _, _, rfl⟩
      exact ⟨1, congrArg some hstate.symm, rfl⟩
  | dhOne hstate _ _ =>
      -- A DHPart1 goes to the same handler, but no responder waits for one.
      rw [hstate] at hmem
      exact absurd hmem (by decide)
  | dhTwo hstate _ hrun =>
      rcases handleDH_next hrun with ⟨_, _, _, rfl⟩
      exact ⟨2, congrArg some hstate.symm, rfl⟩
  | confirmOne _ _ hrun => exact nomatch hrun
  | confirmTwo hstate _ hrun =>
      rcases handleConfirmTwo_next hrun with ⟨_, _, rfl⟩
      exact ⟨3, congrArg some hstate.symm, rfl⟩
  | confirmAck _ _ hrun => exact nomatch hrun

theorem stored_of_held (hlocal : Local C cfg s) (hheld : Held s) : Stored s := by
  refine ⟨hheld.hello, fun hstage => ?_, fun hstage => ?_⟩
  · rcases hheld.dh hstage with ⟨d, hd⟩
    rcases hheld.commit hstage with ⟨commit, hcommit, _⟩
    rcases hlocal.committed d hd with ⟨secrets, _, t, hsecrets, _, ht, hmade⟩
    exact ⟨secrets, commit, d, t, hsecrets, hcommit, hd, ht, hmade.agreementType⟩
  · rcases hheld.keyed hstage with ⟨ms, hms⟩
    rcases hlocal.keyed ms hms with ⟨packet, d, hd, haccepted⟩
    rcases haccepted.copy with ⟨t, ht, hcopy⟩
    exact ⟨ms, d, t, hms, hd, ht, DHPacket.agreementType_copyOf hcopy⟩

/-- The Commit of the peer is stored once, when it is waited for. -/
def CommitOnce (s : ZRTPResponderSocket) : Prop :=
  s.state = .expectingHello ∨ s.state = .expectingCommit → s.role.foreignCommit = none

/-- A Commit that is stored stays. -/
theorem commitOnce_step (hfresh : CommitOnce s) (i : Input) (hstep : step C cfg s i = .ok s') :
    CommitOnce s' ∧ ∀ p, s.role.foreignCommit = some p → s'.role.foreignCommit = some p := by
  rcases ZRTPSocket.negotiate_ok _ s s' i hstep with ⟨d, _, _, _, hhandled⟩ | ⟨hidle, _, _⟩
  · cases hhandled with
    | hello hstate _ hrun =>
        rcases handleHello_ok hrun with ⟨_, _, rfl⟩
        exact ⟨fun _ => hfresh (Or.inl hstate), fun _ hp => hp⟩
    | helloAck _ _ hrun => exact nomatch hrun
    | commit hstate _ hrun =>
        rcases handleCommit_next hrun with ⟨_, _, _, rfl⟩
        -- There was none before the first.
        refine ⟨nofun, fun p hp => ?_⟩
        rw [hfresh (Or.inr hstate)] at hp
        exact nomatch hp
    | dhOne _ _ hrun =>
        rcases handleDH_next hrun with ⟨_, _, _, rfl⟩
        exact ⟨nofun, fun _ hp => hp⟩
    | dhTwo _ _ hrun =>
        rcases handleDH_next hrun with ⟨_, _, _, rfl⟩
        exact ⟨nofun, fun _ hp => hp⟩
    | confirmOne _ _ hrun => exact nomatch hrun
    | confirmTwo _ _ hrun =>
        rcases handleConfirmTwo_next hrun with ⟨_, _, rfl⟩
        exact ⟨nofun, fun _ hp => hp⟩
    | confirmAck _ _ hrun => exact nomatch hrun
  · rw [CommitOnce, hidle.role_eq]
    refine ⟨fun hstate => ?_, fun _ hp => hp⟩
    rcases hidle.state_eq with hs | hs
    · exact hfresh (hs ▸ hstate)
    · rw [hs] at hstate
      rcases hstate with hstate | hstate
      · exact nomatch hstate
      · exact nomatch hstate

theorem getKeyAgreementType_kept (hkept : ∀ p, s.role.foreignCommit = some p →
      s'.role.foreignCommit = some p) (k : AgreementType)
    (hk : getKeyAgreementType s.role.foreignCommit = .ok k) :
    getKeyAgreementType s'.role.foreignCommit = .ok k := by
  cases hcommit : s.role.foreignCommit with
  | none =>
      rw [hcommit] at hk
      exact nomatch hk
  | some p =>
      rw [hkept p hcommit, ← hcommit]
      exact hk

/-- The responder's handlers, with any others for the packets that only the
    initiator gets. -/
def SameHandlers (C : Crypto) (cfg : Config) (h : Handlers ResponderFields) : Prop :=
  ∃ helloAck confirmOne confirmAck,
    h = { handlers C cfg with
      handleHelloAck := helloAck
      handleConfirmOne := confirmOne
      handleConfirmAck := confirmAck }

theorem ordered (database : RetainedSecretsDatabase) (legacy : Bool) (now : Int) :
    ZRTPSocket.Ordered (handlers C cfg) path (SameHandlers C cfg) Stored
      (fun s => getKeyAgreementType s.role.foreignCommit) (start C cfg database legacy now) := by
  refine ZRTPSocket.ordered_of_steps (by decide) follows rfl ?_
    (fun s => Local C cfg s ∧ Held s ∧ CommitOnce s)
    ⟨local_start database legacy now, held_start database legacy now, fun _ => rfl⟩ ?_
    (fun s hs => stored_of_held hs.1 hs.2.1)
  · rintro h' ⟨helloAck, confirmOne, confirmAck, rfl⟩ state hmem type
    cases state with
    | expectingHelloAck => exact absurd hmem (by decide)
    | expectingConfirmOne => exact absurd hmem (by decide)
    | expectingConfirmAck => exact absurd hmem (by decide)
    | _ => rfl
  · rintro s i s' ⟨hlocal, hheld, hfresh⟩ hstep
    rcases commitOnce_step hfresh i hstep with ⟨hfresh', hkept⟩
    exact ⟨⟨(local_step hlocal i hstep).1, held_step hlocal hheld i hstep, hfresh'⟩,
      getKeyAgreementType_kept hkept⟩

end ZRTPResponderSocket

/-- Both roles go forward along their own path, run each of its handlers at
    most once and no other, have stored by then what their handlers use, and do
    not change the key agreement. -/
theorem handshake_ordered (C : Crypto) (cfg : Config) (database : RetainedSecretsDatabase) :
    ZRTPSocket.Ordered (ZRTPInitiatorSocket.handlers C cfg) ZRTPInitiatorSocket.path
      (ZRTPInitiatorSocket.SameHandlers C cfg) ZRTPInitiatorSocket.Stored
      ZRTPInitiatorSocket.getKeyAgreementType (ZRTPInitiatorSocket.create database) ∧
    ∀ (legacy : Bool) (now : Int),
      ZRTPSocket.Ordered (ZRTPResponderSocket.handlers C cfg) ZRTPResponderSocket.path
        (ZRTPResponderSocket.SameHandlers C cfg) ZRTPResponderSocket.Stored
        (fun s => ZRTPResponderSocket.getKeyAgreementType s.role.foreignCommit)
        (ZRTPResponderSocket.start C cfg database legacy now) :=
  ⟨ZRTPInitiatorSocket.ordered database, ZRTPResponderSocket.ordered database⟩

end RedPhone
