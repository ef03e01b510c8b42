import RedPhone.Call.CallManager
import RedPhone.Zrtp.Undisturbed

/-!
# Ending What a Call Has Made

`terminate` looks at three fields, once each, and ends what it finds: the audio
manager, the signal manager, which queues the hangup of the session, and the
negotiating socket. `run` fills the fields one after the other and does not
look at the flag on the way. Whatever it makes behind the look, or has made
and not yet stored, is left over.

The session is the widest gap. It is obtained first, and only the signal
manager can give it up, which is stored last, behind two statements that can
fail.

## Main definitions

* `LookedAudio`, `LookedSignals`, `LookedSocket`: How far `terminate` is.
* `TornDown`: Nothing the call has made is left.
* `Misses`: A step at which something is left over.
* `InOrder`: What is known of a call at any time.
* `Swept`, `Lost`: What is known of calls without, and with such a step.

## Theorems

* `inOrder_step`: The statements keep the order.
* `swept_step`: A call nothing was missed of.
* `lost_of_misses`, `lost_step`: What is missed once remains.
* `torn_down_iff`: A call is torn down when nothing was missed.
* `torn_down_missed`: An outgoing call nothing of which is torn down.
-/

namespace RedPhone

open Interleaving

namespace Call

variable {ρ : Type} {M : CallManager ρ} {m m' : Call ρ}

/-- `terminate` has looked at `callAudioManager`. -/
def LookedAudio : Terminator → Prop
  | .signalManager => True
  | .zrtpSocket => True
  | .closing => True
  | .returned => True
  | _ => False

/-- `terminate` has looked at `signalManager`. -/
def LookedSignals : Terminator → Prop
  | .zrtpSocket => True
  | .closing => True
  | .returned => True
  | _ => False

/-- `terminate` has looked at `zrtpSocket`. -/
def LookedSocket : Terminator → Prop
  | .closing => True
  | .returned => True
  | _ => False

/-- Nothing the call has made is left: the session has its hangup queued, the
    managers have been told to terminate, the socket has been closed. -/
structure TornDown (m : Call ρ) : Prop where
  session : ∀ sessionId, m.sessionDescriptor = some sessionId → sessionId ∈ m.hangups
  signalManager : ∀ told, m.signalManager.get? = some told → told = true
  zrtpSocket : ∀ n, m.zrtpSocket.get? = some n → n.closer = .returned
  callAudioManager : ∀ told, m.callAudioManager.get? = some told → told = true

/-- A step at which something is left over: `terminate` finds nothing in the
    field of a thing that is there already, or the thing is made when
    `terminate` has looked for it. -/
def Misses (m : Call ρ) : CallTurn → Prop
  | .terminate =>
    m.terminator = .audioManager ∧ (∃ told, m.callAudioManager = .made told) ∨
    m.terminator = .signalManager ∧ m.signalManager.look = none ∧
      (m.sessionDescriptor ≠ none ∨ m.signalManager.get? ≠ none) ∨
    m.terminator = .zrtpSocket ∧ ∃ n, m.zrtpSocket = .made n
  | .run o _ => (∃ sessionId, o = .returns sessionId) ∧
    ((∃ rest, m.pc = .before (.initiateConnection :: rest)) ∧ LookedSignals m.terminator ∨
      (∃ rest, m.pc = .before (.newSignalManager :: rest)) ∧ LookedSignals m.terminator ∨
      (∃ rest, m.pc = .before (.newZrtpSocket :: rest)) ∧ LookedSocket m.terminator ∨
      m.pc = .newAudioManager ∧ LookedAudio m.terminator)
  | .answer _ => False

/-! ## What is known at any time -/

/-- What is ahead in `run` is not there yet, and what `terminate` has not
    looked for it has not ended. -/
structure InOrder (M : CallManager ρ) (m : Call ρ) : Prop where
  suffix : ∀ rest, m.pc = .before rest → rest <:+ Statement.order M.role
  session : ∀ rest, m.pc = .before rest → .initiateConnection ∈ rest → m.sessionDescriptor = none
  signals : ∀ rest, m.pc = .before rest → .newSignalManager ∈ rest → m.signalManager = .unset
  socket : ∀ rest, m.pc = .before rest → .newZrtpSocket ∈ rest → m.zrtpSocket = .unset
  hangups : ¬ LookedSignals m.terminator ∨ m.sessionDescriptor = none → m.hangups = []
  audioMade : ∀ told, m.callAudioManager = .made told → told = false
  signalsMade : ∀ told, m.signalManager = .made told → told = false
  idle : ¬ LookedSocket m.terminator → ∀ n, m.zrtpSocket.get? = some n → n.closer = .idle
  closing : m.terminator = .closing → ∃ n, m.zrtpSocket = .set n ∧ n.closer = .closing

/-- No statement is in `run` twice. -/
theorem notMem_of_suffix {statement : Statement} {rest : List Statement} {role : Role}
    (h : statement :: rest <:+ Statement.order role) : statement ∉ rest := by
  have hnodup : (Statement.order role).Nodup := by
    cases role <;> decide
  exact (List.nodup_cons.mp (hnodup.sublist h.sublist)).1

/-- A statement of `run` before the negotiation, which changes none of what
    has been made. -/
theorem InOrder.next (h : InOrder M m) {statement : Statement} {rest : List Statement}
    (hpc : m.pc = .before (statement :: rest)) :
    ∀ tail, RunPc.before rest = .before tail → tail <:+ Statement.order M.role ∧
      (.initiateConnection ∈ tail → m.sessionDescriptor = none) ∧
      (.newSignalManager ∈ tail → m.signalManager = .unset) ∧
      (.newZrtpSocket ∈ tail → m.zrtpSocket = .unset) := by
  rintro tail htail
  rw [RunPc.before.injEq] at htail
  rw [← htail]
  exact ⟨(List.suffix_cons _ _).trans (h.suffix _ hpc),
    fun hmem => h.session _ hpc (List.mem_cons_of_mem _ hmem),
    fun hmem => h.signals _ hpc (List.mem_cons_of_mem _ hmem),
    fun hmem => h.socket _ hpc (List.mem_cons_of_mem _ hmem)⟩

theorem inOrder_follows {pc : RunPc} {callbacks : List CallStateListener} (h : InOrder M m)
    (hfollows : Follows m pc) : InOrder M ((m.notify callbacks).goto pc) := by
  have hkept : ∀ (_ : ∀ tail, pc = .before tail → tail <:+ Statement.order M.role ∧
      (.initiateConnection ∈ tail → m.sessionDescriptor = none) ∧
      (.newSignalManager ∈ tail → m.signalManager = .unset) ∧
      (.newZrtpSocket ∈ tail → m.zrtpSocket = .unset)),
      InOrder M ((m.notify callbacks).goto pc) := fun hpc =>
    ⟨fun tail htail => (hpc tail htail).1, fun tail htail => (hpc tail htail).2.1,
      fun tail htail => (hpc tail htail).2.2.1, fun tail htail => (hpc tail htail).2.2.2,
      h.hangups, h.audioMade, h.signalsMade, h.idle, h.closing⟩
  cases hfollows with
  | next statement rest hpc => exact hkept (h.next hpc)
  | _ => exact hkept nofun

/-- What a statement of the negotiation leaves of the negotiating socket as
    `terminate` sees it. -/
theorem inOrder_modify (h : InOrder M m) {g : Negotiation ρ → Negotiation ρ}
    (hcloser : ∀ n, m.zrtpSocket.get? = some n → (g n).closer = n.closer) :
    (¬ LookedSocket m.terminator → ∀ n, (m.zrtpSocket.modify g).get? = some n → n.closer = .idle) ∧
    (m.terminator = .closing → ∃ n, m.zrtpSocket.modify g = .set n ∧ n.closer = .closing) := by
  constructor
  · intro hlooked n hn
    cases hset : m.zrtpSocket with
    | unset =>
        rw [hset] at hn
        exact absurd hn nofun
    | made k =>
        -- It is stored, or was made and is not stored yet.
        have hk : m.zrtpSocket.get? = some k := by rw [hset]; rfl
        rw [hset] at hn
        rw [← Option.some.inj hn, hcloser k hk]
        exact h.idle hlooked k hk
    | set k =>
        have hk : m.zrtpSocket.get? = some k := by rw [hset]; rfl
        rw [hset] at hn
        rw [← Option.some.inj hn, hcloser k hk]
        exact h.idle hlooked k hk
  · intro hclosing
    rcases h.closing hclosing with ⟨k, hset, hat⟩
    have hk : m.zrtpSocket.get? = some k := by rw [hset]; rfl
    refine ⟨g k, by rw [hset]; rfl, ?_⟩
    rw [hcloser k hk]
    exact hat

theorem inOrder_run {o : Outcome} {i : Input} (h : InOrder M m) (hrun : m.run M o i = .ok m') :
    InOrder M m' := by
  cases runs_of_run hrun with
  | passes pc callbacks hfollows hquiet => exact inOrder_follows h hfollows
  | initiates sessionId rest hpc ho =>
      have hnext := h.next hpc
      refine ⟨fun tail htail => (hnext tail htail).1, fun tail htail hmem => ?_,
        fun tail htail => (hnext tail htail).2.2.1, fun tail htail => (hnext tail htail).2.2.2,
        fun hlooked => ?_, h.audioMade, h.signalsMade, h.idle, h.closing⟩
      · -- The session is obtained once, so no statement behind obtains it again.
        rw [← RunPc.before.inj htail] at hmem
        exact absurd hmem (notMem_of_suffix (h.suffix _ hpc))
      · exact h.hangups (hlooked.imp_right nofun)
  | makesZrtpSocket sessionId rest hpc ho =>
      have hnext := h.next hpc
      have hunset := h.socket _ hpc List.mem_cons_self
      refine ⟨fun tail htail => (hnext tail htail).1, fun tail htail => (hnext tail htail).2.1,
        fun tail htail => (hnext tail htail).2.2.1, fun tail htail hmem => ?_, h.hangups,
        h.audioMade, h.signalsMade, fun _ n hn => ?_, fun hclosing => ?_⟩
      · rw [← RunPc.before.inj htail] at hmem
        exact absurd hmem (notMem_of_suffix (h.suffix _ hpc))
      · rw [← Option.some.inj hn]
        rfl
      · -- No socket was there that could be closing.
        rcases h.closing hclosing with ⟨n, hset, _⟩
        rw [hunset] at hset
        exact absurd hset nofun
  | setsZrtpSocket rest hpc =>
      have hnext := h.next hpc
      refine ⟨fun tail htail => (hnext tail htail).1, fun tail htail => (hnext tail htail).2.1,
        fun tail htail => (hnext tail htail).2.2.1, fun tail htail hmem => ?_, h.hangups,
        h.audioMade, h.signalsMade, fun hlooked n hn => ?_, fun hclosing => ?_⟩
      · -- A socket that is yet to be made is not stored either.
        simp only [(hnext tail htail).2.2.2 hmem]
        rfl
      · rw [Field.get?_store] at hn
        exact h.idle hlooked n hn
      · rcases h.closing hclosing with ⟨n, hset, hat⟩
        exact ⟨n, by rw [hset]; rfl, hat⟩
  | makesSignalManager sessionId rest hpc ho =>
      have hnext := h.next hpc
      refine ⟨fun tail htail => (hnext tail htail).1, fun tail htail => (hnext tail htail).2.1,
        fun tail htail hmem => ?_, fun tail htail => (hnext tail htail).2.2.2, h.hangups,
        h.audioMade, fun told htold => ?_, h.idle, h.closing⟩
      · rw [← RunPc.before.inj htail] at hmem
        exact absurd hmem (notMem_of_suffix (h.suffix _ hpc))
      · exact (Field.made.inj htold).symm
  | setsSignalManager rest hpc =>
      have hnext := h.next hpc
      refine ⟨fun tail htail => (hnext tail htail).1, fun tail htail => (hnext tail htail).2.1,
        fun tail htail hmem => ?_, fun tail htail => (hnext tail htail).2.2.2, h.hangups,
        h.audioMade, fun told htold => absurd htold Field.store_ne_made, h.idle, h.closing⟩
      simp only [(hnext tail htail).2.2.1 hmem]
      rfl
  | negotiates l n n' hpc hn hthread =>
      -- The connection is set up, and none of these statements comes again.
      have hnot : ∀ tail, m.pc ≠ .before tail := by
        rw [hpc]
        exact nofun
      have hmodify := inOrder_modify h (g := fun _ => n') (fun k hk => by
        rw [hn, Option.some.injEq] at hk
        rw [← hk]
        exact (Negotiation.thread_shared hthread).2.1)
      exact ⟨fun tail htail => absurd htail (hnot tail), fun tail htail => absurd htail (hnot tail),
        fun tail htail => absurd htail (hnot tail), fun tail htail => absurd htail (hnot tail),
        h.hangups, h.audioMade, h.signalsMade, hmodify.1, hmodify.2⟩
  | handshakes hpc hflag =>
      have hmodify := inOrder_modify h (g := fun n => n.goto (.test .finish)) (fun _ _ => rfl)
      exact ⟨nofun, nofun, nofun, nofun, h.hangups, h.audioMade, h.signalsMade, hmodify.1,
        hmodify.2⟩
  | connects hpc =>
      exact ⟨nofun, nofun, nofun, nofun, h.hangups, h.audioMade, h.signalsMade, h.idle, h.closing⟩
  | runsAudio n hpc hflag hn =>
      exact ⟨nofun, nofun, nofun, nofun, h.hangups, h.audioMade, h.signalsMade, h.idle, h.closing⟩
  | makesAudioManager sessionId hpc ho =>
      exact ⟨nofun, nofun, nofun, nofun, h.hangups, fun told htold => (Field.made.inj htold).symm,
        h.signalsMade, h.idle, h.closing⟩
  | setsAudioManager hpc =>
      exact ⟨nofun, nofun, nofun, nofun, h.hangups,
        fun told htold => absurd htold Field.store_ne_made, h.signalsMade, h.idle, h.closing⟩

theorem close_closer {n n' : Negotiation ρ} (h : n.close = .ok n') :
    n.closer = .idle ∧ n'.closer = .closing ∨ n.closer = .closing ∧ n'.closer = .returned := by
  unfold Negotiation.close at h
  cases hcloser : n.closer with
  | idle =>
      rw [hcloser] at h
      rw [← Except.ok.inj h]
      exact Or.inl ⟨rfl, rfl⟩
  | closing =>
      rw [hcloser] at h
      rw [← Except.ok.inj h]
      exact Or.inr ⟨rfl, rfl⟩
  | returned =>
      rw [hcloser] at h
      exact absurd h nofun

/-- Until `terminate` looks at the fields nothing is hung up or closed. -/
theorem InOrder.early (h : InOrder M m) {terminator : Terminator} (hat : m.terminator = terminator)
    (hsignals : ¬ LookedSignals terminator) (hsocket : ¬ LookedSocket terminator) :
    m.hangups = [] ∧ ∀ n, m.zrtpSocket.get? = some n → n.closer = .idle := by
  rw [← hat] at hsignals hsocket
  exact ⟨h.hangups (Or.inl hsignals), h.idle hsocket⟩

theorem inOrder_terminate (h : InOrder M m) (hterminate : m.terminate = .ok m') : InOrder M m' := by
  cases terminates_of_terminate hterminate with
  | answers answer hat =>
      have hearly := h.early hat id id
      exact ⟨h.suffix, h.session, h.signals, h.socket, fun _ => hearly.1,
        h.audioMade, h.signalsMade, fun _ => hearly.2, nofun⟩
  | raises hat =>
      have hearly := h.early hat id id
      exact ⟨h.suffix, h.session, h.signals, h.socket, fun _ => hearly.1,
        h.audioMade, h.signalsMade, fun _ => hearly.2, nofun⟩
  | stopsAudio told hat hset =>
      have hearly := h.early hat id id
      exact ⟨h.suffix, h.session, h.signals, h.socket, fun _ => hearly.1,
        nofun, h.signalsMade, fun _ => hearly.2, nofun⟩
  | noAudio hat hset =>
      have hearly := h.early hat id id
      exact ⟨h.suffix, h.session, h.signals, h.socket, fun _ => hearly.1,
        h.audioMade, h.signalsMade, fun _ => hearly.2, nofun⟩
  | hangsUp told hat hset =>
      have hearly := h.early hat id id
      refine ⟨h.suffix, h.session, fun rest hpc hmem => ?_, h.socket, fun hlooked => ?_,
        h.audioMade, nofun, fun _ => hearly.2, nofun⟩
      · -- The manager that hangs up is stored, so it is not to be made any more.
        have hunset := h.signals rest hpc hmem
        rw [hset] at hunset
        exact absurd hunset nofun
      · rcases hlooked with hlooked | hnone
        · exact absurd trivial hlooked
        · have hnone : m.sessionDescriptor = none := hnone
          -- Without a session nothing is hung up.
          simp only [hnone, h.hangups (Or.inr hnone), Option.toList_none, List.append_nil]
  | noSignals hat hset =>
      have hearly := h.early hat id id
      exact ⟨h.suffix, h.session, h.signals, h.socket, fun _ => hearly.1,
        h.audioMade, h.signalsMade, fun _ => hearly.2, nofun⟩
  | closes n n' hat hset hclose =>
      have hlooked : LookedSignals m.terminator := by
        rw [hat]
        trivial
      -- Nobody has closed the socket before, so this is the first statement.
      have hidle : n.closer = .idle := h.idle (by rw [hat]; exact id) n (by rw [hset]; rfl)
      refine ⟨h.suffix, h.session, h.signals, fun rest hpc hmem => ?_, fun hnot => ?_, h.audioMade,
        h.signalsMade, fun hnot => absurd trivial hnot, fun _ => ⟨n', rfl, ?_⟩⟩
      · have hunset := h.socket rest hpc hmem
        rw [hset] at hunset
        exact absurd hunset nofun
      · exact h.hangups (hnot.imp_left (fun hnot => absurd trivial hnot))
      · rcases close_closer hclose with ⟨_, hcloser⟩ | ⟨hcloser, _⟩
        · exact hcloser
        · rw [hidle] at hcloser
          exact absurd hcloser nofun
  | noSocket hat hset =>
      exact ⟨h.suffix, h.session, h.signals, h.socket,
        fun hnot => h.hangups (hnot.imp_left (fun hnot => absurd trivial hnot)), h.audioMade,
        h.signalsMade, fun hnot => absurd trivial hnot, nofun⟩
  | closed n n' hat hset hclose =>
      refine ⟨h.suffix, h.session, h.signals, fun rest hpc hmem => ?_, fun hnot => ?_, h.audioMade,
        h.signalsMade, fun hnot => absurd trivial hnot, nofun⟩
      · have hunset := h.socket rest hpc hmem
        rw [hset] at hunset
        exact absurd hunset nofun
      · exact h.hangups (hnot.imp_left (fun hnot => absurd trivial hnot))

/-- The statements of either thread keep the order. -/
theorem inOrder_step {turn : CallTurn} (h : InOrder M m) (hstep : m.step M turn = .ok m') :
    InOrder M m' := by
  cases turn with
  | run o i => exact inOrder_run h hstep
  | terminate => exact inOrder_terminate h hstep
  | answer answer =>
      rw [← Except.ok.inj hstep]
      exact ⟨h.suffix, h.session, h.signals, h.socket, h.hangups, h.audioMade, h.signalsMade,
        h.idle, h.closing⟩

theorem inOrder_create (M : CallManager ρ) : InOrder M (create M) := by
  have hrest : ∀ rest, (create M).pc = .before rest → rest = Statement.order M.role := by
    intro rest hpc
    rcases create_pc M with hstart | hstart
    · exact absurd (hstart.symm.trans hpc) nofun
    · exact RunPc.before.inj (hpc.symm.trans hstart)
  refine ⟨fun rest hpc => ?_, fun rest hpc hmem => ?_, fun _ _ _ => rfl, fun _ _ _ => rfl,
    fun _ => rfl, fun told h => ?_, fun told h => ?_, fun _ n hn => ?_, fun h => ?_⟩
  · exact (hrest rest hpc).symm ▸ List.suffix_refl _
  · -- Only an outgoing call has a session to obtain.
    refine M.initiator_session ?_
    rw [hrest rest hpc] at hmem
    cases hrole : M.role with
    | initiator => rfl
    | responder =>
        rw [hrole] at hmem
        exact absurd hmem (by decide)
  · have hunset : (create M).callAudioManager = .unset := rfl
    rw [hunset] at h
    exact absurd h nofun
  · have hunset : (create M).signalManager = .unset := rfl
    rw [hunset] at h
    exact absurd h nofun
  · have hunset : (create M).zrtpSocket = .unset := rfl
    rw [hunset] at hn
    exact absurd hn nofun
  · have hidle : (create M).terminator = .idle := rfl
    rw [hidle] at h
    exact absurd h nofun

/-! ## Calls nothing is missed of -/

/-- Whatever `terminate` has looked for is ended, or not there. -/
structure Swept (m : Call ρ) : Prop where
  audio : LookedAudio m.terminator → m.callAudioManager = .unset ∨ m.callAudioManager = .set true
  signals : LookedSignals m.terminator →
    m.sessionDescriptor = none ∧ m.signalManager = .unset ∨
    m.signalManager = .set true ∧
      ∀ sessionId, m.sessionDescriptor = some sessionId → sessionId ∈ m.hangups
  socket : m.terminator = .returned →
    m.zrtpSocket = .unset ∨ ∃ n, m.zrtpSocket = .set n ∧ n.closer = .returned

theorem Swept.modify (h : Swept m) {g : Negotiation ρ → Negotiation ρ}
    (hcloser : ∀ n, m.zrtpSocket.get? = some n → (g n).closer = n.closer) :
    m.terminator = .returned → m.zrtpSocket.modify g = .unset ∨
      ∃ n, m.zrtpSocket.modify g = .set n ∧ n.closer = .returned := by
  intro hreturned
  rcases h.socket hreturned with hunset | ⟨n, hset, hclosed⟩
  · exact Or.inl (by rw [hunset]; rfl)
  · have hn : m.zrtpSocket.get? = some n := by rw [hset]; rfl
    refine Or.inr ⟨g n, by rw [hset]; rfl, ?_⟩
    rw [hcloser n hn]
    exact hclosed

theorem swept_run {o : Outcome} {i : Input} (h : Swept m) (hmiss : ¬ Misses m (.run o i))
    (hrun : m.run M o i = .ok m') : Swept m' := by
  cases runs_of_run hrun with
  | passes pc callbacks hfollows hquiet => exact ⟨h.audio, h.signals, h.socket⟩
  | initiates sessionId rest hpc ho =>
      -- If `terminate` had looked already, the statement would miss it.
      have hnot : ¬ LookedSignals m.terminator := fun hlooked =>
        hmiss ⟨⟨sessionId, ho⟩, Or.inl ⟨⟨rest, hpc⟩, hlooked⟩⟩
      exact ⟨h.audio, fun hlooked => absurd hlooked hnot, h.socket⟩
  | makesZrtpSocket sessionId rest hpc ho =>
      have hnot : ¬ LookedSocket m.terminator := fun hlooked =>
        hmiss ⟨⟨sessionId, ho⟩, Or.inr (Or.inr (Or.inl ⟨⟨rest, hpc⟩, hlooked⟩))⟩
      refine ⟨h.audio, h.signals, fun hreturned => absurd ?_ hnot⟩
      have hreturned : m.terminator = .returned := hreturned
      rw [hreturned]
      trivial
  | setsZrtpSocket rest hpc =>
      refine ⟨h.audio, h.signals, fun hreturned => ?_⟩
      -- Storing a socket does not open it.
      rcases h.socket hreturned with hunset | ⟨n, hset, hclosed⟩
      · exact Or.inl (by simp only [hunset]; rfl)
      · exact Or.inr ⟨n, by simp only [hset]; rfl, hclosed⟩
  | makesSignalManager sessionId rest hpc ho =>
      have hnot : ¬ LookedSignals m.terminator := fun hlooked =>
        hmiss ⟨⟨sessionId, ho⟩, Or.inr (Or.inl ⟨⟨rest, hpc⟩, hlooked⟩)⟩
      exact ⟨h.audio, fun hlooked => absurd hlooked hnot, h.socket⟩
  | setsSignalManager rest hpc =>
      refine ⟨h.audio, fun hlooked => ?_, h.socket⟩
      rcases h.signals hlooked with ⟨hnone, hunset⟩ | ⟨htold, hhangups⟩
      · exact Or.inl ⟨hnone, by simp only [hunset]; rfl⟩
      · exact Or.inr ⟨by simp only [htold]; rfl, hhangups⟩
  | negotiates l n n' hpc hn hthread =>
      refine ⟨h.audio, h.signals, h.modify (fun k hk => ?_)⟩
      rw [hn, Option.some.injEq] at hk
      rw [← hk]
      exact (Negotiation.thread_shared hthread).2.1
  | handshakes hpc hflag => exact ⟨h.audio, h.signals, h.modify (fun _ _ => rfl)⟩
  | connects hpc => exact ⟨h.audio, h.signals, h.socket⟩
  | runsAudio n hpc hflag hn => exact ⟨h.audio, h.signals, h.socket⟩
  | makesAudioManager sessionId hpc ho =>
      have hnot : ¬ LookedAudio m.terminator := fun hlooked =>
        hmiss ⟨⟨sessionId, ho⟩, Or.inr (Or.inr (Or.inr ⟨hpc, hlooked⟩))⟩
      exact ⟨fun hlooked => absurd hlooked hnot, h.signals, h.socket⟩
  | setsAudioManager hpc =>
      refine ⟨fun hlooked => ?_, h.signals, h.socket⟩
      rcases h.audio hlooked with hunset | htold
      · exact Or.inl (by simp only [hunset]; rfl)
      · exact Or.inr (by simp only [htold]; rfl)

theorem swept_terminate (horder : InOrder M m) (h : Swept m) (hmiss : ¬ Misses m .terminate)
    (hterminate : m.terminate = .ok m') : Swept m' := by
  have hlooked : ∀ {terminator : Terminator}, m.terminator = terminator →
      (LookedAudio terminator → LookedAudio m.terminator) ∧
      (LookedSignals terminator → LookedSignals m.terminator) := by
    intro terminator hat
    rw [hat]
    exact ⟨id, id⟩
  cases terminates_of_terminate hterminate with
  | answers answer hat => exact ⟨False.elim, False.elim, nofun⟩
  | raises hat => exact ⟨False.elim, False.elim, nofun⟩
  | stopsAudio told hat hset => exact ⟨fun _ => Or.inr rfl, False.elim, nofun⟩
  | noAudio hat hset =>
      refine ⟨fun _ => Or.inl ?_, False.elim, nofun⟩
      -- It sees null where nothing is made, or where it misses what is.
      rcases Field.look_none hset with hunset | hmade
      · exact hunset
      · exact absurd (Or.inl ⟨hat, hmade⟩) hmiss
  | hangsUp told hat hset =>
      refine ⟨fun _ => h.audio ((hlooked hat).1 trivial), fun _ => Or.inr ⟨rfl, ?_⟩, nofun⟩
      intro sessionId hsession
      have hsession : m.sessionDescriptor = some sessionId := hsession
      simp only [hsession, Option.toList_some]
      exact List.mem_append_right _ (List.mem_singleton.mpr rfl)
  | noSignals hat hset =>
      refine ⟨fun _ => h.audio ((hlooked hat).1 trivial), fun _ => Or.inl ?_, nofun⟩
      -- It hangs up nothing, so no session may be left.
      have hnone : ¬ (m.sessionDescriptor ≠ none ∨ m.signalManager.get? ≠ none) := fun hleft =>
        hmiss (Or.inr (Or.inl ⟨hat, hset, hleft⟩))
      rw [not_or, not_not, not_not] at hnone
      rcases Field.look_none hset with hunset | ⟨told, hmade⟩
      · exact ⟨hnone.1, hunset⟩
      · rw [hmade] at hnone
        exact absurd hnone.2 nofun
  | closes n n' hat hset hclose =>
      exact ⟨fun _ => h.audio ((hlooked hat).1 trivial),
        fun _ => h.signals ((hlooked hat).2 trivial), nofun⟩
  | noSocket hat hset =>
      refine ⟨fun _ => h.audio ((hlooked hat).1 trivial),
        fun _ => h.signals ((hlooked hat).2 trivial), fun _ => Or.inl ?_⟩
      rcases Field.look_none hset with hunset | hmade
      · exact hunset
      · exact absurd (Or.inr (Or.inr ⟨hat, hmade⟩)) hmiss
  | closed n n' hat hset hclose =>
      refine ⟨fun _ => h.audio ((hlooked hat).1 trivial),
        fun _ => h.signals ((hlooked hat).2 trivial), fun _ => Or.inr ⟨n', rfl, ?_⟩⟩
      -- The second statement of `close` is the one that closes the socket.
      rcases horder.closing hat with ⟨k, hk, hclosing⟩
      rw [hset, Field.set.injEq] at hk
      rw [← hk] at hclosing
      rcases close_closer hclose with ⟨hcloser, _⟩ | ⟨_, hcloser⟩
      · rw [hclosing] at hcloser
        exact absurd hcloser nofun
      · exact hcloser

/-- A statement at which nothing is missed. -/
theorem swept_step {turn : CallTurn} (horder : InOrder M m) (h : Swept m)
    (hmiss : ¬ Misses m turn) (hstep : m.step M turn = .ok m') : Swept m' := by
  cases turn with
  | run o i => exact swept_run h hmiss hstep
  | terminate => exact swept_terminate horder h hmiss hstep
  | answer answer =>
      rw [← Except.ok.inj hstep]
      exact ⟨h.audio, h.signals, h.socket⟩

theorem swept_create (M : CallManager ρ) : Swept (create M) :=
  ⟨False.elim, False.elim, fun h => absurd (show Terminator.idle = .returned from h) nofun⟩

theorem Swept.tornDown (h : Swept m) (hreturned : m.terminator = .returned) : TornDown m := by
  -- A terminator that has returned has looked at every field.
  have hlooked : LookedAudio m.terminator ∧ LookedSignals m.terminator := by
    rw [hreturned]
    exact ⟨trivial, trivial⟩
  refine ⟨fun sessionId hsession => ?_, fun told htold => ?_, fun n hn => ?_, fun told htold => ?_⟩
  · rcases h.signals hlooked.2 with ⟨hnone, _⟩ | ⟨_, hhangups⟩
    · rw [hnone] at hsession
      exact absurd hsession nofun
    · exact hhangups sessionId hsession
  · rcases h.signals hlooked.2 with ⟨_, hunset⟩ | ⟨hset, _⟩
    · rw [hunset] at htold
      exact absurd htold nofun
    · rw [hset] at htold
      exact (Option.some.inj htold).symm
  · rcases h.socket hreturned with hunset | ⟨k, hset, hclosed⟩
    · rw [hunset] at hn
      exact absurd hn nofun
    · rw [hset] at hn
      rw [← Option.some.inj hn]
      exact hclosed
  · rcases h.audio hlooked.1 with hunset | hset
    · rw [hunset] at htold
      exact absurd htold nofun
    · rw [hset] at htold
      exact (Option.some.inj htold).symm

/-! ## Calls something is missed of -/

/-- Something is left over that `terminate` has looked for. -/
inductive Lost (m : Call ρ) : Prop
  | audio (hlooked : LookedAudio m.terminator) (h : m.callAudioManager.get? = some false)
  | session (hlooked : LookedSignals m.terminator) (h : m.sessionDescriptor ≠ none)
    (hhangups : m.hangups = [])
  | signals (hlooked : LookedSignals m.terminator) (h : m.signalManager.get? = some false)
  | socket (hreturned : m.terminator = .returned) (n : Negotiation ρ)
    (hn : m.zrtpSocket.get? = some n) (hidle : n.closer = .idle)

theorem Lost.not_tornDown (h : Lost m) : ¬ TornDown m := by
  intro htorn
  cases h with
  | audio hlooked h => exact absurd (htorn.callAudioManager false h) nofun
  | signals hlooked h => exact absurd (htorn.signalManager false h) nofun
  | session hlooked h hhangups =>
      rcases Option.ne_none_iff_exists'.mp h with ⟨sessionId, hsession⟩
      have hmem := htorn.session sessionId hsession
      rw [hhangups] at hmem
      exact absurd hmem List.not_mem_nil
  | socket hreturned n hn hidle =>
      have hclosed := htorn.zrtpSocket n hn
      rw [hidle] at hclosed
      exact absurd hclosed nofun

theorem lost_of_misses_run {o : Outcome} {i : Input} (horder : InOrder M m)
    (hmiss : Misses m (.run o i)) (hrun : m.run M o i = .ok m') : Lost m' := by
  rcases hmiss with ⟨⟨sessionId, ho⟩, ⟨⟨rest, hpc⟩, hlooked⟩ | ⟨⟨rest, hpc⟩, hlooked⟩ |
    ⟨⟨rest, hpc⟩, hlooked⟩ | ⟨hpc, hlooked⟩⟩
  · have hm' : m.run M o i
        = .ok { m with sessionDescriptor := some sessionId, pc := .before rest } := by
      unfold run
      rw [hpc, ho]
      rfl
    rw [hm', Except.ok.injEq] at hrun
    rw [← hrun]
    -- The session comes too late to be hung up.
    have hnone := horder.session _ hpc List.mem_cons_self
    exact .session hlooked nofun (horder.hangups (Or.inr hnone))
  · have hm' : m.run M o i = .ok { m with signalManager := .made false, pc := .before rest } := by
      unfold run
      rw [hpc, ho]
      rfl
    rw [hm', Except.ok.injEq] at hrun
    rw [← hrun]
    -- The manager is not told to stop.
    exact .signals hlooked rfl
  · have hm' : m.run M o i = .ok { m with
        zrtpSocket := .made (Negotiation.create M.socket), pc := .before rest } := by
      unfold run
      rw [hpc, ho]
      rfl
    rw [hm', Except.ok.injEq] at hrun
    have hunset := horder.socket _ hpc List.mem_cons_self
    have hreturned : m.terminator = .returned := by
      cases hterminator : m.terminator with
      | returned => rfl
      | closing =>
          -- `close` is not called on a socket that is not there.
          rcases horder.closing hterminator with ⟨n, hset, _⟩
          rw [hunset] at hset
          exact absurd hset nofun
      | _ =>
          rw [hterminator] at hlooked
          exact absurd hlooked id
    rw [← hrun]
    exact .socket hreturned _ rfl rfl
  · have hm' : m.run M o i = .ok { m with
        callAudioManager := .made false, pc := .setAudioManager } := by
      unfold run
      rw [hpc, ho]
    rw [hm', Except.ok.injEq] at hrun
    rw [← hrun]
    exact .audio hlooked rfl

theorem lost_of_misses_terminate (horder : InOrder M m) (hmiss : Misses m .terminate)
    (hterminate : m.terminate = .ok m') : Lost m' := by
  rcases hmiss with ⟨hat, told, hmade⟩ | ⟨hat, hlook, hleft⟩ | ⟨hat, n, hmade⟩
  · have hm' : m.terminate = .ok { m with terminator := .signalManager } := by
      unfold terminate
      rw [hat, hmade]
    rw [hm', Except.ok.injEq] at hterminate
    rw [← hterminate]
    -- The audio is made and not stored, so it is not told to stop.
    refine .audio trivial ?_
    simp only [hmade, horder.audioMade told hmade]
    rfl
  · have hm' : m.terminate = .ok { m with terminator := .zrtpSocket } := by
      unfold terminate
      rw [hat]
      rcases Field.look_none hlook with hunset | ⟨told, hmade⟩
      · rw [hunset]
      · rw [hmade]
    rw [hm', Except.ok.injEq] at hterminate
    rw [← hterminate]
    have hearly : ¬ LookedSignals m.terminator := by
      rw [hat]
      exact id
    rcases hleft with hsession | hsignals
    · exact .session trivial hsession (horder.hangups (Or.inl hearly))
    · refine .signals trivial ?_
      rcases Field.look_none hlook with hunset | ⟨told, hmade⟩
      · rw [hunset] at hsignals
        exact absurd rfl hsignals
      · simp only [hmade, horder.signalsMade told hmade]
        rfl
  · have hm' : m.terminate = .ok { m with terminator := .returned } := by
      unfold terminate
      rw [hat, hmade]
    rw [hm', Except.ok.injEq] at hterminate
    rw [← hterminate]
    have hn : m.zrtpSocket.get? = some n := by
      rw [hmade]
      rfl
    exact .socket rfl n hn (horder.idle (by rw [hat]; exact id) n hn)

/-- A step that misses something leaves it over. -/
theorem lost_of_misses {turn : CallTurn} (horder : InOrder M m) (hmiss : Misses m turn)
    (hstep : m.step M turn = .ok m') : Lost m' := by
  cases turn with
  | run o i => exact lost_of_misses_run horder hmiss hstep
  | terminate => exact lost_of_misses_terminate horder hmiss hstep
  | answer answer => exact absurd hmiss id

/-- A statement of `run` leaves over what is. -/
theorem lost_run {o : Outcome} {i : Input} (h : Lost m) (hrun : m.run M o i = .ok m') :
    Lost m' := by
  have hruns := runs_of_run hrun
  have hterminator : m'.terminator = m.terminator := by
    cases hruns <;> rfl
  have hhangups : m'.hangups = m.hangups := by
    cases hruns <;> rfl
  -- What was missed stays missed: the terminator never looks again.
  cases h with
  | audio hlooked haudio =>
      refine .audio (hterminator ▸ hlooked) ?_
      cases hruns with
      | makesAudioManager sessionId hpc ho => rfl
      | setsAudioManager hpc => exact (Field.get?_store _).trans haudio
      | _ => exact haudio
  | session hlooked hsession hnone =>
      refine .session (hterminator ▸ hlooked) ?_ (hhangups.trans hnone)
      cases hruns with
      | initiates sessionId rest hpc ho => exact nofun
      | _ => exact hsession
  | signals hlooked hsignals =>
      refine .signals (hterminator ▸ hlooked) ?_
      cases hruns with
      | makesSignalManager sessionId rest hpc ho => rfl
      | setsSignalManager rest hpc => exact (Field.get?_store _).trans hsignals
      | _ => exact hsignals
  | socket hreturned n hn hidle =>
      have hreturned' := hterminator.trans hreturned
      cases hruns with
      | makesZrtpSocket sessionId rest hpc ho => exact .socket hreturned' _ rfl rfl
      | setsZrtpSocket rest hpc => exact .socket hreturned' n ((Field.get?_store _).trans hn) hidle
      | negotiates l k n' hpc hk hthread =>
          rw [hn, Option.some.injEq] at hk
          rw [← hk] at hthread
          exact .socket hreturned' n' (Field.get?_modify hn (fun _ => n'))
            ((Negotiation.thread_shared hthread).2.1.trans hidle)
      | handshakes hpc hflag =>
          exact .socket hreturned' _ (Field.get?_modify hn _) hidle
      | _ => exact .socket hreturned' n hn hidle

/-- Behind its look at `signalManager`, `terminate` is about the socket only. -/
theorem terminates_behind_signals (h : Terminates m m') (hlooked : LookedSignals m.terminator) :
    LookedSignals m'.terminator ∧ m'.sessionDescriptor = m.sessionDescriptor ∧
      m'.hangups = m.hangups ∧ m'.signalManager = m.signalManager := by
  cases h with
  | closes n n' hat hset hclose => exact ⟨trivial, rfl, rfl, rfl⟩
  | noSocket hat hset => exact ⟨trivial, rfl, rfl, rfl⟩
  | closed n n' hat hset hclose => exact ⟨trivial, rfl, rfl, rfl⟩
  | answers answer hat => exact absurd hlooked (by rw [hat]; exact id)
  | raises hat => exact absurd hlooked (by rw [hat]; exact id)
  | stopsAudio told hat hset => exact absurd hlooked (by rw [hat]; exact id)
  | noAudio hat hset => exact absurd hlooked (by rw [hat]; exact id)
  | hangsUp told hat hset => exact absurd hlooked (by rw [hat]; exact id)
  | noSignals hat hset => exact absurd hlooked (by rw [hat]; exact id)

theorem lost_terminate (h : Lost m) (hterminate : m.terminate = .ok m') : Lost m' := by
  have hends := terminates_of_terminate hterminate
  cases h with
  | audio hlooked haudio =>
      cases hends with
      | hangsUp told hat hset => exact .audio trivial haudio
      | noSignals hat hset => exact .audio trivial haudio
      | closes n n' hat hset hclose => exact .audio trivial haudio
      | noSocket hat hset => exact .audio trivial haudio
      | closed n n' hat hset hclose => exact .audio trivial haudio
      | answers answer hat => exact absurd hlooked (by rw [hat]; exact id)
      | raises hat => exact absurd hlooked (by rw [hat]; exact id)
      | stopsAudio told hat hset => exact absurd hlooked (by rw [hat]; exact id)
      | noAudio hat hset => exact absurd hlooked (by rw [hat]; exact id)
  | session hlooked hsession hnone =>
      rcases terminates_behind_signals hends hlooked with ⟨hlooked', hdescriptor, hhangups, _⟩
      exact .session hlooked' (hdescriptor ▸ hsession) (hhangups.trans hnone)
  | signals hlooked hsignals =>
      rcases terminates_behind_signals hends hlooked with ⟨hlooked', _, _, hmanager⟩
      exact .signals hlooked' (by rw [hmanager]; exact hsignals)
  | socket hreturned n hn hidle =>
      unfold terminate at hterminate
      rw [hreturned] at hterminate
      exact absurd hterminate nofun

/-- What is left over remains so. -/
theorem lost_step {turn : CallTurn} (h : Lost m) (hstep : m.step M turn = .ok m') : Lost m' := by
  cases turn with
  | run o i => exact lost_run h hstep
  | terminate => exact lost_terminate h hstep
  | answer answer =>
      rw [← Except.ok.inj hstep]
      cases h with
      | audio hlooked haudio => exact .audio hlooked haudio
      | session hlooked hsession hnone => exact .session hlooked hsession hnone
      | signals hlooked hsignals => exact .signals hlooked hsignals
      | socket hreturned n hn hidle => exact .socket hreturned n hn hidle

/-! ## Runs -/

/-- When `terminate` has returned, everything the call has made is ended exactly
    if no step has missed anything. -/
theorem tornDown_iff (M : CallManager ρ) (turns : List CallTurn) (t : Call ρ)
    (hrun : Run.run (step M) (create M) turns = .ok t) (hreturned : t.terminator = .returned) :
    TornDown t ↔ Meets (step M) (fun m turn => ¬ Misses m turn) (create M) turns := by
  constructor
  · intro htorn pre turn post u hsplit hpre hmiss
    have horder : InOrder M u :=
      invariant (InOrder M) (inOrder_create M) (fun _ _ _ h hstep => inOrder_step h hstep) hpre
    rw [hsplit, run_append_ok] at hrun
    rcases hrun with ⟨u', hpre', hrest⟩
    rw [hpre, Except.ok.injEq] at hpre'
    subst hpre'
    rcases (Run.run_cons _ _ _ _ _).mp hrest with ⟨v, hstep, hpost⟩
    have hlost := invariant Lost (lost_of_misses horder hmiss hstep)
      (fun _ _ _ h hstep => lost_step h hstep) hpost
    exact hlost.not_tornDown htorn
  · intro hmeets
    have hswept := kept_of_meets (Q := fun m => InOrder M m ∧ Swept m)
      (fun m turn m' h hmiss hstep => ⟨inOrder_step h.1 hstep, swept_step h.1 h.2 hmiss hstep⟩)
      ⟨inOrder_create M, swept_create M⟩ hmeets hrun
    exact hswept.2.tornDown hreturned

/-- An outgoing call whose thread has returned and whose `terminate` has, in
    whatever order their statements came: it is torn down exactly if no step
    has missed anything. -/
theorem torn_down_iff (C : Crypto) (cfg : Config) (database : RetainedSecretsDatabase)
    (loopbackMode : Bool) (turns : List CallTurn) (t : Call InitiatorFields)
    (hrun : Run.run (step (InitiatingCallManager C cfg database loopbackMode))
      (create (InitiatingCallManager C cfg database loopbackMode)) turns = .ok t)
    (hfinished : t.pc = .returned ∧ t.terminator = .returned) :
    TornDown t ↔
      Meets (step (InitiatingCallManager C cfg database loopbackMode))
        (fun m turn => ¬ Misses m turn)
        (create (InitiatingCallManager C cfg database loopbackMode)) turns :=
  tornDown_iff _ turns t hrun hfinished.2

/-- Statements of `run` that return, with a session where one is asked for. -/
def runs (n : Nat) : List CallTurn :=
  List.replicate n (.run (.returns 7) ⟨.timeout, ⟨0, 0, 0, 0, 0⟩⟩)

/-- An outgoing call that is terminated once it is set up: the statements are
    all made, `terminate` returns, and `run` goes by the flag to its end. -/
theorem torn_down_iff_setUp :
    Meets (step (InitiatingCallManager jce Undisturbed.caller .empty false))
      (fun m turn => ¬ Misses m turn)
      (create (InitiatingCallManager jce Undisturbed.caller .empty false))
      (runs 8 ++ List.replicate 6 .terminate ++ runs 5) := by
  refine (torn_down_iff jce Undisturbed.caller .empty false _ _ rfl ⟨rfl, rfl⟩).mp ⟨?_, ?_, ?_, ?_⟩
  · intro sessionId hsession
    rw [← Option.some.inj hsession]
    exact List.mem_cons_self
  · intro told htold
    exact (Option.some.inj htold).symm
  · intro n hn
    rw [← Option.some.inj hn]
  · exact nofun

/-- An outgoing call that is terminated when `initiateConnection` has returned
    and nothing is stored yet: its session is not hung up, its signal manager
    listens on, and its socket is open. -/
theorem torn_down_missed :
    ∃ t, Run.run (step (InitiatingCallManager jce Undisturbed.caller .empty false))
        (create (InitiatingCallManager jce Undisturbed.caller .empty false))
        (runs 2 ++ List.replicate 5 .terminate ++ runs 11) = .ok t ∧
      (t.pc = .returned ∧ t.terminator = .returned) ∧
      (t.sessionDescriptor = some 7 ∧ t.hangups = []) ∧ t.signalManager = .set false ∧
      (∃ n, t.zrtpSocket = .set n ∧ n.closed = false) ∧ ¬ TornDown t := by
  refine ⟨_, rfl, ⟨rfl, rfl⟩, ⟨rfl, rfl⟩, rfl, ⟨_, rfl, rfl⟩, fun htorn => ?_⟩
  exact absurd (htorn.session 7 rfl) List.not_mem_nil

end Call

end RedPhone
