import RedPhone.Call.CallManager
import RedPhone.Zrtp.Undisturbed

/-!
# Audio Only After a Handshake

A negotiation loop is left when the handshake is complete, when the socket is
terminated, or with an exception, and the first two look the same to the call
manager. It tells them apart by its own flag, which `terminate` raises before
it closes the socket. So where the flag is down behind the loop, the loop was
left because the handshake was complete.

## Main definitions

* `Complete`: The handshake is complete, with a master secret.
* `Guarded`: What is known of a call at any time.
* `LeftTerminated`: A negotiation loop was left because of `TERMINATED`.
* `Stopped`: A call that has been terminated before it was connected.

## Theorems

* `guarded_step`: The statements keep what is known.
* `stopped_step`: A stopped call remains so.
* `audio_after_handshake`: Audio runs only after a handshake.
-/

namespace RedPhone

open Interleaving

namespace Call

variable {ρ : Type} {M : CallManager ρ} {m m' : Call ρ} {done : Prop}

/-- The handshake of a call is complete, and has a master secret. -/
def Complete (m : Call ρ) : Prop :=
  ∃ n, m.zrtpSocket.get? = some n ∧ n.socket.state = .handshakeComplete ∧
    n.socket.masterSecret ≠ none

/-- Behind the second negotiation loop, up to `runAudio`. -/
def Behind : RunPc → Prop
  | .testConnected => True
  | .connected => True
  | .testAudio => True
  | _ => False

/-- Before `notifyCallConnected`, or on the way there. -/
def Early : RunPc → Prop
  | .before _ => True
  | .testStart => True
  | .negotiating _ => True
  | .testFinish => True
  | .testConnected => True
  | .connected => True
  | _ => False

/-- What is known of a call, where `done` says that its handshake has been
    complete. -/
structure Guarded (done : Prop) (m : Call ρ) : Prop where
  sound : ∀ n, m.zrtpSocket.get? = some n →
    Negotiation.Sound n ∧ (n.closer ≠ .idle → m.terminated = true)
  flag : m.terminator ≠ .idle → m.terminator ≠ .called → m.terminated = true
  behind : Behind m.pc →
    m.terminated = true ∨ ∃ n, m.zrtpSocket.get? = some n ∧ n.pc = .returned .finish
  connected : m.pc = .connected → done
  audio : m.pc = .testAudio → m.terminated = true ∨ done
  notified : .notifyCallConnected ∈ m.notified → done
  ran : ∀ secret, m.ranAudio = some secret → done ∧ secret ≠ none

/-- Where the flag is down behind the loops, the handshake is complete. -/
theorem Guarded.complete (h : Guarded done m) (hpc : Behind m.pc) (hflag : m.terminated = false) :
    Complete m := by
  rcases h.behind hpc with hset | ⟨n, hn, hreturned⟩
  · rw [hflag] at hset
    exact absurd hset nofun
  · rcases h.sound n hn with ⟨hsound, hcloser⟩
    rcases hsound.ended (Or.inr hreturned) with hstate | hstate
    · exact ⟨n, hn, hstate, hsound.complete hstate⟩
    · -- Only `close` writes `TERMINATED`, and the flag is up by then.
      have hset := hcloser (hsound.terminated hstate)
      rw [hflag] at hset
      exact absurd hset nofun

theorem Guarded.mono {done' : Prop} (h : Guarded done m) (hdone : done → done') :
    Guarded done' m :=
  ⟨h.sound, h.flag, h.behind, fun hpc => hdone (h.connected hpc),
    fun hpc => (h.audio hpc).imp_right hdone, fun hmem => hdone (h.notified hmem),
    fun secret hran => ⟨hdone (h.ran secret hran).1, (h.ran secret hran).2⟩⟩

/-- A statement that leads to a place nothing particular is known of. -/
theorem Guarded.elsewhere (h : Guarded done m) {m' : Call ρ} (hpc : ¬ Behind m'.pc)
    (hsound : ∀ n, m'.zrtpSocket.get? = some n →
      Negotiation.Sound n ∧ (n.closer ≠ .idle → m'.terminated = true))
    (hshared : m'.terminator = m.terminator ∧ m'.terminated = m.terminated)
    (hnotified : .notifyCallConnected ∈ m'.notified → .notifyCallConnected ∈ m.notified)
    (hran : m'.ranAudio = m.ranAudio) : Guarded done m' where
  sound := hsound
  flag := by
    rw [hshared.1, hshared.2]
    exact h.flag
  behind hbehind := absurd hbehind hpc
  connected hat := absurd (by rw [hat]; trivial) hpc
  audio hat := absurd (by rw [hat]; trivial) hpc
  notified hmem := h.notified (hnotified hmem)
  ran := by
    rw [hran]
    exact h.ran

theorem mem_notify_quiet {callbacks : List CallStateListener}
    (hquiet : .notifyCallConnected ∉ callbacks)
    (h : .notifyCallConnected ∈ (m.notify callbacks).notified) :
    .notifyCallConnected ∈ m.notified :=
  (List.mem_append.mp h).resolve_right hquiet

theorem guarded_follows {pc : RunPc} {callbacks : List CallStateListener} (h : Guarded done m)
    (hfollows : Follows m pc) (hquiet : .notifyCallConnected ∉ callbacks) :
    Guarded (done ∨ Complete m) ((m.notify callbacks).goto pc) := by
  have hmono : Guarded (done ∨ Complete m) m := h.mono Or.inl
  have hbehind : ∀ (hpc : Behind pc → m.terminated = true ∨
      ∃ n, m.zrtpSocket.get? = some n ∧ n.pc = .returned .finish)
      (_ : pc = .connected → Complete m) (_ : pc = .testAudio → m.terminated = true),
      Guarded (done ∨ Complete m) ((m.notify callbacks).goto pc) := fun hpc hconnected haudio =>
    ⟨h.sound, h.flag, hpc, fun hat => Or.inr (hconnected hat), fun hat => Or.inl (haudio hat),
      fun hmem => hmono.notified (mem_notify_quiet hquiet hmem), hmono.ran⟩
  cases hfollows with
  | finished l n hpc hn hreturned =>
      exact hbehind (fun _ => Or.inr ⟨n, hn, hreturned⟩) nofun nofun
  | finishSkipped hpc hflag => exact hbehind (fun _ => Or.inl hflag) nofun nofun
  | connect hpc hflag =>
      have hbefore : Behind m.pc := by
        rw [hpc]
        trivial
      exact hbehind (fun _ => h.behind hbefore) (fun _ => h.complete hbefore hflag) nofun
  | connectSkipped hpc hflag => exact hbehind (fun _ => Or.inl hflag) nofun (fun _ => hflag)
  | _ => exact hbehind nofun nofun nofun

theorem guarded_run {o : Outcome} {i : Input} (h : Guarded done m)
    (hrun : m.run M o i = .ok m') : Guarded (done ∨ Complete m) m' := by
  have hmono : Guarded (done ∨ Complete m) m := h.mono Or.inl
  cases runs_of_run hrun with
  | passes pc callbacks hfollows hquiet => exact guarded_follows h hfollows hquiet
  | initiates sessionId rest hpc ho => exact hmono.elsewhere id h.sound ⟨rfl, rfl⟩ id rfl
  | makesZrtpSocket sessionId rest hpc ho =>
      -- Nobody has closed a socket that is new.
      refine hmono.elsewhere id (fun n hn => ?_) ⟨rfl, rfl⟩ id rfl
      rw [← Option.some.inj hn]
      exact ⟨Negotiation.sound_create _ M.socket_fresh, fun hcloser => absurd rfl hcloser⟩
  | setsZrtpSocket rest hpc =>
      refine hmono.elsewhere id (fun n hn => ?_) ⟨rfl, rfl⟩ id rfl
      -- Storing the socket leaves the negotiation as it is.
      refine h.sound n ?_
      cases hset : m.zrtpSocket with
      | unset =>
          rw [hset] at hn
          exact hn
      | made n' =>
          rw [hset] at hn
          exact hn
      | set n' =>
          rw [hset] at hn
          exact hn
  | makesSignalManager sessionId rest hpc ho => exact hmono.elsewhere id h.sound ⟨rfl, rfl⟩ id rfl
  | setsSignalManager rest hpc => exact hmono.elsewhere id h.sound ⟨rfl, rfl⟩ id rfl
  | negotiates l n n' hpc hn hthread =>
      refine hmono.elsewhere ?_ (fun k hk => ?_) ⟨rfl, rfl⟩ id rfl
      · rw [hpc]
        exact id
      · -- A statement of the negotiation keeps it sound, and does not close it.
        have hsame := Field.get?_modify hn (fun _ => n')
        rw [hsame, Option.some.injEq] at hk
        rw [← hk]
        rcases h.sound n hn with ⟨hsound, hcloser⟩
        refine ⟨Negotiation.sound_thread hsound hthread, ?_⟩
        rw [(Negotiation.thread_shared hthread).2.1]
        exact hcloser
  | handshakes hpc hflag =>
      refine hmono.elsewhere id (fun k hk => ?_) ⟨rfl, rfl⟩ (mem_notify_quiet (by decide)) rfl
      cases hn : m.zrtpSocket.get? with
      | none =>
          rw [Field.get?_modify_none hn] at hk
          exact absurd hk nofun
      | some n =>
          rw [Field.get?_modify hn, Option.some.injEq] at hk
          rw [← hk]
          exact ⟨(h.sound n hn).1.goto trivial, (h.sound n hn).2⟩
  | connects hpc =>
      have hat : Behind m.pc := by
        rw [hpc]
        trivial
      -- To come here the thread has seen the handshake complete.
      have hdone : done ∨ Complete m := Or.inl (h.connected hpc)
      exact ⟨h.sound, h.flag, fun _ => h.behind hat, nofun, fun _ => Or.inr hdone, fun _ => hdone,
        hmono.ran⟩
  | runsAudio n hpc hflag hn =>
      have hat : Behind m.pc := by
        rw [hpc]
        trivial
      have hcomplete := h.complete hat hflag
      refine ⟨h.sound, h.flag, nofun, nofun, nofun, hmono.notified, fun secret hsecret => ?_⟩
      -- The secret is that of the socket whose handshake is complete.
      rcases hcomplete with ⟨k, hk, _, hsome⟩
      rw [hn, Option.some.injEq] at hk
      rw [← Option.some.inj hsecret, hk]
      exact ⟨Or.inr (h.complete hat hflag), hsome⟩
  | makesAudioManager sessionId hpc ho => exact hmono.elsewhere id h.sound ⟨rfl, rfl⟩ id rfl
  | setsAudioManager hpc => exact hmono.elsewhere id h.sound ⟨rfl, rfl⟩ id rfl

/-- The statements of `terminate` do not touch the thread of the call manager. -/
theorem terminate_kept (h : m.terminate = .ok m') :
    m'.pc = m.pc ∧ m'.notified = m.notified ∧ m'.ranAudio = m.ranAudio ∧
    (m.terminated = true → m'.terminated = true) := by
  cases terminates_of_terminate h with
  | raises h => exact ⟨rfl, rfl, rfl, fun _ => rfl⟩
  | _ => exact ⟨rfl, rfl, rfl, id⟩

/-- The negotiation as `terminate` leaves it: as it was, or closed a little
    further, and then the flag is up. -/
theorem guarded_closed {n n' : Negotiation ρ} {terminator : Terminator} (h : Guarded done m)
    (hset : m.zrtpSocket = .set n) (hclose : n.close = .ok n') (hflag : m.terminated = true) :
    Guarded done { m with zrtpSocket := .set n', terminator := terminator } where
  sound k hk := by
    rw [← Option.some.inj hk]
    have hn : m.zrtpSocket.get? = some n := by
      rw [hset]
      rfl
    exact ⟨Negotiation.sound_close (h.sound n hn).1 hclose, fun _ => hflag⟩
  flag _ _ := hflag
  behind _ := Or.inl hflag
  connected := h.connected
  audio _ := Or.inl hflag
  notified := h.notified
  ran := h.ran

theorem guarded_terminate (h : Guarded done m) (hterminate : m.terminate = .ok m') :
    Guarded done m' := by
  have hflag {terminator : Terminator} (hat : m.terminator = terminator)
      (hidle : terminator ≠ .idle) (hcalled : terminator ≠ .called) : m.terminated = true := by
    rw [← hat] at hidle hcalled
    exact h.flag hidle hcalled
  cases terminates_of_terminate hterminate with
  | answers answer hat =>
      exact ⟨h.sound, fun _ hnot => absurd rfl hnot, h.behind, h.connected, h.audio, h.notified,
        h.ran⟩
  | raises hat =>
      -- From here on the flag stands for whatever is left undone.
      exact ⟨fun n hn => ⟨(h.sound n hn).1, fun _ => rfl⟩, fun _ _ => rfl, fun _ => Or.inl rfl,
        h.connected, fun _ => Or.inl rfl, h.notified, h.ran⟩
  | stopsAudio told hat hset =>
      exact ⟨h.sound, fun _ _ => hflag hat nofun nofun, h.behind, h.connected, h.audio,
        h.notified, h.ran⟩
  | noAudio hat hset =>
      exact ⟨h.sound, fun _ _ => hflag hat nofun nofun, h.behind, h.connected, h.audio,
        h.notified, h.ran⟩
  | hangsUp told hat hset =>
      exact ⟨h.sound, fun _ _ => hflag hat nofun nofun, h.behind, h.connected, h.audio,
        h.notified, h.ran⟩
  | noSignals hat hset =>
      exact ⟨h.sound, fun _ _ => hflag hat nofun nofun, h.behind, h.connected, h.audio,
        h.notified, h.ran⟩
  | noSocket hat hset =>
      exact ⟨h.sound, fun _ _ => hflag hat nofun nofun, h.behind, h.connected, h.audio,
        h.notified, h.ran⟩
  | closes n n' hat hset hclose =>
      exact guarded_closed h hset hclose (hflag hat nofun nofun)
  | closed n n' hat hset hclose =>
      exact guarded_closed h hset hclose (hflag hat nofun nofun)

/-- The statements keep what is known of a call. -/
theorem guarded_step {turn : CallTurn} (h : Guarded done m) (hstep : m.step M turn = .ok m') :
    Guarded (done ∨ Complete m) m' := by
  cases turn with
  | run o i => exact guarded_run h hstep
  | terminate => exact (guarded_terminate h hstep).mono Or.inl
  | answer answer =>
      rw [← Except.ok.inj hstep]
      have hmono : Guarded (done ∨ Complete m) m := h.mono Or.inl
      exact ⟨hmono.sound, hmono.flag, hmono.behind, hmono.connected, hmono.audio, hmono.notified,
        hmono.ran⟩

theorem create_notified (M : CallManager ρ) : .notifyCallConnected ∉ (create M).notified := by
  unfold create
  cases M.role with
  | responder => exact List.not_mem_nil
  | initiator =>
      cases M.loopbackMode with
      | true => exact List.not_mem_nil
      | false =>
          simp only [List.mem_singleton, reduceCtorEq]
          exact id

theorem guarded_create (M : CallManager ρ) : Guarded False (create M) := by
  have hpc : ¬ Behind (create M).pc := by
    rcases create_pc M with hpc | hpc
    · rw [hpc]
      exact id
    · rw [hpc]
      exact id
  have hran : (create M).ranAudio = none := rfl
  have hsocket : (create M).zrtpSocket.get? = none := rfl
  refine ⟨fun n hn => ?_, fun hnot _ => absurd rfl hnot, fun hbehind => absurd hbehind hpc,
    fun hat => ?_, fun hat => ?_, fun hmem => absurd hmem (create_notified M), fun secret h => ?_⟩
  · rw [hsocket] at hn
    exact absurd hn nofun
  · rw [hat] at hpc
    exact absurd trivial hpc
  · rw [hat] at hpc
    exact absurd trivial hpc
  · rw [hran] at h
    exact absurd h nofun

/-! ## Calls that are terminated first -/

/-- A negotiation loop was just left because the socket was terminated. -/
def LeftTerminated (m : Call ρ) : Prop :=
  (∃ l, m.pc = .negotiating l) ∧
    ∃ n l, m.zrtpSocket.get? = some n ∧ n.pc = .returned l ∧ n.socket.state = .terminated

/-- Before it is connected nothing has been said of a connection, and no audio
    has been run. -/
def Unconnected (m : Call ρ) : Prop :=
  (Early m.pc → .notifyCallConnected ∉ m.notified) ∧
  (Early m.pc ∨ m.pc = .testAudio → m.ranAudio = none)

/-- A call that has been terminated before it was connected. -/
structure Stopped (m : Call ρ) : Prop where
  flag : m.terminated = true
  pc : m.pc ≠ .connected
  notified : .notifyCallConnected ∉ m.notified
  ran : m.ranAudio = none

theorem follows_early {pc : RunPc} (h : Follows m pc) (hpc : Early pc ∨ pc = .testAudio) :
    Early m.pc := by
  cases h with
  | next statement rest hat => rw [hat]; trivial
  | begun hat => rw [hat]; trivial
  | start hat hflag => rw [hat]; trivial
  | startSkipped hat hflag => rw [hat]; trivial
  | started l hat => rw [hat]; trivial
  | finished l n hat hn hreturned => rw [hat]; trivial
  | failed l e hat => rw [hat]; trivial
  | finishSkipped hat hflag => rw [hat]; trivial
  | connect hat hflag => rw [hat]; trivial
  | connectSkipped hat hflag => rw [hat]; trivial
  | audioFailed e hat =>
      rcases hpc with hpc | hpc
      · exact absurd hpc id
      · exact absurd hpc nofun
  | left =>
      rcases hpc with hpc | hpc
      · exact absurd hpc id
      · exact absurd hpc nofun

/-- A statement made before the call is connected, which says nothing of a
    connection and runs no audio. -/
theorem Unconnected.kept (h : Unconnected m) (hearly : Early m.pc)
    (hnotified : .notifyCallConnected ∈ m'.notified → .notifyCallConnected ∈ m.notified)
    (hran : m'.ranAudio = m.ranAudio) : Unconnected m' :=
  ⟨fun _ hmem => h.1 hearly (hnotified hmem), fun _ => hran.trans (h.2 (Or.inl hearly))⟩

theorem unconnected_of_late (hpc : ¬ (Early m.pc ∨ m.pc = .testAudio)) : Unconnected m :=
  ⟨fun hearly => absurd (Or.inl hearly) hpc, fun hlate => absurd hlate hpc⟩

theorem unconnected_behind {pc : RunPc} (hpc : m.pc = pc) (hearly : ¬ Early pc)
    (haudio : pc ≠ .testAudio) : Unconnected m := by
  refine unconnected_of_late ?_
  rw [hpc]
  exact fun hlate => hlate.elim hearly haudio

theorem unconnected_run {o : Outcome} {i : Input} (h : Unconnected m)
    (hrun : m.run M o i = .ok m') : Unconnected m' := by
  cases runs_of_run hrun with
  | passes pc callbacks hfollows hquiet =>
      -- What leads to an early place comes from one.
      by_cases hpc : Early pc ∨ pc = .testAudio
      · exact h.kept (follows_early hfollows hpc) (mem_notify_quiet hquiet) rfl
      · exact unconnected_of_late hpc
  | initiates sessionId rest hpc ho => exact h.kept (by rw [hpc]; trivial) id rfl
  | makesZrtpSocket sessionId rest hpc ho => exact h.kept (by rw [hpc]; trivial) id rfl
  | setsZrtpSocket rest hpc => exact h.kept (by rw [hpc]; trivial) id rfl
  | makesSignalManager sessionId rest hpc ho => exact h.kept (by rw [hpc]; trivial) id rfl
  | setsSignalManager rest hpc => exact h.kept (by rw [hpc]; trivial) id rfl
  | negotiates l n n' hpc hn hthread => exact h.kept (by rw [hpc]; trivial) id rfl
  | handshakes hpc hflag =>
      exact h.kept (by rw [hpc]; trivial) (mem_notify_quiet (by decide)) rfl
  | connects hpc =>
      have hearly : Early m.pc := by
        rw [hpc]
        trivial
      -- The place behind the callback is no longer early, but no audio has run.
      exact ⟨fun hnot => absurd hnot id, fun _ => h.2 (Or.inl hearly)⟩
  | runsAudio n hpc hflag hn =>
      exact unconnected_behind rfl id nofun
  | makesAudioManager sessionId hpc ho =>
      exact unconnected_behind rfl id nofun
  | setsAudioManager hpc =>
      exact unconnected_behind rfl id nofun

theorem unconnected_step {turn : CallTurn} (h : Unconnected m) (hstep : m.step M turn = .ok m') :
    Unconnected m' := by
  cases turn with
  | run o i => exact unconnected_run h hstep
  | terminate =>
      rcases terminate_kept hstep with ⟨hpc, hnotified, hran, _⟩
      unfold Unconnected
      rw [hpc, hnotified, hran]
      exact h
  | answer answer =>
      rw [← Except.ok.inj hstep]
      exact h

theorem unconnected_create (M : CallManager ρ) : Unconnected (create M) :=
  ⟨fun _ => create_notified M, fun _ => rfl⟩

/-- The flag stays up, and every way to the audio asks for it. -/
theorem stopped_step {turn : CallTurn} (h : Stopped m) (hstep : m.step M turn = .ok m') :
    Stopped m' := by
  -- Whatever asks for the flag to be clear cannot run.
  have hup : m.terminated ≠ false := by
    rw [h.flag]
    exact nofun
  cases turn with
  | terminate =>
      rcases terminate_kept hstep with ⟨hpc, hnotified, hran, hflag⟩
      exact ⟨hflag h.flag, hpc ▸ h.pc, hnotified ▸ h.notified, hran.trans h.ran⟩
  | answer answer =>
      rw [← Except.ok.inj hstep]
      exact ⟨h.flag, h.pc, h.notified, h.ran⟩
  | run o i =>
      cases runs_of_run hstep with
      | passes pc callbacks hfollows hquiet =>
          refine ⟨h.flag, ?_, fun hmem => h.notified (mem_notify_quiet hquiet hmem), h.ran⟩
          rintro (hpc : pc = .connected)
          rw [hpc] at hfollows
          cases hfollows with
          | connect hat hflag => exact hup hflag
      | connects hpc => exact absurd hpc h.pc
      | handshakes hpc hflag => exact absurd hflag hup
      | runsAudio n hpc hflag hn => exact absurd hflag hup
      | negotiates l n n' hpc hn hthread => exact ⟨h.flag, h.pc, h.notified, h.ran⟩
      | _ => exact ⟨h.flag, nofun, h.notified, h.ran⟩

theorem stopped_of_leftTerminated (hguarded : Guarded done m) (hunconnected : Unconnected m)
    (h : LeftTerminated m) : Stopped m := by
  rcases h with ⟨⟨l, hpc⟩, n, l', hn, _, hstate⟩
  have hearly : Early m.pc := by
    rw [hpc]
    trivial
  rcases hguarded.sound n hn with ⟨hsound, hcloser⟩
  refine ⟨hcloser (hsound.terminated hstate), ?_, hunconnected.1 hearly,
    hunconnected.2 (Or.inl hearly)⟩
  rw [hpc]
  exact nofun

/-! ## Runs -/

/-- What a call can have been told, and what it has run, is known from a state
    it went through. -/
theorem guarded_of_run (turns : List CallTurn) (t : Call ρ)
    (hrun : Run.run (step M) (create M) turns = .ok t) :
    Guarded (∃ pre post u, turns = pre ++ post ∧ Run.run (step M) (create M) pre = .ok u ∧
      Complete u) t := by
  refine (Run.invariant_of_run (step M) (fun turns t => Run.run (step M) (create M) turns = .ok t ∧
    Guarded (∃ pre post u, turns = pre ++ post ∧ Run.run (step M) (create M) pre = .ok u ∧
      Complete u) t) (create M) ?_ ?_ turns t hrun).2
  · exact ⟨rfl, (guarded_create M).mono False.elim⟩
  · rintro turns s turn s' ⟨hs, hguarded⟩ hstep
    refine ⟨(Run.run_concat _ _ _ _ _).mpr ⟨s, hs, hstep⟩, (guarded_step hguarded hstep).mono ?_⟩
    rintro (⟨pre, post, u, rfl, hpre, hcomplete⟩ | hcomplete)
    · exact ⟨pre, post ++ [turn], u, List.append_assoc _ _ _, hpre, hcomplete⟩
    · exact ⟨turns, [turn], s, rfl, hs, hcomplete⟩

/-- However the thread of a call manager interleaves with `terminate`, and
    whatever is received: that the call is connected is said, and audio run,
    only if the handshake has been complete with a master secret, which is not
    null when the audio is run; and not after a negotiation loop was left
    because the socket was terminated. -/
theorem audio_after_handshake (M : CallManager ρ) (turns : List CallTurn) (t : Call ρ)
    (hrun : Run.run (step M) (create M) turns = .ok t) :
    (.notifyCallConnected ∈ t.notified ∨ t.ranAudio ≠ none →
      ∃ pre post u, turns = pre ++ post ∧ Run.run (step M) (create M) pre = .ok u ∧ Complete u) ∧
    (∀ secret, t.ranAudio = some secret → secret ≠ none) ∧
    ∀ pre post u, turns = pre ++ post → Run.run (step M) (create M) pre = .ok u →
      LeftTerminated u → .notifyCallConnected ∉ t.notified ∧ t.ranAudio = none := by
  have hguarded := guarded_of_run turns t hrun
  refine ⟨?_, fun secret hran => (hguarded.ran secret hran).2, ?_⟩
  · rintro (hnotified | hran)
    · exact hguarded.notified hnotified
    · rcases Option.ne_none_iff_exists'.mp hran with ⟨secret, hsecret⟩
      exact (hguarded.ran secret hsecret).1
  · rintro pre post u rfl hpre hleft
    have hunconnected : Unconnected u :=
      invariant Unconnected (unconnected_create M) (fun _ _ _ h hstep => unconnected_step h hstep)
        hpre
    have hstopped := stopped_of_leftTerminated (guarded_of_run pre u hpre) hunconnected hleft
    rcases run_append_ok.mp hrun with ⟨u', hpre', hpost⟩
    rw [hpre, Except.ok.injEq] at hpre'
    subst hpre'
    have ht := invariant Stopped hstopped (fun _ _ _ h hstep => stopped_step h hstep) hpost
    exact ⟨ht.notified, ht.ran⟩

/-- An outgoing call that is terminated while its thread waits for a Hello:
    the thread comes as far as the loop, and then the socket is closed. -/
def closedWhileWaiting : List CallTurn :=
  let i : Input := ⟨.timeout, ⟨0, 0, 0, 0, 0⟩⟩
  List.replicate 11 (.run (.returns 7) i) ++ List.replicate 6 .terminate ++ [.run (.returns 7) i]

/-- It leaves the loop, and that is all. -/
theorem audio_after_handshake_closed :
    ∃ t, Run.run (step (InitiatingCallManager jce Undisturbed.caller .empty false))
        (create (InitiatingCallManager jce Undisturbed.caller .empty false)) closedWhileWaiting
        = .ok t ∧
      .notifyCallConnected ∉ t.notified ∧ t.ranAudio = none := by
  refine ⟨_, rfl, ?_⟩
  refine (audio_after_handshake (InitiatingCallManager jce Undisturbed.caller .empty false)
    closedWhileWaiting _ rfl).2.2 closedWhileWaiting [] _ (List.append_nil _).symm rfl ?_
  exact ⟨⟨.start, rfl⟩, _, .start, rfl, rfl, rfl⟩

end Call

end RedPhone
