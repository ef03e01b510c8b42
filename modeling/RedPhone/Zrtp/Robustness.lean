import RedPhone.Zrtp.InitiatorHarmless
import RedPhone.Zrtp.ResponderHarmless
import RedPhone.Zrtp.Undisturbed

/-!
# What Datagrams Can Do to a Negotiation

A datagram is ignored, or advances the handshake, or ends it with one of the
two exceptions the negotiation declares. That is the intention. The loops ask
of a datagram that its checksum be right, and leave it to the getters to stay
inside; most of them do not look at the length of the packet, and neither does
the checksum.

`robust_iff` says for either role which datagrams do no harm. What is needed
of a datagram depends on what the peer has sent before: a Hello is kept when
it arrives and read one packet later, a DHPart is checked when the Confirm
packet comes. So the condition is on the state the datagram meets as much as
on the datagram.

## Theorems

* `declared_run_iff`: From the steps of a machine to its runs.
* `robust_iff`: Which negotiations end as declared, for either role.
* `robust_short`: Three bytes that end one.
-/

namespace RedPhone

open Undisturbed

/-- Where the steps from a state of the invariant throw only what is declared
    exactly under a condition, a run does when each step it takes meets it. -/
theorem declared_run_iff {σ : Type} (step : σ → Input → Java σ) (start : σ)
    (I : σ → Prop) (harmless : σ → Input → Prop)
    (hstart : I start) (hstep : ∀ s i s', I s → step s i = .ok s' → I s')
    (hdeclared : ∀ s i, I s → ((∀ e, step s i = .error e → e.Declared) ↔ harmless s i))
    (is : List Input) :
    (∀ e, Run.run step start is = .error e → e.Declared) ↔
      ∀ pre i post s, is = pre ++ i :: post → Run.run step start pre = .ok s → harmless s i := by
  have hinv : ∀ is s, Run.run step start is = .ok s → I s :=
    Run.invariant_of_run step (fun _ s => I s) start hstart (fun _ s i s' => hstep s i s')
  constructor
  · rintro h pre i post s rfl hrun
    -- A step that fails is the last, whatever would come after it.
    refine (hdeclared s i (hinv pre s hrun)).mp (fun e he => h e ?_)
    rw [Run.run_append, hrun]
    simp only [Run.run, he]
  · intro h e herror
    rcases Run.error_of_run step e is start herror with ⟨pre, i, post, s, hsplit, hrun, hfail⟩
    exact (hdeclared s i (hinv pre s hrun)).mpr (h pre i post s hsplit hrun) e hfail

/-- Whatever is received, a negotiation of either role ends in nothing but the
    exceptions of its signature exactly when each datagram it looked at was
    harmless to the state it met. -/
theorem robust_iff (C : Crypto) (cfg : Config) (database : RetainedSecretsDatabase)
    (includeLegacyHeaderBug : Bool) (now : Int) (is : List Input) :
    ((∀ e, Run.run (ZRTPInitiatorSocket.step C cfg) (ZRTPInitiatorSocket.create database) is
        = .error e → e.Declared) ↔
      ∀ pre i post s, is = pre ++ i :: post →
        Run.run (ZRTPInitiatorSocket.step C cfg) (ZRTPInitiatorSocket.create database) pre = .ok s →
        ZRTPInitiatorSocket.Harmless C cfg s i) ∧
    ((∀ e, Run.run (ZRTPResponderSocket.step C cfg)
        (ZRTPResponderSocket.start C cfg database includeLegacyHeaderBug now) is = .error e →
        e.Declared) ↔
      ∀ pre i post s, is = pre ++ i :: post →
        Run.run (ZRTPResponderSocket.step C cfg)
          (ZRTPResponderSocket.start C cfg database includeLegacyHeaderBug now) pre = .ok s →
        ZRTPResponderSocket.Harmless C cfg s i) := by
  -- The exceptions of a run are those of its last iteration, from a state that
  -- was reached.
  constructor
  · refine declared_run_iff _ _
      (fun s => ZRTPInitiatorSocket.Local C cfg s ∧ ZRTPInitiatorSocket.Held s)
      (ZRTPInitiatorSocket.Harmless C cfg) ⟨ZRTPInitiatorSocket.local_create database,
        ZRTPInitiatorSocket.held_create database⟩ ?_ ?_ is
    · rintro s i s' ⟨hlocal, hheld⟩ hstep
      exact ⟨(ZRTPInitiatorSocket.local_step hlocal i hstep).1,
        ZRTPInitiatorSocket.held_step hlocal hheld i hstep⟩
    · rintro s i ⟨hlocal, hheld⟩
      exact ZRTPInitiatorSocket.declared_step hlocal hheld i
  · refine declared_run_iff _ _
      (fun s => ZRTPResponderSocket.Local C cfg s ∧ ZRTPResponderSocket.Held s)
      (ZRTPResponderSocket.Harmless C cfg)
      ⟨ZRTPResponderSocket.local_start database includeLegacyHeaderBug now,
        ZRTPResponderSocket.held_start database includeLegacyHeaderBug now⟩ ?_ ?_ is
    · rintro s i s' ⟨hlocal, hheld⟩ hstep
      exact ⟨(ZRTPResponderSocket.local_step hlocal i hstep).1,
        ZRTPResponderSocket.held_step hlocal hheld i hstep⟩
    · rintro s i ⟨hlocal, hheld⟩
      exact ZRTPResponderSocket.declared_step hlocal hheld i

/-- Three bytes, handed to an initiator that waits for a Hello, are taken for a
    packet whose checksum begins before its first byte. -/
theorem robust_short :
    Run.run (ZRTPInitiatorSocket.step jce caller) (ZRTPInitiatorSocket.create .empty)
        [⟨.datagram [0x20, 0, 0], ⟨0, 0, 0, 0, 0⟩⟩]
      = .error (.unchecked .arrayIndexOutOfBounds) := by
  have hcrc : ((ZRTPInitiatorSocket.create .empty).received [0x20, 0, 0]).verifyCRC
      = .error (.unchecked .arrayIndexOutOfBounds) := rfl
  have hstep : ZRTPInitiatorSocket.step jce caller (ZRTPInitiatorSocket.create .empty)
      ⟨.datagram [0x20, 0, 0], ⟨0, 0, 0, 0, 0⟩⟩
      = .error (.unchecked .arrayIndexOutOfBounds) := by
    unfold ZRTPInitiatorSocket.step ZRTPSocket.negotiate ZRTPSocket.receiveHandshakePacket
    simp only []
    rw [if_neg (by decide)]
    rfl
  rw [Run.run, hstep]

end RedPhone
