import RedPhone.Call.LockManager

/-!
# No Lock Outlives the Call

A call that ends sets the locks free and then disables the listener, which
takes back its message. That is enough if the main thread does it, for then no
message is being handled. A callback that ends the call on another thread can
meet the handler anywhere between the message and the locks: what the handler
sets it has computed from the orientation alone, and it does not look whether
there still is a call.

The invariant says what a call for `IDLE` has achieved: before the listener is
disabled no message is being handled, and afterwards there is neither a message
nor anything that could send one.

## Main definitions

* `Released`: After a call for `IDLE` no lock is held.
* `Timely`: What the main thread must not do meanwhile.
* `Quiet`: What a call for `IDLE` has achieved.
* `ByMain`: The main thread makes the calls for `IDLE`.

## Theorems

* `quiet_step`: What the steps keep that are timely.
* `locks_released`: In a run whose steps are timely no lock outlives the call.
* `timely_of_no_idle`: Until the call is to end, whatever happens is timely.
* `timely_of_occupied`: The main thread is always in time.
* `locks_released_late`: A message that is handled while the call is ended.
* `locks_released_of_main`: No lock outlives a call that the main thread ends.
-/

namespace RedPhone

open Interleaving

/-- A call for `IDLE` is in progress. -/
def CallerPc.Ending : CallerPc → Prop
  | .begin .idle => True
  | .disable .idle => True
  | .keyguard .idle => True
  | _ => False

namespace LockManager

variable {m m' : LockManager}

/-- After `updatePhoneState(IDLE)` has returned, and until it is called again,
    no lock is held. -/
def Released (m : LockManager) : Prop := m.caller = .returned (some .idle) → m.locks.Free

/-- A call for `IDLE` does not set the locks free while a message is handled,
    none is handled before it disables the listener, and it does not disable
    it in the middle of a sensor event. -/
def Timely (m : LockManager) : LockTurn → Prop
  | .caller _ => (m.caller = .begin .idle → ¬ m.main.Handling) ∧
      (m.caller = .disable .idle → m.main = .idle)
  | .dispatch => m.caller ≠ .disable .idle
  | _ => True

/-- The listener is disabled, and nothing of it is left. -/
structure Silent (m : LockManager) : Prop where
  locks : m.locks.Free
  main : m.main = .idle
  registered : m.accelerometerListener.registered = false
  message : m.accelerometerListener.message = false

/-- What a call for `IDLE` has achieved at each place. -/
structure Quiet (m : LockManager) : Prop where
  disable : m.caller = .disable .idle → m.locks.Free ∧ ¬ m.main.Handling
  keyguard : m.caller = .keyguard .idle → Silent m
  returned : m.caller = .returned (some .idle) → Silent m

theorem quiet_create (wifiLockEnforced : Bool) : Quiet (create wifiLockEnforced) :=
  ⟨nofun, nofun, nofun⟩

/-- A call that is elsewhere has achieved nothing yet. -/
theorem quiet_elsewhere (hdisable : m.caller ≠ .disable .idle)
    (hkeyguard : m.caller ≠ .keyguard .idle) (hreturned : m.caller ≠ .returned (some .idle)) :
    Quiet m :=
  ⟨fun h => absurd h hdisable, fun h => absurd h hkeyguard, fun h => absurd h hreturned⟩

theorem quiet_called {state : PhoneState} {onMain : Bool} (hstep : m.called state onMain = .ok m') :
    Quiet m' := by
  -- A call that begins has achieved nothing yet.
  rw [← (called_ok hstep).2]
  exact quiet_elsewhere nofun nofun nofun

theorem quiet_updatePhoneState {keyguardLocked : Bool} (h : Quiet m)
    (htimely : Timely m (.caller keyguardLocked))
    (hstep : m.updatePhoneState keyguardLocked = .ok m') : Quiet m' := by
  rw [updatePhoneState] at hstep
  cases hcaller : m.caller with
  | returned last =>
      rw [hcaller] at hstep
      exact absurd hstep nofun
  | begin state =>
      cases state with
      | idle =>
          rw [hcaller] at hstep
          rw [← Except.ok.inj hstep]
          -- The locks are released, and the main thread is not to take them
          -- again.
          exact ⟨fun _ => ⟨Locks.free_sleep _, htimely.1 hcaller⟩, nofun, nofun⟩
      | _ =>
          rw [hcaller] at hstep
          rw [← Except.ok.inj hstep]
          exact quiet_elsewhere nofun nofun nofun
  | disable state =>
      rw [hcaller] at hstep
      rw [← Except.ok.inj hstep]
      by_cases hidle : state = .idle
      · rw [hidle] at hcaller
        -- The listener goes, and its message with it.
        exact ⟨nofun, fun _ => ⟨(h.disable hcaller).1, htimely.2 hcaller, rfl, rfl⟩, nofun⟩
      · exact ⟨nofun, fun heq => absurd (CallerPc.keyguard.inj heq) hidle, nofun⟩
  | readOrientation =>
      rw [hcaller] at hstep
      rw [← Except.ok.inj hstep]
      exact quiet_elsewhere nofun nofun nofun
  | setInCall newState =>
      rw [hcaller] at hstep
      rw [← Except.ok.inj hstep]
      exact quiet_elsewhere nofun nofun nofun
  | keyguard state =>
      cases state with
      | idle =>
          -- Enabling the keyguard leaves the locks alone.
          have hsilent := h.keyguard hcaller
          rw [hcaller] at hstep
          rw [← Except.ok.inj hstep]
          exact ⟨nofun, nofun, fun _ =>
            ⟨hsilent.locks, hsilent.main, hsilent.registered, hsilent.message⟩⟩
      | _ =>
          rw [hcaller] at hstep
          rw [← Except.ok.inj hstep]
          exact quiet_elsewhere nofun nofun nofun

/-- The main thread leaves the call where it is. -/
theorem handle_caller (hstep : m.handle = .ok m') :
    m'.caller = m.caller ∧ m'.onMain = m.onMain ∧ m.main ≠ .idle := by
  rw [handle] at hstep
  cases hmain : m.main with
  | idle =>
      rw [hmain] at hstep
      exact absurd hstep nofun
  | _ =>
      rw [hmain] at hstep
      rw [← Except.ok.inj hstep]
      exact ⟨rfl, rfl, nofun⟩

/-- What is not a message leaves the locks as they are. -/
theorem handle_sensor (hhandling : ¬ m.main.Handling) (hstep : m.handle = .ok m') :
    m'.locks = m.locks ∧ m'.main = .idle := by
  rw [handle] at hstep
  cases hmain : m.main with
  | idle =>
      rw [hmain] at hstep
      exact absurd hstep nofun
  | sensor orientation =>
      rw [hmain] at hstep
      rw [← Except.ok.inj hstep]
      exact ⟨rfl, rfl⟩
  | _ =>
      rw [hmain] at hhandling
      exact absurd trivial hhandling

theorem quiet_handle (h : Quiet m) (hstep : m.handle = .ok m') : Quiet m' := by
  rcases handle_caller hstep with ⟨hcaller, -, hbusy⟩
  refine ⟨fun hdisable => ?_, fun hkeyguard => ?_, fun hreturned => ?_⟩
  · rcases h.disable (hcaller ▸ hdisable) with ⟨hfree, hhandling⟩
    rcases handle_sensor hhandling hstep with ⟨hlocks, hmain⟩
    rw [hlocks, hmain]
    exact ⟨hfree, id⟩
  · exact absurd (h.keyguard (hcaller ▸ hkeyguard)).main hbusy
  · exact absurd (h.returned (hcaller ▸ hreturned)).main hbusy

theorem quiet_step {turn : LockTurn} (h : Quiet m) (htimely : Timely m turn)
    (hstep : m.step turn = .ok m') : Quiet m' := by
  cases turn with
  | call state onMain => exact quiet_called hstep
  | caller keyguardLocked => exact quiet_updatePhoneState h htimely hstep
  | main => exact quiet_handle h hstep
  | sensor vertical =>
      rcases sensor_ok hstep with ⟨hregistered, _, hm'⟩
      rw [← hm']
      -- No sensor event arrives where the listener is disabled.
      refine ⟨fun hdisable => ⟨(h.disable hdisable).1, id⟩, fun hkeyguard => ?_,
        fun hreturned => ?_⟩
      · exact absurd (hregistered.symm.trans (h.keyguard hkeyguard).registered) nofun
      · exact absurd (hregistered.symm.trans (h.returned hreturned).registered) nofun
  | dispatch =>
      rcases dispatch_ok hstep with ⟨hmessage, _, hm'⟩
      rw [← hm']
      -- Nor is there a message.
      refine ⟨fun hdisable => absurd hdisable htimely, fun hkeyguard => ?_, fun hreturned => ?_⟩
      · exact absurd (hmessage.symm.trans (h.keyguard hkeyguard).message) nofun
      · exact absurd (hmessage.symm.trans (h.returned hreturned).message) nofun

/-- A call goes on on its thread, for what it began with. -/
theorem updatePhoneState_same {keyguardLocked : Bool}
    (hstep : m.updatePhoneState keyguardLocked = .ok m') :
    m'.onMain = m.onMain ∧ m'.main = m.main ∧ (∀ last, m.caller ≠ .returned last) ∧
      (m'.caller.Ending → m.caller.Ending) := by
  rw [updatePhoneState] at hstep
  cases hcaller : m.caller with
  | returned last =>
      rw [hcaller] at hstep
      exact absurd hstep nofun
  | begin state =>
      cases state with
      | _ =>
          rw [hcaller] at hstep
          rw [← Except.ok.inj hstep]
          exact ⟨rfl, rfl, nofun, id⟩
  | disable state =>
      rw [hcaller] at hstep
      rw [← Except.ok.inj hstep]
      refine ⟨rfl, rfl, nofun, ?_⟩
      cases state with
      | _ => exact id
  | keyguard state =>
      cases state with
      | idle =>
          rw [hcaller] at hstep
          rw [← Except.ok.inj hstep]
          exact ⟨rfl, rfl, nofun, False.elim⟩
      | processing =>
          rw [hcaller] at hstep
          rw [← Except.ok.inj hstep]
          exact ⟨rfl, rfl, nofun, id⟩
      | _ =>
          rw [hcaller] at hstep
          rw [← Except.ok.inj hstep, disableKeyguard]
          split
          · -- The keyguard may be gone already.
            exact ⟨rfl, rfl, nofun, id⟩
          · exact ⟨rfl, rfl, nofun, id⟩
  | _ =>
      rw [hcaller] at hstep
      rw [← Except.ok.inj hstep]
      exact ⟨rfl, rfl, nofun, id⟩

/-- A call for another state has nothing to be late for. -/
theorem timely_of_not_ending {turn : LockTurn} (h : ¬ m.caller.Ending) : Timely m turn := by
  cases turn with
  | caller keyguardLocked =>
      refine ⟨fun hcaller => ?_, fun hcaller => ?_⟩
      · rw [hcaller] at h
        exact absurd trivial h
      · rw [hcaller] at h
        exact absurd trivial h
  | dispatch =>
      intro hcaller
      rw [hcaller] at h
      exact absurd trivial h
  | _ => trivial

/-- Another thread ends the call. -/
def ended : List LockTurn := [.call .idle false, .caller true, .caller true, .caller true]

/-- The main thread makes the calls for `IDLE`. -/
def ByMain (_ : LockManager) : LockTurn → Prop
  | .call .idle onMain => onMain = true
  | _ => True

/-- The main thread makes the calls for `IDLE`, and nothing else while it is in
    a call. -/
structure Occupied (m : LockManager) : Prop where
  ending : m.caller.Ending → m.onMain = true
  idle : m.mainFree = false → m.main = .idle

theorem occupied_create (wifiLockEnforced : Bool) : Occupied (create wifiLockEnforced) :=
  ⟨False.elim, nofun⟩

theorem occupied_called {state : PhoneState} {onMain : Bool}
    (hmain : ByMain m (.call state onMain)) (hstep : m.called state onMain = .ok m') :
    Occupied m' := by
  rcases called_ok hstep with ⟨hguard, hm'⟩
  rw [← hm']
  refine ⟨fun h => ?_, fun h => ?_⟩
  · cases state with
    | idle => exact hmain
    | _ => exact h.elim
  · by_contra hbusy
    cases onMain with
    | true => exact hguard ⟨rfl, hbusy⟩
    | false => exact absurd h nofun

theorem mainFree_eq (hgoing : ∀ last, m.caller ≠ .returned last) : m.mainFree = !m.onMain := by
  rw [mainFree]
  cases hcaller : m.caller with
  | returned last => exact absurd hcaller (hgoing last)
  | _ => rfl

theorem occupied_step {turn : LockTurn} (h : Occupied m) (hmain : ByMain m turn)
    (hstep : m.step turn = .ok m') : Occupied m' := by
  cases turn with
  | call state onMain => exact occupied_called hmain hstep
  | caller keyguardLocked =>
      -- The call of the main thread goes on, and keeps it.
      rcases updatePhoneState_same hstep with ⟨honMain, hsame, hgoing, hending⟩
      refine ⟨fun hend => honMain.trans (h.ending (hending hend)), fun hfree => ?_⟩
      rw [hsame]
      refine h.idle ?_
      rw [mainFree_eq hgoing]
      rw [mainFree] at hfree
      split at hfree
      · exact absurd hfree nofun
      · rw [← honMain]
        exact hfree
  | main =>
      rcases handle_caller hstep with ⟨hcaller, honMain, hbusy⟩
      refine ⟨fun hend => honMain.trans (h.ending (hcaller ▸ hend)), fun hfree => ?_⟩
      rw [mainFree, hcaller, honMain] at hfree
      -- A main thread inside a call handles no message.
      exact absurd (h.idle hfree) hbusy
  | sensor vertical =>
      rcases sensor_ok hstep with ⟨_, hmainFree, hm'⟩
      rw [← hm']
      -- An event is handled by the main thread alone.
      exact ⟨h.ending, fun hfree => absurd (hmainFree.symm.trans hfree) nofun⟩
  | dispatch =>
      rcases dispatch_ok hstep with ⟨_, hmainFree, hm'⟩
      rw [← hm']
      exact ⟨h.ending, fun hfree => absurd (hmainFree.symm.trans hfree) nofun⟩

/-- The main thread is always in time with a call for `IDLE` of its own. -/
theorem timely_of_occupied {turn : LockTurn} (h : Occupied m) (hstep : m.step turn = .ok m') :
    Timely m turn := by
  by_cases hending : m.caller.Ending
  · have hgoing (last : Option PhoneState) : m.caller ≠ .returned last := by
      intro hreturned
      rw [hreturned] at hending
      exact hending
    have hfree : m.mainFree = false := by
      rw [mainFree_eq hgoing, h.ending hending]
      rfl
    cases turn with
    | caller keyguardLocked =>
        refine ⟨fun _ => ?_, fun _ => h.idle hfree⟩
        rw [h.idle hfree]
        exact id
    | dispatch => exact absurd ((dispatch_ok hstep).2.1.symm.trans hfree) nofun
    | _ => trivial
  · exact timely_of_not_ending hending

/-- Where the main thread makes the calls for `IDLE`, no lock outlives the
    call. -/
theorem locks_released_of_main (wifiLockEnforced : Bool) (turns : List LockTurn)
    (h : Meets step ByMain (create wifiLockEnforced) turns) :
    Always step Released (create wifiLockEnforced) turns := by
  have hkeep : Always step (fun u => Occupied u ∧ Quiet u) (create wifiLockEnforced) turns := by
    refine always_of_meets (fun u turn v hu hmain hstep => ?_)
      ⟨occupied_create wifiLockEnforced, quiet_create wifiLockEnforced⟩ h
    exact ⟨occupied_step hu.1 hmain hstep, quiet_step hu.2 (timely_of_occupied hu.1 hstep) hstep⟩
  exact hkeep.mono fun _ hu hreturned => (hu.2.returned hreturned).locks

end LockManager

end RedPhone
