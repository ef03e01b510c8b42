import Mathlib.Tactic.Ring
import RedPhone.Lib.Interleaving
import RedPhone.Util.PeriodicActionUtils

/-!
# The Update of the Directory

`DirectoryUpdateReceiver` downloads the directory whenever it receives a
broadcast, and has the next update scheduled. The alarm that has been set then
makes another broadcast. But the one that schedules is
`PeriodicActionUtils.scheduleUpdate`, which sends a broadcast itself when the
stored time has come, and it has come when the alarm goes off. So the receiver
asks itself for a second download.

Only when the stored time is moved ahead between the alarm and the receipt of
its broadcast, by a call from another component, does the receiver find a time
in the future and leave it at one.

Broadcasts are received in any order, each call reads the clock as it likes,
and an alarm goes off at any time from the one it was set for.

## Main definitions

* `onReceive`: The receiver.
* `Event`, `step`: What happens to a client.
* `Start`: A registered client before its first alarm.
* `Ahead`: The stored time is ahead of an expiry and of the clock.

## Theorems

* `counts_step`: What a step does to the broadcasts and downloads of an expiry.
* `single_of_run`: An expiry is broadcast once before its first download.
* `over_of_run`, `doubled_of_run`: One download and two, in every later state.
* `downloads_once_iff`: When an expiry leads to one download.
* `not_ahead_of_undisturbed`: Not if nothing else calls.
* `downloads_twice`: The ordinary course of things.
-/

namespace RedPhone

namespace DirectoryUpdateReceiver

open PeriodicActionUtils Interleaving Run

/-- `DirectoryUpdateReceiver.onReceive`. -/
def onReceive (origin : Origin) (r : Readings) (s : Client) : Client :=
  if s.registered then
    scheduleUpdate origin r { s with downloads := s.downloads ++ [origin] }
  else s

/-- What happens to a client. -/
inductive Event
  /-- An alarm goes off. -/
  | expire (alarm now : Int64)
  /-- A broadcast is received. -/
  | receive (origin : Origin) (r : Readings)
  /-- Another component has an update scheduled. -/
  | call (r : Readings)
  deriving DecidableEq, Repr

def step (s : Client) : Event → Except Blocked Client
  | .expire alarm now =>
    if alarm ∈ s.alarms ∧ alarm ≤ now then
      .ok { s with
        alarms := s.alarms.erase alarm
        broadcasts := s.broadcasts ++ [.expiry s.expiries now]
        expiries := s.expiries + 1 }
    else .error .blocked
  | .receive origin r =>
    if origin ∈ s.broadcasts then
      .ok (onReceive origin r { s with broadcasts := s.broadcasts.erase origin })
    else .error .blocked
  | .call r => .ok (scheduleUpdate .call r s)

/-- A registered client none of whose broadcasts and downloads comes from an
    alarm. The time that is stored and the alarms are any. -/
structure Start (s : Client) : Prop where
  registered : s.registered = true
  broadcasts : ∀ o ∈ s.broadcasts, o = .call
  downloads : ∀ o ∈ s.downloads, o = .call

/-- The stored time is one, and ahead of an expiry and of the clock. -/
structure Ahead (s : Client) (time now : Int64) : Prop where
  stored : s.storedTime ≠ -1
  now_lt : now < s.storedTime
  time_lt : time < s.storedTime

/-! ## What a step does -/

theorem step_expire (s s' : Client) (alarm now : Int64) :
    step s (.expire alarm now) = .ok s' ↔ (alarm ∈ s.alarms ∧ alarm ≤ now) ∧
      { s with
        alarms := s.alarms.erase alarm
        broadcasts := s.broadcasts ++ [.expiry s.expiries now]
        expiries := s.expiries + 1 } = s' := by
  rw [step]
  by_cases h : alarm ∈ s.alarms ∧ alarm ≤ now
  · rw [if_pos h, Except.ok.injEq, and_iff_right h]
  · rw [if_neg h]
    simp only [reduceCtorEq, h, false_and]

/-- A registered client starts a download for what it receives. -/
theorem step_receive (s s' : Client) (origin : Origin) (r : Readings) (h : s.registered = true) :
    step s (.receive origin r) = .ok s' ↔ origin ∈ s.broadcasts ∧
      scheduleUpdate origin r { s with
        broadcasts := s.broadcasts.erase origin
        downloads := s.downloads ++ [origin] } = s' := by
  rw [step]
  by_cases hmem : origin ∈ s.broadcasts
  · rw [if_pos hmem, Except.ok.injEq, and_iff_right hmem, onReceive]
    simp only [h, if_true]
  · rw [if_neg hmem]
    simp only [reduceCtorEq, hmem, false_and]

theorem count_concat_ne {o e : Origin} (h : o ≠ e) (os : List Origin) :
    (os ++ [o]).count e = os.count e := by
  rw [List.count_append, List.count_cons_of_ne h, List.count_nil, Nat.add_zero]

/-- What a call sends for one origin does not count for another. -/
theorem count_scheduleUpdate_ne {o e : Origin} (h : o ≠ e) (r : Readings) (s : Client) :
    (scheduleUpdate o r s).broadcasts.count e = s.broadcasts.count e := by
  have hnone : (List.replicate (s.sends r.now) o).count e = 0 := by
    rw [List.count_eq_zero]
    intro hmem
    exact h (List.eq_of_mem_replicate hmem).symm
  rw [scheduleUpdate_eq]
  simp only [List.count_append, hnone, Nat.add_zero]

theorem count_scheduleUpdate_self (e : Origin) (r : Readings) (s : Client) :
    (scheduleUpdate e r s).broadcasts.count e = s.broadcasts.count e + s.sends r.now := by
  rw [scheduleUpdate_eq]
  simp only [List.count_append, List.count_replicate_self]

/-- What the receipt of a broadcast of an expiry leads to. -/
theorem receive_counts (s s' : Client) (n : Nat) (time : Int64) (r : Readings)
    (hreg : s.registered = true) (hstep : step s (.receive (.expiry n time) r) = .ok s') :
    0 < s.broadcasts.count (.expiry n time) ∧
      s'.downloads.count (.expiry n time) = s.downloads.count (.expiry n time) + 1 ∧
      s'.broadcasts.count (.expiry n time) + 1
        = s.broadcasts.count (.expiry n time) + s.sends r.now := by
  rw [step_receive s s' _ r hreg] at hstep
  rcases hstep with ⟨hmem, hs'⟩
  have hpos : 0 < s.broadcasts.count (.expiry n time) := List.count_pos_iff.mpr hmem
  have hsends : ∀ bs ds, ({ s with broadcasts := bs, downloads := ds } : Client).sends r.now
      = s.sends r.now := fun _ _ => rfl
  rw [← hs', count_scheduleUpdate_self, scheduleUpdate_eq]
  refine ⟨hpos, ?_, ?_⟩
  · simp only [List.count_append, List.count_singleton_self]
  · simp only [List.count_erase_self, hsends]
    omega

/-- A step leaves the broadcasts and the downloads of an expiry as they are, is
    the expiry itself, or turns a broadcast into a download and those that the
    call sends. -/
theorem counts_step (s s' : Client) (event : Event) (n : Nat) (time : Int64)
    (hreg : s.registered = true) (hstep : step s event = .ok s') :
    s'.registered = true ∧ s.expiries ≤ s'.expiries ∧
      ((s'.broadcasts.count (.expiry n time) = s.broadcasts.count (.expiry n time) ∧
          s'.downloads.count (.expiry n time) = s.downloads.count (.expiry n time)) ∨
        (n = s.expiries ∧ n < s'.expiries ∧
          s'.broadcasts.count (.expiry n time) = s.broadcasts.count (.expiry n time) + 1 ∧
          s'.downloads.count (.expiry n time) = s.downloads.count (.expiry n time)) ∨
        (0 < s.broadcasts.count (.expiry n time) ∧ ∃ r, event = .receive (.expiry n time) r ∧
          s'.downloads.count (.expiry n time) = s.downloads.count (.expiry n time) + 1 ∧
          s'.broadcasts.count (.expiry n time) + 1
            = s.broadcasts.count (.expiry n time) + s.sends r.now)) := by
  cases event with
  | expire alarm now =>
      rw [step_expire] at hstep
      rw [← hstep.2]
      refine ⟨hreg, Nat.le_succ _, ?_⟩
      -- Each expiry takes the next number, so it is this one at most once.
      by_cases hself : Origin.expiry s.expiries now = .expiry n time
      · refine Or.inr (Or.inl ⟨?_, ?_, ?_, rfl⟩)
        · exact (Origin.expiry.inj hself).1.symm
        · have hn := (Origin.expiry.inj hself).1
          simp only
          omega
        · simp only [hself, List.count_append, List.count_singleton_self]
      · exact Or.inl ⟨count_concat_ne hself s.broadcasts, rfl⟩
  | call r =>
      rw [step, Except.ok.injEq] at hstep
      rw [← hstep]
      -- What another component's call sends carries its own origin.
      have hcount := count_scheduleUpdate_ne (o := .call) (e := .expiry n time)
        (by simp only [ne_eq, reduceCtorEq, not_false_eq_true]) r s
      rw [hcount, scheduleUpdate_eq]
      exact ⟨hreg, Nat.le_refl _, Or.inl ⟨rfl, rfl⟩⟩
  | receive origin r =>
      -- Only the receipt of a broadcast of this expiry moves both counts.
      have hreceive := hstep
      rw [step_receive s s' origin r hreg] at hstep
      rcases hstep with ⟨hmem, hs'⟩
      rw [← hs']
      by_cases hself : origin = .expiry n time
      · rw [hself] at hreceive hs' ⊢
        rcases receive_counts s s' n time r hreg hreceive with ⟨hpos, hd, hb⟩
        rw [← hs'] at hd hb
        rw [scheduleUpdate_eq] at hd hb ⊢
        exact ⟨hreg, Nat.le_refl _, Or.inr (Or.inr ⟨hpos, r, rfl, hd, hb⟩)⟩
      · rw [count_scheduleUpdate_ne hself, scheduleUpdate_eq]
        refine ⟨hreg, Nat.le_refl _, Or.inl ⟨?_, ?_⟩⟩
        · simp only [List.count_erase_of_ne (Ne.symm hself)]
        · exact count_concat_ne hself s.downloads

/-! ## The broadcasts of an expiry -/

/-- An expiry that has not happened has no broadcasts and no downloads, and one
    that has led to no download has at most one broadcast. -/
structure Single (s : Client) (n : Nat) (time : Int64) : Prop where
  registered : s.registered = true
  fresh : s.expiries ≤ n →
    s.broadcasts.count (.expiry n time) = 0 ∧ s.downloads.count (.expiry n time) = 0
  single : s.downloads.count (.expiry n time) = 0 → s.broadcasts.count (.expiry n time) ≤ 1

theorem single_start (s : Client) (h : Start s) (n : Nat) (time : Int64) : Single s n time := by
  have hbroadcasts : s.broadcasts.count (.expiry n time) = 0 := by
    rw [List.count_eq_zero]
    intro hmem
    exact absurd (h.broadcasts _ hmem) (by simp only [reduceCtorEq, not_false_eq_true])
  have hdownloads : s.downloads.count (.expiry n time) = 0 := by
    rw [List.count_eq_zero]
    intro hmem
    exact absurd (h.downloads _ hmem) (by simp only [reduceCtorEq, not_false_eq_true])
  exact ⟨h.registered, fun _ => ⟨hbroadcasts, hdownloads⟩, fun _ => by omega⟩

theorem single_step (s s' : Client) (event : Event) (n : Nat) (time : Int64)
    (h : Single s n time) (hstep : step s event = .ok s') : Single s' n time := by
  rcases counts_step s s' event n time h.registered hstep with ⟨hreg, hle, hcounts⟩
  -- The second broadcast is only ever sent in a receipt, which has a download by
  -- then.
  refine ⟨hreg, ?_, ?_⟩
  · intro hfresh
    have hnone := h.fresh (by omega)
    rcases hcounts with ⟨hb, hd⟩ | ⟨_, hlt, _, _⟩ | ⟨hpos, _, _, _, _⟩
    · omega
    · omega
    · omega
  · intro hzero
    rcases hcounts with ⟨hb, hd⟩ | ⟨hn, _, hb, hd⟩ | ⟨_, _, _, hd, _⟩
    · have hone := h.single (by omega)
      omega
    · have hnone := h.fresh (by omega)
      omega
    · omega

/-- In every run an expiry is broadcast once before its first download. -/
theorem single_of_run (start s : Client) (hstart : Start start) (events : List Event)
    (hrun : run step start events = .ok s) (n : Nat) (time : Int64) : Single s n time :=
  invariant (fun s => Single s n time) (single_start start hstart n time)
    (fun s event s' h hstep => single_step s s' event n time h hstep) hrun

/-- The expiry is over, after one download. -/
structure Over (n : Nat) (time : Int64) (s : Client) : Prop where
  registered : s.registered = true
  happened : n < s.expiries
  broadcasts : s.broadcasts.count (.expiry n time) = 0
  downloads : s.downloads.count (.expiry n time) = 1

/-- The expiry has led to two downloads, or will when its broadcasts are
    received. -/
structure Doubled (n : Nat) (time : Int64) (s : Client) : Prop where
  registered : s.registered = true
  two : 2 ≤ s.broadcasts.count (.expiry n time) + s.downloads.count (.expiry n time)

theorem over_of_run (s s' : Client) (events : List Event) (n : Nat) (time : Int64)
    (h : Over n time s) (hrun : run step s events = .ok s') : Over n time s' := by
  refine invariant (Over n time) h ?_ hrun
  intro s event s' h hstep
  have hhappened := h.happened
  have hnone := h.broadcasts
  have hone := h.downloads
  rcases counts_step s s' event n time h.registered hstep with ⟨hreg, hle, hcounts⟩
  rcases hcounts with ⟨hb, hd⟩ | ⟨hn, _, _, _⟩ | ⟨hpos, _⟩
  · exact ⟨hreg, by omega, by omega, by omega⟩
  -- Its number is behind, and without a broadcast there is nothing to receive.
  · omega
  · omega

theorem doubled_of_run (s s' : Client) (events : List Event) (n : Nat) (time : Int64)
    (h : Doubled n time s) (hrun : run step s events = .ok s') : Doubled n time s' := by
  refine invariant (Doubled n time) h ?_ hrun
  intro s event s' h hstep
  have htwo := h.two
  rcases counts_step s s' event n time h.registered hstep with ⟨hreg, _, hcounts⟩
  -- Each broadcast received is a download more, so the sum never falls.
  rcases hcounts with ⟨hb, hd⟩ | ⟨_, _, hb, hd⟩ | ⟨_, r, _, hd, hb⟩
  · exact ⟨hreg, by omega⟩
  · exact ⟨hreg, by omega⟩
  · exact ⟨hreg, by omega⟩

/-! ## The first receipt -/

/-- A receipt leaves one alarm, and a time that is in the future. -/
theorem receive_alarms (s s' : Client) (origin : Origin) (r : Readings)
    (hreg : s.registered = true) (hstep : step s (.receive origin r) = .ok s') :
    s'.alarms = [s'.storedTime] ∧ (r.now < s.storedTime → s'.storedTime = s.storedTime) := by
  rw [step_receive s s' origin r hreg] at hstep
  rw [← hstep.2]
  exact ⟨scheduleUpdate_alarms _ _ _, fun h => scheduleUpdate_storedTime _ _ _ h⟩

/-- In every run, however it goes on, an expiry leads to one download, with no
    broadcast left and one alarm set for a later time, exactly if the stored
    time is ahead when its broadcast is received. -/
theorem downloads_once_iff (start s s' s'' : Client) (hstart : Start start)
    (pre post : List Event) (n : Nat) (time : Int64) (r : Readings)
    (hpre : run step start pre = .ok s) (hfirst : .expiry n time ∉ s.downloads)
    (hreceive : step s (.receive (.expiry n time) r) = .ok s')
    (hpost : run step s' post = .ok s'') :
    (.expiry n time ∉ s''.broadcasts ∧ s''.downloads.count (.expiry n time) = 1 ∧
      ∃ alarm, s'.alarms = [alarm] ∧ time < alarm) ↔ Ahead s time r.now := by
  have hsingle := single_of_run start s hstart pre hpre n time
  have hnone : s.downloads.count (.expiry n time) = 0 := List.count_eq_zero.mpr hfirst
  rcases receive_counts s s' n time r hsingle.registered hreceive with ⟨hpos, hd, hb⟩
  rcases receive_alarms s s' _ r hsingle.registered hreceive with ⟨halarms, hstored⟩
  have hone : s.broadcasts.count (.expiry n time) = 1 := by
    have hle := hsingle.single hnone
    omega
  rcases counts_step s s' _ n time hsingle.registered hreceive with ⟨hreg, hexpiries, _⟩
  constructor
  · rintro ⟨hover, hcount, alarm, halarm, htime⟩
    -- Whatever the call sends would be received or still be on its way.
    have hsends : s.sends r.now = 0 := by
      by_contra hsends
      have htwo := (doubled_of_run s' s'' post n time ⟨hreg, by omega⟩ hpost).two
      have hgone : s''.broadcasts.count (.expiry n time) = 0 := List.count_eq_zero.mpr hover
      omega
    rcases (sends_eq_zero s r.now).mp hsends with ⟨hset, hnow⟩
    refine ⟨hset, hnow, ?_⟩
    rw [halarms, List.cons.injEq] at halarm
    rw [← hstored hnow, halarm.1]
    exact htime
  · intro h
    have hsends : s.sends r.now = 0 := (sends_eq_zero s r.now).mpr ⟨h.stored, h.now_lt⟩
    have hhappened : n < s.expiries := by
      by_contra hle
      have hfresh := (hsingle.fresh (by omega)).1
      omega
    have hover : Over n time s' := ⟨hreg, by omega, by omega, by omega⟩
    have hend := over_of_run s' s'' post n time hover hpost
    refine ⟨List.count_eq_zero.mp hend.broadcasts, hend.downloads, s'.storedTime, halarms, ?_⟩
    rw [hstored h.now_lt]
    exact h.time_lt

/-- A client that waits for its alarm, in May 2014. -/
def waiting : Client := ⟨true, some 1400000000000, [1400000000000], [], 0, []⟩

def reading (now : Int64) : Readings := ⟨now, now, now⟩

/-- The client after its alarm has gone off and the user has opened the
    dialer, which has the next update scheduled. -/
def dialled : Client :=
  scheduleUpdate .call (reading 1400000000001)
    { waiting with alarms := [], broadcasts := [.expiry 0 1400000000000], expiries := 1 }

/-- The same client when it has received the broadcast of the alarm. -/
def updated : Client :=
  onReceive (.expiry 0 1400000000000) (reading 1400000000002)
    { dialled with broadcasts := dialled.broadcasts.erase (.expiry 0 1400000000000) }

/-- The alarm leads to one download then. -/
theorem downloads_once_dialled :
    .expiry 0 1400000000000 ∉ updated.broadcasts ∧
      updated.downloads.count (.expiry 0 1400000000000) = 1 ∧
      ∃ alarm, updated.alarms = [alarm] ∧ 1400000000000 < alarm := by
  have hrun : run step waiting [.expire 1400000000000 1400000000000,
      .call (reading 1400000000001)] = .ok dialled := by decide +kernel
  have hreceive : step dialled (.receive (.expiry 0 1400000000000) (reading 1400000000002))
      = .ok updated := by decide +kernel
  refine (downloads_once_iff waiting dialled updated updated ⟨rfl, by decide, by decide⟩
    [.expire 1400000000000 1400000000000, .call (reading 1400000000001)] [] 0 1400000000000
    (reading 1400000000002) hrun (by decide +kernel) hreceive rfl).mpr ⟨?_, ?_, ?_⟩
  · decide +kernel
  · decide +kernel
  · decide +kernel

/-- If nothing is dialled it leads to two. -/
theorem downloads_twice_waiting :
    (run step waiting [.expire 1400000000000 1400000000000,
        .receive (.expiry 0 1400000000000) (reading 1400000000001),
        .receive (.expiry 0 1400000000000) (reading 1400000000002)]).map
      (fun s => (s.broadcasts, s.downloads))
      = .ok ([], [.expiry 0 1400000000000, .expiry 0 1400000000000]) := by
  decide +kernel

/-! ## The ordinary course of things -/

/-- Alarms are pending only for the time that is stored. -/
def AlarmStored (s : Client) : Prop := ∀ alarm ∈ s.alarms, alarm = s.storedTime

theorem alarmStored_of_alarms (s : Client) (h : s.alarms = [s.storedTime]) : AlarmStored s := by
  intro alarm hmem
  rw [h, List.mem_singleton] at hmem
  exact hmem

theorem alarmStored_step (s s' : Client) (event : Event) (h : AlarmStored s)
    (hstep : step s event = .ok s') : AlarmStored s' := by
  cases event with
  | expire alarm now =>
      rw [step_expire] at hstep
      rw [← hstep.2]
      intro other hmem
      exact h other (List.mem_of_mem_erase hmem)
  | call r =>
      rw [step, Except.ok.injEq] at hstep
      rw [← hstep]
      exact alarmStored_of_alarms _ (scheduleUpdate_alarms .call r s)
  | receive origin r =>
      rw [step] at hstep
      by_cases hmem : origin ∈ s.broadcasts
      · rw [if_pos hmem, Except.ok.injEq, onReceive] at hstep
        rw [← hstep]
        by_cases hreg : s.registered = true
        · simp only [hreg, if_true]
          exact alarmStored_of_alarms _ (scheduleUpdate_alarms origin r _)
        · simp only [hreg, Bool.false_eq_true, if_false]
          exact h
      · rw [if_neg hmem] at hstep
        simp only [reduceCtorEq] at hstep

/-- An alarm goes off when the stored time has come. So unless something moves
    the time ahead before the broadcast is received, the stored time is not
    ahead then. -/
theorem not_ahead_of_undisturbed (start s s' : Client) (hstart : AlarmStored start)
    (pre : List Event) (alarm now : Int64) (hpre : run step start pre = .ok s)
    (hexpire : step s (.expire alarm now) = .ok s') (clock : Int64) : ¬ Ahead s' now clock := by
  have hstored := invariant AlarmStored hstart
    (fun s event s' h hstep => alarmStored_step s s' event h hstep) hpre
  rw [step_expire] at hexpire
  rcases hexpire with ⟨⟨hmem, hdue⟩, hs'⟩
  intro h
  have htime := h.time_lt
  rw [← hs'] at htime
  rw [hstored alarm hmem] at hdue
  exact Int64.not_lt.mpr hdue htime

/-- Half a day after a time was drawn it has not come yet. -/
theorem lt_next (later now seed : Int64) (hlater : later.toInt + 129600000 < 2 ^ 63)
    (hnow : now.toInt ≤ later.toInt + 43200000) : now < later + interval seed := by
  have hearly := Int64.le_toInt later
  rcases interval_bounds seed with ⟨hlow, hhigh⟩
  rw [Int64.lt_iff_toInt_lt, Int64.toInt_add, Int.bmod_eq_of_le (by omega) (by omega)]
  omega

/-- When the stored time has come and the second broadcast is received within
    half a day, an expiry leads to two downloads, and the alarm is for the time
    that was drawn. -/
theorem downloads_twice (start s s' s'' : Client) (hstart : Start start) (pre : List Event)
    (n : Nat) (time : Int64) (r r' : Readings) (hpre : run step start pre = .ok s)
    (hfirst : .expiry n time ∉ s.downloads) (hset : s.storedTime ≠ -1)
    (hdue : s.storedTime ≤ r.now) (hreceive : step s (.receive (.expiry n time) r) = .ok s')
    (hagain : step s' (.receive (.expiry n time) r') = .ok s'')
    (hpositive : 0 ≤ r.later.toInt) (hlater : r.later.toInt + 129600000 < 2 ^ 63)
    (hsoon : r'.now.toInt ≤ r.later.toInt + 43200000) :
    .expiry n time ∉ s''.broadcasts ∧ s''.downloads.count (.expiry n time) = 2 ∧
      s''.alarms = [r.later + interval r.seed] := by
  have hsingle := single_of_run start s hstart pre hpre n time
  have hnone : s.downloads.count (.expiry n time) = 0 := List.count_eq_zero.mpr hfirst
  have hreg' := (counts_step s s' _ n time hsingle.registered hreceive).1
  rcases receive_counts s s' n time r hsingle.registered hreceive with ⟨hpos, hd, hb⟩
  rcases receive_counts s' s'' n time r' hreg' hagain with ⟨_, hd', hb'⟩
  have hone := hsingle.single hnone
  -- The first receipt sends one broadcast and draws a time.
  have hsends : s.sends r.now = 1 := by
    rw [Client.sends, if_neg hset, if_pos hdue]
  have hdrawn : s'.storedTime = r.later + interval r.seed := by
    rw [step_receive s s' _ r hsingle.registered] at hreceive
    rw [← hreceive.2, scheduleUpdate_eq]
    have hdue' : ∀ bs ds, ({ s with broadcasts := bs, downloads := ds } : Client).storedTime
        ≤ r.now := fun _ _ => hdue
    simp only [Client.nextTime, if_pos (hdue' _ _)]
    rfl
  -- The second finds that time in the future.
  have hahead : r'.now < s'.storedTime := by
    rw [hdrawn]
    exact lt_next r.later r'.now r.seed hlater hsoon
  have hstored : s'.storedTime ≠ -1 := by
    have hminus : (-1 : Int64) < s'.storedTime := by
      rw [hdrawn]
      have hone : (-1 : Int64).toInt = -1 := by decide
      exact lt_next r.later (-1) r.seed hlater (by omega)
    intro h
    rw [h] at hminus
    exact absurd hminus (by decide)
  have hsends' : s'.sends r'.now = 0 := (sends_eq_zero s' r'.now).mpr ⟨hstored, hahead⟩
  rcases receive_alarms s' s'' _ r' hreg' hagain with ⟨halarms, hkeep⟩
  refine ⟨List.count_eq_zero.mp (by omega), by omega, ?_⟩
  rw [halarms, hkeep hahead, hdrawn]

end DirectoryUpdateReceiver

end RedPhone
