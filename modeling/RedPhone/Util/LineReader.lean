import RedPhone.Java.Text
import RedPhone.Lib.Reading

/-!
# The Line Reader

`LineReader` reads the lines and the bodies of signals off a socket. What it has
read too much of stays in its own buffer. `readLine` looks there before it
reads; `waitForAvailable` does not, and asks the socket.

A body is filled from the buffer first and then by reads that ask for no more
than is missing, so the buffer is empty whenever such a read is made. Here the
bytes of an unfinished body stay in the buffer until it is finished.

## Main definitions

* `SignalingFailure`: What the code that reads signals can throw.
* `LineReader.findNewline`: Where a line ends.
* `LineReader.waitForAvailable`, `LineReader.readLine`, `LineReader.readFully`:
  The methods.

## Theorems

* `findNewline_line`, `findNewline_some`: A line ends at its last two bytes.
* `finds_chompLine`: A line is found when it is there.
* `steady_readLine`, `steady_readFully`: Lines and bodies do not depend on the
  portions they arrive in.
* `readLine_shorter`: A line takes at least its two last bytes.
-/

namespace RedPhone

open Reading

/-- What the code that reads signals can throw. -/
inductive SignalingFailure
  /-- An `IOException`. -/
  | io (message : String)
  /-- A `SignalingException`. -/
  | signaling (message : List Nat)
  /-- A `SignalingException` around an `IOException`. -/
  | signalingIo (message : String)
  | numberFormat
  | negativeArraySize
  deriving DecidableEq, Repr

/-- A reader of bytes from the signaling connection. -/
abbrev ByteReader (α : Type) := Reader SignalingFailure UInt8 α

namespace LineReader

/-- Where the first line ends, if it does. -/
def findNewline : Bytes → Option Nat
  | c :: d :: buffer =>
    if d = 0x0a ∧ c = 0x0d then some 0 else (findNewline (d :: buffer)).map (· + 1)
  | _ => none

/-- The first line, and what stays in the buffer. -/
def chompLine (buffer : Bytes) : Option (Bytes × Bytes) :=
  (findNewline buffer).map fun newlineIndex =>
    (buffer.take newlineIndex, buffer.drop (newlineIndex + 2))

/-- Ask the socket for more, for as long as its timeout lasts. -/
def waitForAvailable : ByteReader Bool := fun s => match s.reads with
  | [] => .error .waits
  | .data portion :: reads =>
    if Fits 500 portion then .ok (true, ⟨s.buffered ++ portion, reads⟩) else .error .impossible
  | .timeout :: reads => .ok (false, ⟨s.buffered, reads⟩)
  | .eof :: reads => .ok (false, ⟨s.buffered, reads⟩)

/-- The bytes of a line. -/
def readLineBytes : ByteReader Bytes :=
  readUntil (fun _ => 4096) (.io "Stream closed before newline found...") chompLine

def readLine : ByteReader (List Nat) := do
  let line ← readLineBytes
  return Text.decodeUtf8 line

def readFully (size : Int) : ByteReader Bytes :=
  if size < 0 then threw .negativeArraySize
  else readUntil (fun buffered => size.toNat - buffered.length)
    (.io "Socket closed before buffer filled...") fun buffered =>
      if size.toNat ≤ buffered.length then
        some (buffered.take size.toNat, buffered.drop size.toNat)
      else none

/-- The two bytes that end a line. -/
def CRLF : Bytes := [0x0d, 0x0a]

theorem findNewline_cons (c d : UInt8) (buffer : Bytes) : findNewline (c :: d :: buffer)
    = if d = 0x0a ∧ c = 0x0d then some 0 else (findNewline (d :: buffer)).map (· + 1) := rfl

/-- A buffer without a newline goes on without one. -/
theorem findNewline_none {c d : UInt8} {buffer : Bytes} :
    findNewline (c :: d :: buffer) = none ↔
      ¬ (d = 0x0a ∧ c = 0x0d) ∧ findNewline (d :: buffer) = none := by
  rw [findNewline_cons]
  split
  · rename_i hends
    simp only [reduceCtorEq, hends, and_self, not_true_eq_false, false_and]
  · rename_i hends
    simp only [Option.map_eq_none_iff, hends, not_false_eq_true, true_and]

/-- What begins a buffer without a newline has none. -/
theorem findNewline_prefix {x buffer : Bytes} (hx : x <+: buffer) (h : findNewline buffer = none) :
    findNewline x = none := by
  induction x generalizing buffer with
  | nil => rfl
  | cons c x ih =>
      cases x with
      | nil => rfl
      | cons d x =>
          rcases hx with ⟨rest, rfl⟩
          rcases findNewline_none.mp h with ⟨hends, hrest⟩
          exact findNewline_none.mpr ⟨hends, ih ⟨rest, rfl⟩ hrest⟩

/-- A line ends at its last two bytes, whatever follows. -/
theorem findNewline_line {line : Bytes} (h : findNewline (line ++ [0x0d]) = none)
    (left : Bytes) : findNewline (line ++ (CRLF ++ left)) = some line.length := by
  induction line with
  | nil => rfl
  | cons c line ih =>
      cases line with
      | nil =>
          rw [List.cons_append, List.nil_append, CRLF, List.cons_append, findNewline_cons,
            if_neg (fun hends => absurd hends.1 (by decide))]
          rfl
      | cons d line =>
          rcases findNewline_none.mp h with ⟨hends, hrest⟩
          have hlast := ih hrest
          rw [List.cons_append, List.cons_append, findNewline_cons, if_neg hends]
          rw [List.cons_append] at hlast
          rw [hlast, Option.map_some]
          rfl

/-- Where a line ends, its last two bytes are. -/
theorem findNewline_some {buffer : Bytes} {i : Nat} (h : findNewline buffer = some i) :
    ∃ line left, buffer = line ++ (CRLF ++ left) ∧ line.length = i ∧
      findNewline (line ++ [0x0d]) = none := by
  induction buffer generalizing i with
  | nil => exact absurd h nofun
  | cons c buffer ih =>
      cases buffer with
      | nil => exact absurd h nofun
      | cons d buffer =>
          rw [findNewline_cons] at h
          -- The line is empty, or begins with this byte.
          by_cases hends : d = 0x0a ∧ c = 0x0d
          · rw [if_pos hends, Option.some.injEq] at h
            refine ⟨[], buffer, ?_, h, rfl⟩
            rw [hends.1, hends.2]
            rfl
          · rw [if_neg hends, Option.map_eq_some_iff] at h
            rcases h with ⟨j, hj, rfl⟩
            rcases ih hj with ⟨line, left, hline, hlength, hnone⟩
            refine ⟨c :: line, left, ?_, congrArg (· + 1) hlength, ?_⟩
            · rw [hline, List.cons_append]
            · -- The byte and its neighbour are no line end, and neither is the
              -- next pair.
              cases line with
              | nil => exact findNewline_none.mpr ⟨fun h => absurd h.1 (by decide), rfl⟩
              | cons d' line =>
                  rw [List.cons_append, List.cons.injEq] at hline
                  rw [hline.1] at hends
                  exact findNewline_none.mpr ⟨hends, hnone⟩

theorem chompLine_line {line : Bytes} (h : findNewline (line ++ [0x0d]) = none) (left : Bytes) :
    chompLine (line ++ (CRLF ++ left)) = some (line, left) := by
  rw [chompLine, findNewline_line h, Option.map_some, List.take_left, ← List.drop_drop,
    List.drop_left]
  rfl

/-- A line is found behind its last byte and not before. -/
theorem finds_chompLine {buffer line left : Bytes} (h : chompLine buffer = some (line, left)) :
    buffer = (line ++ CRLF) ++ left ∧ Finds chompLine (line ++ CRLF) line := by
  rw [chompLine, Option.map_eq_some_iff] at h
  rcases h with ⟨i, hi, hchomped⟩
  rcases findNewline_some hi with ⟨line', left', rfl, rfl, hnone⟩
  rw [List.take_left, ← List.drop_drop, List.drop_left, Prod.mk.injEq] at hchomped
  rcases hchomped with ⟨rfl, rfl⟩
  refine ⟨(List.append_assoc _ _ _).symm, ⟨fun rest => ?_, fun x hx hshort => ?_⟩⟩
  · rw [List.append_assoc]
    exact chompLine_line hnone rest
  · -- All but the last byte of a line is a prefix of what has no newline.
    have hsplit : line' ++ CRLF = (line' ++ [0x0d]) ++ [0x0a] := by
      rw [List.append_assoc]
      rfl
    have hx' : x <+: line' ++ [0x0d] := by
      rw [hsplit] at hx hshort
      refine List.prefix_of_prefix_length_le hx (List.prefix_append _ _) ?_
      rw [List.length_append, List.length_singleton] at hshort
      omega
    rw [chompLine, findNewline_prefix hx' hnone, Option.map_none]

theorem steady_readLineBytes : Steady readLineBytes :=
  steady_readUntil _ _ fun _ _ _ h => ⟨_, finds_chompLine h⟩

/-- A line is the same however it arrives. -/
theorem steady_readLine : Steady readLine :=
  steady_bind steady_readLineBytes fun line => steady_pure (Text.decodeUtf8 line)

/-- Bodies are the same however they arrive. -/
theorem steady_readFully (size : Int) : Steady (readFully size) := by
  rw [readFully]
  split
  · exact steady_threw _
  · refine steady_readUntil _ _ fun buffer body left h => ?_
    by_cases hlong : size.toNat ≤ buffer.length
    · rw [if_pos hlong, Option.some.injEq, Prod.mk.injEq] at h
      rcases h with ⟨rfl, rfl⟩
      have hlength : (buffer.take size.toNat).length = size.toNat :=
        List.length_take_of_le hlong
      refine ⟨_, (List.take_append_drop size.toNat buffer).symm, ⟨fun rest => ?_, ?_⟩⟩
      · rw [if_pos (by rw [List.length_append, hlength]; exact Nat.le_add_right _ _),
          List.take_left' hlength, List.drop_left' hlength]
      · intro x _ hshort
        rw [if_neg (by omega)]
    · rw [if_neg hlong] at h
      exact absurd h nofun

theorem consumes_readLine : Consumes readLine :=
  consumes_bind (consumes_readUntil _ _ _) fun _ => consumes_pure _

theorem consumes_readFully (size : Int) : Consumes (readFully size) := by
  rw [readFully]
  split
  · exact consumes_threw _
  · exact consumes_readUntil _ _ _

/-- A line takes at least its two last bytes. -/
theorem readLine_shorter {s s' : Source UInt8} {line : List Nat}
    (h : readLine s = .ok (line, s')) : s'.remaining < s.remaining := by
  rw [readLine, bind_eq] at h
  cases hbytes : readLineBytes s with
  | error e =>
      rw [hbytes] at h
      exact absurd h nofun
  | ok p =>
      rcases p with ⟨bytes, t⟩
      rw [hbytes] at h
      have ht : t = s' := (Prod.mk.inj (Except.ok.inj h)).2
      rcases readUntil_ok hbytes with ⟨x, hx, hall, -⟩
      rw [← ht, Source.remaining, Source.remaining, ← hall, (finds_chompLine hx).1]
      simp only [List.length_append]
      have hlast : CRLF.length = 2 := rfl
      omega

end LineReader

end RedPhone
