import RuntimeSupport.Ascii

/-!
Standard output: a device behind a buffer that works line by line.  A complete line goes to the
device and the start of a line waits for its end or for a flush.

The main statements concern a working device with nothing waiting: printing delivers exactly the
bytes given and succeeds (`print_working`).
-/

namespace RuntimeSupport

/-- What standard output is connected to. -/
inductive Device
  /-- A device that takes every byte. -/
  | working
  /-- A device on which every write fails; the system says why. -/
  | broken (reason : String)
  deriving DecidableEq, Repr

/-- A device without space. -/
def Device.full : Device := .broken "No space left on device (os error 28)"

/-- Standard output. -/
structure Sink where
  /-- What it is connected to. -/
  device : Device
  /-- The bytes that wait in the buffer. -/
  pending : Bytes
  /-- The bytes that the device has taken. -/
  delivered : Bytes
  deriving DecidableEq, Repr

namespace Sink

/-- The number of bytes that can wait. -/
def capacity : Nat := 1024

/-- The byte that ends a line. -/
def newline : UInt8 := 10

/-- Standard output of a new process. -/
def start (device : Device) : Sink := ⟨device, [], []⟩

/-- What a write comes to: the sink after it, and why it failed, if it did. -/
abbrev Outcome := Sink × Option String

/-- Goes on after a write that succeeded. -/
def Outcome.next (o : Outcome) (act : Sink → Outcome) : Outcome :=
  match o with
  | (s, none) => act s
  | (s, some reason) => (s, some reason)

/-- Hands bytes to the device past the buffer. -/
def deliver (s : Sink) (bs : Bytes) : Outcome :=
  match s.device with
  | .working => ({ s with delivered := s.delivered ++ bs }, none)
  | .broken reason => (s, if bs.isEmpty then none else some reason)

/-- Hands the waiting bytes to the device.  Bytes that it does not take keep waiting. -/
def flush (s : Sink) : Outcome :=
  Outcome.next (s.deliver s.pending) fun s' => ({ s' with pending := [] }, none)

/-- Lets bytes wait, after making room for them; more than can ever wait go past the buffer. -/
def buffer (s : Sink) (bs : Bytes) : Outcome :=
  let spare := capacity - s.pending.length
  if bs.length < spare then ({ s with pending := s.pending ++ bs }, none)
  else
    Outcome.next (if spare < bs.length then s.flush else (s, none)) fun s' =>
      if capacity ≤ bs.length then s'.deliver bs
      else ({ s' with pending := s'.pending ++ bs }, none)

/-- The bytes after the last end of a line. -/
def tail (bs : Bytes) : Bytes := (bs.reverse.takeWhile (· ≠ newline)).reverse

/-- The complete lines that bytes start with. -/
def lines (bs : Bytes) : Bytes := (bs.reverse.dropWhile (· ≠ newline)).reverse

/-- Writes bytes.  Complete lines pass the buffer if nothing waits in it, and flush it otherwise. -/
def writeAll (s : Sink) (bs : Bytes) : Outcome :=
  if lines bs = [] then
    Outcome.next (if s.pending.getLast? = some newline then s.flush else (s, none)) (·.buffer bs)
  else if s.pending = [] then
    Outcome.next (s.deliver (lines bs)) (·.buffer (tail bs))
  else
    Outcome.next (Outcome.next (s.buffer (lines bs)) flush) (·.buffer (tail bs))

/-- Writes bytes and lets none of them wait. -/
def print (s : Sink) (bs : Bytes) : Outcome := Outcome.next (s.writeAll bs) flush

theorem lines_append_tail (bs : Bytes) : lines bs ++ tail bs = bs := by
  rw [lines, tail, ← List.reverse_append, List.takeWhile_append_dropWhile, List.reverse_reverse]

/-- On a working device, whatever is let wait succeeds and neither loses nor reorders a byte. -/
theorem buffer_working (p d bs : Bytes) :
    ∃ p' d', buffer ⟨.working, p, d⟩ bs = (⟨.working, p', d'⟩, none) ∧
      d' ++ p' = d ++ p ++ bs := by
  unfold buffer
  simp only
  split
  · exact ⟨_, _, rfl, by simp⟩
  · next hroom =>
    split
    · simp only [flush, deliver, Outcome.next]
      split
      · exact ⟨_, _, rfl, by simp⟩
      · exact ⟨_, _, rfl, by simp⟩
    · next hfits =>
      simp only [deliver, Outcome.next]
      split
      · next hlarge =>
        have hp : p = [] := by
          rw [← List.length_eq_zero_iff]
          simp only [capacity] at hroom hfits hlarge
          omega
        exact ⟨_, _, rfl, by simp [hp]⟩
      · exact ⟨_, _, rfl, by simp⟩

/-- On a working device with nothing waiting, printing delivers exactly the bytes given. -/
theorem print_working (d bs : Bytes) :
    print ⟨.working, [], d⟩ bs = (⟨.working, [], d ++ bs⟩, none) := by
  have h := lines_append_tail bs
  by_cases hl : lines bs = []
  · obtain ⟨p', d', hb, he⟩ := buffer_working [] d bs
    simp [print, writeAll, hl, Outcome.next, hb, flush, deliver, he]
  · obtain ⟨p', d', hb, he⟩ := buffer_working [] (d ++ lines bs) (tail bs)
    simp [print, writeAll, hl, Outcome.next, deliver, hb, flush, he, h]

end Sink

end RuntimeSupport
