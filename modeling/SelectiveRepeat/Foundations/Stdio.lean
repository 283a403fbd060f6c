import Mathlib.Data.List.TakeDrop
import Mathlib.Tactic.Common

/-!
# Streams of bytes

`fread` and `fwrite` of one item.  A stream that is read is the list of the bytes
left in it; a stream that is written keeps what was written, and every call may
take fewer bytes than it is given.
-/

namespace SelectiveRepeat.Foundations

/-- What `fread` returns, the bytes it puts into its buffer and the bytes left. -/
structure Fread where
  items : ℕ
  bytes : List UInt8
  rest : List UInt8

/-- `fread(p, size, 1, f)`. -/
def fread (size : ℕ) (input : List UInt8) : Fread where
  items := if 0 < size ∧ size ≤ input.length then 1 else 0
  bytes := input.take size
  rest := input.drop size

/-- A stream opened for writing, with the number of calls of `fwrite` so far. -/
structure Sink where
  content : List UInt8
  calls : ℕ

/-- A new file. -/
def Sink.new : Sink := ⟨[], 0⟩

/-- `fwrite(p, size, 1, f)`; `accepts call size` bytes are taken by a call. -/
def Sink.fwrite (accepts : ℕ → ℕ → ℕ) (sink : Sink) (bytes : List UInt8) : ℕ × Sink :=
  (if 0 < bytes.length ∧ bytes.length ≤ accepts sink.calls bytes.length then 1 else 0,
    ⟨sink.content ++ bytes.take (accepts sink.calls bytes.length), sink.calls + 1⟩)

/-- An item that is there is read whole. -/
theorem fread_append {size : ℕ} {front : List UInt8} (length : front.length = size)
    (positive : 0 < size) (rest : List UInt8) : fread size (front ++ rest) = ⟨1, front, rest⟩ := by
  subst length
  have inside : front.length ≤ (front ++ rest).length := by
    rw [List.length_append]
    exact Nat.le_add_right _ _
  rw [fread, if_pos ⟨positive, inside⟩, List.take_left, List.drop_left]

/-- At the end of the stream nothing is read. -/
@[simp]
theorem fread_nil (size : ℕ) : fread size [] = ⟨0, [], []⟩ := by
  have none_left : ¬ (0 < size ∧ size ≤ ([] : List UInt8).length) := by
    rw [List.length_nil]
    omega
  rw [fread, if_neg none_left, List.take_nil, List.drop_nil]

/-- A stream that takes every byte gets every byte. -/
theorem Sink.fwrite_whole {accepts : ℕ → ℕ → ℕ} (whole : ∀ call size, size ≤ accepts call size)
    (sink : Sink) {bytes : List UInt8} (nonempty : 0 < bytes.length) :
    sink.fwrite accepts bytes = (1, ⟨sink.content ++ bytes, sink.calls + 1⟩) := by
  rw [fwrite, if_pos ⟨nonempty, whole _ _⟩, List.take_of_length_le (whole _ _)]

end SelectiveRepeat.Foundations
