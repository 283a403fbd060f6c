import SelectiveRepeat.Foundations.Memory
import SelectiveRepeat.Foundations.Stdio
import SelectiveRepeat.Records.Basic

/-!
# Records in a file

`record_write`, `record_read` and the copy loop of `database.c`.  The type and the
flag share the first two bytes, the length follows in network byte order, then the
payload and the footer, if there is one.
-/

namespace SelectiveRepeat.Records

open SelectiveRepeat.Foundations
open SelectiveRepeat.Packet (htons)

/-- `ntohs`, which swaps the bytes as `htons` does. -/
def ntohs (value : UInt16) : UInt16 := htons value

/-! ## Writing -/

/-- The type and the flag in one block. -/
def headerOf (r : Record) : UInt16 :=
  let type := UInt16.ofNat (recordGetType r)
  let footer := UInt8.ofNat (recordHasFooter r)
  let header := 0 ||| footer.toUInt16
  let header := header <<< 15
  header ||| type

/-- The payload, if there is one. -/
def writePayload (accepts : ℕ → ℕ → ℕ) (r : Record) (wrote : ℕ) (f : Sink) : ℕ × Sink :=
  let length := UInt16.ofNat (recordGetLength r)
  if 0 < length then
    let (items, f) := f.fwrite accepts (recordGetPayload r length.toNat)
    (wrote + length.toNat * items, f)
  else (wrote, f)

/-- The footer, if there is one. -/
def writeFooter (accepts : ℕ → ℕ → ℕ) (r : Record) (wrote : ℕ) (f : Sink) : ℕ × Sink :=
  if 0 < recordHasFooter r then
    let (items, f) := f.fwrite accepts (leBytes 4 (recordGetUuid r).toNat)
    (wrote + 4 * items, f)
  else (wrote, f)

/-- The result is -1, or the number of bytes in the items written. -/
def recordWrite (malloc : ℕ → Bool) (accepts : ℕ → ℕ → ℕ) (r : Record) (f : Sink) : ℤ × Sink :=
  let length := UInt16.ofNat (recordGetLength r)
  let lengthNtw := ntohs length
  if 0 < length ∧ malloc length.toNat = false then (-1, f)
  else
    let (items, f) := f.fwrite accepts (leBytes 2 (headerOf r).toNat)
    let wrote := 2 * items
    let (items, f) := f.fwrite accepts (leBytes 2 lengthNtw.toNat)
    let wrote := wrote + 2 * items
    let (wrote, f) := writePayload accepts r wrote f
    let (wrote, f) := writeFooter accepts r wrote f
    (wrote, f)

/-! ## Reading -/

/-- The two allocations of `record_read`, and what the first block holds. -/
structure ReadHeap where
  /-- `malloc` of the buffer. -/
  buffer : ℕ → Bool
  /-- The memory of a new block. -/
  fresh : Memory
  /-- `malloc` in `record_set_payload`. -/
  payload : ℕ → Bool

/-- The payload, if its length is not 0; its buffer is allocated. -/
def readPayload (heap : ReadHeap) (length : UInt16) (r : Record) (read : ℕ) (f : List UInt8) :
    Record × ℕ × List UInt8 :=
  if 0 < length then
    let item := fread length.toNat f
    let buf := item.bytes ++
      heap.fresh.load item.bytes.length (length.toNat - item.bytes.length)
    -- the status of `record_set_payload` is dropped
    ((recordSetPayload heap.payload r buf length.toNat).1, read + length.toNat * item.items,
      item.rest)
  else (r, read, f)

/-- The footer, if the flag is set. -/
def readFooter (flag : UInt16) (r : Record) (read : ℕ) (f : List UInt8) :
    Record × ℕ × List UInt8 :=
  if 0 < flag then
    let item := fread 4 f
    (recordSetUuid r (UInt32.ofNat (leValue item.bytes)), read + 4 * item.items, item.rest)
  else (r, read, f)

/-- The structure, the result and what is left of the file. -/
def recordRead (heap : ReadHeap) (r : Record) (f : List UInt8) : Record × ℤ × List UInt8 :=
  let r := (recordInit r).1
  let item := fread 2 f
  let header := UInt16.ofNat (leValue item.bytes)
  let read := 2 * item.items
  let item := fread 2 item.rest
  let lengthNtw := UInt16.ofNat (leValue item.bytes)
  let read := read + 2 * item.items
  let length := htons lengthNtw
  let r := recordSetType r header.toNat
  let header := header >>> 15
  let r := { r with length := length }
  if 0 < length ∧ heap.buffer length.toNat = false then (r, -1, item.rest)
  else
    let (r, read, f) := readPayload heap length r read item.rest
    let (r, read, f) := readFooter header r read f
    (r, read, f)

/-- What is left of the file after the header. -/
theorem recordRead_rest (heap : ReadHeap) (r : Record) (f : List UInt8) :
    (recordRead heap r f).2.2.length ≤ f.length - 2 := by
  have payload : ∀ length r read (f : List UInt8),
      (readPayload heap length r read f).2.2.length ≤ f.length := by
    intro length r read f
    unfold readPayload
    split
    · exact (List.drop_sublist _ f).length_le
    · exact Nat.le_refl _
  have footer : ∀ flag r read (f : List UInt8),
      (readFooter flag r read f).2.2.length ≤ f.length := by
    intro flag r read f
    unfold readFooter
    split
    · exact (List.drop_sublist _ f).length_le
    · exact Nat.le_refl _
  have header : (fread 2 (fread 2 f).rest).rest.length ≤ f.length - 2 := by
    unfold fread
    rw [List.length_drop, List.length_drop]
    exact Nat.sub_le _ _
  unfold recordRead
  dsimp only
  split
  · exact header
  · exact (footer _ _ _ _).trans ((payload _ _ _ _).trans header)

/-- At the end of the file nothing is read. -/
theorem recordRead_nil (heap : ReadHeap) (r : Record) : (recordRead heap r []).2.1 = 0 := by
  unfold recordRead
  simp only [fread_nil]
  rfl

/-- A call that does not return 0 consumes some bytes. -/
theorem recordRead_lt {heap : ReadHeap} {r : Record} {f : List UInt8}
    (again : (recordRead heap r f).2.1 ≠ 0) : (recordRead heap r f).2.2.length < f.length := by
  have rest := recordRead_rest heap r f
  have some_left : f.length ≠ 0 := by
    intro none_left
    rw [List.length_eq_zero_iff] at none_left
    rw [none_left] at again
    exact again (recordRead_nil heap r)
  omega

/-! ## Whole files -/

section Loops

variable (heaps : ℕ → ReadHeap) (malloc : ℕ → ℕ → Bool) (accepts : ℕ → ℕ → ℕ)

/-- `record_write` called for one record after another. -/
def writeAll (k : ℕ) (f : Sink) : List Record → List ℤ × Sink
  | [] => ([], f)
  | r :: rest =>
      let (wrote, f) := recordWrite (malloc k) accepts r f
      let (counts, f) := writeAll (k + 1) f rest
      (wrote :: counts, f)

/-- `record_read` called on one structure until it returns 0: the structure and the result
after each call. -/
def readAll (k : ℕ) (r : Record) (f : List UInt8) : List (Record × ℤ) :=
  if (recordRead (heaps k) r f).2.1 ≠ 0 then
    ((recordRead (heaps k) r f).1, (recordRead (heaps k) r f).2.1) ::
      readAll (k + 1) (recordRead (heaps k) r f).1 (recordRead (heaps k) r f).2.2
  else []
termination_by f.length
decreasing_by exact recordRead_lt ‹_›

/-- The loop of `main` in `database.c`. -/
def copyLoop (k : ℕ) (r : Record) (read : List UInt8) (write : Sink) : Sink :=
  if (recordRead (heaps k) r read).2.1 ≠ 0 then
    copyLoop (k + 1) (recordRead (heaps k) r read).1 (recordRead (heaps k) r read).2.2
      (recordWrite (malloc k) accepts (recordRead (heaps k) r read).1 write).2
  else write
termination_by read.length
decreasing_by exact recordRead_lt ‹_›

/-- `main` of `database.c` on an uninitialised structure: the content of `output_lo` at the
end, if the two files can be opened. -/
def databaseMain (newRecord : Record) (output : Option (List UInt8)) (outputLo : Bool) :
    Option (List UInt8) :=
  let (newRecord, failed) := recordInit newRecord
  if failed ≠ 0 then none
  else
    match output with
    | none => none
    | some read =>
        if outputLo then some (copyLoop heaps malloc accepts 0 newRecord read .new).content
        else none

/-- The copy loop writes what the calls of `record_read` leave in the structure, whatever is in
the file. -/
theorem copyLoop_eq (k : ℕ) (r : Record) (read : List UInt8) (write : Sink) :
    copyLoop heaps malloc accepts k r read write =
      (writeAll malloc accepts k write ((readAll heaps k r read).map Prod.fst)).2 := by
  fun_induction readAll heaps k r read generalizing write with
  | case1 k r read again ih =>
      rw [copyLoop, if_pos again, ih]
      rfl
  | case2 k r read ends =>
      rw [copyLoop, if_neg ends]
      rfl

end Loops

end SelectiveRepeat.Records
