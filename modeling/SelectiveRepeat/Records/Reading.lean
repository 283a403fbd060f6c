import SelectiveRepeat.Records.Stream

/-!
# What `record_read` reports

The result counts the items that were read whole, so a file that ends inside a field
has given bytes that are not counted.  The reads after it go on with the values of
those before, and the structure is returned as a record all the same.
-/

namespace SelectiveRepeat.Records

open SelectiveRepeat.Foundations
open SelectiveRepeat.Packet (htons)

/-! ## The header found at the start of a file -/

/-- The first block, with what is there of it. -/
def headerFound (f : List UInt8) : UInt16 := UInt16.ofNat (leValue (f.take 2))

/-- The length field, with what is there of it. -/
def lengthFound (f : List UInt8) : UInt16 := htons (UInt16.ofNat (leValue ((f.drop 2).take 2)))

/-- The bytes of the footer that the header announces. -/
def footerSize (f : List UInt8) : ℕ := if (0 : UInt16) < headerFound f >>> 15 then 4 else 0

/-- The bytes of the record that the header announces. -/
def recordSize (f : List UInt8) : ℕ := 4 + (lengthFound f).toNat + footerSize f

/-! ## The bytes behind a result -/

/-- The header, the payload and the footer of a record are these bytes. -/
structure ComesFrom (r : Record) (bytes : List UInt8) : Prop where
  size : bytes.length = 4 + recordGetLength r + if recordHasFooter r = 1 then 4 else 0
  type : recordGetType r = (headerFound bytes).toNat % 2 ^ 15
  flag : recordHasFooter r = (headerFound bytes).toNat / 2 ^ 15
  length : recordGetLength r = (lengthFound bytes).toNat
  payload : 0 < recordGetLength r →
    r.payload = some ((bytes.drop 4).take (recordGetLength r))
  uuid : recordHasFooter r = 1 →
    recordGetUuid r = UInt32.ofNat (leValue ((bytes.drop (4 + recordGetLength r)).take 4))

/-- The bytes that a call takes from the file. -/
def consumed (heap : ReadHeap) (r : Record) (f : List UInt8) : ℕ :=
  f.length - (recordRead heap r f).2.2.length

/-- The result is -1 or the number of bytes consumed, and when it is not negative the record
comes from these bytes. -/
structure ReportsConsumed (heap : ReadHeap) (r : Record) (f : List UInt8) : Prop where
  count : (recordRead heap r f).2.1 = -1 ∨ (recordRead heap r f).2.1 = consumed heap r f
  complete : 0 ≤ (recordRead heap r f).2.1 →
    ComesFrom (recordRead heap r f).1 (f.take (consumed heap r f))

/-! ## What each block does -/

/-- The bytes counted for an item of which `left` bytes are there. -/
def counted (size left : ℕ) : ℕ := if size ≤ left then size else 0

theorem counted_of_le {size left : ℕ} (whole : size ≤ left) : counted size left = size :=
  if_pos whole

theorem fread_counted (size : ℕ) (f : List UInt8) :
    size * (fread size f).items = counted size f.length := by
  unfold fread counted
  dsimp only
  by_cases positive : 0 < size
  · by_cases whole : size ≤ f.length
    · rw [if_pos ⟨positive, whole⟩, if_pos whole, Nat.mul_one]
    · rw [if_neg fun both => whole both.2, if_neg whole, Nat.mul_zero]
  · have zero : size = 0 := Nat.eq_zero_of_not_pos positive
    subst zero
    rw [Nat.zero_mul, if_pos (Nat.zero_le _)]

/-- What `record_set_payload` makes of the bytes read for a payload. -/
def blockFound (heap : ReadHeap) (length : ℕ) (f : List UInt8) : Option (List UInt8) :=
  if heap.payload length then
    some ((f.take length ++ heap.fresh.load (f.take length).length
      (length - (f.take length).length)).take length)
  else none

theorem blockFound_of_le {heap : ReadHeap} {length : ℕ} {f : List UInt8}
    (whole : length ≤ f.length) (memory : heap.payload length = true) :
    blockFound heap length f = some (f.take length) := by
  have size : (f.take length).length = length := List.length_take_of_le whole
  rw [blockFound, if_pos memory, List.take_left' size]

theorem memory_of_blockFound {heap : ReadHeap} {length : ℕ} {f block : List UInt8}
    (found : blockFound heap length f = some block) : heap.payload length = true := by
  by_contra full
  rw [blockFound, if_neg full] at found
  cases found

/-- The payload block. -/
theorem readPayload_spec (heap : ReadHeap) (length : UInt16) {r : Record} (same : r.length = length)
    (read : ℕ) (f : List UInt8) : ∃ payload,
    readPayload heap length r read f =
        ({ r with payload := payload }, read + counted length.toNat f.length, f.drop length.toNat) ∧
      (0 < length.toNat → payload = blockFound heap length.toNat f) := by
  unfold readPayload blockFound
  by_cases positive : 0 < length
  · rw [if_pos positive]
    dsimp only
    rw [fread_counted]
    unfold recordSetPayload
    cases heap.payload length.toNat with
    | true =>
        refine ⟨_, ?_, fun _ => rfl⟩
        rw [if_pos rfl, UInt16.ofNat_toNat, ← same]
        rfl
    | false =>
        refine ⟨none, ?_, fun _ => rfl⟩
        rw [if_neg Bool.false_ne_true]
        rfl
  · have zero : length.toNat = 0 := by
      rw [UInt16.lt_iff_toNat_lt] at positive
      exact Nat.eq_zero_of_not_pos positive
    rw [if_neg positive, zero, counted_of_le (Nat.zero_le _)]
    exact ⟨r.payload, rfl, fun some_ => absurd some_ (Nat.lt_irrefl 0)⟩

/-- The footer block. -/
theorem readFooter_spec (flag : UInt16) {r : Record} (clear : r.f = 0) (read : ℕ)
    (f : List UInt8) : ∃ footer,
    readFooter flag r read f =
        ({ r with f := if 0 < flag then 1 else 0, footer := footer },
          read + counted (if 0 < flag then 4 else 0) f.length,
          f.drop (if 0 < flag then 4 else 0)) ∧
      (0 < flag → footer = UInt32.ofNat (leValue (f.take 4))) ∧
      (¬ 0 < flag → footer = r.footer) := by
  unfold readFooter
  by_cases set : 0 < flag
  · rw [if_pos set, if_pos set, if_pos set]
    dsimp only
    rw [fread_counted]
    exact ⟨_, rfl, fun _ => rfl, fun other => absurd set other⟩
  · rw [if_neg set, if_neg set, if_neg set, counted_of_le (Nat.zero_le _), ← clear]
    exact ⟨r.footer, rfl, fun other => absurd other set, fun _ => rfl⟩

/-- A call that has its read buffer: the fields of the structure, the result and the rest. -/
theorem recordRead_spec {heap : ReadHeap} (r : Record) {f : List UInt8}
    (buffer : 0 < (lengthFound f).toNat → heap.buffer (lengthFound f).toNat = true) :
    ∃ payload footer, recordRead heap r f =
        (⟨BitVec.ofInt 15 (headerFound f).toNat, if (0 : UInt16) < headerFound f >>> 15 then 1 else 0,
            lengthFound f, payload, footer⟩,
          ((counted 2 f.length + counted 2 (f.length - 2) +
            counted (lengthFound f).toNat (f.length - 4) +
            counted (footerSize f) (f.length - 4 - (lengthFound f).toNat) : ℕ) : ℤ),
          f.drop (recordSize f)) ∧
      (0 < (lengthFound f).toNat →
        payload = blockFound heap (lengthFound f).toNat (f.drop 4)) ∧
      ((0 : UInt16) < headerFound f >>> 15 →
        footer = UInt32.ofNat (leValue ((f.drop (4 + (lengthFound f).toNat)).take 4))) ∧
      (¬ (0 : UInt16) < headerFound f >>> 15 → footer = r.footer) := by
  have granted : ¬ (0 < lengthFound f ∧ heap.buffer (lengthFound f).toNat = false) := by
    rintro ⟨positive, full⟩
    rw [buffer (UInt16.lt_iff_toNat_lt.mp positive)] at full
    cases full
  have blocks : recordRead heap r f =
      (let payload := readPayload heap (lengthFound f)
        ⟨BitVec.ofInt 15 (headerFound f).toNat, 0, lengthFound f, r.payload, r.footer⟩
        (2 * (fread 2 f).items + 2 * (fread 2 (f.drop 2)).items) ((f.drop 2).drop 2)
      let footer := readFooter (headerFound f >>> 15) payload.1 payload.2.1 payload.2.2
      (footer.1, (footer.2.1 : ℤ), footer.2.2)) := if_neg granted
  obtain ⟨payload, payloadRead, block⟩ := readPayload_spec heap (lengthFound f)
    (r := ⟨BitVec.ofInt 15 (headerFound f).toNat, 0, lengthFound f, r.payload, r.footer⟩) rfl
    (counted 2 f.length + counted 2 (f.length - 2)) (f.drop 4)
  obtain ⟨footer, footerRead, uuid, kept⟩ := readFooter_spec (headerFound f >>> 15)
    (r := ⟨BitVec.ofInt 15 (headerFound f).toNat, 0, lengthFound f, payload, r.footer⟩) rfl
    (counted 2 f.length + counted 2 (f.length - 2) + counted (lengthFound f).toNat (f.length - 4))
    (f.drop (4 + (lengthFound f).toNat))
  refine ⟨payload, footer, ?_, block, uuid, kept⟩
  rw [blocks, fread_counted, fread_counted, List.length_drop, List.drop_drop, payloadRead]
  dsimp only
  rw [List.length_drop, List.drop_drop, footerRead, List.length_drop, List.drop_drop,
    Nat.sub_add_eq]
  rfl

/-! ## The two directions -/

/-- The read buffer is refused, or the whole record is in the file and its payload gets a
block. -/
def ReadsWhole (heap : ReadHeap) (f : List UInt8) : Prop :=
  (0 < (lengthFound f).toNat ∧ heap.buffer (lengthFound f).toNat = false) ∨
    (recordSize f ≤ f.length ∧
      (0 < (lengthFound f).toNat → heap.payload (lengthFound f).toNat = true))

theorem headerFound_take {f : List UInt8} {size : ℕ} (covers : 4 ≤ size) :
    headerFound (f.take size) = headerFound f := by
  rw [headerFound, List.take_take, Nat.min_eq_left (by omega), headerFound]

theorem lengthFound_take {f : List UInt8} {size : ℕ} (covers : 4 ≤ size) :
    lengthFound (f.take size) = lengthFound f := by
  rw [lengthFound, List.drop_take, List.take_take, Nat.min_eq_left (by omega), lengthFound]

/-- The flag is the bit above the type. -/
theorem flag_eq (f : List UInt8) :
    (if (0 : UInt16) < headerFound f >>> 15 then 1 else 0 : BitVec 1).toNat =
      (headerFound f).toNat / 2 ^ 15 := by
  have bound := (headerFound f).toNat_lt
  have shifted : (headerFound f >>> 15).toNat = (headerFound f).toNat / 2 ^ 15 := by
    rw [UInt16.toNat_shiftRight, Nat.shiftRight_eq_div_pow]
    rfl
  have set : (0 : UInt16) < headerFound f >>> 15 ↔ 0 < (headerFound f).toNat / 2 ^ 15 := by
    rw [UInt16.lt_iff_toNat_lt, shifted]
    rfl
  by_cases flag : (0 : UInt16) < headerFound f >>> 15
  · have positive := set.mp flag
    rw [if_pos flag]
    change 1 = _
    omega
  · have zero := set.not.mp flag
    rw [if_neg flag]
    change 0 = _
    omega

/-- The fields that a call stores announce what the header announces. -/
theorem size_of_fields (f : List UInt8) (type : BitVec 15) (payload : Option (List UInt8))
    (footer : UInt32) :
    let r : Record :=
      ⟨type, if (0 : UInt16) < headerFound f >>> 15 then 1 else 0, lengthFound f, payload, footer⟩
    (4 + recordGetLength r + if recordHasFooter r = 1 then 4 else 0) = recordSize f := by
  unfold recordHasFooter recordSize footerSize
  by_cases flag : (0 : UInt16) < headerFound f >>> 15
  · rw [if_pos flag, if_pos flag]
    rfl
  · rw [if_neg flag, if_neg flag]
    rfl

/-- The fields that a call stores come from the bytes of the record, when they are all there. -/
theorem comesFrom_whole {f : List UInt8} (inside : recordSize f ≤ f.length)
    {payload : Option (List UInt8)} {footer : UInt32}
    (block : 0 < (lengthFound f).toNat →
      payload = some ((f.drop 4).take (lengthFound f).toNat))
    (uuid : (0 : UInt16) < headerFound f >>> 15 →
      footer = UInt32.ofNat (leValue ((f.drop (4 + (lengthFound f).toNat)).take 4))) :
    ComesFrom ⟨BitVec.ofInt 15 (headerFound f).toNat,
        if (0 : UInt16) < headerFound f >>> 15 then 1 else 0, lengthFound f, payload, footer⟩
      (f.take (recordSize f)) := by
  have size : recordSize f = 4 + (lengthFound f).toNat + footerSize f := rfl
  refine ⟨?_, ?_, ?_, ?_, ?_, ?_⟩
  · rw [List.length_take_of_le inside, size_of_fields]
  · rw [headerFound_take (by omega), recordGetType, BitVec.ofInt_natCast, BitVec.toNat_ofNat]
  · rw [headerFound_take (by omega), recordHasFooter, flag_eq]
  · rw [lengthFound_take (by omega)]
    rfl
  · intro positive
    change payload = some (((f.take (recordSize f)).drop 4).take (lengthFound f).toNat)
    rw [block positive, List.drop_take, List.take_take, Nat.min_eq_left (by omega)]
  · intro set
    have flag : (0 : UInt16) < headerFound f >>> 15 := by
      by_contra clear
      rw [recordHasFooter, if_neg clear] at set
      cases set
    have four : footerSize f = 4 := if_pos flag
    change footer = UInt32.ofNat (leValue
      (((f.take (recordSize f)).drop (4 + (lengthFound f).toNat)).take 4))
    rw [uuid flag, List.drop_take, List.take_take, Nat.min_eq_left (by omega)]

/-- A record that comes from the bytes consumed was in the file as a whole. -/
theorem whole_of_comesFrom {heap : ReadHeap} (r : Record) {f : List UInt8}
    (buffer : 0 < (lengthFound f).toNat → heap.buffer (lengthFound f).toNat = true)
    (reports : ReportsConsumed heap r f) : recordSize f ≤ f.length ∧
      (0 < (lengthFound f).toNat → heap.payload (lengthFound f).toNat = true) := by
  obtain ⟨payload, footer, result, block, -⟩ := recordRead_spec r buffer
  have complete := reports.complete
  rw [consumed, result, List.length_drop] at complete
  have record := complete (Int.natCast_nonneg _)
  constructor
  · have size := record.size
    rw [size_of_fields] at size
    exact size.symm.le.trans (List.length_take_le' _ _)
  · intro positive
    have held := record.payload positive
    dsimp only at held
    rw [block positive] at held
    exact memory_of_blockFound held

/-- A call whose read buffer is refused. -/
theorem recordRead_no_buffer {heap : ReadHeap} (r : Record) {f : List UInt8}
    (positive : 0 < (lengthFound f).toNat) (full : heap.buffer (lengthFound f).toNat = false) :
    recordRead heap r f =
      (⟨BitVec.ofInt 15 (headerFound f).toNat, 0, lengthFound f, r.payload, r.footer⟩, -1,
        (f.drop 2).drop 2) :=
  if_pos ⟨UInt16.lt_iff_toNat_lt.mpr positive, full⟩

/-- A record that was read whole comes from its bytes. -/
theorem reports_of_whole {heap : ReadHeap} (r : Record) {f : List UInt8}
    (buffer : 0 < (lengthFound f).toNat → heap.buffer (lengthFound f).toNat = true)
    (inside : recordSize f ≤ f.length)
    (memory : 0 < (lengthFound f).toNat → heap.payload (lengthFound f).toNat = true) :
    ReportsConsumed heap r f := by
  obtain ⟨payload, footer, result, block, uuid, -⟩ := recordRead_spec r buffer
  have size : recordSize f = 4 + (lengthFound f).toNat + footerSize f := rfl
  have taken : consumed heap r f = recordSize f := by
    rw [consumed, result, List.length_drop]
    omega
  have count : counted 2 f.length + counted 2 (f.length - 2) +
      counted (lengthFound f).toNat (f.length - 4) +
      counted (footerSize f) (f.length - 4 - (lengthFound f).toNat) = recordSize f := by
    rw [counted_of_le (by omega), counted_of_le (by omega), counted_of_le (by omega),
      counted_of_le (by omega), size]
  rw [count] at result
  constructor
  · rw [taken, result]
    exact Or.inr rfl
  · intro _
    rw [taken, result]
    refine comesFrom_whole inside (fun positive => ?_) uuid
    rw [block positive, blockFound_of_le (by rw [List.length_drop]; omega) (memory positive)]

/-- `record_read` reports what it consumed and returns a record of these bytes, exactly when
the read buffer is refused, or the whole record is in the file and its payload gets a block. -/
theorem reportsConsumed_iff (heap : ReadHeap) (r : Record) (f : List UInt8) :
    ReportsConsumed heap r f ↔ ReadsWhole heap f := by
  unfold ReadsWhole
  by_cases refused : 0 < (lengthFound f).toNat ∧ heap.buffer (lengthFound f).toNat = false
  · have failed : (recordRead heap r f).2.1 = -1 := by
      rw [recordRead_no_buffer r refused.1 refused.2]
    refine ⟨fun _ => Or.inl refused, fun _ => ⟨Or.inl failed, fun positive => ?_⟩⟩
    rw [failed] at positive
    exact absurd positive (by decide)
  · have buffer : 0 < (lengthFound f).toNat → heap.buffer (lengthFound f).toNat = true := by
      intro positive
      by_contra full
      exact refused ⟨positive, Bool.eq_false_iff.mpr full⟩
    constructor
    · intro reports
      exact Or.inr (whole_of_comesFrom r buffer reports)
    · rintro (failed | ⟨inside, memory⟩)
      · exact absurd failed refused
      · exact reports_of_whole r buffer inside memory

/-- A heap that is never exhausted, with blocks of zeros. -/
def ReadHeap.plenty : ReadHeap := ⟨fun _ => true, fun _ => 0, fun _ => true⟩

/-- A record of two bytes of payload whose file ends after the first: 4 is returned, 5 bytes
are consumed, and the structure is a record of two bytes. -/
theorem recordRead_cut (r : Record) :
    (recordRead .plenty r [0, 0, 0, 2, 7]).2.1 = 4 ∧
      consumed .plenty r [0, 0, 0, 2, 7] = 5 ∧
      recordGetPayload (recordRead .plenty r [0, 0, 0, 2, 7]).1 2 = [7, 0] := by
  exact ⟨by rfl, by rfl, by rfl⟩

theorem recordRead_cut_unreported :
    ¬ ReportsConsumed .plenty ⟨0, 0, 0, none, 0⟩ [0, 0, 0, 2, 7] := by
  intro reports
  obtain ⟨result, size, -⟩ := recordRead_cut ⟨0, 0, 0, none, 0⟩
  have count := reports.count
  rw [result, size] at count
  exact absurd count (by decide)

end SelectiveRepeat.Records
