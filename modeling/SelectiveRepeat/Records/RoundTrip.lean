import SelectiveRepeat.Records.Stream

/-!
# Records survive a file

An entry is what a structure says to its readers: the type, the payload and the uuid,
if there is one.  Written records are the bytes of their entries one after another,
and reading these gives structures with the same entries, whatever the structure and
its blocks held before.
-/

namespace SelectiveRepeat.Records

open SelectiveRepeat.Foundations
open SelectiveRepeat.Packet (htons htons_htons uint16_of_leBytes uint32_of_leBytes)

/-- A record as its readers see it. -/
structure Entry where
  type : BitVec 15
  payload : List UInt8
  uuid : Option UInt32
  fits : payload.length < 2 ^ 16

namespace Entry

def length (entry : Entry) : UInt16 := UInt16.ofNat entry.payload.length

/-- The type in the low 15 bits, the flag above. -/
def header (entry : Entry) : UInt16 :=
  UInt16.ofNat (entry.type.toNat + if entry.uuid.isSome then 2 ^ 15 else 0)

/-- The bytes of the footer, if there is one. -/
def footer (entry : Entry) : List UInt8 :=
  match entry.uuid with
  | some uuid => leBytes 4 uuid.toNat
  | none => []

/-- The bytes of an entry in a file. -/
def bytes (entry : Entry) : List UInt8 :=
  leBytes 2 entry.header.toNat ++
    (leBytes 2 (htons entry.length).toNat ++ (entry.payload ++ entry.footer))

theorem header_toNat (entry : Entry) :
    entry.header.toNat = entry.type.toNat + if entry.uuid.isSome then 2 ^ 15 else 0 := by
  have type := entry.type.isLt
  refine UInt16.toNat_ofNat_of_lt' ?_
  simp only [UInt16.size]
  split
  · omega
  · omega

/-- The low 15 bits of the header are the type. -/
theorem type_of_header (entry : Entry) : BitVec.ofNat 15 entry.header.toNat = entry.type := by
  have type := entry.type.isLt
  apply BitVec.eq_of_toNat_eq
  rw [BitVec.toNat_ofNat, entry.header_toNat]
  split
  · omega
  · omega

/-- The bit above is the flag. -/
theorem flag_of_header (entry : Entry) :
    (0 : UInt16) < entry.header >>> 15 ↔ entry.uuid.isSome := by
  have type := entry.type.isLt
  rw [UInt16.lt_iff_toNat_lt, UInt16.toNat_shiftRight, entry.header_toNat,
    Nat.shiftRight_eq_div_pow]
  change 0 < _ / 2 ^ 15 ↔ _
  split
  · rename_i flag
    exact iff_of_true (by omega) flag
  · rename_i flag
    exact iff_of_false (by omega) flag

theorem length_bytes (entry : Entry) :
    entry.bytes.length = 4 + entry.payload.length + entry.footer.length := by
  simp only [bytes, List.length_append, length_leBytes]
  omega

example : bytes ⟨5, [1, 2], some 7, by decide⟩ = [5, 128, 0, 2, 1, 2, 7, 0, 0, 0] := by decide

theorem length_toNat (entry : Entry) : entry.length.toNat = entry.payload.length :=
  UInt16.toNat_ofNat_of_lt' entry.fits

theorem length_pos (entry : Entry) : 0 < entry.length ↔ 0 < entry.payload.length := by
  rw [UInt16.lt_iff_toNat_lt, length_toNat]
  rfl

end Entry

/-- The structure is a record with this entry.  A payload of length 0 has no block, and the
block may be longer than the payload. -/
structure Represents (entry : Entry) (r : Record) : Prop where
  type : recordGetType r = entry.type.toNat
  length : recordGetLength r = entry.payload.length
  payload : 0 < entry.payload.length → ∃ block, r.payload = some block ∧ entry.payload <+: block
  footer : recordHasFooter r = if entry.uuid.isSome then 1 else 0
  uuid : ∀ uuid, entry.uuid = some uuid → recordGetUuid r = uuid

namespace Represents

variable {entry : Entry} {r : Record}

theorem headerOf_eq (represents : Represents entry r) : headerOf r = entry.header := by
  have type := entry.type.isLt
  unfold headerOf Entry.header
  rw [represents.type, represents.footer]
  cases entry.uuid.isSome with
  | false => exact UInt16.zero_or
  | true =>
      change 32768 ||| UInt16.ofNat entry.type.toNat = UInt16.ofNat (entry.type.toNat + 2 ^ 15)
      apply UInt16.toNat_inj.mp
      rw [UInt16.toNat_or, UInt16.toNat_ofNat_of_lt' (by simp only [UInt16.size]; omega),
        UInt16.toNat_ofNat_of_lt' (by simp only [UInt16.size]; omega), Nat.add_comm]
      exact (Nat.two_pow_add_eq_or_of_lt type 1).symm

/-- The payload that is copied out is the entry's. -/
theorem getPayload (represents : Represents entry r) (nonempty : 0 < entry.payload.length) :
    recordGetPayload r entry.payload.length = entry.payload := by
  obtain ⟨block, held, front⟩ := represents.payload nonempty
  rw [recordGetPayload, represents.length, if_neg (Nat.lt_irrefl _), held, Option.getD_some,
    List.takeD_eq_take _ front.length_le]
  exact List.prefix_iff_eq_take.mp front |>.symm

section Writing

variable {accepts : ℕ → ℕ → ℕ} (whole : ∀ call size, size ≤ accepts call size)

include whole

theorem writePayload_eq (represents : Represents entry r) (wrote : ℕ) (f : Sink) : ∃ calls,
    writePayload accepts r wrote f =
      (wrote + entry.payload.length, ⟨f.content ++ entry.payload, calls⟩) := by
  have length : UInt16.ofNat (recordGetLength r) = entry.length := by
    rw [represents.length, Entry.length]
  unfold writePayload
  rw [length]
  by_cases nonempty : 0 < entry.payload.length
  · rw [if_pos (entry.length_pos.mpr nonempty), entry.length_toNat, represents.getPayload nonempty,
      Sink.fwrite_whole whole f nonempty]
    dsimp only
    rw [Nat.mul_one]
    exact ⟨_, rfl⟩
  · have empty := List.length_eq_zero_iff.mp (Nat.eq_zero_of_not_pos nonempty)
    rw [if_neg (entry.length_pos.not.mpr nonempty), empty, List.append_nil]
    exact ⟨_, rfl⟩

theorem writeFooter_eq (represents : Represents entry r) (wrote : ℕ) (f : Sink) : ∃ calls,
    writeFooter accepts r wrote f =
      (wrote + entry.footer.length, ⟨f.content ++ entry.footer, calls⟩) := by
  unfold writeFooter Entry.footer
  rw [represents.footer]
  cases held : entry.uuid with
  | none =>
      rw [List.append_nil]
      exact ⟨_, rfl⟩
  | some uuid =>
      have positive : 0 < (leBytes 4 uuid.toNat).length := by
        rw [length_leBytes]
        decide
      rw [represents.uuid uuid held, if_pos (by exact Nat.one_pos),
        Sink.fwrite_whole whole f positive, length_leBytes]
      exact ⟨_, rfl⟩

/-- A record that is written adds the bytes of its entry to the file. -/
theorem recordWrite_eq (represents : Represents entry r) {malloc : ℕ → Bool}
    (memory : ∀ n, malloc n = true) (f : Sink) : ∃ calls,
    recordWrite malloc accepts r f =
      ((entry.bytes.length : ℤ), ⟨f.content ++ entry.bytes, calls⟩) := by
  have positive : ∀ value, 0 < (leBytes 2 value).length := by
    intro value
    rw [length_leBytes]
    exact Nat.two_pos
  have length : UInt16.ofNat (recordGetLength r) = entry.length := by
    rw [represents.length, Entry.length]
  unfold recordWrite
  dsimp only
  rw [length, memory, if_neg (fun failed => Bool.noConfusion failed.2), represents.headerOf_eq,
    Sink.fwrite_whole whole f (positive _)]
  dsimp only
  rw [Sink.fwrite_whole whole _ (positive _)]
  dsimp only
  obtain ⟨calls, payload⟩ := represents.writePayload_eq whole (2 * 1 + 2 * 1)
    ⟨f.content ++ leBytes 2 entry.header.toNat ++ leBytes 2 (ntohs entry.length).toNat,
      f.calls + 1 + 1⟩
  rw [payload]
  dsimp only
  obtain ⟨calls, footer⟩ := represents.writeFooter_eq whole (2 * 1 + 2 * 1 + entry.payload.length)
    ⟨f.content ++ leBytes 2 entry.header.toNat ++ leBytes 2 (ntohs entry.length).toNat ++
      entry.payload, calls⟩
  rw [footer, entry.length_bytes]
  refine ⟨calls, ?_⟩
  simp only [Entry.bytes, ntohs, List.append_assoc]

end Writing

end Represents

/-! ## Reading -/

section Reading

variable {entry : Entry} {r : Record}

/-- The payload that is there is read into the structure. -/
theorem readPayload_eq {heap : ReadHeap} (memory : ∀ n, heap.payload n = true)
    (length : r.length = entry.length) (read : ℕ) (rest : List UInt8) : ∃ payload,
    readPayload heap entry.length r read (entry.payload ++ rest) =
        ({ r with payload := payload }, read + entry.payload.length, rest) ∧
      (0 < entry.payload.length → payload = some entry.payload) := by
  unfold readPayload
  by_cases nonempty : 0 < entry.payload.length
  · rw [if_pos (entry.length_pos.mpr nonempty), fread_append entry.length_toNat.symm
      (entry.length_toNat ▸ nonempty)]
    have block : entry.payload ++ heap.fresh.load entry.payload.length 0 = entry.payload :=
      List.append_nil _
    have stored : recordSetPayload heap.payload r entry.payload entry.payload.length =
        ({ r with payload := some entry.payload }, 0) := by
      rw [recordSetPayload, memory, if_pos rfl, List.take_length]
      change ({ r with payload := some entry.payload, length := entry.length }, 0) = _
      rw [← length]
    dsimp only
    rw [entry.length_toNat, Nat.sub_self, Nat.mul_one, block, stored]
    exact ⟨_, rfl, fun _ => rfl⟩
  · have empty := List.length_eq_zero_iff.mp (Nat.eq_zero_of_not_pos nonempty)
    rw [if_neg (entry.length_pos.not.mpr nonempty), empty]
    exact ⟨r.payload, rfl, fun some_ => absurd some_ (Nat.lt_irrefl 0)⟩

/-- The footer that is there is read into the structure. -/
theorem readFooter_eq {flag : UInt16} (set : 0 < flag ↔ entry.uuid.isSome) (clear : r.f = 0)
    (read : ℕ) (rest : List UInt8) : ∃ footer,
    readFooter flag r read (entry.footer ++ rest) =
        ({ r with f := if entry.uuid.isSome then 1 else 0, footer := footer },
          read + entry.footer.length, rest) ∧
      ∀ uuid, entry.uuid = some uuid → footer = uuid := by
  unfold readFooter Entry.footer
  cases held : entry.uuid with
  | none =>
      rw [held] at set
      rw [if_neg (set.not.mpr Bool.false_ne_true)]
      refine ⟨r.footer, ?_, fun uuid other => by cases other⟩
      rw [← clear]
      rfl
  | some uuid =>
      rw [held] at set
      rw [if_pos (set.mpr rfl), fread_append (length_leBytes 4 uuid.toNat) (by decide)]
      dsimp only
      rw [uint32_of_leBytes, length_leBytes]
      exact ⟨uuid, rfl, fun other same => Option.some.inj same⟩

/-- Reading the bytes of an entry makes the structure a record with this entry, whatever it
was before. -/
theorem recordRead_eq {heap : ReadHeap} (buffer : ∀ n, heap.buffer n = true)
    (memory : ∀ n, heap.payload n = true) (entry : Entry) (r : Record) (rest : List UInt8) :
    ∃ after, recordRead heap r (entry.bytes ++ rest) = (after, (entry.bytes.length : ℤ), rest) ∧
      Represents entry after := by
  have two : ∀ value, (leBytes 2 value).length = 2 := length_leBytes 2
  have length : htons (UInt16.ofNat (leValue (leBytes 2 (htons entry.length).toNat))) =
      entry.length := by
    rw [uint16_of_leBytes, htons_htons]
  have bytes : entry.bytes ++ rest = leBytes 2 entry.header.toNat ++
      (leBytes 2 (htons entry.length).toNat ++ (entry.payload ++ (entry.footer ++ rest))) := by
    rw [Entry.bytes, List.append_assoc, List.append_assoc, List.append_assoc]
  have type : BitVec.ofInt 15 (entry.header.toNat : ℤ) = entry.type := by
    rw [BitVec.ofInt_natCast, entry.type_of_header]
  unfold recordRead
  rw [bytes, fread_append (two _) Nat.two_pos]
  dsimp only
  rw [fread_append (two _) Nat.two_pos]
  dsimp only
  rw [length, buffer, if_neg (fun failed => Bool.noConfusion failed.2), uint16_of_leBytes,
    recordInit_eq, recordSetType, type]
  dsimp only
  obtain ⟨payload, stored, payloadHeld⟩ := readPayload_eq
    (r := ⟨entry.type, 0, entry.length, r.payload, r.footer⟩) memory
    (show _ = entry.length from rfl) (2 * 1 + 2 * 1) (entry.footer ++ rest)
  rw [stored]
  dsimp only
  obtain ⟨footer, read, footerHeld⟩ := readFooter_eq entry.flag_of_header
    (r := ⟨entry.type, 0, entry.length, payload, r.footer⟩) rfl
    (2 * 1 + 2 * 1 + entry.payload.length) rest
  rw [read]
  refine ⟨_, Prod.ext rfl (Prod.ext ?_ rfl), rfl, entry.length_toNat, fun nonempty =>
    ⟨entry.payload, payloadHeld nonempty, List.prefix_rfl⟩, ?_, footerHeld⟩
  · rw [entry.length_bytes]
  · dsimp only [recordHasFooter]
    split
    · rfl
    · rfl

end Reading

/-! ## Whole files -/

section Files

variable {malloc : ℕ → ℕ → Bool} {accepts : ℕ → ℕ → ℕ} {heaps : ℕ → ReadHeap}

/-- The file of some records is the bytes of their entries. -/
theorem writeAll_eq (memory : ∀ k n, malloc k n = true)
    (whole : ∀ call size, size ≤ accepts call size) {entries : List Entry}
    {records : List Record} (represent : List.Forall₂ Represents entries records) (k : ℕ)
    (f : Sink) : ∃ calls, writeAll malloc accepts k f records =
      (entries.map fun entry => (entry.bytes.length : ℤ),
        ⟨f.content ++ entries.flatMap Entry.bytes, calls⟩) := by
  induction represent generalizing k f with
  | nil =>
      rw [List.flatMap_nil, List.append_nil]
      exact ⟨_, rfl⟩
  | cons represents _ ih =>
      obtain ⟨calls, first⟩ := represents.recordWrite_eq whole (memory k) f
      obtain ⟨calls, rest⟩ := ih (k + 1) ⟨_, calls⟩
      refine ⟨calls, ?_⟩
      rw [writeAll, first]
      dsimp only
      rw [rest, List.flatMap_cons, List.append_assoc]
      rfl

/-- What the calls of `record_read` leave in the structure are records with the entries that
are in the file. -/
theorem readAll_eq (buffer : ∀ k n, (heaps k).buffer n = true)
    (memory : ∀ k n, (heaps k).payload n = true) (entries : List Entry) (k : ℕ) (r : Record) :
    List.Forall₂ (fun entry out => Represents entry out.1 ∧ out.2 = (entry.bytes.length : ℤ))
      entries (readAll heaps k r (entries.flatMap Entry.bytes)) := by
  induction entries generalizing k r with
  | nil =>
      rw [readAll, List.flatMap_nil, if_neg (fun again => again (recordRead_nil _ _))]
      exact .nil
  | cons entry rest ih =>
      obtain ⟨after, read, represents⟩ := recordRead_eq (buffer k) (memory k) entry r
        (rest.flatMap Entry.bytes)
      have positive : (entry.bytes.length : ℤ) ≠ 0 := by
        rw [entry.length_bytes]
        omega
      rw [readAll, List.flatMap_cons, read, if_pos positive]
      exact .cons ⟨represents, rfl⟩ (ih (k + 1) after)

end Files

/-- Records written to a new file and read back into one structure are the same records, every
call of `record_read` returns what the call of `record_write` returned, and the copy is the
same file. -/
theorem records_survive {entries : List Entry} {records : List Record}
    (represent : List.Forall₂ Represents entries records) {malloc copyMalloc : ℕ → ℕ → Bool}
    (memory : ∀ k n, malloc k n = true) (copyMemory : ∀ k n, copyMalloc k n = true)
    {accepts copyAccepts : ℕ → ℕ → ℕ} (whole : ∀ call size, size ≤ accepts call size)
    (copyWhole : ∀ call size, size ≤ copyAccepts call size) {heaps : ℕ → ReadHeap}
    (buffer : ∀ k n, (heaps k).buffer n = true) (payload : ∀ k n, (heaps k).payload n = true)
    (r : Record) :
    let (counts, file) := writeAll malloc accepts 0 .new records
    let read := readAll heaps 0 r file.content
    List.Forall₂ Represents entries (read.map Prod.fst) ∧ read.map Prod.snd = counts ∧
      databaseMain heaps copyMalloc copyAccepts r (some file.content) true = some file.content := by
  obtain ⟨calls, written⟩ := writeAll_eq memory whole represent 0 .new
  have content : Sink.new.content ++ entries.flatMap Entry.bytes =
      entries.flatMap Entry.bytes := rfl
  have entriesOf : ∀ r, List.Forall₂ Represents entries
      ((readAll heaps 0 r (entries.flatMap Entry.bytes)).map Prod.fst) := fun r =>
    List.forall₂_map_right_iff.mpr ((readAll_eq buffer payload entries 0 r).imp fun _ _ => And.left)
  rw [written, content]
  refine ⟨entriesOf r, ?_, ?_⟩
  · change (readAll heaps 0 r (entries.flatMap Entry.bytes)).map Prod.snd =
      entries.map fun entry => (entry.bytes.length : ℤ)
    rw [← List.forall₂_eq_eq_eq, List.forall₂_map_left_iff, List.forall₂_map_right_iff]
    exact (readAll_eq buffer payload entries 0 r).flip.imp fun _ _ => And.right
  · obtain ⟨calls, copied⟩ := writeAll_eq copyMemory copyWhole
      (entriesOf { r with type := 0, length := 0, f := 0 }) 0 .new
    dsimp only [databaseMain]
    rw [recordInit_eq, if_neg (fun failed => failed rfl), if_pos rfl, copyLoop_eq, copied, content]

/-- A record with payload and footer, and one with neither. -/
theorem records_survive_two :
    let records : List Record := [⟨5, 1, 2, some [1, 2], 7⟩, ⟨0, 0, 0, none, 0⟩]
    let file := (writeAll (fun _ _ => true) (fun _ size => size) 0 .new records).2
    databaseMain (fun _ => ⟨fun _ => true, fun _ => 0, fun _ => true⟩) (fun _ _ => true)
      (fun _ size => size) ⟨0, 0, 0, none, 0⟩ (some file.content) true = some file.content := by
  intro records file
  have full : Represents ⟨5, [1, 2], some 7, by decide⟩ ⟨5, 1, 2, some [1, 2], 7⟩ :=
    ⟨rfl, rfl, fun _ => ⟨_, rfl, List.prefix_rfl⟩, rfl, fun _ same => Option.some.inj same⟩
  have bare : Represents ⟨0, [], none, by decide⟩ ⟨0, 0, 0, none, 0⟩ :=
    ⟨rfl, rfl, fun nonempty => absurd nonempty (Nat.lt_irrefl 0), rfl, fun _ same => by cases same⟩
  exact (records_survive (.cons full (.cons bare .nil)) (fun _ _ => rfl) (fun _ _ => rfl)
    (fun _ _ => Nat.le_refl _) (fun _ _ => Nat.le_refl _) (fun _ _ => rfl) (fun _ _ => rfl)
    ⟨0, 0, 0, none, 0⟩).2.2

end SelectiveRepeat.Records
