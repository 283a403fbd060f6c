import SelectiveRepeat.Packet.Corruption

/-!
# Truncated packets

A packet cut after its header in transit has its TR bit set.  The header CRC is
documented with TR taken as 0, but both the encoder and the decoder compute it over
the bytes as they are, so the bit counts as an altered byte.
-/

namespace SelectiveRepeat.Packet

open SelectiveRepeat.Foundations

variable {crc32 : List UInt8 → UInt32}

/-! ## The TR bit in the header -/

/-- Bit 5 of byte 0. -/
theorem Pkt.flags_tr (pkt : Pkt) : Pkt.flags { pkt with tr := 1 } = pkt.flags ||| 32 := by
  have table : ∀ (window : BitVec 5) (tr : BitVec 1) (type : BitVec 2),
      UInt8.ofNat (window.toNat + 32 * (1 : BitVec 1).toNat + 64 * type.toNat) =
        UInt8.ofNat (window.toNat + 32 * tr.toNat + 64 * type.toNat) ||| 32 := by
    decide
  exact table pkt.window pkt.tr pkt.type

/-- Two packets that differ only in TR have different first bytes. -/
theorem Pkt.flags_ne_of_tr {first second : Pkt} (differ : first.tr ≠ second.tr) :
    first.flags ≠ second.flags := by
  intro same
  have tr := first.tr_of_flags
  rw [same, second.tr_of_flags] at tr
  exact differ tr.symm

/-- The bytes under the header CRC then differ in one place. -/
theorem Pkt.covered_oneApart {first second : Pkt} (differ : first.tr ≠ second.tr)
    (only : second = { first with tr := second.tr }) : OneApart first.covered second.covered := by
  have apart := Pkt.flags_ne_of_tr differ
  rw [only] at apart ⊢
  exact .head _ apart

/-! ## A datagram cut to its header -/

/-- A DATA packet that can be truncated: TR is not set and there is a payload. -/
structure Pkt.Truncatable (pkt : Pkt) : Prop where
  type : pkt.type = 1
  tr : pkt.tr = 0
  payload : ∃ payload, pkt.payload = some payload ∧ payload.length = pkt.length.toNat ∧
    1 ≤ payload.length ∧ payload.length ≤ 512

/-- The first twelve bytes of the encoder's output, with bit 5 of byte 0 set. -/
def truncated (crc32 : List UInt8 → UInt32) (pkt : Pkt) (buf : Memory) (capacity : ℕ) :
    List UInt8 :=
  let header := (pktEncode crc32 pkt buf capacity).2.1.load 0 12
  header.set 0 (header.getD 0 0 ||| 32)

/-- The bytes of the header CRC in the encoder's output. -/
def headerCrc (crc32 : List UInt8 → UInt32) (pkt : Pkt) (buf : Memory) (capacity : ℕ) :
    List UInt8 :=
  (pktEncode crc32 pkt buf capacity).2.1.load 8 4

/-- The datagram is decoded to the header of a truncated packet. -/
structure RecognisedAs (pkt : Pkt) (result : Pkt × PktStatus) : Prop where
  status : result.2 = .pktOk
  tr : pktGetTr result.1 = 1
  type : pktGetType result.1 = PType.ptypeData.value
  window : pktGetWindow result.1 = pktGetWindow pkt
  seqnum : pktGetSeqnum result.1 = pktGetSeqnum pkt
  length : pktGetLength result.1 = pktGetLength pkt
  timestamp : pktGetTimestamp result.1 = pktGetTimestamp pkt
  payload : pktGetPayload result.1 = none

theorem truncated_eq (pkt : Pkt) (buf : Memory) (capacity : ℕ) :
    truncated crc32 pkt buf capacity =
      Pkt.covered { pkt with tr := 1 } ++ leBytes 4 (htonl (crc32 pkt.covered)).toNat := by
  have header := load_header_of_wire crc32 (buf.holds_store 0 (pkt.wire crc32))
  unfold truncated
  rw [pktEncode_eq]
  dsimp only
  rw [header, Pkt.covered, Pkt.covered, Pkt.flags_tr]
  rfl

theorem headerCrc_eq (pkt : Pkt) (buf : Memory) (capacity : ℕ) :
    headerCrc crc32 pkt buf capacity = leBytes 4 (htonl (crc32 pkt.covered)).toNat := by
  have header := load_header_of_wire crc32 (buf.holds_store 0 (pkt.wire crc32))
  unfold headerCrc
  rw [pktEncode_eq]
  dsimp only
  rw [show (12 : ℕ) = 8 + 4 from rfl, Memory.load_add] at header
  exact (List.append_inj header (by simp)).2

/-- The datagram of a truncated packet is refused. -/
theorem pktDecode_truncated (detects : DetectsOneByte crc32) {pkt : Pkt} (tr : pkt.tr = 0)
    (buf past : Memory) (capacity len : ℕ) (heap : Heap) (old : Pkt) :
    (pktDecode crc32 heap (past.store 0 (truncated crc32 pkt buf capacity)) len old).val.2 ≠
      .pktOk := by
  have found := past.holds_store 0 (truncated crc32 pkt buf capacity)
  have size : (truncated crc32 pkt buf capacity).length = 12 := by
    rw [truncated_eq]
    simp
  have differ : pkt.tr ≠ 1 := by
    rw [tr]
    decide
  have apart : OneApart pkt.covered (Pkt.covered { pkt with tr := 1 }) :=
    Pkt.covered_oneApart differ rfl
  refine (pktDecode_of_refused crc32 heap len old (header_altered detects pkt ?_)).1
  rw [Memory.Holds, size] at found
  rw [found, truncated_eq]
  exact apart.append_right _

/-- Packets that differ only in TR have different header CRCs. -/
theorem headerCrc_ne (detects : DetectsOneByte crc32) {first second : Pkt}
    (differ : first.tr ≠ second.tr) (only : second = { first with tr := second.tr })
    (buf other : Memory) (capacity room : ℕ) :
    headerCrc crc32 first buf capacity ≠ headerCrc crc32 second other room := by
  intro same
  rw [headerCrc_eq, headerCrc_eq] at same
  have values := congrArg (fun bytes => UInt32.ofNat (leValue bytes)) same
  rw [uint32_of_leBytes, uint32_of_leBytes] at values
  exact detects _ _ (Pkt.covered_oneApart differ only) (htonl_injective values)

/-- No truncated packet is recognised, and no two packets that differ only in TR get the same
header CRC. -/
theorem truncation_never_recognised {pkt : Pkt} (truncatable : pkt.Truncatable)
    (buf past : Memory) (capacity : ℕ) (heap : Heap) (old : Pkt) :
    ¬ RecognisedAs pkt (pktDecode zlibCrc32 heap
        (past.store 0 (truncated zlibCrc32 pkt buf capacity)) 12 old).val ∧
      ∀ first second : Pkt, first.tr ≠ second.tr → second = { first with tr := second.tr } →
        ∀ buf other capacity room,
          headerCrc zlibCrc32 first buf capacity ≠ headerCrc zlibCrc32 second other room := by
  constructor
  · intro recognised
    exact pktDecode_truncated zlibCrc32_detectsOneByte truncatable.tr buf past capacity 12 heap old
      recognised.status
  · intro first second differ only buf other capacity room
    exact headerCrc_ne zlibCrc32_detectsOneByte differ only buf other capacity room

/-- A DATA packet of one byte. -/
def shortData : Pkt := ⟨31, 0, 1, 0, 1, 59, 0, some [7], 0⟩

theorem shortData_truncatable : shortData.Truncatable :=
  ⟨rfl, rfl, [7], rfl, rfl, by decide, by decide⟩

theorem truncation_shortData :
    ¬ RecognisedAs shortData (pktDecode zlibCrc32 Heap.plenty (Memory.store (fun _ => 0) 0
      (truncated zlibCrc32 shortData (fun _ => 0) 528)) 12 pktNew).val :=
  (truncation_never_recognised shortData_truncatable (fun _ => 0) (fun _ => 0) 528 Heap.plenty
    pktNew).1

/-- The datagram of this packet cut to its header. -/
theorem truncated_refused : shortData.Truncatable ∧
    ¬ RecognisedAs shortData (pktDecode zlibCrc32 Heap.plenty (Memory.store (fun _ => 0) 0
      (truncated zlibCrc32 shortData (fun _ => 0) 528)) 12 pktNew).val := by
  refine ⟨shortData_truncatable, fun recognised => ?_⟩
  exact pktDecode_truncated zlibCrc32_detectsOneByte rfl _ _ _ _ _ _ recognised.status

end SelectiveRepeat.Packet
