import SelectiveRepeat.Foundations.Crc32
import SelectiveRepeat.Packet.Acceptance

/-!
# Decoding an encoded packet

The datagram of a packet is found in memory, the header checks pass because the
packet is of a valid shape, and the decoded packet is the encoded one with its
two CRC fields filled in.
-/

namespace SelectiveRepeat.Packet

open SelectiveRepeat.Foundations

variable (crc32 : List UInt8 → UInt32)

/-- The packets of the wire format: a valid type, TR only on data, and a payload of
`length` bytes that only an acknowledgement may lack. -/
structure Pkt.Encodable (pkt : Pkt) : Prop where
  type : pkt.type = 1 ∨ pkt.type = 2 ∨ pkt.type = 3
  tr : pkt.tr = 1 → pkt.type = 1
  payload : (∃ payload, pkt.payload = some payload ∧ payload.length = pkt.length.toNat ∧
      1 ≤ payload.length ∧ payload.length ≤ 512) ∨
    (pkt.payload = none ∧ pkt.type ≠ 1)

/-- A packet as the other side holds it: the CRC fields are those of the datagram. -/
def Pkt.onWire (pkt : Pkt) : Pkt :=
  { pkt with
    crc1 := htonl (crc32 pkt.covered)
    crc2 := match pkt.payload with
      | none => 0
      | some payload => htonl (crc32 (pkt.block payload)) }

/-- Copying an encoded header gives back the header fields. -/
theorem Pkt.copyHeader_covered (pkt other : Pkt) (crc1 : UInt32) :
    other.copyHeader (pkt.covered ++ leBytes 4 crc1.toNat) =
      { pkt with length := htons pkt.length, crc1 := crc1, payload := other.payload,
                 crc2 := other.crc2 } := by
  have flags : (pkt.covered ++ leBytes 4 crc1.toNat).getD 0 0 = pkt.flags := by
    simp [Pkt.covered]
  have seqnum : (pkt.covered ++ leBytes 4 crc1.toNat).getD 1 0 = pkt.seqnum := by
    simp [Pkt.covered]
  have length : ((pkt.covered ++ leBytes 4 crc1.toNat).drop 2).take 2 =
      leBytes 2 (htons pkt.length).toNat := by
    simp [Pkt.covered, leBytes]
  have timestamp : ((pkt.covered ++ leBytes 4 crc1.toNat).drop 4).take 4 =
      leBytes 4 pkt.timestamp.toNat := by
    simp [Pkt.covered, leBytes]
  have crc : ((pkt.covered ++ leBytes 4 crc1.toNat).drop 8).take 4 = leBytes 4 crc1.toNat := by
    simp [Pkt.covered, leBytes]
  rw [Pkt.copyHeader, flags, seqnum, length, timestamp, crc, pkt.window_of_flags, pkt.tr_of_flags,
    pkt.type_of_flags, uint16_of_leBytes, uint32_of_leBytes, uint32_of_leBytes]

/-- The datagram of a packet determines its number and its timestamp. -/
theorem Pkt.stamp_of_wire {first second : Pkt} (same : first.wire crc32 = second.wire crc32) :
    first.seqnum = second.seqnum ∧ first.timestamp = second.timestamp := by
  have covered : first.covered = second.covered := by
    rw [Pkt.wire, Pkt.wire, List.append_assoc, List.append_assoc] at same
    exact (List.append_inj same (by rw [Pkt.length_covered, Pkt.length_covered])).1
  have header := first.copyHeader_covered pktNew 0
  rw [covered, second.copyHeader_covered pktNew 0] at header
  exact ⟨(congrArg Pkt.seqnum header).symm, (congrArg Pkt.timestamp header).symm⟩

section Wire

variable {pkt : Pkt} {data : Memory} (holds : data.Holds 0 (pkt.wire crc32))

include holds

theorem load_header_of_wire :
    data.load 0 12 = pkt.covered ++ leBytes 4 (htonl (crc32 pkt.covered)).toNat := by
  have header := (Memory.holds_append.mp holds).1
  simpa [Memory.Holds] using header

theorem headerOf_wire : headerOf data =
    { pkt with length := htons pkt.length, crc1 := htonl (crc32 pkt.covered), payload := none,
               crc2 := 0 } := by
  rw [headerOf, load_header_of_wire crc32 holds, Pkt.copyHeader_covered]
  rfl

theorem lengthOf_wire : lengthOf data = pkt.length := by
  rw [lengthOf, headerOf_wire crc32 holds]
  exact htons_htons pkt.length

theorem load_covered_of_wire : data.load 0 8 = pkt.covered := by
  have covered := (Memory.holds_append.mp (Memory.holds_append.mp holds).1).1
  simpa [Memory.Holds] using covered

/-- The payload and its CRC as they lie in the datagram. -/
theorem load_body_of_wire {payload : List UInt8} (held : pkt.payload = some payload) :
    data.load 12 pkt.length.toNat = pkt.block payload ∧
      data.load (12 + pkt.length.toNat) 4 = leBytes 4 (htonl (crc32 (pkt.block payload))).toNat := by
  have body := (Memory.holds_append.mp holds).2
  rw [Pkt.body, held] at body
  have parts := Memory.holds_append.mp body
  simpa [Memory.Holds] using parts

/-- The header tests on the datagram are tests on the packet. -/
theorem headerAccepted_wire (type : pkt.type ≠ 0) (tr : pkt.tr ≠ 0 → pkt.type = 1)
    (length : pkt.type = 1 → 1 ≤ pkt.length.toNat ∧ pkt.length.toNat ≤ 512) :
    HeaderAccepted crc32 data := by
  refine ⟨?_, ?_, ?_, ?_⟩
  · rw [headerOf_wire crc32 holds]
    exact tr
  · rw [headerOf_wire crc32 holds]
    exact type
  · rw [headerOf_wire crc32 holds, lengthOf_wire crc32 holds]
    exact length
  · rw [headerOf_wire crc32 holds, load_covered_of_wire crc32 holds]

theorem payloadAccepted_wire {payload : List UInt8} (held : pkt.payload = some payload) :
    PayloadAccepted crc32 data := by
  obtain ⟨block, trailer⟩ := load_body_of_wire crc32 holds held
  rw [PayloadAccepted, lengthOf_wire crc32 holds, block, trailer, uint32_of_leBytes]

/-- Decoding the datagram of a packet into a fresh structure. -/
theorem pktDecode_wire (encodable : pkt.Encodable) {heap : Heap}
    (block : pkt.payload.isSome → heap.malloc pkt.length.toNat = true ∧
      heap.calloc pkt.length.toNat = true) :
    (pktDecode crc32 heap data (pkt.wire crc32).length pktNew).val =
      (pkt.onWire crc32, .pktOk) := by
  have shape : pkt.type = 1 → 1 ≤ pkt.length.toNat ∧ pkt.length.toNat ≤ 512 := by
    intro isData
    rcases encodable.payload with ⟨payload, -, same, low, high⟩ | ⟨-, other⟩
    · omega
    · exact absurd isData other
  have trData : pkt.tr ≠ 0 → pkt.type = 1 := by
    intro set
    have table : ∀ tr : BitVec 1, tr ≠ 0 → tr = 1 := by decide
    exact encodable.tr (table pkt.tr set)
  have header := headerAccepted_wire crc32 holds ((type_ne_zero_iff _).mpr encodable.type) trData shape
  have ok : (pktDecode crc32 heap data (pkt.wire crc32).length pktNew).val.2 = .pktOk := by
    rw [pktDecode_ok_iff]
    refine ⟨header, ?_⟩
    intro long
    rw [lengthOf_wire crc32 holds]
    cases held : pkt.payload with
    | none =>
        rw [Pkt.length_wire, held] at long
        simp at long
    | some payload =>
        exact ⟨(block (by simp [held])).1, payloadAccepted_wire crc32 holds held⟩
  refine Prod.ext ?_ ok
  rw [pktDecode_packet crc32 heap _ _ ok, received, load_header_of_wire crc32 holds,
    Pkt.copyHeader_covered, Pkt.length_wire, lengthOf_wire crc32 holds]
  cases held : pkt.payload with
  | none =>
      simp only [Option.isSome_none, Bool.false_eq_true, if_false, Nat.lt_irrefl, Pkt.onWire, held]
      rfl
  | some payload =>
      obtain ⟨blockBytes, trailer⟩ := load_body_of_wire crc32 holds held
      have present := block (by simp [held])
      have exactly : payload.length = pkt.length.toNat := by
        rcases encodable.payload with ⟨other, same, length, -, -⟩ | ⟨absent, -⟩
        · rw [held, Option.some.injEq] at same
          rw [same]
          exact length
        · simp [held] at absent
      have long : 12 < 16 + pkt.length.toNat := by omega
      simp only [Option.isSome_some, if_true, long, present.2, blockBytes, trailer,
        uint32_of_leBytes, Pkt.onWire, held, Pkt.block_eq exactly]

/-- The datagram of a DATA packet of length 0 is refused. -/
theorem pktDecode_wire_bare (data_ : pkt.type = 1) (bare : pkt.length = 0) (heap : Heap) (len : ℕ)
    (other : Pkt) : (pktDecode crc32 heap data len other).val.2 ≠ .pktOk := by
  refine (pktDecode_of_refused crc32 heap len other fun accepted => ?_).1
  have length := accepted.length (by rw [headerOf_wire crc32 holds]; exact data_)
  rw [lengthOf_wire crc32 holds, bare] at length
  exact absurd length.1 (by decide)

end Wire

/-- Decoding exactly the bytes that the encoder produced gives back every field. -/
theorem pktDecode_pktEncode (pkt : Pkt) (encodable : pkt.Encodable) (heap : Heap)
    (block : pkt.payload.isSome → heap.malloc pkt.length.toNat = true ∧
      heap.calloc pkt.length.toNat = true)
    (buf : Memory) (capacity : ℕ) (data : Memory)
    (copied : data.load 0 (pktEncode crc32 pkt buf capacity).2.2 =
      (pktEncode crc32 pkt buf capacity).2.1.load 0 (pktEncode crc32 pkt buf capacity).2.2) :
    (pktEncode crc32 pkt buf capacity).1 = .pktOk ∧
      ∃ decoded, (pktDecode crc32 heap data (pktEncode crc32 pkt buf capacity).2.2 pktNew).val =
          (decoded, .pktOk) ∧
        decoded.window = pkt.window ∧ decoded.tr = pkt.tr ∧ decoded.type = pkt.type ∧
        decoded.seqnum = pkt.seqnum ∧ decoded.length = pkt.length ∧
        decoded.timestamp = pkt.timestamp ∧ decoded.payload = pkt.payload := by
  rw [pktEncode_eq] at copied ⊢
  have holds : data.Holds 0 (pkt.wire crc32) := copied.trans (Memory.holds_store _ _ _)
  refine ⟨rfl, pkt.onWire crc32, pktDecode_wire crc32 holds encodable block, ?_⟩
  exact ⟨rfl, rfl, rfl, rfl, rfl, rfl, rfl⟩

/-- The round trip of a DATA packet of three bytes. -/
theorem pktDecode_pktEncode_three :
    let pkt : Pkt := ⟨31, 0, 1, 255, 3, 59, 0, some [1, 2, 3], 0⟩
    ∃ decoded, (pktDecode zlibCrc32 Heap.plenty (pktEncode zlibCrc32 pkt (fun _ => 0) 528).2.1
        (pktEncode zlibCrc32 pkt (fun _ => 0) 528).2.2 pktNew).val = (decoded, .pktOk) ∧
      decoded.payload = some [1, 2, 3] := by
  intro pkt
  have encodable : pkt.Encodable :=
    ⟨Or.inl rfl, fun _ => rfl, Or.inl ⟨[1, 2, 3], rfl, rfl, by decide, by decide⟩⟩
  obtain ⟨-, decoded, result, -, -, -, -, -, -, payload⟩ :=
    pktDecode_pktEncode zlibCrc32 pkt encodable Heap.plenty (fun _ => ⟨rfl, rfl⟩) (fun _ => 0) 528
      (pktEncode zlibCrc32 pkt (fun _ => 0) 528).2.1 rfl
  exact ⟨decoded, result, payload⟩

end SelectiveRepeat.Packet
