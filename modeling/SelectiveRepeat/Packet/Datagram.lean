import SelectiveRepeat.Foundations.Crc32
import SelectiveRepeat.Packet.Acceptance

/-!
# Received sizes

The decoder is given the number of bytes received but compares it only with 12.
This module says which datagrams are well formed, exactly when the decoder
accepts those and no others, and exactly when it stays inside the datagram.
`past` is whatever lies in memory after the received bytes.
-/

namespace SelectiveRepeat.Packet

open SelectiveRepeat.Foundations

variable (crc32 : List UInt8 → UInt32)

/-- The received bytes at the start of a memory that is clear elsewhere. -/
def bytesOf (datagram : List UInt8) : Memory := Memory.store (fun _ => 0) 0 datagram

/-- A datagram whose size agrees with its header: header alone, or header, payload
and payload CRC.  Data that was not truncated has its payload. -/
structure WellFormed (datagram : List UInt8) : Prop where
  long : 12 ≤ datagram.length
  header : HeaderAccepted crc32 (bytesOf datagram)
  size : (datagram.length = 12 + (lengthOf (bytesOf datagram)).toNat + 4 ∧
      PayloadAccepted crc32 (bytesOf datagram)) ∨
    (datagram.length = 12 ∧
      ¬ ((headerOf (bytesOf datagram)).type = 1 ∧ (headerOf (bytesOf datagram)).tr = 0))

/-! ## Memories that start with the same bytes -/

/-- Bytes inside the datagram do not depend on what follows it. -/
theorem load_store_inside (past : Memory) (datagram : List UInt8) {offset count : ℕ}
    (inside : offset + count ≤ datagram.length) :
    (past.store 0 datagram).load offset count = (bytesOf datagram).load offset count := by
  apply Memory.load_congr
  intro index bound
  have here : offset + index < datagram.length := by omega
  have left := past.store_inside 0 datagram here
  have right := Memory.store_inside (fun _ => 0) 0 datagram here
  rw [Nat.zero_add] at left right
  rw [bytesOf, left, right]

section Congruence

variable {first second : Memory} (same : first.load 0 12 = second.load 0 12)

include same

theorem headerOf_congr : headerOf first = headerOf second := by
  rw [headerOf, headerOf, same]

theorem lengthOf_congr : lengthOf first = lengthOf second := by
  rw [lengthOf, lengthOf, headerOf_congr same]

theorem headerAccepted_congr : HeaderAccepted crc32 first ↔ HeaderAccepted crc32 second := by
  have covered : first.load 0 8 = second.load 0 8 := by
    rw [show (12 : ℕ) = 8 + 4 from rfl, Memory.load_add, Memory.load_add] at same
    exact (List.append_inj same (by simp)).1
  constructor
  · rintro ⟨tr, type, length, crc1⟩
    rw [headerOf_congr same] at tr type length crc1
    rw [lengthOf_congr same] at length
    rw [covered] at crc1
    exact ⟨tr, type, length, crc1⟩
  · rintro ⟨tr, type, length, crc1⟩
    rw [← headerOf_congr same] at tr type length crc1
    rw [← lengthOf_congr same] at length
    rw [← covered] at crc1
    exact ⟨tr, type, length, crc1⟩

theorem payloadAccepted_congr
    (body : first.load 12 ((lengthOf first).toNat + 4) = second.load 12 ((lengthOf first).toNat + 4)) :
    PayloadAccepted crc32 first ↔ PayloadAccepted crc32 second := by
  rw [Memory.load_add, Memory.load_add] at body
  obtain ⟨payload, trailer⟩ := List.append_inj body (by simp)
  rw [PayloadAccepted, PayloadAccepted, ← lengthOf_congr same, payload, trailer]

end Congruence

/-! ## Which datagrams are accepted -/

/-- The received size does not let the decoder accept what is not well formed: the
header is refused, or the size is one of the two consistent ones, or the bytes
taken for the payload fail their CRC. -/
def SizeHarmless (past : Memory) (datagram : List UInt8) : Prop :=
  ¬ HeaderAccepted crc32 (past.store 0 datagram) ∨
    datagram.length = 12 + (lengthOf (past.store 0 datagram)).toNat + 4 ∨
    (datagram.length = 12 ∧ ¬ ((headerOf (past.store 0 datagram)).type = 1 ∧
      (headerOf (past.store 0 datagram)).tr = 0)) ∨
    (12 < datagram.length ∧ ¬ PayloadAccepted crc32 (past.store 0 datagram))

/-- Well-formedness read off the memory that holds the datagram. -/
theorem wellFormed_iff (past : Memory) (datagram : List UInt8) :
    WellFormed crc32 datagram ↔ HeaderAccepted crc32 (past.store 0 datagram) ∧
      ((datagram.length = 12 + (lengthOf (past.store 0 datagram)).toNat + 4 ∧
          PayloadAccepted crc32 (past.store 0 datagram)) ∨
        (datagram.length = 12 ∧ ¬ ((headerOf (past.store 0 datagram)).type = 1 ∧
          (headerOf (past.store 0 datagram)).tr = 0))) := by
  by_cases long : 12 ≤ datagram.length
  · have same : (past.store 0 datagram).load 0 12 = (bytesOf datagram).load 0 12 :=
      load_store_inside past datagram (by omega)
    have payload : datagram.length = 12 + (lengthOf (past.store 0 datagram)).toNat + 4 →
        (PayloadAccepted crc32 (past.store 0 datagram) ↔
          PayloadAccepted crc32 (bytesOf datagram)) := by
      intro size
      exact payloadAccepted_congr crc32 same (load_store_inside past datagram (by omega))
    constructor
    · rintro ⟨-, header, size⟩
      rw [← headerOf_congr same, ← lengthOf_congr same] at size
      refine ⟨(headerAccepted_congr crc32 same).mpr header, ?_⟩
      rcases size with ⟨size, body⟩ | alone
      · exact Or.inl ⟨size, (payload size).mpr body⟩
      · exact Or.inr alone
    · rintro ⟨header, size⟩
      refine ⟨long, (headerAccepted_congr crc32 same).mp header, ?_⟩
      rw [← headerOf_congr same, ← lengthOf_congr same]
      rcases size with ⟨size, body⟩ | alone
      · exact Or.inl ⟨size, (payload size).mp body⟩
      · exact Or.inr alone
  · constructor
    · intro wellFormed
      exact absurd wellFormed.long long
    · rintro ⟨-, ⟨size, -⟩ | ⟨size, -⟩⟩ <;> omega

/-- The decoder accepts exactly well-formed datagrams on exactly the inputs whose
size is harmless. -/
theorem pktDecode_wellFormed_iff (heap : Heap) (past : Memory) (datagram : List UInt8)
    (block : heap.malloc (lengthOf (past.store 0 datagram)).toNat = true) :
    ((pktDecode crc32 heap (past.store 0 datagram) datagram.length pktNew).val.2 = .pktOk ↔
        WellFormed crc32 datagram) ↔
      SizeHarmless crc32 past datagram := by
  rw [pktDecode_ok_iff, wellFormed_iff crc32 past, SizeHarmless, block]
  by_cases header : HeaderAccepted crc32 (past.store 0 datagram)
  · by_cases body : PayloadAccepted crc32 (past.store 0 datagram)
    · simp only [header, body, true_and, and_true, implies_true, not_true_eq_false, and_false,
        or_false, false_or, true_iff]
    · simp only [header, body, true_and, and_false, imp_false, false_or, not_true_eq_false,
        not_false_eq_true, and_true]
      constructor
      · intro agree
        by_cases long : 12 < datagram.length
        · exact Or.inr (Or.inr long)
        · exact Or.inr (Or.inl (agree.mp long))
      · rintro (size | alone | long)
        · exact ⟨fun short => by omega, fun alone => by omega⟩
        · exact ⟨fun _ => alone, fun _ => by omega⟩
        · exact ⟨fun short => absurd long short, fun alone => by omega⟩
  · simp [header]

/-- The datagram of a DATA packet with the one byte 7. -/
def oneByte : List UInt8 := [64, 0, 0, 1, 0, 0, 0, 0, 113, 223, 52, 52, 7, 76, 102, 122, 46]

/-- Received whole, its size is consistent. -/
theorem pktDecode_wellFormed_whole :
    (pktDecode zlibCrc32 Heap.plenty (Memory.store (fun _ => 0) 0 oneByte) oneByte.length
        pktNew).val.2 = .pktOk ↔ WellFormed zlibCrc32 oneByte := by
  have size : oneByte.length =
      12 + (lengthOf (Memory.store (fun _ => 0) 0 oneByte)).toNat + 4 := by decide
  exact (pktDecode_wellFormed_iff zlibCrc32 Heap.plenty (fun _ => 0) oneByte rfl).mpr
    (Or.inr (Or.inl size))

/-- Its header alone is accepted although the payload is missing. -/
theorem pktDecode_accepts_missing_payload :
    ¬ ((pktDecode zlibCrc32 Heap.plenty (Memory.store (fun _ => 0) 0 (oneByte.take 12))
        (oneByte.take 12).length pktNew).val.2 = .pktOk ↔
      WellFormed zlibCrc32 (oneByte.take 12)) := by
  have accepted : (pktDecode zlibCrc32 Heap.plenty (Memory.store (fun _ => 0) 0 (oneByte.take 12))
      (oneByte.take 12).length pktNew).val.2 = .pktOk := by decide +kernel
  have present : (headerOf (bytesOf (oneByte.take 12))).type = 1 ∧
      (headerOf (bytesOf (oneByte.take 12))).tr = 0 := by decide
  intro agree
  rcases (agree.mp accepted).size with ⟨size, -⟩ | ⟨-, absent⟩
  · have short : (oneByte.take 12).length = 12 := rfl
    omega
  · exact absent present

/-! ## Which bytes are read -/

/-- The datagram holds its header and, where a payload is looked for, that payload. -/
def ReadsFit (heap : Heap) (past : Memory) (datagram : List UInt8) : Prop :=
  12 ≤ datagram.length ∧
    (HeaderAccepted crc32 (past.store 0 datagram) → 12 < datagram.length →
      heap.malloc (lengthOf (past.store 0 datagram)).toNat = true →
      12 + (lengthOf (past.store 0 datagram)).toNat + 4 ≤ datagram.length)

/-- The decoder stays inside the datagram on exactly the inputs that hold what it
reads. -/
theorem pktDecode_reads_iff (heap : Heap) (past : Memory) (datagram : List UInt8) (pkt : Pkt) :
    (∀ index ∈ (pktDecode crc32 heap (past.store 0 datagram) datagram.length pkt).reads,
        index < datagram.length) ↔
      ReadsFit crc32 heap past datagram := by
  by_cases header : HeaderAccepted crc32 (past.store 0 datagram)
  · by_cases long : 12 < datagram.length
    · cases block : heap.malloc (lengthOf (past.store 0 datagram)).toNat with
      | false =>
          simp only [(pktDecode_of_no_block crc32 heap _ pkt header long block).2, ReadsFit, block,
            Bool.false_eq_true, false_implies, implies_true, and_true]
          constructor
          · intro _
            omega
          · intro _ index bound
            omega
      | true =>
          simp only [(pktDecode_of_payload crc32 heap _ pkt header long block).2.2, ReadsFit, header,
            long, block, true_implies]
          constructor
          · intro inside
            have last := inside (15 + (lengthOf (past.store 0 datagram)).toNat) (by omega)
            omega
          · rintro ⟨-, fits⟩ index bound
            omega
    · simp only [(pktDecode_of_header crc32 heap datagram.length pkt header (by omega)).2, ReadsFit,
        long, false_implies, implies_true, and_true]
      constructor
      · intro inside
        have last := inside 11 (by omega)
        omega
      · intro _ index bound
        omega
  · simp only [(pktDecode_of_refused crc32 heap _ pkt header).2, ReadsFit, header, false_implies,
      and_true]
    constructor
    · intro inside
      have last := inside 11 (by omega)
      omega
    · intro _ index bound
      omega

/-- A DATA packet of one byte cut after thirteen bytes: its payload CRC is read from
past the end. -/
theorem pktDecode_reads_past_end :
    ¬ ∀ index ∈ (pktDecode zlibCrc32 Heap.plenty (Memory.store (fun _ => 0) 0 (oneByte.take 13))
        (oneByte.take 13).length pktNew).reads,
      index < (oneByte.take 13).length := by
  decide +kernel

end SelectiveRepeat.Packet
