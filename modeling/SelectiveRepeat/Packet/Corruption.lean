import SelectiveRepeat.Packet.Datagram
import SelectiveRepeat.Packet.RoundTrip

/-!
# Corruption of one byte

An encoded packet is two blocks, each followed by its CRC.  An altered byte lies in
one of them, or in the CRC stored behind it, and the check of that block fails; the
other fields it may have changed are never relied on before that check.
-/

namespace SelectiveRepeat.Packet

open SelectiveRepeat.Foundations

variable {crc32 : List UInt8 → UInt32}

/-- The packets whose datagrams are considered: data with its payload, or an
acknowledgement without one. -/
def Pkt.Guarded (pkt : Pkt) : Prop :=
  (pkt.type = 1 ∧ ∃ payload, pkt.payload = some payload ∧ payload.length = pkt.length.toNat ∧
    1 ≤ payload.length ∧ payload.length ≤ 512) ∨
  ((pkt.type = 2 ∨ pkt.type = 3) ∧ pkt.payload = none)

/-! ## One block and its CRC -/

theorem leBytes_trailer {trailer : List UInt8} (four : trailer.length = 4) :
    leBytes 4 (UInt32.ofNat (leValue trailer)).toNat = trailer := by
  have bound := leValue_lt trailer
  have bytes := leBytes_leValue trailer
  rw [four] at bound bytes
  rw [UInt32.toNat_ofNat_of_lt' bound, bytes]

/-- A block does not pass its check after one byte of it, or of the CRC stored behind
it, was changed. -/
theorem block_altered (detects : DetectsOneByte crc32) {bytes altered trailer : List UInt8}
    (same : altered.length = bytes.length) (four : trailer.length = 4)
    (apart : OneApart (bytes ++ leBytes 4 (htonl (crc32 bytes)).toNat) (altered ++ trailer)) :
    htonl (crc32 altered) ≠ UInt32.ofNat (leValue trailer) := by
  intro agree
  have stored : leBytes 4 (htonl (crc32 altered)).toNat = trailer := by
    rw [agree, leBytes_trailer four]
  rcases apart.append_cases with ⟨changed, here, split⟩ | ⟨changed, there, split⟩
  · obtain ⟨rfl, trailing⟩ := List.append_inj split (same.trans here.length_eq)
    rw [trailing, uint32_of_leBytes] at agree
    exact detects _ _ here (htonl_injective agree).symm
  · obtain ⟨rfl, rfl⟩ := List.append_inj split same
    exact there.ne stored

/-! ## The two blocks of a datagram -/

theorem headerOf_crc1 (data : Memory) :
    (headerOf data).crc1 = UInt32.ofNat (leValue (data.load 8 4)) := by
  have split : data.load 0 12 = data.load 0 8 ++ data.load 8 4 := Memory.load_add data 0 8 4
  have trailer : ((data.load 0 12).drop 8).take 4 = data.load 8 4 := by
    rw [split, List.drop_left' (Memory.length_load data 0 8),
      List.take_of_length_le (Memory.length_load data 8 4).le]
  rw [headerOf, Pkt.copyHeader, trailer]

/-- A change in the first twelve bytes is found by the header check. -/
theorem header_altered (detects : DetectsOneByte crc32) (pkt : Pkt) {data : Memory}
    (apart : OneApart (pkt.covered ++ leBytes 4 (htonl (crc32 pkt.covered)).toNat)
      (data.load 0 12)) : ¬ HeaderAccepted crc32 data := by
  intro accepted
  have crc1 := accepted.crc1
  rw [show (12 : ℕ) = 8 + 4 from rfl, Memory.load_add] at apart
  rw [headerOf_crc1] at crc1
  exact block_altered detects (by simp) (by simp) apart crc1

/-- A change behind the first twelve bytes is found by the payload check. -/
theorem payload_altered (detects : DetectsOneByte crc32) {pkt : Pkt} {data : Memory}
    (length : lengthOf data = pkt.length) {payload : List UInt8}
    (apart : OneApart (pkt.block payload ++ leBytes 4 (htonl (crc32 (pkt.block payload))).toNat)
      (data.load 12 (pkt.length.toNat + 4))) : ¬ PayloadAccepted crc32 data := by
  intro accepted
  rw [Memory.load_add] at apart
  rw [PayloadAccepted, length] at accepted
  exact block_altered detects (by simp) (by simp) apart accepted

/-- The datagram of a packet with one byte changed is refused, whatever lies behind it
and whatever packet it is decoded into. -/
theorem pktDecode_of_altered (detects : DetectsOneByte crc32) {pkt : Pkt} (guarded : pkt.Guarded)
    {altered : List UInt8} (apart : OneApart (pkt.wire crc32) altered) (past : Memory)
    (heap : Heap) (other : Pkt) :
    (pktDecode crc32 heap (past.store 0 altered) altered.length other).val.2 ≠ .pktOk := by
  intro ok
  obtain ⟨accepted, body⟩ := (pktDecode_ok_iff crc32 heap _ other).mp ok
  have size := apart.length_eq
  have twelve : (pkt.covered ++ leBytes 4 (htonl (crc32 pkt.covered)).toNat).length = 12 := by simp
  rcases apart.append_cases with ⟨changed, first, split⟩ | ⟨changed, second, split⟩
  · subst split
    have found := (Memory.holds_append.mp (past.holds_store 0 (changed ++ pkt.body crc32))).1
    rw [Memory.Holds, ← first.length_eq, twelve] at found
    exact header_altered detects pkt (found.symm ▸ first) accepted
  · subst split
    have parts := Memory.holds_append.mp (past.holds_store 0
      (pkt.covered ++ leBytes 4 (htonl (crc32 pkt.covered)).toNat ++ changed))
    obtain ⟨header, found⟩ := parts
    have sent := (Memory.holds_append.mp (past.holds_store 0 (pkt.wire crc32))).1
    have length : lengthOf (past.store 0
        (pkt.covered ++ leBytes 4 (htonl (crc32 pkt.covered)).toNat ++ changed)) = pkt.length := by
      rw [← lengthOf_wire crc32 (past.holds_store 0 (pkt.wire crc32))]
      refine lengthOf_congr ?_
      rw [Memory.Holds, twelve] at header sent
      rw [header, sent]
    rcases guarded with ⟨-, payload, held, -, -, -⟩ | ⟨-, none⟩
    · rw [Pkt.length_wire, held, Option.isSome_some, if_pos rfl] at size
      rw [Pkt.body, held] at second
      rw [Memory.Holds, twelve, ← second.length_eq, List.length_append, Pkt.length_block,
        length_leBytes, Nat.zero_add] at found
      exact payload_altered detects length (found.symm ▸ second) (body (by omega)).2
    · rw [Pkt.body, none] at second
      cases second

end SelectiveRepeat.Packet
