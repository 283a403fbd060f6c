import SelectiveRepeat.Foundations.Crc32
import SelectiveRepeat.Packet.Codec

/-!
# The capacity of the encoder's buffer

`pkt_encode` is given the room in its buffer and documented to return `E_NOMEM` when
it is too small.  The function used by the programs never looks at the room; its
earlier version in `src/src` does, but counts a payload and its CRC for a packet
that has none.
-/

namespace SelectiveRepeat.Packet

open SelectiveRepeat.Foundations

variable (crc32 : List UInt8 → UInt32)

/-- `pkt_encode` of `src/src/packet_interface.c`: a test, and then the same statements. -/
def Checked.pktEncode (pkt : Pkt) (buf : Memory) (len : ℕ) : PktStatus × Memory × ℕ :=
  if len < 4 * 4 + (pktGetLength pkt).toNat then (.eNomem, buf, len)
  else SelectiveRepeat.Packet.pktEncode crc32 pkt buf len

/-- The bytes of an encoded packet: the header, and a payload with its CRC. -/
def Pkt.encodedSize (pkt : Pkt) : ℕ :=
  match pktGetPayload pkt with
  | none => 12
  | some _ => 16 + (pktGetLength pkt).toNat

/-- One call of an encoder on a buffer with room for `len` bytes: it succeeds and reports
what it wrote, or it refuses a packet that does not fit and leaves `*len` alone; in neither
case anything is written past the room. -/
structure CapacityRespected (encode : Pkt → Memory → ℕ → PktStatus × Memory × ℕ) (pkt : Pkt)
    (buf : Memory) (len : ℕ) : Prop where
  inside : ∀ index, len ≤ index → (encode pkt buf len).2.1 index = buf index
  result : ((encode pkt buf len).1 = .pktOk ∧ (encode pkt buf len).2.2 = pkt.encodedSize) ∨
    (len < pkt.encodedSize ∧ (encode pkt buf len).1 = .eNomem ∧ (encode pkt buf len).2.2 = len)

/-- An encoder respects the room, whatever is in the buffer before. -/
def RespectsCapacity (encode : Pkt → Memory → ℕ → PktStatus × Memory × ℕ) (pkt : Pkt)
    (len : ℕ) : Prop :=
  ∀ buf, CapacityRespected encode pkt buf len

variable {crc32} {pkt : Pkt} {len : ℕ}

theorem Pkt.length_wire_eq (crc32 : List UInt8 → UInt32) (pkt : Pkt) :
    (pkt.wire crc32).length = pkt.encodedSize := by
  rw [Pkt.length_wire, Pkt.encodedSize, pktGetPayload, pktGetLength]
  cases pkt.payload with
  | none => rfl
  | some payload => rfl

theorem respects_of_fits (fits : pkt.encodedSize ≤ len) :
    RespectsCapacity (pktEncode crc32) pkt len := by
  intro buf
  have size := pkt.length_wire_eq crc32
  constructor
  · intro index outside
    rw [pktEncode_eq]
    exact buf.store_outside 0 _ (Or.inr (by omega))
  · rw [pktEncode_eq]
    exact Or.inl ⟨rfl, size⟩

/-- A buffer whose bytes all differ from those of the packet is changed past its room. -/
theorem not_respects_of_small (small : len < pkt.encodedSize) :
    ¬ RespectsCapacity (pktEncode crc32) pkt len := by
  intro respects
  have inside : len < (pkt.wire crc32).length := by
    rw [pkt.length_wire_eq crc32]
    exact small
  have kept := (respects fun index => (pkt.wire crc32).getD index 0 + 1).inside len
    (Nat.le_refl len)
  rw [pktEncode_eq] at kept
  dsimp only at kept
  have written := Memory.store_inside (fun index => (pkt.wire crc32).getD index 0 + 1) 0
    (pkt.wire crc32) inside
  rw [Nat.zero_add, kept, UInt8.add_eq_left] at written
  cases written

/-- The tested room is enough for a packet of any shape. -/
theorem Pkt.encodedSize_le (pkt : Pkt) : pkt.encodedSize ≤ 4 * 4 + (pktGetLength pkt).toNat := by
  unfold Pkt.encodedSize
  cases pktGetPayload pkt with
  | none =>
      dsimp only
      omega
  | some payload => exact Nat.le_refl _

/-- With the test nothing is ever written past the room, and a refusal is right exactly when
the packet itself does not fit. -/
theorem checked_respects_iff : RespectsCapacity (Checked.pktEncode crc32) pkt len ↔
    (len < 4 * 4 + (pktGetLength pkt).toNat → len < pkt.encodedSize) := by
  constructor
  · intro respects small
    rcases (respects fun _ => 0).result with ⟨ok, -⟩ | ⟨right, -, -⟩
    · rw [Checked.pktEncode, if_pos small] at ok
      cases ok
    · exact right
  · intro right buf
    by_cases small : len < 4 * 4 + (pktGetLength pkt).toNat
    · constructor
      · intro index outside
        rw [Checked.pktEncode, if_pos small]
      · rw [Checked.pktEncode, if_pos small]
        exact Or.inr ⟨right small, rfl, rfl⟩
    · have fits := pkt.encodedSize_le.trans (Nat.le_of_not_lt small)
      have respects : RespectsCapacity (SelectiveRepeat.Packet.pktEncode crc32) pkt len :=
        respects_of_fits fits
      obtain ⟨inside, result⟩ := respects buf
      constructor
      · rw [Checked.pktEncode, if_neg small]
        exact inside
      · rw [Checked.pktEncode, if_neg small]
        exact result

/-- The encoder respects the room it is given exactly when the encoded packet fits; its earlier
version exactly when there is a payload, or not even a header fits, or the room is enough for a
payload too. -/
theorem respectsCapacity_iff (pkt : Pkt) (len : ℕ) :
    (RespectsCapacity (pktEncode crc32) pkt len ↔ pkt.encodedSize ≤ len) ∧
      (RespectsCapacity (Checked.pktEncode crc32) pkt len ↔
        pktGetPayload pkt ≠ none ∨ len < 12 ∨ 16 + (pktGetLength pkt).toNat ≤ len) := by
  refine ⟨⟨fun respects => ?_, respects_of_fits⟩, ?_⟩
  · by_contra small
    exact not_respects_of_small (Nat.lt_of_not_le small) respects
  · rw [checked_respects_iff, Pkt.encodedSize]
    cases pktGetPayload pkt with
    | none =>
        simp only [ne_eq, not_true_eq_false, false_or]
        omega
    | some payload => simp

/-- A packet with one byte of payload takes 17 bytes. -/
theorem respectsCapacity_short :
    ¬ RespectsCapacity (pktEncode zlibCrc32) ⟨31, 0, 1, 0, 1, 59, 0, some [7], 0⟩ 16 :=
  not_respects_of_small (by decide)

end SelectiveRepeat.Packet
