import SelectiveRepeat.Packet.Truncation

/-!
# Decoding into a used structure

The decoder writes the twelve header bytes into the structure it is given, and the
payload and its CRC only when more than twelve bytes were received.  What a
structure held of an earlier payload is still there after a datagram without one.
-/

namespace SelectiveRepeat.Packet

open SelectiveRepeat.Foundations

variable (crc32 : List UInt8 → UInt32)

/-- Two structures that read the same, but for the header CRC. -/
structure SameReading (first second : Pkt) : Prop where
  type : pktGetType first = pktGetType second
  tr : pktGetTr first = pktGetTr second
  window : pktGetWindow first = pktGetWindow second
  seqnum : pktGetSeqnum first = pktGetSeqnum second
  length : pktGetLength first = pktGetLength second
  timestamp : pktGetTimestamp first = pktGetTimestamp second
  payload : pktGetPayload first = pktGetPayload second
  crc2 : pktGetCrc2 first = pktGetCrc2 second

/-- The structure before the call shows only in the payload and its CRC, and only when no
payload was received. -/
theorem received_sameReading_iff (heap : Heap) (data : Memory) (len : ℕ) (first second : Pkt) :
    SameReading (received heap data len first) (received heap data len second) ↔
      12 < len ∨ (first.payload = second.payload ∧ first.crc2 = second.crc2) := by
  unfold received
  dsimp only
  by_cases long : 12 < len
  · rw [if_pos long, if_pos long]
    refine ⟨fun _ => Or.inl long, fun _ => ?_⟩
    exact ⟨rfl, rfl, rfl, rfl, rfl, rfl, rfl, rfl⟩
  · rw [if_neg long, if_neg long]
    constructor
    · intro same
      exact Or.inr ⟨same.payload, same.crc2⟩
    · rintro (longer | ⟨payload, crc2⟩)
      · exact absurd longer long
      · exact ⟨rfl, rfl, rfl, rfl, rfl, rfl, payload, crc2⟩

/-- What is read of a payload that was not received. -/
theorem received_bare (heap : Heap) (data : Memory) {len : ℕ} (short : len ≤ 12) (pkt : Pkt) :
    pktGetPayload (received heap data len pkt) = pkt.payload ∧
      pktGetCrc2 (received heap data len pkt) = pkt.crc2 := by
  unfold received
  dsimp only
  rw [if_neg (Nat.not_lt.mpr short)]
  exact ⟨rfl, rfl⟩

/-- An accepted datagram is read the same from two structures exactly when it has more than
a header, or the structures held the same payload and payload CRC before; and a bare header
reads as one without payload exactly when the structure held none. -/
theorem pktDecode_reuse_iff {heap : Heap} {data : Memory} {len : ℕ} {first second : Pkt}
    (ok : (pktDecode crc32 heap data len first).val.2 = .pktOk) :
    (SameReading (pktDecode crc32 heap data len first).val.1
        (pktDecode crc32 heap data len second).val.1 ↔
      12 < len ∨ (first.payload = second.payload ∧ first.crc2 = second.crc2)) ∧
    (len = 12 →
      (pktGetPayload (pktDecode crc32 heap data len first).val.1 = none ∧
          pktGetCrc2 (pktDecode crc32 heap data len first).val.1 = 0 ↔
        first.payload = none ∧ first.crc2 = 0)) := by
  have again : (pktDecode crc32 heap data len second).val.2 = .pktOk := by
    rw [pktDecode_ok_iff] at ok ⊢
    exact ok
  rw [pktDecode_packet crc32 heap len first ok, pktDecode_packet crc32 heap len second again]
  refine ⟨received_sameReading_iff heap data len first second, fun bare => ?_⟩
  obtain ⟨payload, crc2⟩ := received_bare heap data bare.le first
  rw [payload, crc2]

/-! ## A structure that was used for data before -/

/-- An ACK encoded without payload. -/
def bareAck : Pkt := ⟨31, 0, 2, 1, 0, 0, 0, none, 0⟩

/-- The memory with the ACK at its start. -/
def bareAckData : Memory := Memory.store (fun _ => 0) 0 (bareAck.wire zlibCrc32)

theorem bareAck_ok (old : Pkt) :
    (pktDecode zlibCrc32 Heap.plenty bareAckData 12 old).val.2 = .pktOk := by
  have holds : bareAckData.Holds 0 (bareAck.wire zlibCrc32) := Memory.holds_store _ _ _
  rw [pktDecode_ok_iff]
  refine ⟨headerAccepted_wire zlibCrc32 holds (by decide) (by decide) (by decide), ?_⟩
  intro long
  exact absurd long (Nat.lt_irrefl 12)

/-- The structure after a DATA packet of one byte was decoded into it. -/
def usedPkt : Pkt :=
  (pktDecode zlibCrc32 Heap.plenty (Memory.store (fun _ => 0) 0 (shortData.wire zlibCrc32))
    (shortData.wire zlibCrc32).length pktNew).val.1

theorem reuse_usedPkt :
    (SameReading (pktDecode zlibCrc32 Heap.plenty bareAckData 12 usedPkt).val.1
        (pktDecode zlibCrc32 Heap.plenty bareAckData 12 pktNew).val.1 ↔
      12 < 12 ∨ (usedPkt.payload = pktNew.payload ∧ usedPkt.crc2 = pktNew.crc2)) ∧
    (12 = 12 →
      (pktGetPayload (pktDecode zlibCrc32 Heap.plenty bareAckData 12 usedPkt).val.1 = none ∧
          pktGetCrc2 (pktDecode zlibCrc32 Heap.plenty bareAckData 12 usedPkt).val.1 = 0 ↔
        usedPkt.payload = none ∧ usedPkt.crc2 = 0)) :=
  pktDecode_reuse_iff zlibCrc32 (bareAck_ok usedPkt)

theorem usedPkt_payload : usedPkt.payload = some [7] := by
  have encodable : shortData.Encodable :=
    ⟨Or.inl rfl, fun _ => rfl, Or.inl ⟨[7], rfl, rfl, by decide, by decide⟩⟩
  have holds := Memory.holds_store (fun _ => 0) 0 (shortData.wire zlibCrc32)
  unfold usedPkt
  rw [pktDecode_wire zlibCrc32 holds encodable fun _ => ⟨rfl, rfl⟩]
  rfl

/-- The ACK is accepted, and reads as one with the byte of the DATA packet before it. -/
theorem reuse_stale :
    (pktDecode zlibCrc32 Heap.plenty bareAckData 12 usedPkt).val.2 = .pktOk ∧
      pktGetPayload (pktDecode zlibCrc32 Heap.plenty bareAckData 12 usedPkt).val.1 = some [7] ∧
      ¬ SameReading (pktDecode zlibCrc32 Heap.plenty bareAckData 12 usedPkt).val.1
        (pktDecode zlibCrc32 Heap.plenty bareAckData 12 pktNew).val.1 := by
  have payload := usedPkt_payload
  generalize usedPkt = used at payload ⊢
  refine ⟨bareAck_ok used, ?_, fun same => ?_⟩
  · rw [pktDecode_packet _ _ _ _ (bareAck_ok used), (received_bare _ _ (Nat.le_refl 12) used).1]
    exact payload
  · rw [pktDecode_packet _ _ _ _ (bareAck_ok used), pktDecode_packet _ _ _ _ (bareAck_ok pktNew),
      received_sameReading_iff] at same
    rcases same with longer | ⟨stale, -⟩
    · exact absurd longer (Nat.lt_irrefl 12)
    · rw [payload] at stale
      cases stale

end SelectiveRepeat.Packet
