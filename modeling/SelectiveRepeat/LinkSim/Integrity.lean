import SelectiveRepeat.LinkSim.Passage
import SelectiveRepeat.Packet.Corruption
import SelectiveRepeat.Transport.Acknowledgement

/-!
# Relayed datagrams at the decoder

The simulator cuts a datagram after 524 bytes and may invert one byte.  A cut takes away
bytes of the payload CRC only, so what the decoder still accepts is the packet that was
sent.
-/

namespace SelectiveRepeat.LinkSim

open SelectiveRepeat.Foundations SelectiveRepeat.Packet SelectiveRepeat.Transport

variable (link : Link)

/-- What the simulator may send on for a datagram. -/
def Relays (sent bytes : Datagram) : Prop :=
  bytes = sent.take maxPktLen ∨ link.errRate ≠ 0 ∧ OneApart (sent.take maxPktLen) bytes

/-- An inverted byte is another byte. -/
theorem corrupt_apart (buf : PktBuf) (rand : ℕ) : OneApart buf.bytes (corrupt buf rand).bytes := by
  have inside : rand % buf.bytes.length < buf.bytes.length :=
    Nat.mod_lt _ ((by decide : 0 < minPktLen).trans_le buf.least)
  refine OneApart.of_set inside fun same => ?_
  rw [List.getD_eq_getElem?_getD, List.getElem?_eq_getElem inside] at same
  have numbers := congrArg UInt8.toNat same
  rw [UInt8.toNat_not] at numbers
  simp only [Option.getD_some, UInt8.size] at numbers
  omega

variable {link} {sent bytes : Datagram}

theorem Relays.of_alters {before after : Parcel} (alters : Alters link before after)
    (whole : before.2.bytes = sent.take maxPktLen) : Relays link sent after.2.bytes := by
  rcases alters with rfl | ⟨errs, -, rand, rfl⟩
  · exact Or.inl whole
  · exact Or.inr ⟨errs, whole ▸ corrupt_apart before.2 rand⟩

theorem Relays.length_le (relays : Relays link sent bytes) : bytes.length ≤ maxPktLen := by
  rcases relays with rfl | ⟨-, apart⟩
  · exact List.length_take_le _ _
  · rw [← apart.length_eq]
    exact List.length_take_le _ _

/-! ## The header -/

variable {crc32 : List UInt8 → UInt32}

/-- The twelve bytes of the header. -/
def header (crc32 : List UInt8 → UInt32) (pkt : Pkt) : List UInt8 :=
  pkt.covered ++ leBytes 4 (htonl (crc32 pkt.covered)).toNat

@[simp]
theorem length_header (pkt : Pkt) : (header crc32 pkt).length = 12 := by
  simp [header]

/-- A header that is accepted is the one that was sent. -/
theorem Relays.header_kept (detects : link.errRate = 0 ∨ DetectsOneByte crc32) {pkt : Pkt}
    {rest : List UInt8} (relays : Relays link (header crc32 pkt ++ rest) bytes) {past : Memory}
    (accepted : HeaderAccepted crc32 (past.store 0 bytes)) :
    (past.store 0 bytes).load 0 12 = header crc32 pkt := by
  have cut : (header crc32 pkt ++ rest).take maxPktLen = header crc32 pkt ++ rest.take 512 := by
    rw [List.take_append, length_header, List.take_of_length_le (by simp [maxPktLen])]
    rfl
  have starts : ∀ {first second : List UInt8}, first.length = 12 →
      (past.store 0 (first ++ second)).load 0 12 = first := by
    intro first second twelve
    have holds := (Memory.holds_append.mp (past.holds_store 0 (first ++ second))).1
    rw [Memory.Holds, twelve] at holds
    exact holds
  unfold Relays at relays
  rw [cut] at relays
  rcases relays with rfl | ⟨errs, apart⟩
  · exact starts (length_header pkt)
  · have detects := detects.resolve_left errs
    rcases apart.append_cases with ⟨changed, first, rfl⟩ | ⟨changed, second, rfl⟩
    · have found : (past.store 0 (changed ++ rest.take 512)).load 0 12 = changed :=
        starts (first.length_eq.symm.trans (length_header pkt))
      exact absurd accepted (header_altered detects pkt (found.symm ▸ first))
    · exact starts (length_header pkt)

/-- The type and the number of a packet that is accepted are the ones that were sent. -/
theorem Relays.fields_kept (detects : link.errRate = 0 ∨ DetectsOneByte crc32) {pkt : Pkt}
    {rest : List UInt8} (relays : Relays link (header crc32 pkt ++ rest) bytes) {past : Memory}
    {heap : Heap} {len : ℕ} {other decoded : Pkt}
    (accepted : (pktDecode crc32 heap (past.store 0 bytes) len other).val = (decoded, .pktOk)) :
    decoded.type = pkt.type ∧ decoded.seqnum = pkt.seqnum := by
  have ok := (pktDecode_ok_iff crc32 heap len other).mp (congrArg Prod.snd accepted)
  have packet := pktDecode_packet crc32 heap len other (congrArg Prod.snd accepted)
  rw [accepted, received, relays.header_kept detects ok.1, header, Pkt.copyHeader_covered] at packet
  dsimp only at packet
  rw [packet]
  split
  · exact ⟨rfl, rfl⟩
  · exact ⟨rfl, rfl⟩

/-! ## The payload -/

/-- The decoder only asks whether there is more than a header. -/
theorem pktDecode_take (heap : Heap) (data : Memory) (bytes : List UInt8) (pkt : Pkt) :
    pktDecode crc32 heap data (bytes.take maxPktLen).length pkt =
      pktDecode crc32 heap data bytes.length pkt := by
  have long : 12 < (bytes.take maxPktLen).length ↔ 12 < bytes.length := by
    rw [List.length_take, maxPktLen]
    omega
  unfold pktDecode
  simp only [long]

/-- The memory from which a cut datagram is accepted holds the whole one. -/
theorem holds_of_cut {pkt : Pkt} {payload : List UInt8} (held : pkt.payload = some payload)
    (fits : pkt.length.toNat ≤ 512) {past : Memory} {heap : Heap} {other : Pkt}
    (ok : (pktDecode crc32 heap (past.store 0 ((pkt.wire crc32).take maxPktLen))
      ((pkt.wire crc32).take maxPktLen).length other).val.2 = .pktOk) :
    (past.store 0 ((pkt.wire crc32).take maxPktLen)).Holds 0 (pkt.wire crc32) := by
  have size : (pkt.wire crc32).length = 16 + pkt.length.toNat := by
    rw [Pkt.length_wire, held, Option.isSome_some, if_pos rfl]
  have body : pkt.wire crc32 = header crc32 pkt ++ pkt.block payload ++
      leBytes 4 (htonl (crc32 (pkt.block payload))).toNat := by
    rw [Pkt.wire, Pkt.body, held, ← List.append_assoc]
    rfl
  -- the cut lies behind the payload
  have front : (pkt.wire crc32).take maxPktLen = header crc32 pkt ++ pkt.block payload ++
      (leBytes 4 (htonl (crc32 (pkt.block payload))).toNat).take (512 - pkt.length.toNat) := by
    have before : (header crc32 pkt ++ pkt.block payload).length = 12 + pkt.length.toNat := by simp
    rw [body, List.take_append, List.take_of_length_le (by rw [before, maxPktLen]; omega), before,
      show maxPktLen - (12 + pkt.length.toNat) = 512 - pkt.length.toNat by unfold maxPktLen; omega]
  obtain ⟨accepted, block⟩ := (pktDecode_ok_iff crc32 heap _ other).mp ok
  have long : 12 < ((pkt.wire crc32).take maxPktLen).length := by
    rw [List.length_take, size, maxPktLen]
    omega
  have agree := (block long).2
  have stored := past.holds_store 0 ((pkt.wire crc32).take maxPktLen)
  rw [front, Memory.holds_append, Memory.holds_append] at stored
  rw [front] at agree ⊢
  generalize past.store 0 _ = data at stored agree ⊢
  obtain ⟨⟨first, second⟩, -⟩ := stored
  have twelve : data.load 0 12 = header crc32 pkt := by
    rw [Memory.Holds, length_header] at first
    exact first
  have length : lengthOf data = pkt.length := by
    have whole := Memory.holds_store (fun _ => 0) 0 (pkt.wire crc32)
    rw [← lengthOf_wire crc32 whole]
    refine lengthOf_congr (twelve.trans ?_)
    exact (load_header_of_wire crc32 whole).symm
  rw [length_header, Memory.Holds, Pkt.length_block, Nat.zero_add] at second
  rw [PayloadAccepted, length, second] at agree
  have trailer : leBytes 4 (htonl (crc32 (pkt.block payload))).toNat =
      data.load (12 + pkt.length.toNat) 4 := by
    rw [agree]
    exact leBytes_trailer (Memory.length_load _ _ _)
  rw [body, Memory.holds_append, Memory.holds_append]
  refine ⟨⟨first, ?_⟩, ?_⟩
  · rw [length_header, Memory.Holds, Pkt.length_block, Nat.zero_add]
    exact second
  · rw [List.length_append, length_header, Pkt.length_block, Nat.zero_add, Memory.Holds,
      length_leBytes]
    exact trailer.symm

/-- A DATA packet that is accepted is the one that was sent, with all its bytes. -/
theorem Relays.accepted {pkt : Pkt} (data : pkt.type = 1)
    (shaped : pkt.Encodable ∨ (pkt.payload = none ∧ pkt.length = 0))
    (relays : Relays link (pkt.wire crc32) bytes)
    (intact : link.errRate = 0 ∨ DetectsOneByte crc32 ∧ (pkt.wire crc32).length ≤ maxPktLen)
    {past : Memory} {decoded : Pkt}
    (accepted : (pktDecode crc32 Heap.plenty (past.store 0 bytes) bytes.length pktNew).val =
      (decoded, .pktOk)) :
    pkt.Encodable ∧ decoded = pkt.onWire crc32 ∧ (past.store 0 bytes).Holds 0 (pkt.wire crc32) := by
  have ok : (pktDecode crc32 Heap.plenty (past.store 0 bytes) bytes.length pktNew).val.2 = .pktOk :=
    congrArg Prod.snd accepted
  rcases shaped with encodable | ⟨absent, bare⟩
  · obtain ⟨payload, held, same, low, high⟩ := encodable.payload.resolve_right fun other =>
      other.2 data
    rcases relays with rfl | ⟨errs, apart⟩
    · have holds := holds_of_cut held (same ▸ high) ok
      refine ⟨encodable, ?_, holds⟩
      have plenty : pkt.payload.isSome → Heap.plenty.malloc pkt.length.toNat = true ∧
          Heap.plenty.calloc pkt.length.toNat = true := fun _ => ⟨rfl, rfl⟩
      have whole := pktDecode_wire crc32 holds encodable plenty
      rw [← pktDecode_take, accepted] at whole
      exact (Prod.mk.inj whole).1
    · obtain ⟨detects, short⟩ := intact.resolve_left errs
      rw [List.take_of_length_le short] at apart
      exact absurd ok (pktDecode_of_altered detects
        (Or.inl ⟨data, payload, held, same, low, high⟩) apart past Heap.plenty pktNew)
  · have wire : pkt.wire crc32 = header crc32 pkt ++ [] := by
      rw [Pkt.wire, Pkt.body, absent]
      rfl
    have detects : link.errRate = 0 ∨ DetectsOneByte crc32 := intact.imp_right And.left
    rw [wire] at relays
    have kept := relays.header_kept detects ((pktDecode_ok_iff crc32 _ _ _).mp ok).1
    have holds : (past.store 0 bytes).Holds 0 (pkt.wire crc32) := by
      rw [wire, List.append_nil, Memory.Holds, length_header]
      exact kept
    exact absurd ok (pktDecode_wire_bare crc32 holds data bare Heap.plenty _ _)

end SelectiveRepeat.LinkSim
