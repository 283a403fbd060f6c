import SelectiveRepeat.Packet.RoundTrip
import SelectiveRepeat.Transport.Basic

/-!
# The acknowledgement datagram

An acknowledgement is a bare header sent as 512 bytes.  The decoder therefore looks
for a payload of length 0 and finds its CRC in the zeros behind the header, which
is the CRC of no bytes.
-/

namespace SelectiveRepeat.Transport

open SelectiveRepeat.Foundations SelectiveRepeat.Packet

variable (crc32 : List UInt8 → UInt32)

/-- The packet that the receiver encodes. -/
def ackPkt (window seqnum : UInt8) : Pkt :=
  { pktNew with window := BitVec.ofNat 5 window.toNat, type := 2, seqnum := seqnum }

/-- The 512 bytes that are sent for it. -/
def ackDatagram (window seqnum : UInt8) : Datagram :=
  (ackPkt window seqnum).wire crc32 ++ List.replicate 500 0

theorem length_wire_ackPkt (window seqnum : UInt8) :
    ((ackPkt window seqnum).wire crc32).length = 12 := by
  rw [Pkt.length_wire]
  rfl

theorem length_ackDatagram (window seqnum : UInt8) :
    (ackDatagram crc32 window seqnum).length = maxPayloadSize := by
  rw [ackDatagram, List.length_append, length_wire_ackPkt, List.length_replicate]
  rfl

/-! ## Its decoding -/

section Decoding

variable (empty : crc32 [] = 0) {heap : Heap} (block : heap.malloc 0 = true)

include empty block

/-- The padded header is accepted whatever lies behind it and whatever packet it is
decoded into. -/
theorem pktDecode_ackDatagram (window seqnum : UInt8) (past : Memory) (pkt : Pkt) :
    let decoded := (pktDecode crc32 heap (past.store 0 (ackDatagram crc32 window seqnum))
      (ackDatagram crc32 window seqnum).length pkt).val
    decoded.2 = .pktOk ∧ decoded.1.type = 2 ∧ decoded.1.tr = 0 ∧ decoded.1.seqnum = seqnum ∧
      decoded.1.window = BitVec.ofNat 5 window.toNat := by
  intro decoded
  obtain ⟨holds, zeros⟩ := Memory.holds_append.mp
    (Memory.holds_store past 0 (ackDatagram crc32 window seqnum))
  change (past.store 0 (ackDatagram crc32 window seqnum)).Holds 0 _ at holds
  change (past.store 0 (ackDatagram crc32 window seqnum)).Holds _ _ at zeros
  have length := lengthOf_wire crc32 holds
  have header := headerAccepted_wire crc32 holds
    (show (2 : BitVec 2) ≠ 0 by decide) (fun set => absurd rfl set)
    (fun isData => absurd (show (2 : BitVec 2) = 1 from isData) (by decide))
  have trailer : (past.store 0 (ackDatagram crc32 window seqnum)).load 12 4 =
      List.replicate 4 0 := by
    rw [length_wire_ackPkt, Nat.zero_add, Memory.Holds, List.length_replicate,
      show 500 = 4 + 496 from rfl, Memory.load_add, List.replicate_add] at zeros
    exact List.append_inj_left zeros (by simp)
  have body : PayloadAccepted crc32 (past.store 0 (ackDatagram crc32 window seqnum)) := by
    rw [PayloadAccepted, length]
    change htonl (crc32 []) = UInt32.ofNat (leValue (Memory.load _ 12 4))
    rw [empty, trailer]
    rfl
  have ok : decoded.2 = .pktOk :=
    (pktDecode_ok_iff crc32 heap _ pkt).mpr ⟨header, fun _ => ⟨by rw [length]; exact block, body⟩⟩
  have long : 12 < (ackDatagram crc32 window seqnum).length := by
    rw [length_ackDatagram]
    decide
  have copied := Pkt.copyHeader_covered (ackPkt window seqnum) pkt
    (htonl (crc32 (ackPkt window seqnum).covered))
  have packet := pktDecode_packet crc32 heap _ pkt ok
  refine ⟨ok, ?_⟩
  change decoded.1 = _ at packet
  rw [packet, received, if_pos long, load_header_of_wire crc32 holds, copied]
  exact ⟨rfl, rfl, rfl, rfl⟩

end Decoding

/-- A decoder that accepts it finds its number, whatever it knew before. -/
theorem seqnum_of_ackDatagram {heap : Heap} {window seqnum : UInt8} {past : Memory} {len : ℕ}
    {before decoded : Pkt}
    (accepted : (pktDecode crc32 heap (past.store 0 (ackDatagram crc32 window seqnum)) len
      before).val = (decoded, .pktOk)) : decoded.seqnum = seqnum := by
  have holds : (past.store 0 (ackDatagram crc32 window seqnum)).Holds 0
      ((ackPkt window seqnum).wire crc32) :=
    (Memory.holds_append.mp (Memory.holds_store past 0 (ackDatagram crc32 window seqnum))).1
  have packet := pktDecode_packet crc32 heap len before (congrArg Prod.snd accepted)
  rw [accepted, received, load_header_of_wire crc32 holds, Pkt.copyHeader_covered] at packet
  dsimp only at packet
  rw [packet]
  split
  · rfl
  · rfl

end SelectiveRepeat.Transport
