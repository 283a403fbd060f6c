import Mathlib.Data.List.TakeDrop
import SelectiveRepeat.Packet.Basic

/-!
# Encoding and decoding

`pktEncode` and `pktDecode` follow `packet_interface.c` on byte memories.  The
decoder is written in `Loads`, so the offsets it reads are part of its result.
`crc32` stands for zlib's function started from its initial value.
-/

namespace SelectiveRepeat.Packet

open SelectiveRepeat.Foundations

variable (crc32 : List UInt8 → UInt32)

/-! ## `pkt_encode` -/

/-- `length` bytes from a payload pointer; what lies past its block is not specified. -/
def Pkt.block (pkt : Pkt) (payload : List UInt8) : List UInt8 :=
  payload.takeD (pktGetLength pkt).toNat 0

/-- The capacity `*len` is not read; the third result is the value left in it. -/
def pktEncode (pkt : Pkt) (buf : Memory) (_len : ℕ) : PktStatus × Memory × ℕ :=
  let size := 0
  let length := htons (pktGetLength pkt)
  let timestamp := pktGetTimestamp pkt
  let buf := buf.store size [pkt.flags, pkt.seqnum]
  let size := size + 2
  let buf := buf.store size (leBytes 2 length.toNat)
  let size := size + 2
  let buf := buf.store size (leBytes 4 timestamp.toNat)
  let size := size + 4
  let crc1 := htonl (crc32 (buf.load 0 8))
  let buf := buf.store size (leBytes 4 crc1.toNat)
  let size := size + 4
  match pktGetPayload pkt with
  | none => (.pktOk, buf, size)
  | some payload =>
      let buf := buf.store size (pkt.block payload)
      let size := size + (pktGetLength pkt).toNat
      let crc2 := htonl (crc32 (pkt.block payload))
      let buf := buf.store size (leBytes 4 crc2.toNat)
      let size := size + 4
      (.pktOk, buf, size)

/-! ## `pkt_decode` -/

def pktDecode (heap : Heap) (data : Memory) (len : ℕ) (pkt : Pkt) : Loads (Pkt × PktStatus) := do
  let header ← data.read 0 12
  let pkt := pkt.copyHeader header
  let tr := pktGetTr pkt
  let pkt := (pktSetTr pkt 0).1
  if 0 < tr ∧ pktGetType pkt ≠ PType.ptypeData.value then
    return (pkt, .eTr)
  else if pktGetType pkt ≠ PType.ptypeData.value ∧ pktGetType pkt ≠ PType.ptypeAck.value ∧
      pktGetType pkt ≠ PType.ptypeNack.value then
    return (pkt, .eType)
  else
    let length := htons (pktGetLength pkt)
    let pkt := (pktSetLength pkt length).1
    if pktGetType pkt = PType.ptypeData.value ∧
        (pktGetLength pkt ≤ 0 ∨ 512 < pktGetLength pkt) then
      return (pkt, .eLength)
    else
      let covered ← data.read 0 8
      let crc1 := htonl (crc32 covered)
      if crc1 ≠ pktGetCrc1 pkt then
        return (pkt, .eCrc)
      else
        let pkt := (pktSetTr pkt tr).1
        if 12 < len then
          if heap.malloc length.toNat = false then
            return (pkt, .eNomem)
          else
            let buf ← data.read 12 length.toNat
            -- the status of `pkt_set_payload` is dropped
            let pkt := (pktSetPayload heap pkt buf length).1
            let trailer ← data.read (12 + length.toNat) 4
            let pkt := (pktSetCrc2 pkt (UInt32.ofNat (leValue trailer))).1
            let covered ← data.read 12 length.toNat
            let tmp := htonl (crc32 covered)
            if tmp ≠ pktGetCrc2 pkt then
              return (pkt, .eCrc)
            else
              return (pkt, .pktOk)
        else
          return (pkt, .pktOk)

/-! ## What the encoder writes -/

/-- The eight bytes under the header CRC. -/
def Pkt.covered (pkt : Pkt) : List UInt8 :=
  [pkt.flags, pkt.seqnum] ++ leBytes 2 (htons pkt.length).toNat ++ leBytes 4 pkt.timestamp.toNat

/-- The bytes after the header, if there is a payload. -/
def Pkt.body (pkt : Pkt) : List UInt8 :=
  match pkt.payload with
  | none => []
  | some payload => pkt.block payload ++ leBytes 4 (htonl (crc32 (pkt.block payload))).toNat

/-- The datagram of a packet. -/
def Pkt.wire (pkt : Pkt) : List UInt8 :=
  pkt.covered ++ leBytes 4 (htonl (crc32 pkt.covered)).toNat ++ pkt.body crc32

@[simp]
theorem Pkt.length_covered (pkt : Pkt) : pkt.covered.length = 8 := by
  simp [Pkt.covered]

@[simp]
theorem Pkt.length_block (pkt : Pkt) (payload : List UInt8) :
    (pkt.block payload).length = pkt.length.toNat :=
  List.takeD_length _ _ _

/-- A payload of exactly `length` bytes is copied as it is. -/
theorem Pkt.block_eq {pkt : Pkt} {payload : List UInt8} (exact_ : payload.length = pkt.length.toNat) :
    pkt.block payload = payload := by
  rw [Pkt.block, pktGetLength, ← exact_, List.takeD_eq_take _ (Nat.le_refl _), List.take_length]

theorem Pkt.length_wire (pkt : Pkt) :
    (pkt.wire crc32).length = if pkt.payload.isSome then 16 + pkt.length.toNat else 12 := by
  cases held : pkt.payload with
  | none => simp [Pkt.wire, Pkt.body, held]
  | some payload =>
      simp only [Pkt.wire, Pkt.body, held, List.length_append, length_covered, length_leBytes,
        length_block, Option.isSome_some, if_true]
      omega

/-- The encoder stores the packet's datagram and nothing else. -/
theorem pktEncode_eq (pkt : Pkt) (buf : Memory) (len : ℕ) :
    pktEncode crc32 pkt buf len =
      (.pktOk, buf.store 0 (pkt.wire crc32), (pkt.wire crc32).length) := by
  have header : ((buf.store 0 [pkt.flags, pkt.seqnum]).store 2
      (leBytes 2 (htons pkt.length).toNat)).store 4 (leBytes 4 pkt.timestamp.toNat) =
        buf.store 0 pkt.covered := by
    have first := buf.store_store_append 0 [pkt.flags, pkt.seqnum] (leBytes 2 (htons pkt.length).toNat)
    have second := buf.store_store_append 0
      ([pkt.flags, pkt.seqnum] ++ leBytes 2 (htons pkt.length).toNat) (leBytes 4 pkt.timestamp.toNat)
    simp only [List.length_append, length_leBytes, List.length_cons, List.length_nil] at first second
    rw [first, second, Pkt.covered]
  have bytes : (buf.store 0 pkt.covered).load 0 8 = pkt.covered := by
    have same := buf.load_store_same 0 pkt.covered
    rwa [Pkt.length_covered] at same
  have checked := buf.store_store_append 0 pkt.covered (leBytes 4 (htonl (crc32 pkt.covered)).toNat)
  rw [Pkt.length_covered, Nat.zero_add] at checked
  cases held : pkt.payload with
  | none =>
      simp only [pktEncode, pktGetLength, pktGetTimestamp, pktGetPayload, held, header, bytes,
        checked, Nat.zero_add, Nat.reduceAdd]
      simp [Pkt.wire, Pkt.body, held]
  | some payload =>
      have third := buf.store_store_append 0
        (pkt.covered ++ leBytes 4 (htonl (crc32 pkt.covered)).toNat) (pkt.block payload)
      have fourth := buf.store_store_append 0
        (pkt.covered ++ leBytes 4 (htonl (crc32 pkt.covered)).toNat ++ pkt.block payload)
        (leBytes 4 (htonl (crc32 (pkt.block payload))).toNat)
      simp only [List.length_append, Pkt.length_covered, length_leBytes, Pkt.length_block,
        Nat.zero_add, Nat.reduceAdd] at third fourth
      simp only [pktEncode, pktGetLength, pktGetTimestamp, pktGetPayload, held, header, bytes,
        checked, third, fourth, Nat.zero_add, Nat.reduceAdd]
      simp [Pkt.wire, Pkt.body, held, List.append_assoc, Nat.add_assoc]
      omega

end SelectiveRepeat.Packet
