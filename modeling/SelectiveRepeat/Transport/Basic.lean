import Mathlib.Algebra.Order.Ring.Nat
import SelectiveRepeat.Packet.Basic

/-!
# What the two loops share

The constants of the headers, `inc_seqnum`, and the pointers kept in the two
buffers.
-/

namespace SelectiveRepeat.Transport

open SelectiveRepeat.Foundations SelectiveRepeat.Packet

/-- `MAX_PAYLOAD_SIZE`. -/
def maxPayloadSize : ℕ := 512

/-- `WINDOW_SIZE`. -/
def windowSize : ℕ := 31

instance : NeZero windowSize := ⟨by decide⟩

/-- `MAX_PACKET_SIZE`. -/
def maxPacketSize : ℕ := 528

/-- The bytes of one `sendto`. -/
abbrev Datagram := List UInt8

/-- `recvfrom` puts at most `MAX_PACKET_SIZE` bytes at the start of a buffer. -/
def fill (buffer : Memory) (bytes : Datagram) : Memory × ℕ :=
  let got := bytes.take maxPacketSize
  (buffer.store 0 got, got.length)

/-- The memory from the start of a buffer of `MAX_PACKET_SIZE` bytes on. -/
def followedBy (buffer past : Memory) : Memory := fun index =>
  if index < maxPacketSize then buffer index else past index

/-- A received datagram is decoded in place; past it lies what the buffer held. -/
theorem followedBy_fill (buffer past : Memory) (bytes : Datagram) :
    followedBy (fill buffer bytes).1 past =
      (followedBy buffer past).store 0 (bytes.take maxPacketSize) := by
  funext index
  have fits : (bytes.take maxPacketSize).length ≤ maxPacketSize := List.length_take_le _ _
  unfold followedBy fill Memory.store
  dsimp only
  by_cases inside : index < (bytes.take maxPacketSize).length
  · rw [if_pos (by omega), if_pos (by omega), if_pos (by omega)]
  · by_cases buffer : index < maxPacketSize
    · rw [if_pos buffer, if_neg (by omega), if_neg (by omega), if_pos buffer]
    · rw [if_neg buffer, if_neg (by omega), if_neg buffer]

/-- A `pkt_t *` kept in a buffer: the call of `pkt_new` that returned it, counted
from 0, and the packet it points to. -/
structure PktPtr where
  addr : ℕ
  pkt : Pkt

/-- `inc_seqnum`. -/
def incSeqnum (seqnum : UInt8) : UInt8 := UInt8.ofNat ((seqnum.toNat + 1) % 256)

theorem incSeqnum_toNat (seqnum : UInt8) : (incSeqnum seqnum).toNat = (seqnum.toNat + 1) % 256 := by
  rw [incSeqnum, UInt8.toNat_ofNat']
  omega

/-- A sequence number that counts modulo 256 still does after `inc_seqnum`. -/
theorem incSeqnum_count {seqnum : UInt8} {count : ℕ} (counts : seqnum.toNat = count % 256) :
    (incSeqnum seqnum).toNat = (count + 1) % 256 := by
  rw [incSeqnum_toNat, counts]
  omega

end SelectiveRepeat.Transport
