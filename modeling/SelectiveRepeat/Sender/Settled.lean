import SelectiveRepeat.Sender.Quiet
import SelectiveRepeat.Sender.Traffic

/-!
# A sender whose packets are all acknowledged

Such a sender holds no packet, so it reads the next chunk, or meets the end of the file.
One acknowledgement with the number of packets created is enough to come there, as long
as these are at most 255.
-/

namespace SelectiveRepeat.Sender

open SelectiveRepeat.Foundations SelectiveRepeat.Packet SelectiveRepeat.Transport

namespace SenderState

variable (crc32 : List UInt8 → UInt32) (tmSec : ℕ → UInt32) (stdin : Bool)

/-- A sender in its loop that has made a packet of every chunk in `read`, and no others. -/
structure Chunked (read : List (List UInt8)) (state : SenderState) : Prop where
  inLoop : state.exit = none
  books : state.Books
  chunks : state.chunks = read
  created : state.created.length = read.length

/-- All its packets are acknowledged. -/
structure Settled (read : List (List UInt8)) (state : SenderState) : Prop
    extends Chunked read state where
  lastack : state.lastack = read.length
  empty : state.senderBuffer = Slots.empty

variable {read : List (List UInt8)} {state : SenderState}

theorem Chunked.frame (chunked : Chunked read state) (count : ℕ) (ack : Pkt) (buffer1 : Memory)
    (sent : List Datagram) : Chunked read { state with
      count := count, ack := ack, buffer1 := buffer1, sent := sent } :=
  ⟨chunked.inLoop, chunked.books.frame state.lastack count ack buffer1 state.exit sent,
    chunked.chunks, chunked.created⟩

/-! ## Reading -/

namespace Settled

variable (settled : Settled read state)

include settled

theorem size : state.senderBufferSize.toNat = windowSize := by
  have size := settled.books.size
  rw [settled.empty, Slots.used_empty, Nat.add_zero] at size
  exact size

theorem mayRead : state.MayRead := by
  have next := settled.books.next
  have size := settled.size
  unfold windowSize at size
  unfold SenderState.MayRead
  rw [next, settled.created, settled.lastack]
  omega

/-- A chunk is read and made a packet. -/
theorem reads {event : SenderEvent} {chunk : List UInt8} (found : event.read = some (some chunk))
    (nonempty : 0 < chunk.length) (fits : chunk.length ≤ maxPayloadSize)
    (plenty : event.payloadHeap = Heap.plenty) :
    Chunked (read ++ [chunk]) (state.fileBranch crc32 tmSec stdin event) := by
  have room : state.senderBufferSize ≠ 0 := by
    intro zero
    have size := settled.size
    rw [zero] at size
    exact absurd size (by decide)
  have step : state.fileBranch crc32 tmSec stdin event =
      state.sendChunk crc32 chunk (tmSec event.later) Heap.plenty := by
    unfold fileBranch
    rw [found, plenty]
    dsimp only
    rw [if_pos settled.mayRead, List.take_of_length_le fits, if_neg (by omega), if_pos nonempty]
  have creates := sendChunk_creates crc32 state chunk (tmSec event.later) Heap.plenty
  rw [step]
  refine ⟨creates.exit.trans settled.inLoop,
    settled.books.sendChunk crc32 room chunk (tmSec event.later) Heap.plenty, ?_, ?_⟩
  · rw [creates.chunks, settled.chunks]
  · rw [creates.created, List.length_append, settled.created, List.length_append]
    rfl

/-- The end of the file is met. -/
theorem ends {event : SenderEvent} (found : event.read = some (some [])) :
    state.fileBranch crc32 tmSec stdin event = { state with exit := some .endOfFile } := by
  unfold fileBranch
  rw [found]
  dsimp only
  rw [if_pos settled.mayRead, List.take_nil, if_pos ⟨List.length_nil, settled.size⟩]

end Settled

/-! ## Iterations -/

/-- What is sent again changes nothing else. -/
theorem Chunked.again (chunked : Chunked read state) (event : SenderEvent) :
    Chunked read (state.again crc32 tmSec event) := by
  rw [(again_sends crc32 tmSec state event).frame]
  exact chunked.frame _ state.ack _ _

/-- The acknowledgement of all packets frees all slots. -/
theorem Chunked.acknowledge (chunked : Chunked read state) (short : read.length ≤ 255) :
    Settled read (state.acknowledge (UInt8.ofNat read.length)) := by
  have number : (UInt8.ofNat read.length).toNat = read.length := by
    rw [UInt8.toNat_ofNat', Nat.mod_eq_of_lt (by omega)]
  have next := chunked.books.next
  rw [chunked.created] at next
  have acked := state.acknowledge_acked (UInt8.ofNat read.length)
  refine ⟨⟨acked.exit.trans chunked.inLoop, chunked.books.acknowledge _,
    acked.chunks.trans chunked.chunks, ?_⟩, acked.lastack.trans number, ?_⟩
  · rw [acked.created]
    exact chunked.created
  · funext index
    rw [acknowledge_senderBuffer]
    cases held : state.senderBuffer.discard _ index with
    | none => rfl
    | some packet =>
        obtain ⟨old, fails⟩ := Slots.discard_eq_some.mp held
        have numbered := chunked.books.held_numbered old
        have less := chunked.books.addr_lt old
        rw [chunked.created] at less
        rcases acknowledged_eq_false.mp fails with before | beyond
        · omega
        · omega

/-- An iteration that takes the acknowledgement of all packets, and then looks at the file. -/
theorem Chunked.iterate_ack (chunked : Chunked read state) (short : read.length ≤ 255)
    (empty : crc32 [] = 0) {event : SenderEvent} {window : UInt8}
    (received : event.recv = some (some (ackDatagram crc32 window (UInt8.ofNat read.length))))
    (plenty : event.heap = Heap.plenty) : ∃ reached, Settled read reached ∧
      state.iterate crc32 tmSec stdin (.polled event) =
        reached.fileBranch crc32 tmSec stdin event := by
  have again := chunked.again crc32 tmSec event
  rw [iterate_polled crc32 tmSec stdin chunked.inLoop, beforeFile_eq]
  generalize state.again crc32 tmSec event = resent at again ⊢
  have settled : Settled read (resent.socketBranch crc32 event) := by
    obtain ⟨ack, buffer1, same⟩ := receive_ackDatagram crc32 resent empty window
      (UInt8.ofNat read.length) event.past
    rw [socketBranch, received, plenty]
    dsimp only
    rw [same]
    exact (again.frame resent.count ack buffer1 resent.sent).acknowledge short
  exact ⟨_, settled, if_pos settled.inLoop⟩

/-- An iteration that receives nothing, while all packets are acknowledged. -/
theorem Settled.iterate_silent (settled : Settled read state) {event : SenderEvent}
    (silent : event.recv = none) : ∃ reached, Settled read reached ∧
      state.iterate crc32 tmSec stdin (.polled event) =
        reached.fileBranch crc32 tmSec stdin event := by
  have again := settled.again crc32 tmSec event
  have frame := (again_sends crc32 tmSec state event).frame
  have still : Settled read (state.again crc32 tmSec event) := by
    refine ⟨again, ?_, ?_⟩
    · rw [frame]
      exact settled.lastack
    · rw [frame]
      exact settled.empty
  refine ⟨_, still, ?_⟩
  rw [iterate_polled crc32 tmSec stdin settled.inLoop, beforeFile_eq, socketBranch, silent]
  exact if_pos still.inLoop

end SenderState

end SelectiveRepeat.Sender
