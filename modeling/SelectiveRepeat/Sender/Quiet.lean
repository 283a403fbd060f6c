import SelectiveRepeat.Sender.Step
import SelectiveRepeat.Transport.Acknowledgement

/-!
# Simple iterations

In second 0 of a minute, and before three equal acknowledgements, nothing is sent
again.  An iteration is then just the acknowledgement it takes or the chunk it
reads.  Later in the minute a sender that holds one packet sends this one again.
-/

namespace SelectiveRepeat.Sender

open SelectiveRepeat.Foundations SelectiveRepeat.Packet SelectiveRepeat.Transport

namespace SenderState

variable (crc32 : List UInt8 → UInt32) (tmSec : ℕ → UInt32) (stdin : Bool) (state : SenderState)

theorem again_quiet {event : SenderEvent} (few : state.count < 3) (zero : tmSec event.now = 0) :
    state.again crc32 tmSec event = { state with sent := [] } := by
  have notFast : fastRetransmit crc32 { state with sent := [] } = { state with sent := [] } :=
    if_neg (by change ¬ 3 ≤ state.count; omega)
  unfold again
  rw [notFast, zero]
  unfold resend
  split
  · refine Slots.forEach_eq_self fun index packet held => if_neg ?_
    rintro ⟨earlier, -⟩
    exact absurd (UInt32.lt_iff_toNat_lt.mp earlier) (Nat.not_lt_zero _)
  · rfl

theorem resend_single {stamp : UInt32} {index : Fin windowSize} {packet : PktPtr}
    (held : state.senderBuffer index = some packet)
    (single : ∀ other ≠ index, state.senderBuffer other = none)
    (waiting : state.senderBufferSize.toNat < windowSize) (due : state.timerDue stamp packet) :
    state.resend crc32 stamp = state.transmit crc32 packet.pkt := by
  unfold resend
  rw [if_pos waiting, Slots.forEach_single held single]
  · exact if_pos due
  · intro other apart
    rw [if_pos due]
    exact single other apart

/-- A single packet is held, and its second has passed. -/
theorem again_single (event : SenderEvent) (few : state.count < 3) {index : Fin windowSize}
    {packet : PktPtr} (held : state.senderBuffer index = some packet)
    (single : ∀ other ≠ index, state.senderBuffer other = none)
    (waiting : state.senderBufferSize.toNat < windowSize)
    (due : state.timerDue (tmSec event.now) packet) :
    state.again crc32 tmSec event =
      SenderState.transmit crc32 { state with sent := [] } packet.pkt := by
  have notFast : fastRetransmit crc32 { state with sent := [] } = { state with sent := [] } :=
    if_neg (by change ¬ 3 ≤ state.count; omega)
  unfold again
  rw [notFast]
  exact resend_single crc32 { state with sent := [] } held single waiting due

/-- An acknowledgement that frees no slot. -/
theorem acknowledge_idle (number : UInt8) (keeps : ∀ index packet,
      state.senderBuffer index = some packet → acknowledged state.seqnum number packet = false) :
    state.acknowledge number = { state with
      lastack := number.toNat
      count := if state.lastack = number.toNat then state.count + 1 else state.count } := by
  have idle : ∀ count, releaseAll { state with lastack := number.toNat, count := count } number =
      { state with lastack := number.toNat, count := count } := by
    intro count
    refine Slots.forEach_eq_self fun index packet held => if_neg ?_
    rw [keeps index packet held]
    exact Bool.false_ne_true
  unfold acknowledge
  split
  · exact idle _
  · exact idle _

/-- An acknowledgement datagram is taken with its number. -/
theorem takesAck_ackDatagram (empty : crc32 [] = 0) (window number : UInt8) (past : Memory) :
    state.TakesAck crc32 (ackDatagram crc32 window number) past Heap.plenty number := by
  have fits : (ackDatagram crc32 window number).length ≤ maxPacketSize := by
    rw [length_ackDatagram]
    decide
  have whole := List.take_of_length_le fits
  have zeroBlock : Heap.plenty.malloc 0 = true := rfl
  have decoded := pktDecode_ackDatagram crc32 empty zeroBlock window number
    (followedBy state.buffer1 past) state.ack
  have memory := followedBy_fill state.buffer1 past (ackDatagram crc32 window number)
  have size : (fill state.buffer1 (ackDatagram crc32 window number)).2 =
      (ackDatagram crc32 window number).length := congrArg List.length whole
  rw [whole] at memory
  rw [← memory, ← size] at decoded
  obtain ⟨ok, type, -, same, -⟩ := decoded
  exact ⟨ok, (pktGetType_eq_ack _).mpr type, same⟩

theorem receive_ackDatagram (empty : crc32 [] = 0) (window number : UInt8) (past : Memory) :
    ∃ ack buffer1, state.receive crc32 (ackDatagram crc32 window number) past Heap.plenty =
      SenderState.acknowledge { state with ack := ack, buffer1 := buffer1 } number :=
  receive_of_takesAck crc32 state (takesAck_ackDatagram crc32 state empty window number past)

/-! ## Reading -/

variable {state}

theorem beforeFile_quiet {event : SenderEvent} (few : state.count < 3)
    (zero : tmSec event.now = 0) (silent : event.recv = none) :
    state.beforeFile crc32 tmSec event = { state with sent := [] } := by
  rw [beforeFile_eq, again_quiet crc32 tmSec state few zero, socketBranch, silent]

/-- An iteration that only looks at the file. -/
theorem iterate_file {event : SenderEvent} (inLoop : state.exit = none) (few : state.count < 3)
    (zero : tmSec event.now = 0) (silent : event.recv = none) :
    state.iterate crc32 tmSec stdin (.polled event) =
      fileBranch crc32 tmSec stdin { state with sent := [] } event := by
  rw [iterate_polled crc32 tmSec stdin inLoop, beforeFile_quiet crc32 tmSec few zero silent,
    if_pos inLoop]

theorem iterate_chunk {now later : ℕ} {past : Memory} {heap payloadHeap : Heap}
    {chunk : List UInt8} (inLoop : state.exit = none) (few : state.count < 3)
    (zero : tmSec now = 0) (nonempty : 0 < chunk.length) (fits : chunk.length ≤ maxPayloadSize)
    (mayRead : state.MayRead) :
    state.iterate crc32 tmSec stdin
        (.polled ⟨now, none, past, heap, some (some chunk), later, payloadHeap⟩) =
      sendChunk crc32 { state with sent := [] } chunk (tmSec later) payloadHeap := by
  have allowed : MayRead { state with sent := [] } := mayRead
  rw [iterate_file crc32 tmSec stdin inLoop few zero rfl, fileBranch]
  dsimp only
  rw [if_pos allowed, List.take_of_length_le fits, if_neg (by omega), if_pos nonempty]

/-- An iteration that finds the end of the file while all slots are counted free. -/
theorem iterate_end {now later : ℕ} {past : Memory} {heap payloadHeap : Heap}
    (inLoop : state.exit = none) (few : state.count < 3) (zero : tmSec now = 0)
    (size : state.senderBufferSize.toNat = windowSize) (mayRead : state.MayRead) :
    state.iterate crc32 tmSec stdin
        (.polled ⟨now, none, past, heap, some (some []), later, payloadHeap⟩) =
      { state with sent := [], exit := some .endOfFile } := by
  have allowed : MayRead { state with sent := [] } := mayRead
  rw [iterate_file crc32 tmSec stdin inLoop few zero rfl, fileBranch]
  dsimp only
  rw [if_pos allowed, List.take_nil, if_pos ⟨List.length_nil, size⟩]

/-- Nothing is due in second 0 before three equal acknowledgements. -/
theorem not_due {event : SenderEvent} (few : state.count < 3) (zero : tmSec event.now = 0)
    (packet : PktPtr) : ¬ state.Due tmSec event packet := by
  rintro (⟨repeated, -⟩ | ⟨-, earlier, -⟩)
  · omega
  · rw [zero] at earlier
    exact absurd (UInt32.lt_iff_toNat_lt.mp earlier) (Nat.not_lt_zero _)

/-- From the standard input no marker is sent. -/
theorem fileBranch_unreadable (state : SenderState) (event : SenderEvent)
    (unreadable : event.read = none) : state.fileBranch crc32 tmSec true event = state := by
  unfold fileBranch
  rw [unreadable]
  exact if_neg fun marker => Bool.noConfusion marker.1

/-- At the end of the file nothing happens while a slot is in use. -/
theorem fileBranch_waiting (state : SenderState) (event : SenderEvent)
    (nothing : event.read = some (some [])) (waiting : state.senderBufferSize.toNat < windowSize) :
    state.fileBranch crc32 tmSec stdin event = state := by
  unfold fileBranch
  rw [nothing]
  dsimp only
  rw [List.take_nil]
  split
  · rw [if_neg fun ended => absurd ended.2 (Nat.ne_of_lt waiting)]
    rfl
  · rfl

/-- An iteration at the end of the file that sends the only packet held again. -/
theorem iterate_resend {now later : ℕ} {past : Memory} {heap payloadHeap : Heap}
    (inLoop : state.exit = none) (few : state.count < 3) {index : Fin windowSize}
    {packet : PktPtr} (held : state.senderBuffer index = some packet)
    (single : ∀ other ≠ index, state.senderBuffer other = none)
    (waiting : state.senderBufferSize.toNat < windowSize)
    (due : state.timerDue (tmSec now) packet) :
    state.iterate crc32 tmSec stdin
        (.polled ⟨now, none, past, heap, some (some []), later, payloadHeap⟩) =
      SenderState.transmit crc32 { state with sent := [] } packet.pkt := by
  have reached : state.beforeFile crc32 tmSec
      ⟨now, none, past, heap, some (some []), later, payloadHeap⟩ =
        SenderState.transmit crc32 { state with sent := [] } packet.pkt := by
    rw [beforeFile_eq, again_single crc32 tmSec state _ few held single waiting due]
    rfl
  have stays : (SenderState.transmit crc32 { state with sent := [] } packet.pkt).exit = none :=
    inLoop
  rw [iterate_polled crc32 tmSec stdin inLoop, reached, if_pos stays]
  exact fileBranch_waiting crc32 tmSec stdin _ _ rfl waiting

/-- An iteration that only takes an acknowledgement. -/
theorem iterate_ack (empty : crc32 [] = 0) (now later : ℕ) (past : Memory) (payloadHeap : Heap)
    (window number : UInt8) (inLoop : state.exit = none) (few : state.count < 3)
    (zero : tmSec now = 0) :
    ∃ ack buffer1, state.iterate crc32 tmSec true (.polled ⟨now,
        some (some (ackDatagram crc32 window number)), past, Heap.plenty, none, later,
        payloadHeap⟩) =
      SenderState.acknowledge { state with sent := [], ack := ack, buffer1 := buffer1 } number := by
  obtain ⟨ack, buffer1, same⟩ :=
    receive_ackDatagram crc32 { state with sent := [] } empty window number past
  have reached : state.beforeFile crc32 tmSec ⟨now,
        some (some (ackDatagram crc32 window number)), past, Heap.plenty, none, later,
        payloadHeap⟩ =
      SenderState.acknowledge { state with sent := [], ack := ack, buffer1 := buffer1 } number := by
    rw [beforeFile_eq, again_quiet crc32 tmSec state few zero]
    exact same
  refine ⟨ack, buffer1, ?_⟩
  rw [iterate_polled crc32 tmSec true inLoop, reached]
  split
  · exact fileBranch_unreadable crc32 tmSec _ _ rfl
  · rfl

end SenderState

end SelectiveRepeat.Sender
