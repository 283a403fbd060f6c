import SelectiveRepeat.Receiver.Acknowledgement
import SelectiveRepeat.Sender.Overrun
import SelectiveRepeat.Sender.Traffic
import SelectiveRepeat.System.Network

/-!
# Rounds without loss

In a round the sender reads one chunk, the receiver writes it, and the sender takes
the acknowledgement.  After each round nothing is under way and no packet is held,
except that packet 255 is never freed: its acknowledgement has number 0.
-/

namespace SelectiveRepeat.System

open SelectiveRepeat.Foundations SelectiveRepeat.Packet SelectiveRepeat.Transport
open SelectiveRepeat.Receiver SelectiveRepeat.Sender

variable (crc32 : List UInt8 → UInt32)

/-! ## The receiver in a round -/

/-- A receiver that holds no packet and has written `count` bytes one by one. -/
structure ReceiverAt (count : ℕ) (state : ReceiverState) : Prop where
  running : state.running = true
  clear : state.Clear
  ordered : state.Ordered
  empty : state.receiverBuffer = Slots.empty
  bytes : state.output.length = count
  writes : state.writes.length = count

theorem ReceiverAt.start : ReceiverAt 0 .start :=
  ⟨rfl, ReceiverState.clear_start, ReceiverState.ordered_start, rfl, rfl, rfl⟩

/-- The next packet arrives, is written and acknowledged. -/
theorem ReceiverAt.write {count : ℕ} {state : ReceiverState} (at_ : ReceiverAt count state)
    {pkt : Pkt} (encodable : pkt.Encodable) (data : pkt.type = 1) {byte : UInt8}
    (payload : pkt.payload = some [byte]) (number : pkt.seqnum.toNat = count % 256)
    (past : Memory) :
    let after := state.iterate crc32 fullWrite (.readable (some (pkt.wire crc32)) past Heap.plenty)
    ReceiverAt (count + 1) after ∧
      ∃ window, after.sent = [ackDatagram crc32 window (UInt8.ofNat (count + 1))] := by
  intro after
  have expected : pkt.seqnum = state.seqnum := by
    apply UInt8.toNat_inj.mp
    rw [number, at_.ordered.expected, at_.writes]
  let accepted := (state.receive crc32 (some (pkt.wire crc32)) past Heap.plenty).accept fullWrite
    ⟨state.receptions.length, pkt.onWire crc32⟩
  have step : after = accepted.sendAck crc32 :=
    state.iterate_of_expected crc32 fullWrite _ past Heap.plenty at_.running at_.empty
      (state.decode_wire crc32 encodable past) data expected (Int.natCast_nonneg _)
  have ordered : accepted.Ordered := at_.ordered.wrote expected rfl rfl
  have still : accepted.Clear := by
    have received := at_.clear.receive crc32 (some (pkt.wire crc32)) past Heap.plenty
    exact ⟨received.zero, received.len⟩
  have writes : accepted.writes.length = count + 1 :=
    List.length_append.trans (congrArg (· + 1) at_.writes)
  have seqnum : accepted.seqnum = UInt8.ofNat (count + 1) := by
    apply UInt8.toNat_inj.mp
    rw [ordered.expected, writes, UInt8.toNat_ofNat']
  have bytes : accepted.output.length = count + 1 := by
    let call : WriteCall := ⟨⟨state.receptions.length, pkt.onWire crc32⟩,
      fullWrite state.writes.length (pktGetLength (pkt.onWire crc32)).toNat⟩
    have output : pkt.payload = some call.output :=
      WriteCall.output_eq crc32 encodable data rfl rfl
    rw [payload, Option.some.injEq] at output
    have appended : accepted.output = state.output ++ call.output := by
      change (state.writes ++ [call]).flatMap WriteCall.output = _
      rw [List.flatMap_append, List.flatMap_singleton]
      rfl
    rw [appended, List.length_append, at_.bytes, ← output, List.length_singleton]
  rw [step]
  refine ⟨⟨at_.running, ReceiverState.clear_sendAck crc32 accepted, ordered.congr rfl rfl, at_.empty,
    bytes, writes⟩, accepted.window, ?_⟩
  rw [still.sendAck_sent, seqnum]
  rfl

/-! ## The sender in a round -/

/-- A sender that has read `created` bytes one by one, with its packets acknowledged up to
`acked`, all but packet 255. -/
structure SenderAt (created acked : ℕ) (state : SenderState) : Prop where
  inLoop : state.exit = none
  count : state.count = 0
  books : state.Books
  chunks : state.chunks.length = created
  bytes : state.chunks.flatten.length = created
  packets : ∀ pkt ∈ state.created,
    pkt.timestamp = 0 ∧ pkt.Encodable ∧ pkt.type = 1 ∧ pkt.payload = some [0]
  stuck : 255 ∉ state.freed
  slots : ∀ index packet, state.senderBuffer index = some packet →
    packet.addr = 255 ∨ acked ≤ packet.addr
  created : state.created.length = created
  lastack : state.lastack = acked % 256

namespace SenderAt

variable {created acked k : ℕ} {state : SenderState}

theorem start : SenderAt 0 0 .start := by
  refine ⟨rfl, rfl, SenderState.books_start, rfl, rfl, fun _ member => absurd member List.not_mem_nil,
    List.not_mem_nil, fun index packet held => ?_, rfl, rfl⟩
  cases held

theorem frame (at_ : SenderAt created acked state) (ack : Pkt) (buffer1 : Memory)
    (sent : List Datagram) :
    SenderAt created acked { state with ack := ack, buffer1 := buffer1, sent := sent } :=
  ⟨at_.inLoop, at_.count, at_.books.frame state.lastack state.count ack buffer1 state.exit sent,
    at_.chunks, at_.bytes, at_.packets, at_.stuck, at_.slots, at_.created, at_.lastack⟩

/-- Between two rounds only packet 255 is held, in one slot. -/
theorem addr_eq (at_ : SenderAt k k state) {index : Fin windowSize} {packet : PktPtr}
    (held : state.senderBuffer index = some packet) : packet.addr = 255 := by
  have less := at_.books.addr_lt held
  rw [at_.created] at less
  rcases at_.slots index packet held with stuck | later
  · exact stuck
  · omega

theorem single (at_ : SenderAt k k state) {index : Fin windowSize} {packet : PktPtr}
    (held : state.senderBuffer index = some packet) :
    ∀ other ≠ index, state.senderBuffer other = none := by
  intro other apart
  cases heldOther : state.senderBuffer other with
  | none => rfl
  | some found =>
      have same := (at_.addr_eq heldOther).trans (at_.addr_eq held).symm
      exact absurd (at_.books.distinct _ _ _ _ heldOther held same) apart

theorem room (at_ : SenderAt k k state) : state.senderBufferSize ≠ 0 := by
  apply at_.books.room_iff.mp
  cases first : state.senderBuffer 0 with
  | none => exact ⟨0, first⟩
  | some packet => exact ⟨1, at_.single first 1 (by decide)⟩

theorem mayRead (at_ : SenderAt k k state) : state.MayRead := by
  have next := at_.books.next
  have positive : 0 < state.senderBufferSize.toNat :=
    Nat.pos_of_ne_zero fun zero => at_.room (UInt8.toNat_inj.mp zero)
  unfold SenderState.MayRead
  rw [next, at_.created, at_.lastack]
  omega

/-- Before packet 255 nothing is held between two rounds. -/
theorem used_eq_zero (at_ : SenderAt k k state) (short : k ≤ 255) :
    state.senderBuffer.used = 0 := by
  have empty : state.senderBuffer = Slots.empty := by
    funext index
    cases held : state.senderBuffer index with
    | none => rfl
    | some packet =>
        have less := at_.books.addr_lt held
        rw [at_.created, at_.addr_eq held] at less
        omega
  rw [empty, Slots.used_empty]

theorem size_eq (at_ : SenderAt k k state) (short : k ≤ 255) :
    state.senderBufferSize.toNat = windowSize := by
  have size := at_.books.size
  rw [at_.used_eq_zero short, Nat.add_zero] at size
  exact size

/-- One byte is read and sent. -/
theorem read (at_ : SenderAt k k state) : ∃ pkt : Pkt,
    (state.iterate crc32 secondOf true (.polled chunkEvent)).sent = [pkt.wire crc32] ∧
      pkt.Encodable ∧ pkt.type = 1 ∧ pkt.payload = some [0] ∧ pkt.seqnum.toNat = k % 256 ∧
      SenderAt (k + 1) k (state.iterate crc32 secondOf true (.polled chunkEvent)) := by
  have room := at_.room
  have step : state.iterate crc32 secondOf true (.polled chunkEvent) =
      SenderState.sendChunk crc32 { state with sent := [] } [0] (secondOf 0) Heap.plenty :=
    SenderState.iterate_chunk crc32 secondOf true at_.inLoop (by rw [at_.count]; decide) rfl
      (by decide) (by decide) at_.mayRead
  have quiet := at_.frame state.ack state.buffer1 []
  have books := quiet.books.sendChunk crc32 room [0] (secondOf 0) Heap.plenty
  have grows := quiet.books.sendChunk_grows crc32 room [0] (secondOf 0) Heap.plenty
  have creates :=
    SenderState.sendChunk_creates crc32 { state with sent := [] } [0] (secondOf 0) Heap.plenty
  obtain ⟨payload, type, encodable⟩ := SenderState.chunkPkt_plenty { state with sent := [] }
    [0] (secondOf 0) (by decide) (by decide)
  rw [step]
  refine ⟨_, creates.sent, encodable, type, payload, ?_, ?_⟩
  · rw [SenderState.chunkPkt_seqnum, ← at_.created]
    exact at_.books.next
  · refine ⟨creates.exit.trans at_.inLoop, grows.count.trans at_.count, books, ?_, ?_, ?_, ?_, ?_, ?_,
      grows.lastack.trans at_.lastack⟩
    · rw [creates.chunks, List.length_append, at_.chunks, List.length_singleton]
    · rw [creates.chunks, List.flatten_append, List.length_append, at_.bytes]
      rfl
    · intro pkt member
      rw [creates.created] at member
      rcases List.mem_append.mp member with old | new
      · exact at_.packets pkt old
      · rw [List.mem_singleton.mp new]
        exact ⟨rfl, encodable, type, payload⟩
    · rw [grows.freed]
      exact at_.stuck
    · intro index packet held
      rcases grows.slots index packet held with new | old
      · exact Or.inr (by rw [new, at_.created])
      · exact at_.slots index packet old
    · rw [creates.created, List.length_append, at_.created, List.length_singleton]

/-- The acknowledgement of a packet frees it, except packet 255. -/
theorem acknowledge (at_ : SenderAt (k + 1) k state) (short : k < 511) :
    SenderAt (k + 1) (k + 1) (state.acknowledge (UInt8.ofNat (k + 1))) := by
  have number : (UInt8.ofNat (k + 1)).toNat = (k + 1) % 256 := UInt8.toNat_ofNat'
  have next := at_.books.next
  rw [at_.created] at next
  have acked := state.acknowledge_acked (UInt8.ofNat (k + 1))
  refine ⟨acked.exit.trans at_.inLoop, ?_, at_.books.acknowledge _, ?_, ?_, ?_, ?_, ?_, ?_,
    acked.lastack.trans number⟩
  · refine (acked.count ?_).trans at_.count
    rw [number, at_.lastack]
    omega
  · rw [acked.chunks]
    exact at_.chunks
  · rw [acked.chunks]
    exact at_.bytes
  · rw [acked.created]
    exact at_.packets
  · intro member
    rcases at_.books.acknowledge_freed _ 255 member with old | ⟨-, below, -⟩
    · exact at_.stuck old
    · rw [number] at below
      omega
  · intro index packet held
    rw [SenderState.acknowledge_senderBuffer, Slots.discard_eq_some] at held
    obtain ⟨old, fails⟩ := held
    have numbered := at_.books.held_numbered old
    have less := at_.books.addr_lt old
    rw [at_.created] at less
    rcases at_.slots index packet old with stuck | later
    · exact Or.inl stuck
    · rcases SenderState.acknowledged_eq_false.mp fails with before | beyond
      · omega
      · omega
  · rw [acked.created]
    exact at_.created

/-- Packet 255 is due again in the next second, 256 packets later. -/
theorem stale (at_ : SenderAt 511 511 state) (past : Memory) (payloadHeap : Heap) : ∃ pkt : Pkt,
    pkt.Encodable ∧ pkt.type = 1 ∧ pkt.payload = some [0] ∧ pkt.seqnum.toNat = 255 ∧
      (state.iterate crc32 secondOf true (.polled
        ⟨1, none, past, Heap.plenty, some (some []), 1, payloadHeap⟩)).sent = [pkt.wire crc32] ∧
      (state.iterate crc32 secondOf true (.polled
        ⟨1, none, past, Heap.plenty, some (some []), 1, payloadHeap⟩)).chunks = state.chunks := by
  obtain ⟨index, packet, held, addr⟩ := at_.books.kept 255 (by rw [at_.created]; omega) at_.stuck
  have waiting : state.senderBufferSize.toNat < windowSize := by
    have size := at_.books.size
    have positive := Slots.used_pos held
    omega
  obtain ⟨stamp, encodable, type, payload⟩ :=
    at_.packets packet.pkt (List.mem_of_getElem? (at_.books.held index packet held).1)
  have number := at_.books.held_numbered held
  rw [addr] at number
  have next := at_.books.next
  rw [at_.created] at next
  have due : state.timerDue (secondOf 1) packet := by
    constructor
    · rw [pktGetTimestamp, stamp]
      decide
    · rw [pktGetSeqnum, UInt8.le_iff_toNat_le, number, next]
  rw [SenderState.iterate_resend crc32 secondOf true at_.inLoop (by rw [at_.count]; decide) held
    (at_.single held) waiting due]
  refine ⟨packet.pkt, encodable, type, payload, number, ?_, rfl⟩
  rw [SenderState.transmit_sent, List.nil_append]

end SenderAt

/-! ## The system in a round -/

/-- A file of `n` chunks of one byte. -/
def zeros (n : ℕ) : File where
  chunks := List.replicate n [0]
  sized := by
    intro chunk member
    rw [List.eq_of_mem_replicate member]
    decide

theorem next_zeros {n k : ℕ} (less : k < n) : (zeros n).next k = [0] := by
  unfold File.next zeros
  rw [List.getElem?_replicate, if_pos less]
  rfl

theorem next_zeros_end (n : ℕ) : (zeros n).next n = [] := by
  unfold File.next zeros
  rw [List.getElem?_replicate, if_neg (Nat.lt_irrefl n)]
  rfl

/-- The sender looks at the file only. -/
abbrev readAction : Action := .sender false true (fun _ => 0) 0 0

/-- The sender looks at the socket only. -/
abbrev ackAction : Action := .sender true false (fun _ => 0) 0 0

namespace SystemState

variable {state : SystemState}

theorem event_read {file : File} (clock : state.clock = 0)
    (next : file.next state.sender.chunks.length = [0]) :
    state.event file false true (fun _ => 0) 0 0 = chunkEvent := by
  unfold event
  rw [clock, next]
  rfl

theorem event_ack (file : File) {datagram : Datagram} (clock : state.clock = 0)
    (inLoop : state.sender.exit = none) (queue : state.acks = [datagram]) :
    state.event file true false (fun _ => 0) 0 0 =
      ⟨0, some (some datagram), fun _ => 0, Heap.plenty, none, 0, Heap.plenty⟩ := by
  unfold event
  rw [clock, queue, if_pos ⟨rfl, inLoop⟩]
  rfl

end SystemState

/-- A point of a round: what was created, acknowledged and written, and what is under way. -/
structure Stage (created acked written : ℕ) (data acks : List Datagram) (state : SystemState) :
    Prop where
  sender : SenderAt created acked state.sender
  receiver : ReceiverAt written state.receiver
  data : state.data = data
  acks : state.acks = acks
  clock : state.clock = 0

namespace Stage

variable {k n : ℕ} {state : SystemState}

theorem start : Stage 0 0 0 [] [] .start :=
  ⟨SenderAt.start, ReceiverAt.start, rfl, rfl, rfl⟩

theorem read (stage : Stage k k k [] [] state) (less : k < n) : ∃ pkt : Pkt,
    pkt.Encodable ∧ pkt.type = 1 ∧ pkt.payload = some [0] ∧ pkt.seqnum.toNat = k % 256 ∧
      Stage (k + 1) k k [pkt.wire crc32] [] (state.step crc32 true (zeros n) readAction) := by
  obtain ⟨pkt, sent, encodable, data, payload, number, after⟩ := stage.sender.read crc32
  have event := SystemState.event_read stage.clock (next_zeros (stage.sender.chunks.trans_lt less))
  refine ⟨pkt, encodable, data, payload, number, ?_⟩
  rw [SystemState.step_polled, event]
  refine ⟨after, stage.receiver, ?_, ?_, stage.clock⟩
  · dsimp only
    rw [stage.data, sent, List.nil_append]
  · exact stage.acks

theorem write {pkt : Pkt} (stage : Stage (k + 1) k k [pkt.wire crc32] [] state)
    (encodable : pkt.Encodable) (data : pkt.type = 1) (payload : pkt.payload = some [0])
    (number : pkt.seqnum.toNat = k % 256) : ∃ window,
      Stage (k + 1) k (k + 1) [] [ackDatagram crc32 window (UInt8.ofNat (k + 1))]
        (state.step crc32 true (zeros n) (.receiver fun _ => 0)) := by
  obtain ⟨written, window, answer⟩ := stage.receiver.write crc32 encodable data payload
    number fun _ => 0
  refine ⟨window, ?_⟩
  rw [SystemState.step_taken crc32 true (zeros n) state stage.receiver.running stage.data]
  refine ⟨stage.sender, written, rfl, ?_, stage.clock⟩
  dsimp only
  rw [stage.acks, answer, List.nil_append]

theorem acknowledge {window : UInt8} (stage : Stage (k + 1) k (k + 1) []
      [ackDatagram crc32 window (UInt8.ofNat (k + 1))] state)
    (empty : crc32 [] = 0) (short : k < 511) :
    Stage (k + 1) (k + 1) (k + 1) [] [] (state.step crc32 true (zeros n) ackAction) := by
  have event := SystemState.event_ack (zeros n) stage.clock stage.sender.inLoop stage.acks
  obtain ⟨ack, buffer1, same⟩ := SenderState.iterate_ack crc32 secondOf empty 0 0 (fun _ => 0)
    Heap.plenty window (UInt8.ofNat (k + 1)) stage.sender.inLoop
    (by rw [stage.sender.count]; decide) rfl
  have after := (stage.sender.frame ack buffer1 []).acknowledge short
  have silent := (SenderState.acknowledge_acked { state.sender with
    sent := [], ack := ack, buffer1 := buffer1 } (UInt8.ofNat (k + 1))).sent
  rw [SystemState.step_polled, event, same]
  refine ⟨after, stage.receiver, ?_, ?_, stage.clock⟩
  · dsimp only
    rw [silent, stage.data, List.append_nil]
  · dsimp only
    rw [if_pos ⟨rfl, stage.sender.inLoop⟩, stage.acks, List.tail_cons]

end Stage

/-- One byte is read, sent, written and acknowledged. -/
def round : List Action := [readAction, .receiver fun _ => 0, ackAction]

theorem Stage.round {k n : ℕ} {state : SystemState} (stage : Stage k k k [] [] state)
    (empty : crc32 [] = 0) (less : k < n) (short : k < 511) :
    Stage (k + 1) (k + 1) (k + 1) [] []
      ((network crc32 true (zeros n)).runFrom state round) := by
  obtain ⟨pkt, encodable, data, payload, number, sent⟩ := stage.read crc32 less
  obtain ⟨window, written⟩ := sent.write crc32 (n := n) encodable data payload number
  exact written.acknowledge crc32 empty short

/-- A number of rounds. -/
def rounds : ℕ → List Action
  | 0 => []
  | n + 1 => rounds n ++ round

/-- Up to 511 rounds are without incident. -/
theorem stage_rounds (empty : crc32 [] = 0) (n : ℕ) {k : ℕ} (le : k ≤ n) (short : k ≤ 511) :
    Stage k k k [] [] ((network crc32 true (zeros n)).run (rounds k)) := by
  induction k with
  | zero => exact Stage.start
  | succ k ih =>
      rw [rounds, Machine.run_append]
      exact (ih (by omega) (by omega)).round crc32 empty (by omega) (by omega)

/-- A condition that every action of a round meets is met along a number of rounds. -/
theorem along_rounds (empty : crc32 [] = 0) (n : ℕ) {Allowed : SystemState → Action → Prop}
    (reads : ∀ k state, Stage k k k [] [] state → Allowed state readAction)
    (writes : ∀ k datagram state, Stage (k + 1) k k [datagram] [] state →
      Allowed state (.receiver fun _ => 0))
    (acknowledges : ∀ k datagram state, Stage (k + 1) k (k + 1) [] [datagram] state →
      Allowed state ackAction) {k : ℕ} (le : k ≤ n) (short : k ≤ 511) :
    (network crc32 true (zeros n)).Along Allowed .start (rounds k) := by
  induction k with
  | zero => trivial
  | succ k ih =>
      rw [rounds, Machine.along_append]
      refine ⟨ih (by omega) (by omega), ?_⟩
      have stage := stage_rounds crc32 empty n (k := k) (by omega) (by omega)
      obtain ⟨pkt, encodable, data, payload, number, sent⟩ :=
        stage.read crc32 (show k < n by omega)
      obtain ⟨window, written⟩ := sent.write crc32 (n := n) encodable data payload number
      exact ⟨reads k _ stage, writes k _ _ sent, acknowledges k _ _ written, trivial⟩

/-! ## Reading on without the network -/

/-- Actions in which the sender only reads chunks are iterations of its loop. -/
theorem sender_reads (n : ℕ) {state : SystemState} (clock : state.clock = 0) (m : ℕ)
    (left : ∀ i < m, ((readWriteLoop crc32 secondOf true).runFrom state.sender
      (List.replicate i (.polled chunkEvent))).chunks.length < n) :
    let after := (network crc32 true (zeros n)).runFrom state (List.replicate m readAction)
    after.sender = (readWriteLoop crc32 secondOf true).runFrom state.sender
        (List.replicate m (.polled chunkEvent)) ∧
      after.receiver = state.receiver ∧ after.clock = 0 := by
  induction m with
  | zero => exact ⟨rfl, rfl, clock⟩
  | succ m ih =>
      obtain ⟨sender, receiver, still⟩ := ih fun i less => left i (by omega)
      have more := left m (Nat.lt_succ_self m)
      rw [← sender] at more
      rw [List.replicate_succ', List.replicate_succ', Machine.runFrom_append, Machine.runFrom_append,
        ← sender]
      generalize (network crc32 true (zeros n)).runFrom state (List.replicate m readAction) = reached
        at sender receiver still more ⊢
      have event := SystemState.event_read still (next_zeros more)
      have step := SystemState.step_polled crc32 true (zeros n) reached false true (fun _ => 0) 0 0
      rw [event] at step
      rw [Machine.runFrom_cons, Machine.runFrom_nil, network_step, step]
      exact ⟨rfl, receiver, still⟩

/-- The end of the file, met while all slots are counted free. -/
theorem sender_ends {n : ℕ} {state : SystemState} (clock : state.clock = 0)
    (read : state.sender.chunks.length = n) (inLoop : state.sender.exit = none)
    (few : state.sender.count < 3) (size : state.sender.senderBufferSize.toNat = windowSize)
    (mayRead : state.sender.MayRead) :
    (state.step crc32 true (zeros n) readAction).sender =
      { state.sender with sent := [], exit := some .endOfFile } := by
  have event : state.event (zeros n) false true (fun _ => 0) 0 0 =
      ⟨0, none, fun _ => 0, Heap.plenty, some (some []), 0, Heap.plenty⟩ := by
    unfold SystemState.event
    rw [clock, read, next_zeros_end]
    rfl
  rw [SystemState.step_polled, event]
  exact SenderState.iterate_end crc32 secondOf true inLoop few rfl size mayRead

end SelectiveRepeat.System
