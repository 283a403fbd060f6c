import SelectiveRepeat.Sender.Loop

/-!
# What an iteration can do

An iteration sends some held packets again, may take one acknowledgement, and may
create one packet.  `Sends`, `receive_eq`, `FileOutcome` and `Iterated` say this once
for every later proof.
-/

namespace SelectiveRepeat.Sender

open SelectiveRepeat.Foundations SelectiveRepeat.Packet SelectiveRepeat.Transport

namespace SenderState

variable (crc32 : List UInt8 → UInt32) (tmSec : ℕ → UInt32) (stdin : Bool) (state : SenderState)

/-! ## Sending -/

/-- What is sent is the datagram of the packet. -/
theorem transmit_sent (pkt : Pkt) :
    (state.transmit crc32 pkt).sent = state.sent ++ [pkt.wire crc32] := by
  unfold transmit
  rw [pktEncode_eq]
  dsimp only
  rw [Memory.load_store_same]

/-- Some packets of the slots that meet a condition were sent, and nothing else changed
but the counter of repeated acknowledgements and the buffer. -/
structure Sends (Due : PktPtr → Prop) (before after : SenderState) : Prop where
  frame : after = { before with
    count := after.count, buffer1 := after.buffer1, sent := after.sent }
  sent : ∃ packets : List PktPtr,
    after.sent = before.sent ++ packets.map (fun packet => packet.pkt.wire crc32) ∧
      ∀ packet ∈ packets, (∃ index, before.senderBuffer index = some packet) ∧ Due packet

namespace Sends

variable {crc32} {Due : PktPtr → Prop} {state} {before middle after : SenderState}

theorem refl : Sends crc32 Due state state :=
  ⟨rfl, [], (List.append_nil _).symm, fun _ member => absurd member List.not_mem_nil⟩

theorem senderBuffer (sends : Sends crc32 Due before after) :
    after.senderBuffer = before.senderBuffer := by
  rw [sends.frame]

theorem trans (first : Sends crc32 Due before middle) (second : Sends crc32 Due middle after) :
    Sends crc32 Due before after := by
  refine ⟨?_, ?_⟩
  · have frame := second.frame
    rw [first.frame] at frame
    exact frame
  · obtain ⟨early, earlySent, earlyDue⟩ := first.sent
    obtain ⟨late, lateSent, lateDue⟩ := second.sent
    refine ⟨early ++ late, ?_, fun packet member => ?_⟩
    · rw [lateSent, earlySent, List.map_append, List.append_assoc]
    · rcases List.mem_append.mp member with earlier | later
      · exact earlyDue packet earlier
      · rw [← first.senderBuffer]
        exact lateDue packet later

theorem mono {Weaker : PktPtr → Prop} (sends : Sends crc32 Due before after)
    (weaken : ∀ packet, Due packet → Weaker packet) : Sends crc32 Weaker before after := by
  obtain ⟨packets, sent, due⟩ := sends.sent
  exact ⟨sends.frame, packets, sent, fun packet member =>
    ⟨(due packet member).1, weaken packet (due packet member).2⟩⟩

/-- One packet of a slot, sent from a state reached by sending. -/
theorem transmit (sends : Sends crc32 Due before after) {index : Fin windowSize}
    {packet : PktPtr} (held : after.senderBuffer index = some packet) (due : Due packet)
    (count : ℕ) : Sends crc32 Due before { after.transmit crc32 packet.pkt with count := count } := by
  refine sends.trans ⟨rfl, [packet], transmit_sent crc32 after packet.pkt, fun other member => ?_⟩
  rw [List.mem_singleton.mp member]
  exact ⟨⟨index, held⟩, due⟩

end Sends

theorem fastRetransmit_sends : Sends crc32 (fun packet => 3 ≤ state.count ∧ state.fastDue packet)
    state (state.fastRetransmit crc32) := by
  unfold fastRetransmit
  split
  · rename_i repeated
    refine Slots.forEach_preserves (motive := Sends crc32 _ state) ?_ Sends.refl
    intro reached index packet sends held
    split
    · rename_i due
      unfold fastDue at due
      rw [sends.frame] at due
      exact sends.transmit held ⟨repeated, due⟩ 0
    · exact sends
  · exact Sends.refl

theorem resend_sends (stamp : UInt32) : Sends crc32
    (fun packet => state.senderBufferSize.toNat < windowSize ∧ state.timerDue stamp packet)
    state (state.resend crc32 stamp) := by
  unfold resend
  split
  · rename_i waiting
    refine Slots.forEach_preserves (motive := Sends crc32 _ state) ?_ Sends.refl
    intro reached index packet sends held
    split
    · rename_i due
      unfold timerDue at due
      rw [sends.frame] at due
      exact sends.transmit held ⟨waiting, due⟩ reached.count
    · exact sends
  · exact Sends.refl

/-- A packet that the iteration sends again: for three equal acknowledgements, or
because its second has passed. -/
def Due (event : SenderEvent) (packet : PktPtr) : Prop :=
  (3 ≤ state.count ∧ state.fastDue packet) ∨
    (state.senderBufferSize.toNat < windowSize ∧ state.timerDue (tmSec event.now) packet)

/-- The state after sending again, before the socket is looked at. -/
def again (event : SenderEvent) : SenderState :=
  (fastRetransmit crc32 { state with sent := [] }).resend crc32 (tmSec event.now)

theorem beforeFile_eq (event : SenderEvent) : state.beforeFile crc32 tmSec event =
    (state.again crc32 tmSec event).socketBranch crc32 event := rfl

theorem again_sends (event : SenderEvent) : Sends crc32 (state.Due tmSec event)
    { state with sent := [] } (state.again crc32 tmSec event) := by
  have fast := fastRetransmit_sends crc32 { state with sent := [] }
  have timer := resend_sends crc32 (fastRetransmit crc32 { state with sent := [] })
    (tmSec event.now)
  refine (fast.mono fun packet due => Or.inl due).trans (timer.mono fun packet due => Or.inr ?_)
  unfold timerDue at due ⊢
  rw [fast.frame] at due
  exact due

/-! ## The acknowledgement loop -/

theorem acknowledged_eq_true {seqnum number : UInt8} {packet : PktPtr} :
    acknowledged seqnum number packet = true ↔
      packet.pkt.seqnum.toNat < number.toNat ∧ number.toNat ≤ seqnum.toNat := by
  unfold acknowledged
  rw [Bool.and_eq_true, decide_eq_true_eq, decide_eq_true_eq, UInt8.lt_iff_toNat_lt,
    UInt8.le_iff_toNat_le, pktGetSeqnum]

theorem acknowledged_eq_false {seqnum number : UInt8} {packet : PktPtr} :
    acknowledged seqnum number packet = false ↔
      number.toNat ≤ packet.pkt.seqnum.toNat ∨ seqnum.toNat < number.toNat := by
  rw [← Bool.not_eq_true, acknowledged_eq_true]
  omega

/-- The loop frees exactly the slots whose packets pass its test. -/
theorem releaseAll_senderBuffer (number : UInt8) : (state.releaseAll number).senderBuffer =
    state.senderBuffer.discard (acknowledged state.seqnum number) := by
  refine Slots.forEach_discard (motive := fun reached => reached.seqnum = state.seqnum) ?_ rfl
  intro reached index packet same held
  rw [same]
  split
  · exact ⟨same, rfl⟩
  · exact ⟨same, rfl⟩

/-- A property kept by freeing one acknowledged slot is kept by the loop. -/
theorem releaseAll_preserves {motive : SenderState → Prop} {state : SenderState} (number : UInt8)
    (release : ∀ reached index packet, motive reached →
      reached.senderBuffer index = some packet →
      acknowledged reached.seqnum number packet = true → motive (reached.release index packet))
    (before : motive state) : motive (state.releaseAll number) := by
  refine Slots.forEach_preserves ?_ before
  intro reached index packet kept held
  split
  · rename_i passes
    exact release reached index packet kept held passes
  · exact kept

/-- An acknowledgement frees what passes the test of its loop. -/
theorem acknowledge_senderBuffer (number : UInt8) : (state.acknowledge number).senderBuffer =
    state.senderBuffer.discard (acknowledged state.seqnum number) := by
  unfold acknowledge
  rw [releaseAll_senderBuffer]
  split
  · rfl
  · rfl

/-- Freeing a slot keeps the counter the number of free slots. -/
theorem release_counts {state : SenderState} {index : Fin windowSize} {packet : PktPtr}
    (held : state.senderBuffer index = some packet)
    (counts : state.senderBufferSize.toNat + state.senderBuffer.used = windowSize) :
    (state.release index packet).senderBufferSize.toNat +
      (state.release index packet).senderBuffer.used = windowSize := by
  have shrunk := Slots.used_clear held
  have window : windowSize = 31 := rfl
  change (state.senderBufferSize + 1).toNat + (state.senderBuffer.clear index).used = windowSize
  rw [UInt8.toNat_add, UInt8.toNat_one, Nat.mod_eq_of_lt (by omega)]
  omega

/-- What an acknowledgement leaves alone, and the number it records. -/
structure Acked (number : UInt8) (before after : SenderState) : Prop where
  created : after.created = before.created
  chunks : after.chunks = before.chunks
  sent : after.sent = before.sent
  exit : after.exit = before.exit
  lastack : after.lastack = number.toNat
  count : before.lastack ≠ number.toNat → after.count = before.count

theorem acknowledge_acked (number : UInt8) : Acked number state (state.acknowledge number) := by
  unfold acknowledge
  refine releaseAll_preserves (motive := Acked number state) number ?_ ?_
  · intro reached index packet same _ _
    exact ⟨same.created, same.chunks, same.sent, same.exit, same.lastack, same.count⟩
  · split
    · rename_i repeated
      exact ⟨rfl, rfl, rfl, rfl, rfl, fun new => absurd repeated new⟩
    · exact ⟨rfl, rfl, rfl, rfl, rfl, fun _ => rfl⟩

/-- The bytes can be decoded to an acknowledgement with this number. -/
def Acknowledges (bytes : Datagram) (number : UInt8) : Prop :=
  ∃ heap past ack pkt, (pktDecode crc32 heap (Memory.store past 0 (bytes.take maxPacketSize))
      (bytes.take maxPacketSize).length ack).val = (pkt, .pktOk) ∧
    pktGetType pkt = PType.ptypeAck.value ∧ pktGetSeqnum pkt = number

/-- A received datagram changes nothing but `ack` and the buffer, or is an
acknowledgement. -/
theorem receive_eq (bytes : Datagram) (past : Memory) (heap : Heap) : ∃ ack buffer1,
    state.receive crc32 bytes past heap = { state with ack := ack, buffer1 := buffer1 } ∨
      ∃ number, Acknowledges crc32 bytes number ∧ state.receive crc32 bytes past heap =
        SenderState.acknowledge { state with ack := ack, buffer1 := buffer1 } number := by
  have memory := followedBy_fill state.buffer1 past bytes
  have size : (fill state.buffer1 bytes).2 = (bytes.take maxPacketSize).length := rfl
  unfold receive
  dsimp only
  rw [memory, size]
  split
  · rename_i accepted
    exact ⟨_, _, Or.inr ⟨_, ⟨heap, _, state.ack, _, Prod.ext rfl accepted.1, accepted.2, rfl⟩, rfl⟩⟩
  · exact ⟨_, _, Or.inl rfl⟩

/-- The received bytes are accepted as an acknowledgement with this number. -/
def TakesAck (bytes : Datagram) (past : Memory) (heap : Heap)
    (number : UInt8) : Prop :=
  let (buffer1, size) := fill state.buffer1 bytes
  let (ack, status) := (pktDecode crc32 heap (followedBy buffer1 past) size state.ack).val
  status = .pktOk ∧ pktGetType ack = PType.ptypeAck.value ∧ pktGetSeqnum ack = number

theorem receive_of_takesAck {bytes : Datagram} {past : Memory} {heap : Heap} {number : UInt8}
    (takes : state.TakesAck crc32 bytes past heap number) : ∃ ack buffer1,
    state.receive crc32 bytes past heap =
      SenderState.acknowledge { state with ack := ack, buffer1 := buffer1 } number := by
  unfold TakesAck at takes
  obtain ⟨ok, type, rfl⟩ := takes
  unfold receive
  dsimp only
  rw [if_pos ⟨ok, type⟩]
  exact ⟨_, _, rfl⟩

/-! ## The file -/

/-- With a free slot the packet goes to the first one. -/
theorem sendChunk_of_hole {index : Fin windowSize} (hole : state.senderBuffer index = none)
    (first : ∀ before < index, state.senderBuffer before ≠ none) (chunk : List UInt8)
    (stamp : UInt32) (heap : Heap) :
    let packet : PktPtr := ⟨state.created.length, state.chunkPkt chunk stamp heap⟩
    state.sendChunk crc32 chunk stamp heap = SenderState.hold
      { state.create crc32 packet.pkt with chunks := state.chunks ++ [chunk] } index packet := by
  have found : state.senderBuffer.firstWhere Option.isNone = some index := by
    refine Slots.firstWhere_eq_some.mpr ⟨by rw [hole]; rfl, fun before less => ?_⟩
    rw [Option.isNone_eq_false_iff, Option.isSome_iff_ne_none]
    exact first before less
  intro packet
  unfold sendChunk
  dsimp only
  have same : (state.create crc32 packet.pkt).senderBuffer = state.senderBuffer := rfl
  rw [same, found]

/-- Without a free slot the packet is sent and forgotten. -/
theorem sendChunk_of_full (occupied : ∀ index, state.senderBuffer index ≠ none)
    (chunk : List UInt8) (stamp : UInt32) (heap : Heap) :
    state.sendChunk crc32 chunk stamp heap =
      { state.create crc32 (state.chunkPkt chunk stamp heap) with
        chunks := state.chunks ++ [chunk] } := by
  have found : state.senderBuffer.firstWhere Option.isNone = none := by
    refine Slots.firstWhere_eq_none.mpr fun index => ?_
    rw [Option.isNone_eq_false_iff, Option.isSome_iff_ne_none]
    exact occupied index
  unfold sendChunk
  dsimp only
  have same : (state.create crc32 (state.chunkPkt chunk stamp heap)).senderBuffer =
      state.senderBuffer := rfl
  rw [same, found]

/-- A packet is recorded and sent, with what was read for it. -/
structure Creates (pkt : Pkt) (read : List (List UInt8)) (before after : SenderState) : Prop where
  created : after.created = before.created ++ [pkt]
  chunks : after.chunks = before.chunks ++ read
  sent : after.sent = before.sent ++ [pkt.wire crc32]
  exit : after.exit = before.exit

theorem create_creates (pkt : Pkt) : Creates crc32 pkt [] state (state.create crc32 pkt) := by
  refine ⟨rfl, (List.append_nil _).symm, ?_, rfl⟩
  unfold create
  rw [transmit_sent]

/-- The packet of a chunk is recorded and sent, whether it is kept or not. -/
theorem sendChunk_creates (chunk : List UInt8) (stamp : UInt32) (heap : Heap) :
    Creates crc32 (state.chunkPkt chunk stamp heap) [chunk] state
      (state.sendChunk crc32 chunk stamp heap) := by
  have creates := create_creates crc32 state (state.chunkPkt chunk stamp heap)
  unfold sendChunk
  dsimp only
  split
  · exact ⟨creates.created, rfl, creates.sent, creates.exit⟩
  · exact ⟨creates.created, rfl, creates.sent, creates.exit⟩

theorem sendMarker_creates (stamp : UInt32) :
    Creates crc32 (state.markerPkt stamp) [] state (state.sendMarker crc32 stamp) := by
  have creates := create_creates crc32 state (state.markerPkt stamp)
  exact ⟨creates.created, creates.chunks, creates.sent, creates.exit⟩

/-- What the iteration does with the file. -/
inductive FileOutcome (event : SenderEvent) : SenderState → Prop where
  /-- Nothing to do, or nothing allowed. -/
  | idle : FileOutcome event state
  /-- `read` failed. -/
  | failed : FileOutcome event { state with exit := some .read }
  /-- The end of the file, with a full count of free slots. -/
  | ended {bytes : List UInt8} (read : event.read = some (some bytes))
      (nothing : (bytes.take maxPayloadSize).length = 0)
      (size : state.senderBufferSize.toNat = windowSize) :
      FileOutcome event { state with exit := some .endOfFile }
  /-- A chunk was read. -/
  | chunk {bytes : List UInt8} (mayRead : state.MayRead) (read : event.read = some (some bytes))
      (nonempty : 0 < (bytes.take maxPayloadSize).length) :
      FileOutcome event (state.sendChunk crc32 (bytes.take maxPayloadSize) (tmSec event.later)
        event.payloadHeap)
  /-- The file is not readable and all slots are counted free. -/
  | marker (size : state.senderBufferSize.toNat = windowSize) :
      FileOutcome event (state.sendMarker crc32 (tmSec event.later))

theorem fileOutcome (event : SenderEvent) :
    state.FileOutcome crc32 tmSec event (state.fileBranch crc32 tmSec stdin event) := by
  unfold fileBranch
  cases read : event.read with
  | none =>
      dsimp only
      split
      · rename_i allowed
        exact .marker allowed.2
      · exact .idle
  | some result =>
      dsimp only
      split
      · rename_i mayRead
        cases result with
        | none => exact .failed
        | some bytes =>
            dsimp only
            split
            · rename_i ended
              exact .ended read ended.1 ended.2
            · split
              · rename_i nonempty
                exact .chunk mayRead read nonempty
              · exact .idle
      · exact .idle

/-! ## One iteration -/

/-- A property that does not depend on `ack` and the buffer is kept on the socket when a
failure and an acknowledgement keep it. -/
theorem socketBranch_preserves {motive : SenderState → Prop} {state : SenderState}
    {event : SenderEvent}
    (frame : ∀ state ack buffer1, motive state → motive { state with ack := ack, buffer1 := buffer1 })
    (failed : ∀ state, motive state → motive { state with exit := some .recv })
    (acknowledge : ∀ state bytes number, event.recv = some (some bytes) →
      Acknowledges crc32 bytes number → motive state → motive (state.acknowledge number))
    (before : motive state) : motive (state.socketBranch crc32 event) := by
  unfold socketBranch
  cases received : event.recv with
  | none => exact before
  | some result =>
      cases result with
      | none => exact failed state before
      | some bytes =>
          obtain ⟨ack, buffer1, same | ⟨number, accepted, same⟩⟩ :=
            receive_eq crc32 state bytes event.past event.heap
          · dsimp only
            rw [same]
            exact frame state _ _ before
          · dsimp only
            rw [same]
            exact acknowledge _ bytes number received accepted (frame state _ _ before)

/-- A property of the slots, the counters and the records is kept by the first half of an
iteration when an acknowledgement keeps it. -/
theorem beforeFile_preserves {motive : SenderState → Prop} {state : SenderState}
    {event : SenderEvent}
    (frame : ∀ state count ack buffer1 exit sent, motive state → motive { state with
      count := count, ack := ack, buffer1 := buffer1, exit := exit, sent := sent })
    (acknowledge : ∀ state bytes number, event.recv = some (some bytes) →
      Acknowledges crc32 bytes number → motive state → motive (state.acknowledge number))
    (before : motive state) : motive (state.beforeFile crc32 tmSec event) := by
  have sends := again_sends crc32 tmSec state event
  have resent : motive (state.again crc32 tmSec event) := by
    rw [sends.frame]
    exact frame state _ _ _ _ _ before
  refine socketBranch_preserves crc32 ?_ ?_ acknowledge resent
  · intro state ack buffer1 before
    exact frame state state.count ack buffer1 state.exit state.sent before
  · intro state before
    exact frame state state.count state.ack state.buffer1 _ state.sent before

/-- The iteration in which `poll` reports an event. -/
theorem iterate_polled {state : SenderState} (inLoop : state.exit = none) (event : SenderEvent) :
    state.iterate crc32 tmSec stdin (.polled event) =
      if (state.beforeFile crc32 tmSec event).exit = none then
        (state.beforeFile crc32 tmSec event).fileBranch crc32 tmSec stdin event
      else state.beforeFile crc32 tmSec event := by
  unfold iterate
  rw [if_pos inLoop]

/-- The first half of an iteration leaves the loop only when `recvfrom` fails. -/
theorem beforeFile_exit {state : SenderState} (inLoop : state.exit = none) (event : SenderEvent) :
    (state.beforeFile crc32 tmSec event).exit = none ∨
      (state.beforeFile crc32 tmSec event).exit = some .recv := by
  rw [beforeFile_eq]
  refine socketBranch_preserves crc32
    (motive := fun after => after.exit = none ∨ after.exit = some .recv) ?_ ?_ ?_ ?_
  · intro after ack buffer1 before
    exact before
  · intro after _
    exact Or.inr rfl
  · intro after bytes number _ _ before
    rw [(after.acknowledge_acked number).exit]
    exact before
  · rw [(again_sends crc32 tmSec state event).frame]
    exact Or.inl inLoop

/-- The outcomes of an iteration. -/
inductive Iterated : SenderInput → SenderState → Prop where
  /-- The loop was left before. -/
  | left {input : SenderInput} (left : state.exit ≠ none) :
      Iterated input { state with sent := [] }
  | pollEnds (inLoop : state.exit = none) :
      Iterated .pollEnds { state with sent := [], exit := some .poll }
  /-- `recvfrom` failed, and the file is not looked at. -/
  | failed {event : SenderEvent} (inLoop : state.exit = none)
      (recv : (state.beforeFile crc32 tmSec event).exit = some .recv) :
      Iterated (.polled event) (state.beforeFile crc32 tmSec event)
  | looked {event : SenderEvent} {after : SenderState} (inLoop : state.exit = none)
      (stays : (state.beforeFile crc32 tmSec event).exit = none)
      (outcome : (state.beforeFile crc32 tmSec event).FileOutcome crc32 tmSec event after) :
      Iterated (.polled event) after

theorem iterated (input : SenderInput) :
    state.Iterated crc32 tmSec input (state.iterate crc32 tmSec stdin input) := by
  cases inLoop : state.exit with
  | some exit =>
      have left : state.exit ≠ none := by
        rw [inLoop]
        exact Option.some_ne_none exit
      unfold iterate
      rw [if_neg left]
      exact .left left
  | none =>
      cases input with
      | pollEnds =>
          unfold iterate
          rw [if_pos inLoop]
          exact .pollEnds inLoop
      | polled event =>
          rw [iterate_polled crc32 tmSec stdin inLoop]
          rcases beforeFile_exit crc32 tmSec inLoop event with stays | recv
          · rw [if_pos stays]
            exact .looked inLoop stays (fileOutcome crc32 tmSec stdin _ event)
          · rw [if_neg (by rw [recv]; exact Option.some_ne_none _)]
            exact .failed inLoop recv

/-- The rule for a property of the slots, the counters and the records. -/
theorem iterate_preserves {motive : SenderState → Prop} {state : SenderState}
    (frame : ∀ state count ack buffer1 exit sent, motive state → motive { state with
      count := count, ack := ack, buffer1 := buffer1, exit := exit, sent := sent })
    (input : SenderInput)
    (acknowledge : ∀ state event bytes number, input = .polled event →
      event.recv = some (some bytes) → Acknowledges crc32 bytes number → motive state →
      motive (state.acknowledge number))
    (chunk : ∀ event bytes, input = .polled event → state.exit = none →
      event.read = some (some bytes) → 0 < (bytes.take maxPayloadSize).length →
      (state.beforeFile crc32 tmSec event).exit = none →
      (state.beforeFile crc32 tmSec event).MayRead →
      motive (state.beforeFile crc32 tmSec event) →
      motive ((state.beforeFile crc32 tmSec event).sendChunk crc32 (bytes.take maxPayloadSize)
        (tmSec event.later) event.payloadHeap))
    (marker : ∀ state stamp, state.senderBufferSize.toNat = windowSize → motive state →
      motive (state.sendMarker crc32 stamp))
    (before : motive state) : motive (state.iterate crc32 tmSec stdin input) := by
  have reached : ∀ event, input = .polled event → motive (state.beforeFile crc32 tmSec event) :=
    fun event same => beforeFile_preserves crc32 tmSec frame
      (fun state bytes number => acknowledge state event bytes number same) before
  have outcome := state.iterated crc32 tmSec stdin input
  generalize state.iterate crc32 tmSec stdin input = after at outcome ⊢
  cases outcome with
  | left left => exact frame state _ _ _ state.exit _ before
  | pollEnds inLoop => exact frame state _ _ _ _ _ before
  | failed inLoop recv => exact reached _ rfl
  | looked inLoop stays outcome =>
      cases outcome with
      | idle => exact reached _ rfl
      | failed => exact frame _ _ _ _ _ _ (reached _ rfl)
      | ended read nothing size => exact frame _ _ _ _ _ _ (reached _ rfl)
      | chunk mayRead read nonempty =>
          exact chunk _ _ rfl inLoop read nonempty stays mayRead (reached _ rfl)
      | marker size => exact marker _ _ size (reached _ rfl)

/-- The first half of an iteration reads nothing. -/
theorem beforeFile_chunks (event : SenderEvent) :
    (state.beforeFile crc32 tmSec event).chunks = state.chunks := by
  refine beforeFile_preserves crc32 tmSec (motive := fun after => after.chunks = state.chunks)
    ?_ ?_ rfl
  · intro after count ack buffer1 exit sent before
    exact before
  · intro after bytes number _ _ before
    exact (after.acknowledge_acked number).chunks.trans before

/-- An iteration reads nothing, or one chunk that `read` has returned. -/
theorem iterate_chunks (input : SenderInput) :
    (state.iterate crc32 tmSec stdin input).chunks = state.chunks ∨
      ∃ event bytes, input = .polled event ∧ event.read = some (some bytes) ∧
        0 < (bytes.take maxPayloadSize).length ∧
        (state.iterate crc32 tmSec stdin input).chunks =
          state.chunks ++ [bytes.take maxPayloadSize] := by
  refine iterate_preserves crc32 tmSec stdin (motive := fun after =>
    after.chunks = state.chunks ∨ ∃ event bytes, input = .polled event ∧
      event.read = some (some bytes) ∧ 0 < (bytes.take maxPayloadSize).length ∧
      after.chunks = state.chunks ++ [bytes.take maxPayloadSize]) ?_ input ?_ ?_ ?_ (Or.inl rfl)
  · intro after count ack buffer1 exit sent before
    exact before
  · intro after event bytes number _ _ _ before
    rw [(after.acknowledge_acked number).chunks]
    exact before
  · intro event bytes same _ read nonempty _ _ _
    refine Or.inr ⟨event, bytes, same, read, nonempty, ?_⟩
    rw [(sendChunk_creates crc32 _ _ _ _).chunks, beforeFile_chunks]
  · intro after stamp _ before
    rw [(sendMarker_creates crc32 after stamp).chunks, List.append_nil]
    exact before

end SenderState

end SelectiveRepeat.Sender
