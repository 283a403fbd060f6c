import SelectiveRepeat.Receiver.InOrder
import SelectiveRepeat.Transport.Acknowledgement

/-!
# What the receiver sends

The receive buffer is clear when an acknowledgement is encoded into it, so each of
the 512 bytes sent is known, and its fields are the ones of the state the iteration
ends in.
-/

namespace SelectiveRepeat.Receiver

open SelectiveRepeat.Foundations SelectiveRepeat.Packet SelectiveRepeat.Transport

variable (crc32 : List UInt8 → UInt32) (write : ℕ → ℕ → ℤ)

/-! ## What is sent -/

namespace ReceiverState

variable {state : ReceiverState}

/-- Out of a clear buffer the encoded header is sent with zeros behind it. -/
theorem Clear.sendAck_sent (clear : state.Clear) :
    (state.sendAck crc32).sent = state.sent ++ [ackDatagram crc32 state.window state.seqnum] := by
  have encoded : (state.sendAck crc32).sent = state.sent ++
      [(pktEncode crc32 (ackPkt state.window state.seqnum) state.buffer state.len).2.1.load
        0 maxPayloadSize] := rfl
  have length := length_wire_ackPkt crc32 state.window state.seqnum
  have header := Memory.load_store_same state.buffer 0 ((ackPkt state.window state.seqnum).wire crc32)
  rw [length] at header
  have zeros : (state.buffer.store 0 ((ackPkt state.window state.seqnum).wire crc32)).load 12 500 =
      List.replicate 500 0 := by
    rw [Memory.load_store_outside _ _ _ (Or.inr (by omega))]
    exact Memory.load_eq_replicate fun index inside =>
      clear.zero _ (by unfold maxPayloadSize; omega)
  have split : (state.buffer.store 0 ((ackPkt state.window state.seqnum).wire crc32)).load
      0 maxPayloadSize = ackDatagram crc32 state.window state.seqnum := by
    rw [show maxPayloadSize = 12 + 500 from rfl, Memory.load_add, header, zeros, ackDatagram]
  rw [encoded, pktEncode_eq, split]

theorem Clear.storePacket (clear : state.Clear) (packet : PktPtr) :
    (state.storePacket packet).Clear ∧ (state.storePacket packet).sent = state.sent := by
  rw [state.storePacket_frame packet]
  exact ⟨⟨clear.zero, clear.len⟩, rfl⟩

/-- Whatever an iteration sent describes the state it ended in. -/
def Answered (state : ReceiverState) : Prop :=
  ∀ datagram ∈ state.sent, datagram = ackDatagram crc32 state.window state.seqnum

theorem answered_of_silent (silent : state.sent = []) : state.Answered crc32 := by
  intro datagram member
  rw [silent] at member
  cases member

theorem Clear.answered_sendAck (clear : state.Clear) (quiet : state.sent = []) :
    (state.sendAck crc32).Answered crc32 := by
  intro datagram member
  rw [clear.sendAck_sent, quiet] at member
  exact List.mem_singleton.mp member

theorem Clear.answered_handle (clear : state.Clear) (quiet : state.sent = []) (packet : PktPtr)
    (code : PktStatus) : (state.handle crc32 write packet code).Answered crc32 := by
  have outcome := state.handled crc32 write packet code
  generalize state.handle crc32 write packet code = after at outcome ⊢
  cases outcome with
  | refused bad => exact clear.answered_sendAck crc32 quiet
  | ignored ok other => exact answered_of_silent crc32 quiet
  | outside ok data unexpected out => exact clear.answered_sendAck crc32 quiet
  | buffered ok data unexpected inside =>
      obtain ⟨stillClear, sameSent⟩ := clear.storePacket packet
      exact stillClear.answered_sendAck crc32 (sameSent.trans quiet)
  | failed ok data expected error => exact answered_of_silent crc32 quiet
  | drained ok data expected success =>
      have accepted : (state.accept write packet).Clear := ⟨clear.zero, clear.len⟩
      rw [drain_frame write (state.accept write packet) 0]
      exact Clear.answered_sendAck crc32 ⟨accepted.zero, accepted.len⟩ quiet

theorem answered_iterate (clear : state.Clear) (input : ReceiverInput) :
    (state.iterate crc32 write input).Answered crc32 := by
  cases running : state.running with
  | false =>
      refine answered_of_silent crc32 ?_
      simp [iterate, running]
  | true =>
      cases input with
      | pollEnds =>
          refine answered_of_silent crc32 ?_
          simp [iterate, running]
      | notReadable =>
          refine answered_of_silent crc32 ?_
          simp [iterate, running]
      | readable bytes past heap =>
          rw [iterate_readable crc32 write state bytes past heap running rfl]
          exact (clear.receive crc32 bytes past heap).answered_handle crc32 write rfl _ _

theorem answered_run (inputs : List ReceiverInput) :
    ((receiverLoop crc32 write).run inputs).Answered crc32 := by
  induction inputs using List.reverseRecOn with
  | nil => exact answered_of_silent crc32 rfl
  | append_singleton inputs input _ =>
      rw [Machine.run_concat]
      exact answered_iterate crc32 write (clear_run crc32 write inputs) input

end ReceiverState

/-- Every datagram the receiver sends is an acknowledgement that the sender accepts, with
the number of writes and the number of free slots. -/
theorem ack_agreement (inputs : List ReceiverInput) (empty : crc32 [] = 0) (heap : Heap)
    (mallocZero : heap.malloc 0 = true) :
    let state := (receiverLoop crc32 write).run inputs
    ∀ datagram ∈ state.sent, datagram.length = 512 ∧
      ∀ (past : Memory) (ack : Pkt),
        let decoded := (pktDecode crc32 heap (past.store 0 datagram) datagram.length ack).val
        decoded.2 = .pktOk ∧ pktGetType decoded.1 = PType.ptypeAck.value ∧
        pktGetTr decoded.1 = 0 ∧
        (pktGetSeqnum decoded.1).toNat = state.writes.length % 256 ∧
        (pktGetWindow decoded.1).toNat = state.receiverBuffer.free := by
  intro state datagram member
  have same := ReceiverState.answered_run crc32 write inputs datagram member
  subst same
  refine ⟨length_ackDatagram crc32 _ _, fun past ack => ?_⟩
  obtain ⟨ok, type, tr, seqnum, window⟩ :=
    pktDecode_ackDatagram crc32 empty mallocZero state.window state.seqnum past ack
  have accounted := ReceiverState.accounted_run crc32 write inputs
  have bound := accounted.window_le
  refine ⟨ok, (pktGetType_eq_ack _).mpr type, ?_, ?_, ?_⟩
  · rw [pktGetTr, tr]
    rfl
  · rw [pktGetSeqnum, seqnum]
    exact (ReceiverState.ordered_run crc32 write inputs).expected
  · rw [pktGetWindow, window, ← accounted.window_eq_free, BitVec.toNat_ofNat, UInt8.toNat_ofNat']
    unfold windowSize at bound
    have small : state.window.toNat ≤ 31 := bound
    change _ = state.window.toNat
    omega

/-- The answer to the first packet of a stream, which has been written then. -/
theorem ack_agreement_written :
    let state := (receiverLoop zlibCrc32 fullWrite).run [roundArrival 0]
    state.writes.length = 1 ∧ state.sent ≠ [] ∧
      ∀ datagram ∈ state.sent, datagram.length = 512 ∧
        ∀ (past : Memory) (ack : Pkt),
          let decoded := (pktDecode zlibCrc32 Heap.plenty (past.store 0 datagram) datagram.length
            ack).val
          decoded.2 = .pktOk ∧ pktGetType decoded.1 = PType.ptypeAck.value ∧
          pktGetTr decoded.1 = 0 ∧
          (pktGetSeqnum decoded.1).toNat = state.writes.length % 256 ∧
          (pktGetWindow decoded.1).toNat = state.receiverBuffer.free := by
  intro state
  have run : state = ReceiverState.start.iterate zlibCrc32 fullWrite (roundArrival 0) := by
    simp only [state, Machine.run, Machine.runFrom_cons, Machine.runFrom_nil, receiverLoop_start,
      receiverLoop_step]
  have start : At zlibCrc32 roundStream 0 Slots.empty .start := At.start
  have written := start.wrote (fun _ _ held => by cases held) fun _ => 0
  obtain ⟨middle, -, answers⟩ := start.iterate_expected fun _ => 0
  refine ⟨?_, ?_, ack_agreement zlibCrc32 fullWrite [roundArrival 0] zlibCrc32_nil Heap.plenty rfl⟩
  · rw [run]
    exact written.count
  · rw [run, answers]
    exact List.append_ne_nil_of_right_ne_nil _ (List.cons_ne_nil _ _)

end SelectiveRepeat.Receiver
