import SelectiveRepeat.Packet.RoundTrip
import SelectiveRepeat.Receiver.Step

/-!
# The receive buffer

Received datagrams and acknowledgements pass through one buffer, cleared with a
length that is 528 at first and 512 afterwards.  Its first 512 bytes are zero
between two iterations, so a failed `recvfrom` never yields a packet.
-/

namespace SelectiveRepeat.Receiver

open SelectiveRepeat.Foundations SelectiveRepeat.Packet SelectiveRepeat.Transport

namespace ReceiverState

variable (crc32 : List UInt8 → UInt32) (write : ℕ → ℕ → ℤ)

/-- The part of the buffer that an acknowledgement is sent from is zero. -/
structure Clear (state : ReceiverState) : Prop where
  zero : ∀ index < maxPayloadSize, state.buffer index = 0
  len : maxPayloadSize ≤ state.len

variable {state : ReceiverState}

theorem clear_start : start.Clear :=
  ⟨fun _ _ => rfl, by decide⟩

theorem Clear.receive (clear : state.Clear) (bytes : Option Datagram) (past : Memory)
    (heap : Heap) : (state.receive crc32 bytes past heap).Clear :=
  ⟨fun _ inside => Memory.memset_inside _ _ (inside.trans_le clear.len), clear.len⟩

theorem clear_sendAck (state : ReceiverState) : (state.sendAck crc32).Clear :=
  ⟨fun _ inside => Memory.memset_inside _ _ inside, Nat.le_refl _⟩

theorem Clear.handle (clear : state.Clear) (packet : PktPtr) (code : PktStatus) :
    (state.handle crc32 write packet code).Clear := by
  have outcome := state.handled crc32 write packet code
  generalize state.handle crc32 write packet code = after at outcome ⊢
  cases outcome with
  | refused bad => exact clear_sendAck crc32 _
  | ignored ok other => exact clear
  | outside ok data unexpected out => exact clear_sendAck crc32 _
  | buffered ok data unexpected inside => exact clear_sendAck crc32 _
  | failed ok data expected error => exact ⟨clear.zero, clear.len⟩
  | drained ok data expected success => exact clear_sendAck crc32 _

theorem clear_iterate (clear : state.Clear) (input : ReceiverInput) :
    (state.iterate crc32 write input).Clear := by
  refine state.iterate_preserves crc32 write (motive := Clear) ?_ input ?_ clear
  · intro sent running before
    exact ⟨before.zero, before.len⟩
  · intro bytes past heap pkt code _ running decoded before
    exact (before.receive crc32 bytes past heap).handle crc32 write _ code

theorem clear_run (inputs : List ReceiverInput) : ((receiverLoop crc32 write).run inputs).Clear :=
  (receiverLoop crc32 write).invariant clear_start
    (fun _ input before => clear_iterate crc32 write before input) inputs

/-! ## What is decoded -/

theorem decode_some (state : ReceiverState) (datagram : Datagram) (past : Memory) (heap : Heap) :
    state.decode crc32 (some datagram) past heap =
      (pktDecode crc32 heap
        ((followedBy state.buffer past).store 0 (datagram.take maxPacketSize))
        (datagram.take maxPacketSize).length pktNew).val := by
  rw [← followedBy_fill]
  rfl

/-- A datagram of the wire format is received whole. -/
theorem wire_fits {pkt : Pkt} (shaped : pkt.Encodable ∨ (pkt.payload = none ∧ pkt.length = 0)) :
    (pkt.wire crc32).length ≤ maxPacketSize := by
  have bare : pkt.payload = none → (pkt.wire crc32).length ≤ maxPacketSize := by
    intro held
    rw [Pkt.length_wire, held, Option.isSome_none, if_neg (by decide)]
    decide
  rcases shaped with encodable | ⟨held, -⟩
  · rcases encodable.payload with ⟨payload, held, same, low, high⟩ | ⟨held, -⟩
    · rw [Pkt.length_wire, maxPacketSize, held, Option.isSome_some, if_pos rfl]
      omega
    · exact bare held
  · exact bare held

/-- A datagram of the wire format is decoded to its packet. -/
theorem decode_wire (state : ReceiverState) {pkt : Pkt} (encodable : pkt.Encodable)
    (past : Memory) :
    state.decode crc32 (some (pkt.wire crc32)) past Heap.plenty = (pkt.onWire crc32, .pktOk) := by
  rw [decode_some, List.take_of_length_le (wire_fits crc32 (Or.inl encodable))]
  exact pktDecode_wire crc32 (Memory.holds_store _ 0 _) encodable fun _ => ⟨rfl, rfl⟩

/-- A DATA packet without payload is refused. -/
theorem decode_bare (state : ReceiverState) {pkt : Pkt} (data : pkt.type = 1)
    (held : pkt.payload = none) (bare : pkt.length = 0) (past : Memory) (heap : Heap) :
    (state.decode crc32 (some (pkt.wire crc32)) past heap).2 ≠ .pktOk := by
  rw [decode_some, List.take_of_length_le (wire_fits crc32 (Or.inr ⟨held, bare⟩))]
  exact pktDecode_wire_bare crc32 (Memory.holds_store _ 0 _) data bare heap _ _

/-- After a failed `recvfrom` the cleared buffer is decoded and refused. -/
theorem Clear.decode_none (clear : state.Clear) (past : Memory) (heap : Heap) :
    (state.decode crc32 none past heap).2 ≠ .pktOk := by
  have zeros : (followedBy state.buffer past).load 0 12 = List.replicate 12 0 := by
    refine Memory.load_eq_replicate fun index inside => ?_
    rw [followedBy, if_pos (by unfold maxPacketSize; omega)]
    exact clear.zero _ (by unfold maxPayloadSize; omega)
  have typeless : (headerOf (followedBy state.buffer past)).type = 0 := by
    rw [headerOf, zeros]
    rfl
  exact (pktDecode_of_refused crc32 heap _ _ fun accepted => accepted.type typeless).1

end ReceiverState

/-- A packet that was decoded and accepted, with the datagram it was decoded from. -/
def Reception.Genuine (crc32 : List UInt8 → UInt32) (reception : Reception) : Prop :=
  reception.code = .pktOk → ∃ datagram past, reception.bytes = some datagram ∧
    (pktDecode crc32 reception.heap (Memory.store past 0 (datagram.take maxPacketSize))
      (datagram.take maxPacketSize).length pktNew).val = (reception.pkt, .pktOk)

theorem ReceiverState.Clear.genuine (crc32 : List UInt8 → UInt32) {state : ReceiverState}
    (clear : state.Clear) {bytes : Option Datagram} {past : Memory} {heap : Heap} {pkt : Pkt}
    {code : PktStatus} (decoded : state.decode crc32 bytes past heap = (pkt, code)) :
    Reception.Genuine crc32 ⟨bytes, past, heap, pkt, code⟩ := by
  intro ok
  dsimp only at ok ⊢
  subst ok
  cases bytes with
  | none =>
      have refused := clear.decode_none crc32 past heap
      rw [decoded] at refused
      exact absurd rfl refused
  | some datagram =>
      rw [state.decode_some] at decoded
      exact ⟨datagram, _, rfl, decoded⟩

end SelectiveRepeat.Receiver
