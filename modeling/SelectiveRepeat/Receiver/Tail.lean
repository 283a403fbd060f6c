import SelectiveRepeat.Receiver.Order
import SelectiveRepeat.Transport.Acknowledgement

/-!
# The end of the receive buffer

Acknowledgements are written to the first 512 bytes of the buffer only.  Where datagrams
are never longer than some length, the bytes behind that length stay zero, and what the
decoder reads there is zero.
-/

namespace SelectiveRepeat.Receiver

open SelectiveRepeat.Foundations SelectiveRepeat.Packet SelectiveRepeat.Transport

variable (crc32 : List UInt8 → UInt32) (write : ℕ → ℕ → ℤ)

/-- A datagram of at most `limit` bytes. -/
def ReceiverInput.Short (limit : ℕ) : ReceiverInput → Prop
  | .readable (some bytes) _ _ => bytes.length ≤ limit
  | _ => True

/-- The memory is zero from `limit` to the end of the buffer. -/
def ZeroFrom (limit : ℕ) (memory : Memory) : Prop :=
  ∀ index, limit ≤ index → index < maxPacketSize → memory index = 0

/-- Bytes that are found behind what was received are zero. -/
theorem zero_of_holds {past : Memory} {limit : ℕ} (zero : ZeroFrom limit past)
    {bytes wire : List UInt8} (short : bytes.length ≤ limit) (fits : wire.length ≤ maxPacketSize)
    (holds : (past.store 0 bytes).Holds 0 wire) : ∀ byte ∈ wire.drop limit, byte = 0 := by
  intro byte member
  obtain ⟨index, less, same⟩ := List.mem_iff_getElem.mp member
  have inside : limit + index < wire.length := by
    rw [List.length_drop] at less
    omega
  have found : wire[limit + index] = (past.store 0 bytes) (limit + index) := by
    conv_lhs => rw [getElem_congr_coll holds.symm]
    simp [Memory.load]
  rw [← same, List.getElem_drop, found, Memory.store_outside _ _ _ (Or.inr (by omega))]
  exact zero _ (by omega) (by omega)

/-- Zeros that were cut off are found there. -/
theorem holds_of_zero {past : Memory} {limit : ℕ} (zero : ZeroFrom limit past)
    {wire : List UInt8} (fits : wire.length ≤ maxPacketSize)
    (uncut : ∀ byte ∈ wire.drop limit, byte = 0) :
    (past.store 0 (wire.take limit)).Holds 0 wire := by
  have both : (past.store 0 (wire.take limit)).Holds 0 (wire.take limit ++ wire.drop limit) := by
    refine Memory.holds_append.mpr ⟨Memory.holds_store _ _ _, ?_⟩
    rw [List.eq_replicate_iff.mpr ⟨rfl, uncut⟩, Memory.Holds, List.length_replicate]
    refine Memory.load_eq_replicate fun index inside => ?_
    rw [List.length_drop] at inside
    rw [List.length_take, Memory.store_outside _ _ _ (Or.inr (by rw [List.length_take]; omega))]
    exact zero _ (by omega) (by omega)
  rwa [List.take_append_drop] at both

/-- An accepted datagram was decoded with zeros behind `limit`. -/
def Reception.ZeroPadded (limit : ℕ) (reception : Reception) : Prop :=
  reception.code = .pktOk → ∃ datagram past, reception.bytes = some datagram ∧
    ZeroFrom limit past ∧
    (pktDecode crc32 reception.heap (Memory.store past 0 (datagram.take maxPacketSize))
      (datagram.take maxPacketSize).length pktNew).val = (reception.pkt, .pktOk)

namespace ReceiverState

variable {state : ReceiverState} {limit : ℕ}

theorem sendAck_buffer (state : ReceiverState) {index : ℕ} (outside : maxPayloadSize ≤ index) :
    (state.sendAck crc32).buffer index = state.buffer index := by
  have encoded : (state.sendAck crc32).buffer =
      (pktEncode crc32 (ackPkt state.window state.seqnum) state.buffer state.len).2.1.memset 0
        maxPayloadSize := rfl
  rw [encoded, pktEncode_eq, Memory.memset, if_neg (by omega)]
  refine Memory.store_outside _ _ _ (Or.inr ?_)
  rw [length_wire_ackPkt]
  exact (by decide : 0 + 12 ≤ maxPayloadSize).trans outside

theorem handle_buffer (state : ReceiverState) (packet : PktPtr) (code : PktStatus) {index : ℕ}
    (outside : maxPayloadSize ≤ index) :
    (state.handle crc32 write packet code).buffer index = state.buffer index := by
  have outcome := state.handled crc32 write packet code
  generalize state.handle crc32 write packet code = after at outcome ⊢
  cases outcome with
  | refused bad => exact sendAck_buffer crc32 state outside
  | ignored ok other => rfl
  | outside ok data unexpected out => exact sendAck_buffer crc32 state outside
  | buffered ok data unexpected inside =>
      rw [sendAck_buffer crc32 _ outside, storePacket_frame]
  | failed ok data expected error => rfl
  | drained ok data expected success =>
      rw [sendAck_buffer crc32 _ outside, drain_frame]
      rfl

/-- A short datagram leaves the end of the buffer as it is, or clears it. -/
theorem receive_zeroFrom (zero : ZeroFrom limit state.buffer) {bytes : Option Datagram}
    {past : Memory} {heap : Heap} (short : (ReceiverInput.readable bytes past heap).Short limit) :
    ZeroFrom limit (state.receive crc32 bytes past heap).buffer := by
  intro index low high
  have cleared : (state.receive crc32 bytes past heap).buffer =
      (state.recvfrom bytes).1.memset 0 state.len := rfl
  rw [cleared, Memory.memset]
  split
  · rfl
  · cases bytes with
    | none => exact zero index low high
    | some bytes =>
        have least : (bytes.take maxPacketSize).length ≤ bytes.length := List.length_take_le' _ _
        have fits : bytes.length ≤ limit := short
        exact (Memory.store_outside _ _ _ (Or.inr (by omega))).trans (zero index low high)

theorem zeroFrom_iterate (small : maxPayloadSize ≤ limit) (zero : ZeroFrom limit state.buffer)
    {input : ReceiverInput} (short : input.Short limit) :
    ZeroFrom limit (state.iterate crc32 write input).buffer := by
  refine state.iterate_preserves crc32 write
    (motive := fun after => ZeroFrom limit after.buffer) ?_ input ?_ zero
  · intro sent running before
    exact before
  · rintro bytes past heap pkt code rfl running decoded before index low high
    rw [handle_buffer crc32 write _ _ _ (small.trans low)]
    exact receive_zeroFrom crc32 before short index low high

theorem zeroFrom_run (small : maxPayloadSize ≤ limit) {inputs : List ReceiverInput}
    (short : (receiverLoop crc32 write).Along (fun _ input => input.Short limit) .start inputs) :
    ZeroFrom limit ((receiverLoop crc32 write).run inputs).buffer :=
  (receiverLoop crc32 write).invariant_along (motive := fun state => ZeroFrom limit state.buffer)
    (fun _ _ _ => rfl) (fun _ _ zero short => zeroFrom_iterate crc32 write small zero short) short

theorem zeroPadded_decode (clear : state.Clear) (zero : ZeroFrom limit state.buffer)
    {bytes : Option Datagram} {past : Memory} {heap : Heap} {pkt : Pkt} {code : PktStatus}
    (decoded : state.decode crc32 bytes past heap = (pkt, code)) :
    Reception.ZeroPadded crc32 limit ⟨bytes, past, heap, pkt, code⟩ := by
  intro ok
  dsimp only at ok ⊢
  subst ok
  cases bytes with
  | none =>
      have refused := clear.decode_none crc32 past heap
      rw [decoded] at refused
      exact absurd rfl refused
  | some datagram =>
      rw [state.decode_some] at decoded
      refine ⟨datagram, _, rfl, fun index low high => ?_, decoded⟩
      rw [followedBy, if_pos high]
      exact zero index low high

theorem zeroPadded_run (small : maxPayloadSize ≤ limit) {inputs : List ReceiverInput}
    (short : (receiverLoop crc32 write).Along (fun _ input => input.Short limit) .start inputs) :
    ∀ reception ∈ ((receiverLoop crc32 write).run inputs).receptions,
      reception.ZeroPadded crc32 limit := by
  have all := (receiverLoop crc32 write).invariant_along (motive := fun state => state.Clear ∧
    ZeroFrom limit state.buffer ∧ ∀ reception ∈ state.receptions,
      reception.ZeroPadded crc32 limit) ?_ ?_ short
  · exact all.2.2
  · exact ⟨clear_start, fun _ _ _ => rfl, fun reception member => absurd member List.not_mem_nil⟩
  · rintro state input ⟨clear, zero, padded⟩ short
    refine ⟨clear_iterate crc32 write clear input, zeroFrom_iterate crc32 write small zero short, ?_⟩
    refine state.iterate_preserves crc32 write (motive := fun after =>
      ∀ reception ∈ after.receptions, reception.ZeroPadded crc32 limit) ?_ input ?_ padded
    · intro sent running before
      exact before
    · intro bytes past heap pkt code _ running decoded before reception member
      rw [handle_receptions, receive, decoded, List.mem_append, List.mem_singleton] at member
      rcases member with old | rfl
      · exact before reception old
      · exact zeroPadded_decode crc32 clear zero decoded

end ReceiverState

end SelectiveRepeat.Receiver
