import SelectiveRepeat.Packet.Corruption
import SelectiveRepeat.Receiver.Acknowledgement

/-!
# Corrupted datagrams at the receiver

A refused datagram is answered and changes nothing else, and a datagram with one
altered byte is refused.
-/

namespace SelectiveRepeat.Receiver

open SelectiveRepeat.Foundations SelectiveRepeat.Packet SelectiveRepeat.Transport

variable (crc32 : List UInt8 → UInt32) (write : ℕ → ℕ → ℤ)

namespace ReceiverState

/-- The slots, the counters and the writes of two states are the same. -/
structure SameData (before after : ReceiverState) : Prop where
  writes : after.writes = before.writes
  seqnum : after.seqnum = before.seqnum
  receiverBuffer : after.receiverBuffer = before.receiverBuffer
  window : after.window = before.window

variable {state : ReceiverState}

theorem handle_of_refused {code : PktStatus} (bad : code ≠ .pktOk) (packet : PktPtr) :
    state.handle crc32 write packet code = state.sendAck crc32 := by
  have outcome := state.handled crc32 write packet code
  generalize state.handle crc32 write packet code = after at outcome ⊢
  cases outcome with
  | refused _ => rfl
  | ignored ok _ => exact absurd ok bad
  | outside ok _ _ _ => exact absurd ok bad
  | buffered ok _ _ _ => exact absurd ok bad
  | failed ok _ _ _ => exact absurd ok bad
  | drained ok _ _ _ => exact absurd ok bad

/-- A refused datagram is acknowledged with what was advertised before. -/
theorem Clear.iterate_refused (clear : state.Clear) (running : state.running = true)
    {bytes : Option Datagram} {past : Memory} {heap : Heap} {pkt : Pkt} {code : PktStatus}
    (decoded : state.decode crc32 bytes past heap = (pkt, code)) (refused : code ≠ .pktOk) :
    state.SameData (state.iterate crc32 write (.readable bytes past heap)) ∧
      (state.iterate crc32 write (.readable bytes past heap)).sent =
        [ackDatagram crc32 state.window state.seqnum] := by
  rw [iterate_readable crc32 write state bytes past heap running decoded,
    handle_of_refused crc32 write refused]
  exact ⟨⟨rfl, rfl, rfl, rfl⟩, (clear.receive crc32 bytes past heap).sendAck_sent crc32⟩

/-- A guarded packet and its CRCs fit the receive buffer. -/
theorem guarded_fits {pkt : Pkt} (guarded : pkt.Guarded) :
    (pkt.wire crc32).length ≤ maxPacketSize := by
  rw [Pkt.length_wire, maxPacketSize]
  rcases guarded with ⟨-, payload, held, same, low, high⟩ | ⟨-, none⟩
  · rw [held, Option.isSome_some, if_pos rfl]
    omega
  · rw [none, Option.isSome_none, if_neg (by decide)]
    omega

theorem decode_altered (state : ReceiverState) (detects : DetectsOneByte crc32) {pkt : Pkt}
    (guarded : pkt.Guarded) {altered : Datagram} (apart : OneApart (pkt.wire crc32) altered)
    (past : Memory) (heap : Heap) :
    (state.decode crc32 (some altered) past heap).2 ≠ .pktOk := by
  rw [decode_some, List.take_of_length_le (apart.length_eq ▸ guarded_fits crc32 guarded)]
  exact pktDecode_of_altered detects guarded apart _ heap pktNew

end ReceiverState

/-- No encoded packet is accepted after one of its bytes was replaced, and the receiver
answers such a datagram with an acknowledgement that repeats its state. -/
theorem corruption_refused (detects : DetectsOneByte crc32) (pkt : Pkt) (guarded : pkt.Guarded)
    (buf : Memory) (capacity position : ℕ) (byte : UInt8) :
    let encoded := pktEncode crc32 pkt buf capacity
    let datagram := encoded.2.1.load 0 encoded.2.2
    ∀ inside : position < datagram.length, byte ≠ datagram[position] →
      let altered := datagram.set position byte
      altered.length = datagram.length ∧
      (∀ (past : Memory) (heap : Heap) (other : Pkt),
        (pktDecode crc32 heap (past.store 0 altered) altered.length other).val.2 ≠ .pktOk) ∧
      (pkt.type = 1 → ∀ (inputs : List ReceiverInput) (past : Memory) (heap : Heap),
        let state := (receiverLoop crc32 write).run inputs
        state.running = true →
        let after := state.iterate crc32 write (.readable (some altered) past heap)
        after.writes = state.writes ∧ after.seqnum = state.seqnum ∧
          after.receiverBuffer = state.receiverBuffer ∧ after.window = state.window ∧
          after.sent = [ackDatagram crc32 state.window state.seqnum]) := by
  intro encoded datagram inside ne altered
  have bytes : datagram = pkt.wire crc32 := by
    have result := pktEncode_eq crc32 pkt buf capacity
    change encoded = _ at result
    change encoded.2.1.load 0 encoded.2.2 = _
    rw [result]
    exact Memory.load_store_same buf 0 _
  have apart : OneApart (pkt.wire crc32) altered := bytes ▸ OneApart.of_set inside ne
  refine ⟨List.length_set, fun past heap other =>
    pktDecode_of_altered detects guarded apart _ _ _, ?_⟩
  intro _ inputs past heap state running after
  have clear := ReceiverState.clear_run crc32 write inputs
  have refused := state.decode_altered crc32 detects guarded apart past heap
  obtain ⟨same, sent⟩ := clear.iterate_refused crc32 write running (Prod.mk.eta.symm) refused
  exact ⟨same.writes, same.seqnum, same.receiverBuffer, same.window, sent⟩

/-- A DATA packet of one byte whose payload was altered, at the start of a run. -/
theorem corruption_refused_byte :
    let encoded := pktEncode zlibCrc32 ⟨31, 0, 1, 0, 1, 0, 0, some [7], 0⟩ (fun _ => 0) 528
    let altered := (encoded.2.1.load 0 encoded.2.2).set 12 8
    (pktDecode zlibCrc32 Heap.plenty (Memory.store (fun _ => 0) 0 altered) altered.length
      pktNew).val.2 ≠ .pktOk ∧
    let state := (receiverLoop zlibCrc32 fun _ count => count).run []
    (state.iterate zlibCrc32 (fun _ count => count)
      (.readable (some altered) (fun _ => 0) Heap.plenty)).sent =
        [ackDatagram zlibCrc32 state.window state.seqnum] := by
  dsimp only
  obtain ⟨-, refused, answered⟩ := corruption_refused zlibCrc32 (fun _ count => count)
    zlibCrc32_detectsOneByte ⟨31, 0, 1, 0, 1, 0, 0, some [7], 0⟩
    (Or.inl ⟨rfl, [7], rfl, rfl, by decide, by decide⟩) (fun _ => 0) 528 12 8
    (by decide) (by decide)
  obtain ⟨-, -, -, -, sent⟩ := answered rfl [] (fun _ => 0) Heap.plenty rfl
  exact ⟨refused (fun _ => 0) Heap.plenty pktNew, sent⟩

end SelectiveRepeat.Receiver
