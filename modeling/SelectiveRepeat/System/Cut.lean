import SelectiveRepeat.System.Relayed

/-!
# Packets that are never accepted

A packet of 509 to 512 payload bytes is longer than the simulator's buffer, which loses
the last bytes of its payload CRC.  The receiver reads zeros there instead.  Unless the
lost bytes were zero, no copy of the packet is accepted, just as no packet without payload
is, and nothing behind the packet is written.
-/

namespace SelectiveRepeat.System

open SelectiveRepeat.Foundations SelectiveRepeat.Packet SelectiveRepeat.Transport
open SelectiveRepeat.Receiver SelectiveRepeat.Sender SelectiveRepeat.LinkSim

variable (crc32 : List UInt8 → UInt32)

/-- Of the datagram for a chunk, the simulator cuts off zeros only. -/
def Uncut (chunk : List UInt8) : Prop :=
  ∀ byte ∈ (chunk ++ leBytes 4 (htonl (crc32 chunk)).toNat).drop 512, byte = 0

/-- A chunk that leaves room for its CRC is not cut. -/
theorem uncut_of_le {chunk : List UInt8} (small : chunk.length ≤ 508) : Uncut crc32 chunk := by
  intro byte member
  rw [List.drop_of_length_le (by simp; omega)] at member
  exact absurd member List.not_mem_nil

/-- What is cut off lies behind the header. -/
theorem drop_wire {pkt : Pkt} {chunk : List UInt8} (payload : pkt.payload = some chunk)
    (length : chunk.length = pkt.length.toNat) :
    (pkt.wire crc32).drop maxPktLen = (chunk ++ leBytes 4 (htonl (crc32 chunk)).toNat).drop 512 := by
  have wire : pkt.wire crc32 =
      header crc32 pkt ++ (chunk ++ leBytes 4 (htonl (crc32 chunk)).toNat) := by
    have block := Pkt.block_eq length
    rw [Pkt.wire, Pkt.body, payload]
    dsimp only
    rw [block]
    rfl
  rw [wire, List.drop_append, length_header, List.drop_of_length_le (by simp [maxPktLen]),
    List.nil_append]
  rfl

theorem uncut_iff {pkt : Pkt} (encodable : pkt.Encodable) {chunk : List UInt8}
    (payload : pkt.payload = some chunk) :
    Uncut crc32 chunk ↔ ∀ byte ∈ (pkt.wire crc32).drop maxPktLen, byte = 0 := by
  rcases encodable.payload with ⟨other, held, length, -, -⟩ | ⟨held, -⟩
  · obtain rfl := Option.some.inj (payload.symm.trans held)
    rw [drop_wire crc32 payload length, Uncut]
  · rw [payload] at held
    cases held

/-- The packet carries a chunk that is not cut. -/
def Deliverable (pkt : Pkt) : Prop :=
  ∃ chunk, pkt.payload = some chunk ∧ Uncut crc32 chunk

/-- The receiver finds the zeros that were cut off in its buffer. -/
theorem decode_cut {state : ReceiverState} (zero : ZeroFrom maxPktLen state.buffer) {pkt : Pkt}
    (encodable : pkt.Encodable) (deliverable : Deliverable crc32 pkt) (past : Memory) :
    state.decode crc32 (some ((pkt.wire crc32).take maxPktLen)) past Heap.plenty =
      (pkt.onWire crc32, .pktOk) := by
  obtain ⟨chunk, payload, uncut⟩ := deliverable
  have fits := ReceiverState.wire_fits crc32 (Or.inl encodable)
  have behind : ZeroFrom maxPktLen (followedBy state.buffer past) := by
    intro index low high
    rw [followedBy, if_pos high]
    exact zero index low high
  have holds := holds_of_zero behind fits ((uncut_iff crc32 encodable payload).mp uncut)
  rw [ReceiverState.decode_some, List.take_take, min_eq_right (by decide), pktDecode_take]
  exact pktDecode_wire crc32 holds encodable fun _ => ⟨rfl, rfl⟩

/-! ## In every run -/

variable {crc32} {relay : Relay} {state : RelayState}

/-- What is written was deliverable. -/
theorem Sound.deliverable (sound : Sound crc32 relay state) (intact : Intact crc32 relay) {k : ℕ}
    {call : WriteCall} (found : state.receiver.writes[k]? = some call) :
    ∃ (j : ℕ) (pkt : Pkt), state.sender.created[j]? = some pkt ∧ pkt.Encodable ∧
      call.packet.pkt = pkt.onWire crc32 ∧ Deliverable crc32 pkt := by
  obtain ⟨inputs, along, reached⟩ := sound.receiver
  have owned := ReceiverState.owned_run crc32 fullWrite inputs
  have padded := ReceiverState.zeroPadded_run crc32 fullWrite (by decide) along
  rw [← reached] at owned padded
  obtain ⟨reception, recorded, ok, decoded, data⟩ := owned.decoded (.inr k) call.packet (by
    rw [ReceiverState.place, found]
    rfl)
  have member := List.mem_of_getElem? recorded
  obtain ⟨plenty, bytes, received, sent, inside, relays⟩ := sound.decoded reception member
  obtain ⟨datagram, past, same, zero, accepted⟩ := padded reception member ok
  rw [received, Option.some.injEq] at same
  subst same
  have fits : bytes.length ≤ maxPacketSize := relays.length_le.trans (by decide)
  rw [List.take_of_length_le fits, plenty, decoded] at accepted
  rcases sound.header_of_sent inside with ⟨j, pkt, created, rfl⟩ | ⟨window, a, -, rest, rfl⟩
  · have member := List.mem_of_getElem? created
    have data := sound.composed.data pkt member
    have whole : relay.link.errRate = 0 ∨
        DetectsOneByte crc32 ∧ (pkt.wire crc32).length ≤ maxPktLen :=
      intact.imp_right fun both => ⟨both.1, sound.wire_le both.2 member⟩
    obtain ⟨encodable, same, holds⟩ :=
      relays.accepted data (sound.composed.shaped pkt member) whole accepted
    obtain ⟨chunk, payload, -⟩ := encodable.payload.resolve_right fun other => other.2 data
    have zeros := zero_of_holds zero relays.length_le
      (ReceiverState.wire_fits crc32 (Or.inl encodable)) holds
    exact ⟨j, pkt, created, encodable, same, chunk, payload,
      (uncut_iff crc32 encodable payload).mpr zeros⟩
  · have fields := relays.fields_kept (Sound.detects intact) accepted
    rw [data] at fields
    exact absurd (show (1 : BitVec 2) = 2 from fields.1) (by decide)

/-- The packet with the number of a write was deliverable. -/
theorem Sound.deliverable_of_lt (sound : Sound crc32 relay state) (intact : Intact crc32 relay)
    (short : state.sender.created.length ≤ 255) {k : ℕ} (less : k < state.receiver.writes.length)
    {pkt : Pkt} (created : state.sender.created[k]? = some pkt) : Deliverable crc32 pkt := by
  have at_ := List.getElem?_eq_getElem less
  obtain ⟨j, written, found, encodable, same, deliverable⟩ := sound.deliverable intact at_
  have here := sound.written intact short at_
  have there : state.sender.Origin crc32 j state.receiver.writes[k].packet.pkt :=
    ⟨written, found, encodable, same⟩
  have numbers := (sound.books.origin_numbered crc32 here).symm.trans
    (sound.books.origin_numbered crc32 there)
  have least := here.lt
  have most := there.lt
  obtain rfl : k = j := by omega
  obtain rfl := Option.some.inj (created.symm.trans found)
  exact deliverable

/-- A sender that has met the end of the file has all its packets written. -/
theorem Sound.all_written (sound : Sound crc32 relay state)
    (finished : state.sender.exit = some .endOfFile) {k : ℕ}
    (created : k < state.sender.created.length) : k < state.receiver.writes.length :=
  sound.freed k (sound.books.freed_of_empty (sound.books.empty_of_size (sound.ended finished)) k
    created)

/-- Nothing from an undeliverable packet on is ever written, and the sender never leaves its
loop at the end of the file, however often the packets are sent again. -/
theorem blocked_by_undeliverable (intact : Intact crc32 relay) (actions : List RelayAction)
    (short : ((relayed crc32 relay).run actions).sender.created.length ≤ 255) {k : ℕ} {pkt : Pkt}
    (created : ((relayed crc32 relay).run actions).sender.created[k]? = some pkt)
    (undeliverable : ¬ Deliverable crc32 pkt) :
    ((relayed crc32 relay).run actions).receiver.writes.length ≤ k ∧
      ((relayed crc32 relay).run actions).sender.exit ≠ some .endOfFile := by
  have sound := sound_run intact actions short
  generalize (relayed crc32 relay).run actions = state at short created sound ⊢
  have before : state.receiver.writes.length ≤ k := by
    by_contra later
    exact undeliverable (sound.deliverable_of_lt intact short (by omega) created)
  refine ⟨before, fun finished => ?_⟩
  have written := sound.all_written finished (List.getElem?_eq_some_iff.mp created).1
  omega

/-- A file that is not readable at once gets a marker first.  The marker and the chunk behind it
are relayed, taken by the receiver, and sent again. -/
def markerFirst : List RelayAction :=
  [.sender none none 0 0 fun _ => 0, look,
    .link (some (.whole 1)) (some (.data 0)) .spares true true,
    .link (some (.whole 12)) (some (.data 1)) .spares true true,
    .link (some (.whole 23)) none .spares true true, .receiver 0 fun _ => 0,
    .receiver 1 fun _ => 0, .sender none none 3 3 fun _ => 0]

/-- The marker is refused, and the chunk is accepted and not written. -/
theorem blocked_by_undeliverable_marker :
    let state := (relayed zlibCrc32 (noisyRelay threeBytes)).run markerFirst
    (state.receiver.receptions.map Reception.code = [.eLength, .pktOk] ∧
      state.data.length = 4) ∧
      state.receiver.writes.length ≤ 0 ∧ state.sender.exit ≠ some .endOfFile := by
  have bare : ((relayed zlibCrc32 (noisyRelay threeBytes)).run
      markerFirst).sender.created[0]?.map Pkt.payload = some none := by decide +kernel
  obtain ⟨marker, created, payload⟩ := Option.map_eq_some_iff.mp bare
  refine ⟨by decide +kernel, blocked_by_undeliverable (intact_noisyRelay (by decide)) _
    (by decide +kernel) created ?_⟩
  rintro ⟨chunk, held, -⟩
  rw [payload] at held
  cases held

end SelectiveRepeat.System
