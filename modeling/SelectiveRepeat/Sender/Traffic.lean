import SelectiveRepeat.Sender.Bookkeeping
import SelectiveRepeat.Transport.Acknowledgement

/-!
# What the sender creates and sends

Every packet created is a DATA packet with its chunk as payload, or the marker, and
every datagram sent is the datagram of a packet created: the newest one, or one that
is held and due.
-/

namespace SelectiveRepeat.Sender

open SelectiveRepeat.Foundations SelectiveRepeat.Packet SelectiveRepeat.Transport

namespace SenderState

variable (crc32 : List UInt8 → UInt32) (tmSec : ℕ → UInt32) (stdin : Bool)

/-! ## The packets created -/

/-- The packets created carry the chunks read, and the others carry nothing. -/
structure Composed (state : SenderState) : Prop where
  data : ∀ pkt ∈ state.created, pkt.type = 1
  shaped : ∀ pkt ∈ state.created, pkt.Encodable ∨ (pkt.payload = none ∧ pkt.length = 0)
  chunks : state.created.filterMap Pkt.payload = state.chunks

variable {state : SenderState}

theorem composed_start : start.Composed :=
  ⟨fun _ member => absurd member List.not_mem_nil, fun _ member => absurd member List.not_mem_nil,
    rfl⟩

/-- With memory for its payload the packet of a chunk is encodable. -/
theorem chunkPkt_plenty (state : SenderState) (chunk : List UInt8) (stamp : UInt32)
    (nonempty : 0 < chunk.length) (fits : chunk.length ≤ maxPayloadSize) :
    (state.chunkPkt chunk stamp Heap.plenty).payload = some chunk ∧
      (state.chunkPkt chunk stamp Heap.plenty).type = 1 ∧
      (state.chunkPkt chunk stamp Heap.plenty).Encodable := by
  unfold maxPayloadSize at fits
  have length : (UInt16.ofNat chunk.length).toNat = chunk.length := by
    rw [UInt16.toNat_ofNat_of_lt']
    exact fits.trans_lt (by decide)
  have payload : (state.chunkPkt chunk stamp Heap.plenty).payload = some chunk := by
    change some (chunk.take (UInt16.ofNat chunk.length).toNat) = some chunk
    rw [length, List.take_length]
  have type : (state.chunkPkt chunk stamp Heap.plenty).type = 1 := rfl
  refine ⟨payload, type, Or.inl type, fun _ => type, Or.inl ⟨chunk, payload, ?_, nonempty, fits⟩⟩
  exact length.symm

theorem Composed.frame (composed : state.Composed) {after : SenderState}
    (created : after.created = state.created) (chunks : after.chunks = state.chunks) :
    after.Composed := by
  refine ⟨?_, ?_, ?_⟩
  · rw [created]
    exact composed.data
  · rw [created]
    exact composed.shaped
  · rw [created, chunks]
    exact composed.chunks

/-- One packet more, with the chunk it carries if it carries one. -/
theorem Composed.creates (composed : state.Composed) {after : SenderState} {pkt : Pkt}
    (type : pkt.type = 1) (shaped : pkt.Encodable ∨ (pkt.payload = none ∧ pkt.length = 0))
    (creates : Creates crc32 pkt pkt.payload.toList state after) : after.Composed := by
  refine ⟨fun other member => ?_, fun other member => ?_, ?_⟩
  · rw [creates.created] at member
    rcases List.mem_append.mp member with old | new
    · exact composed.data other old
    · rw [List.mem_singleton.mp new]
      exact type
  · rw [creates.created] at member
    rcases List.mem_append.mp member with old | new
    · exact composed.shaped other old
    · rw [List.mem_singleton.mp new]
      exact shaped
  · rw [creates.created, creates.chunks, List.filterMap_append, composed.chunks]
    cases held : pkt.payload with
    | none => rw [List.filterMap_cons_none held, List.filterMap_nil, Option.toList_none]
    | some payload => rw [List.filterMap_cons_some held, List.filterMap_nil, Option.toList_some]

theorem Composed.sendChunk (composed : state.Composed) {chunk : List UInt8} (stamp : UInt32)
    (nonempty : 0 < chunk.length) (fits : chunk.length ≤ maxPayloadSize) :
    (state.sendChunk crc32 chunk stamp Heap.plenty).Composed := by
  have creates := sendChunk_creates crc32 state chunk stamp Heap.plenty
  obtain ⟨payload, type, encodable⟩ := state.chunkPkt_plenty chunk stamp nonempty fits
  refine composed.creates crc32 type (Or.inl encodable) ?_
  rw [payload]
  exact creates

theorem Composed.sendMarker (composed : state.Composed) (stamp : UInt32) :
    (state.sendMarker crc32 stamp).Composed :=
  composed.creates crc32 rfl (Or.inr ⟨rfl, rfl⟩) (sendMarker_creates crc32 state stamp)

/-- The memory for payloads is never exhausted. -/
def Plentiful (input : SenderInput) : Prop :=
  ∀ event, input = .polled event → event.payloadHeap = Heap.plenty

theorem composed_iterate (composed : state.Composed) {input : SenderInput}
    (plenty : Plentiful input) : (state.iterate crc32 tmSec stdin input).Composed := by
  refine iterate_preserves crc32 tmSec stdin (motive := Composed) ?_ input ?_ ?_ ?_ composed
  · intro state count ack buffer1 exit sent before
    exact before.frame rfl rfl
  · intro state event bytes number _ _ _ before
    have acked := state.acknowledge_acked number
    exact before.frame acked.created acked.chunks
  · intro event bytes same _ _ nonempty _ _ before
    rw [plenty event same]
    exact before.sendChunk crc32 _ nonempty (List.length_take_le _ _)
  · intro state stamp _ before
    exact before.sendMarker crc32 stamp

/-! ## The datagrams sent -/

/-- The datagram is that of packet `k`. -/
def Carries (state : SenderState) (k : ℕ) (datagram : Datagram) : Prop :=
  ∃ pkt, state.created[k]? = some pkt ∧ datagram = pkt.wire crc32

/-- The packet is what the receiver makes of packet `k`. -/
def Origin (state : SenderState) (k : ℕ) (received : Pkt) : Prop :=
  ∃ pkt, state.created[k]? = some pkt ∧ pkt.Encodable ∧ received = pkt.onWire crc32

/-- A packet created stays created. -/
theorem Carries.mono {before after : SenderState} (grown : before.created <+: after.created)
    {k : ℕ} {datagram : Datagram} (carries : before.Carries crc32 k datagram) :
    after.Carries crc32 k datagram := by
  obtain ⟨pkt, created, same⟩ := carries
  exact ⟨pkt, getElem?_of_prefix grown created, same⟩

theorem Origin.mono {before after : SenderState} (grown : before.created <+: after.created)
    {k : ℕ} {received : Pkt} (origin : before.Origin crc32 k received) :
    after.Origin crc32 k received := by
  obtain ⟨pkt, created, facts⟩ := origin
  exact ⟨pkt, getElem?_of_prefix grown created, facts⟩

theorem Origin.lt {k : ℕ} {received : Pkt} (origin : state.Origin crc32 k received) :
    k < state.created.length := by
  obtain ⟨pkt, created, -⟩ := origin
  exact (List.getElem?_eq_some_iff.mp created).1

theorem Books.origin_numbered (books : state.Books) {k : ℕ} {received : Pkt}
    (origin : state.Origin crc32 k received) : received.seqnum.toNat = k % 256 := by
  obtain ⟨pkt, created, -, rfl⟩ := origin
  exact books.numbered k pkt created

/-- What was sent up to a point of an iteration is due in the state before it. -/
structure Emitted (event : SenderEvent) (before after : SenderState) : Prop where
  created : after.created = before.created
  sent : ∀ datagram ∈ after.sent, ∃ index packet, before.senderBuffer index = some packet ∧
    before.Due tmSec event packet ∧ datagram = packet.pkt.wire crc32

theorem emitted_beforeFile (state : SenderState) (event : SenderEvent) :
    Emitted crc32 tmSec event state (state.beforeFile crc32 tmSec event) := by
  rw [beforeFile_eq]
  refine socketBranch_preserves crc32 (motive := Emitted crc32 tmSec event state) ?_ ?_ ?_ ?_
  · intro after ack buffer1 before
    exact ⟨before.created, before.sent⟩
  · intro after before
    exact ⟨before.created, before.sent⟩
  · intro after bytes number _ _ before
    have acked := after.acknowledge_acked number
    refine ⟨acked.created.trans before.created, ?_⟩
    rw [acked.sent]
    exact before.sent
  · have sends := again_sends crc32 tmSec state event
    refine ⟨by rw [sends.frame], fun datagram member => ?_⟩
    obtain ⟨packets, sent, due⟩ := sends.sent
    rw [sent, List.nil_append] at member
    obtain ⟨packet, listed, rfl⟩ := List.mem_map.mp member
    obtain ⟨⟨index, held⟩, isDue⟩ := due packet listed
    exact ⟨index, packet, held, isDue, rfl⟩

/-- The second half of an iteration creates and sends at most one packet. -/
theorem FileOutcome.record {event : SenderEvent} {after : SenderState}
    (outcome : state.FileOutcome crc32 tmSec event after) :
    (after.created = state.created ∧ after.sent = state.sent) ∨
      ∃ pkt read, Creates crc32 pkt read state after := by
  cases outcome with
  | idle => exact Or.inl ⟨rfl, rfl⟩
  | failed => exact Or.inl ⟨rfl, rfl⟩
  | ended read nothing size => exact Or.inl ⟨rfl, rfl⟩
  | chunk mayRead read nonempty =>
      exact Or.inr ⟨_, _, sendChunk_creates crc32 state _ (tmSec event.later) event.payloadHeap⟩
  | marker size =>
      exact Or.inr ⟨_, _, sendMarker_creates crc32 state (tmSec event.later)⟩

/-- Packet `k` is held in the state before the iteration and due in it. -/
def Resends (state : SenderState) (input : SenderInput) (k : ℕ) : Prop :=
  ∃ event index packet, input = .polled event ∧ state.exit = none ∧
    state.senderBuffer index = some packet ∧ packet.addr = k ∧ state.Due tmSec event packet

/-- What was sent before the file is looked at are packets held and due. -/
theorem Books.resends (books : state.Books) {event : SenderEvent} (inLoop : state.exit = none)
    {after : SenderState} (grown : state.created <+: after.created) :
    ∀ datagram ∈ (state.beforeFile crc32 tmSec event).sent,
      ∃ k, after.Carries crc32 k datagram ∧
        (state.created.length ≤ k ∨ state.Resends tmSec (.polled event) k) := by
  intro datagram member
  obtain ⟨index, packet, held, due, rfl⟩ :=
    (state.emitted_beforeFile crc32 tmSec event).sent datagram member
  exact ⟨packet.addr,
    ⟨packet.pkt, getElem?_of_prefix grown (books.held index packet held).1, rfl⟩,
    Or.inr ⟨event, index, packet, rfl, inLoop, held, rfl, due⟩⟩

/-- What an iteration does to the record, and what it sends: packets created in it and
packets that were held and due. -/
theorem iterate_record (books : state.Books) (input : SenderInput) :
    state.created <+: (state.iterate crc32 tmSec stdin input).created ∧
      (state.iterate crc32 tmSec stdin input).created.length ≤ state.created.length + 1 ∧
      ∀ datagram ∈ (state.iterate crc32 tmSec stdin input).sent,
        ∃ k, (state.iterate crc32 tmSec stdin input).Carries crc32 k datagram ∧
          (state.created.length ≤ k ∨ state.Resends tmSec input k) := by
  have outcome := state.iterated crc32 tmSec stdin input
  generalize state.iterate crc32 tmSec stdin input = after at outcome ⊢
  cases outcome with
  | left left =>
      exact ⟨List.prefix_rfl, Nat.le_succ _, fun _ member => absurd member List.not_mem_nil⟩
  | pollEnds inLoop =>
      exact ⟨List.prefix_rfl, Nat.le_succ _, fun _ member => absurd member List.not_mem_nil⟩
  | @failed event inLoop recv =>
      have same := (state.emitted_beforeFile crc32 tmSec event).created
      have grown : state.created <+: (state.beforeFile crc32 tmSec event).created := by
        rw [same]
      exact ⟨grown, by rw [same]; exact Nat.le_succ _, books.resends crc32 tmSec inLoop grown⟩
  | @looked event _ inLoop stays outcome =>
      have same := (state.emitted_beforeFile crc32 tmSec event).created
      rcases outcome.record with ⟨created, sent⟩ | ⟨pkt, read, creates⟩
      · rw [same] at created
        have grown : state.created <+: after.created := by
          rw [created]
        rw [sent]
        exact ⟨grown, by rw [created]; exact Nat.le_succ _,
          books.resends crc32 tmSec inLoop grown⟩
      · have created := creates.created
        rw [same] at created
        have grown : state.created <+: after.created := by
          rw [created]
          exact List.prefix_append _ _
        refine ⟨grown, ?_, fun datagram member => ?_⟩
        · rw [created, List.length_append, List.length_singleton]
        · rw [creates.sent] at member
          rcases List.mem_append.mp member with old | new
          · exact books.resends crc32 tmSec inLoop grown datagram old
          · refine ⟨state.created.length, ⟨pkt, ?_, List.mem_singleton.mp new⟩,
              Or.inl (Nat.le_refl _)⟩
            rw [created]
            exact List.getElem?_concat_length

/-! ## Acknowledgements -/

theorem Acknowledges.number_eq {window number found : UInt8}
    (acknowledges : Acknowledges crc32 (ackDatagram crc32 window number) found) :
    found = number := by
  obtain ⟨heap, past, ack, pkt, accepted, -, rfl⟩ := acknowledges
  have fits : (ackDatagram crc32 window number).length ≤ maxPacketSize := by
    rw [length_ackDatagram]
    decide
  rw [List.take_of_length_le fits] at accepted
  exact seqnum_of_ackDatagram crc32 accepted

/-- An acknowledgement frees only packets whose numbers lie below its own and, so far,
its own number below the next one. -/
theorem Books.acknowledge_freed (books : state.Books) (number : UInt8) :
    ∀ k ∈ (state.acknowledge number).freed, k ∈ state.freed ∨
      (k < state.created.length ∧ k % 256 < number.toNat ∧
        number.toNat ≤ state.seqnum.toNat) := by
  have both : (state.acknowledge number).Books ∧
      (state.acknowledge number).seqnum = state.seqnum ∧
      (state.acknowledge number).created = state.created ∧
      ∀ k ∈ (state.acknowledge number).freed, k ∈ state.freed ∨
        (k < state.created.length ∧ k % 256 < number.toNat ∧
          number.toNat ≤ state.seqnum.toNat) := by
    unfold SenderState.acknowledge
    refine releaseAll_preserves (motive := fun after => after.Books ∧
      after.seqnum = state.seqnum ∧ after.created = state.created ∧
      ∀ k ∈ after.freed, k ∈ state.freed ∨
        (k < state.created.length ∧ k % 256 < number.toNat ∧
          number.toNat ≤ state.seqnum.toNat)) number ?_ ?_
    · rintro reached index packet ⟨kept, seqnum, created, freed⟩ found passes
      refine ⟨kept.release found, seqnum, created, fun k member => ?_⟩
      rcases List.mem_append.mp member with old | new
      · exact freed k old
      · rw [List.mem_singleton.mp new]
        have less := kept.addr_lt found
        obtain ⟨below, inside⟩ := acknowledged_eq_true.mp passes
        rw [kept.held_numbered found] at below
        rw [created] at less
        rw [seqnum] at inside
        exact Or.inr ⟨less, below, inside⟩
    · split
      · exact ⟨books.frame number.toNat _ _ _ _ _, rfl, rfl, fun k member => Or.inl member⟩
      · exact ⟨books.frame number.toNat _ _ _ _ _, rfl, rfl, fun k member => Or.inl member⟩
  exact both.2.2.2

theorem freed_iterate (books : state.Books) {input : SenderInput}
    (allowed : ¬ state.Overruns crc32 tmSec input) :
    ∀ k ∈ (state.iterate crc32 tmSec stdin input).freed, k ∈ state.freed ∨
      ∃ event bytes number, input = .polled event ∧ event.recv = some (some bytes) ∧
        Acknowledges crc32 bytes number ∧ k % 256 < number.toNat := by
  refine (books.iterate_preserves crc32 tmSec stdin input allowed (motive := fun after =>
    ∀ k ∈ after.freed, k ∈ state.freed ∨
      ∃ event bytes number, input = .polled event ∧ event.recv = some (some bytes) ∧
        Acknowledges crc32 bytes number ∧ k % 256 < number.toNat) ?_ ?_ ?_ ?_).2
  · intro reached count ack buffer1 exit sent before
    exact before
  · intro reached event bytes number same received accepted kept before k member
    rcases kept.acknowledge_freed number k member with old | ⟨-, below, -⟩
    · exact before k old
    · exact Or.inr ⟨event, bytes, number, same, received, accepted, below⟩
  · intro reached after grows _ before
    rw [grows.freed]
    exact before
  · intro k member
    exact Or.inl member

/-! ## The end of the file -/

/-- A sender that has left its loop at the end of the file counts all slots free. -/
def Ended (state : SenderState) : Prop :=
  state.exit = some .endOfFile → state.senderBufferSize.toNat = windowSize

theorem ended_start : start.Ended := by
  intro finished
  cases finished

theorem ended_iterate (ended : state.Ended) (input : SenderInput) :
    (state.iterate crc32 tmSec stdin input).Ended := by
  have outcome := state.iterated crc32 tmSec stdin input
  generalize state.iterate crc32 tmSec stdin input = after at outcome ⊢
  intro finished
  cases outcome with
  | left left => exact ended finished
  | pollEnds inLoop => cases finished
  | failed inLoop recv =>
      rw [recv] at finished
      cases finished
  | looked inLoop stays outcome =>
      cases outcome with
      | idle =>
          rw [stays] at finished
          cases finished
      | failed => cases finished
      | ended read nothing size => exact size
      | chunk mayRead read nonempty =>
          rw [(sendChunk_creates crc32 _ _ _ _).exit, stays] at finished
          cases finished
      | marker size =>
          rw [(sendMarker_creates crc32 _ _).exit, stays] at finished
          cases finished

end SenderState

end SelectiveRepeat.Sender
