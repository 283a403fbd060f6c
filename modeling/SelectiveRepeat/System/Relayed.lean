import SelectiveRepeat.LinkSim.Integrity
import SelectiveRepeat.Receiver.Tail
import SelectiveRepeat.System.Completion
import SelectiveRepeat.System.Issued

/-!
# Transfers through the simulator

As long as no number is used twice, a late or repeated datagram does no harm, whatever
the simulator and the network do with it.
-/

namespace SelectiveRepeat.System

open SelectiveRepeat.Foundations SelectiveRepeat.Packet SelectiveRepeat.Transport
open SelectiveRepeat.Receiver SelectiveRepeat.Sender SelectiveRepeat.LinkSim

/-! ## The sender -/

section Sender

variable {crc32 : List UInt8 → UInt32} {tmSec : ℕ → UInt32} {stdin : Bool} {state : SenderState}
  {input : SenderInput}

/-- While no acknowledgement runs ahead of the packets created, the buffer is not overrun. -/
theorem not_overruns_of_bounded (books : state.Books) (short : state.created.length ≤ 255)
    (bounded : state.lastack ≤ state.created.length)
    (numbers : ∀ event bytes number, input = .polled event → event.recv = some (some bytes) →
      SenderState.Acknowledges crc32 bytes number → number.toNat ≤ state.created.length) :
    ¬ state.Overruns crc32 tmSec input := by
  rintro ⟨event, bytes, rfl, -, -, -, -, -, below⟩
  have both : (state.beforeFile crc32 tmSec event).Books ∧
      (state.beforeFile crc32 tmSec event).created = state.created ∧
      (state.beforeFile crc32 tmSec event).lastack ≤ state.created.length := by
    refine SenderState.beforeFile_preserves crc32 tmSec (motive := fun after => after.Books ∧
      after.created = state.created ∧ after.lastack ≤ state.created.length) ?_ ?_
      ⟨books, rfl, bounded⟩
    · rintro after count ack buffer1 exit sent ⟨books, created, lastack⟩
      exact ⟨books.frame _ count ack buffer1 exit sent, created, lastack⟩
    · rintro after bytes number received accepted ⟨books, created, -⟩
      have acked := after.acknowledge_acked number
      refine ⟨books.acknowledge number, acked.created.trans created, ?_⟩
      rw [acked.lastack]
      exact numbers event bytes number rfl received accepted
  obtain ⟨after, created, lastack⟩ := both
  rw [after.next, created, Nat.mod_eq_of_lt (by omega)] at below
  omega

/-- The last acknowledgement stays below a bound that those received keep. -/
theorem lastack_le_iterate (books : state.Books) (allowed : ¬ state.Overruns crc32 tmSec input)
    {bound : ℕ} (bounded : state.lastack ≤ bound)
    (numbers : ∀ event bytes number, input = .polled event → event.recv = some (some bytes) →
      SenderState.Acknowledges crc32 bytes number → number.toNat ≤ bound) :
    (state.iterate crc32 tmSec stdin input).lastack ≤ bound := by
  refine (books.iterate_preserves crc32 tmSec stdin input allowed
    (motive := fun after => after.lastack ≤ bound) ?_ ?_ ?_ bounded).2
  · intro after count ack buffer1 exit sent before
    exact before
  · intro after event bytes number same received accepted _ _
    rw [(after.acknowledge_acked number).lastack]
    exact numbers event bytes number same received accepted
  · intro before after grows _ bounded
    rw [grows.lastack]
    exact bounded

end Sender

/-! ## What is on its way -/

variable (crc32 : List UInt8 → UInt32) (relay : Relay)

/-- A corrupted datagram is recognised: there is no corruption, or every chunk leaves room for
its CRC and the CRC detects it. -/
def Intact : Prop :=
  relay.link.errRate = 0 ∨
    DetectsOneByte crc32 ∧ ∀ chunk ∈ relay.file.chunks, chunk.length ≤ 508

/-- The bytes are what the simulator makes of something that one of the two has sent. -/
def RelayState.OnItsWay (state : RelayState) (bytes : Datagram) : Prop :=
  ∃ sent ∈ state.data ++ state.acks, Relays relay.link sent bytes

/-- Everything that has been sent, relayed and decoded comes from a packet created or from the
number of a write. -/
structure Sound (state : RelayState) : Prop where
  books : state.sender.Books
  composed : state.sender.Composed
  chunks : state.sender.chunks <+: relay.file.chunks
  ended : state.sender.Ended
  finished : state.sender.exit = some .endOfFile → state.sender.chunks = relay.file.chunks
  data : ∀ datagram ∈ state.data, ∃ k, state.sender.Carries crc32 k datagram
  acks : ∀ datagram ∈ state.acks, ∃ window a, a ≤ state.receiver.writes.length ∧
    datagram = ackDatagram crc32 window (UInt8.ofNat a)
  queue : state.link.pktQueue.Ordered PktSlot.order
  relayed : state.link.Every fun parcel => state.OnItsWay relay parcel.2.bytes
  decoded : ∀ reception ∈ state.receiver.receptions, reception.heap = Heap.plenty ∧
    ∃ bytes, reception.bytes = some bytes ∧ state.OnItsWay relay bytes
  receiver : ∃ inputs, (receiverLoop crc32 fullWrite).Along
      (fun _ input => input.Short maxPktLen) .start inputs ∧
    state.receiver = (receiverLoop crc32 fullWrite).run inputs
  lastack : state.sender.lastack ≤ state.receiver.writes.length
  freed : ∀ k ∈ state.sender.freed, k < state.receiver.writes.length

variable {crc32 relay} {state : RelayState}

/-- What has been sent stays sent. -/
theorem RelayState.OnItsWay.take {bytes : Datagram} (onItsWay : state.OnItsWay relay bytes)
    (input : PartyInput) : (state.take crc32 relay input).OnItsWay relay bytes := by
  obtain ⟨sent, member, relays⟩ := onItsWay
  refine ⟨sent, ?_, relays⟩
  cases input with
  | sender input =>
      exact List.mem_append.mpr ((List.mem_append.mp member).imp_left (List.mem_append_left _))
  | receiver input =>
      exact List.mem_append.mpr ((List.mem_append.mp member).imp_right (List.mem_append_left _))
  | link input => exact member

theorem sound_start : Sound crc32 relay (.start relay) where
  books := SenderState.books_start
  composed := SenderState.composed_start
  chunks := List.nil_prefix
  ended := SenderState.ended_start
  finished finished := by cases finished
  data datagram member := absurd member List.not_mem_nil
  acks datagram member := absurd member List.not_mem_nil
  queue := ordered_run relay.link relay.first []
  relayed := ⟨fun slot member => absurd member (Multiset.notMem_zero slot),
    fun call member => absurd member List.not_mem_nil⟩
  decoded reception member := absurd member List.not_mem_nil
  receiver := ⟨[], trivial, rfl⟩
  lastack := Nat.le_refl 0
  freed k member := absurd member List.not_mem_nil

namespace Sound

/-- The datagram of a packet created fits the simulator's buffer. -/
theorem wire_le (sound : Sound crc32 relay state)
    (small : ∀ chunk ∈ relay.file.chunks, chunk.length ≤ 508) {pkt : Pkt}
    (created : pkt ∈ state.sender.created) : (pkt.wire crc32).length ≤ maxPktLen :=
  (sound.composed.length_wire crc32 (fun chunk read => small chunk (sound.chunks.subset read))
    created).2

theorem ackDatagram_eq (window number : UInt8) : ackDatagram crc32 window number =
    header crc32 (ackPkt window number) ++ List.replicate 500 0 := by
  have bare : (ackPkt window number).payload = none := rfl
  rw [ackDatagram, Pkt.wire, Pkt.body, bare, List.append_nil]
  rfl

/-- The header of what was sent, with the packet it belongs to. -/
theorem header_of_sent (sound : Sound crc32 relay state) {sent : Datagram}
    (member : sent ∈ state.data ++ state.acks) :
    (∃ (k : ℕ) (pkt : Pkt), state.sender.created[k]? = some pkt ∧ sent = pkt.wire crc32) ∨
      ∃ window a, a ≤ state.receiver.writes.length ∧ ∃ rest,
        sent = header crc32 (ackPkt window (UInt8.ofNat a)) ++ rest := by
  rcases List.mem_append.mp member with old | old
  · obtain ⟨k, pkt, created, rfl⟩ := sound.data sent old
    exact Or.inl ⟨k, pkt, created, rfl⟩
  · obtain ⟨window, a, le, rfl⟩ := sound.acks sent old
    exact Or.inr ⟨window, a, le, _, ackDatagram_eq window _⟩

theorem detects (intact : Intact crc32 relay) : relay.link.errRate = 0 ∨ DetectsOneByte crc32 :=
  intact.imp_right And.left

/-- A decoder that accepts DATA on its way has the packet that was sent. -/
theorem origin_of_accepted (sound : Sound crc32 relay state) (intact : Intact crc32 relay)
    {bytes : Datagram} (onItsWay : state.OnItsWay relay bytes) {past : Memory} {decoded : Pkt}
    (accepted : (pktDecode crc32 Heap.plenty (past.store 0 bytes) bytes.length pktNew).val =
      (decoded, .pktOk)) (data : decoded.type = 1) :
    ∃ k, state.sender.Origin crc32 k decoded := by
  obtain ⟨sent, member, relays⟩ := onItsWay
  rcases sound.header_of_sent member with ⟨k, pkt, at_, rfl⟩ | ⟨window, a, -, rest, rfl⟩
  · have created := List.mem_of_getElem? at_
    have whole : relay.link.errRate = 0 ∨
        DetectsOneByte crc32 ∧ (pkt.wire crc32).length ≤ maxPktLen :=
      intact.imp_right fun both => ⟨both.1, sound.wire_le both.2 created⟩
    obtain ⟨encodable, same, -⟩ := relays.accepted (sound.composed.data pkt created)
      (sound.composed.shaped pkt created) whole accepted
    exact ⟨k, pkt, at_, encodable, same⟩
  · have fields := relays.fields_kept (detects intact) accepted
    rw [data] at fields
    exact absurd (show (1 : BitVec 2) = 2 from fields.1) (by decide)

/-- An acknowledgement that the sender accepts is the number of a write. -/
theorem number_le (sound : Sound crc32 relay state) (intact : Intact crc32 relay)
    (short : state.receiver.writes.length ≤ 255) {bytes : Datagram}
    (onItsWay : state.OnItsWay relay bytes) {number : UInt8}
    (accepted : SenderState.Acknowledges crc32 bytes number) :
    number.toNat ≤ state.receiver.writes.length := by
  obtain ⟨heap, past, ack, pkt, ok, type, rfl⟩ := accepted
  obtain ⟨sent, member, relays⟩ := onItsWay
  have fits : bytes.length ≤ maxPacketSize := relays.length_le.trans (by decide)
  rw [List.take_of_length_le fits] at ok
  have isAck : pkt.type = 2 := (pktGetType_eq_ack pkt).mp type
  rcases sound.header_of_sent member with ⟨k, created, at_, rfl⟩ | ⟨window, a, le, rest, rfl⟩
  · have relays : Relays relay.link (header crc32 created ++ created.body crc32) bytes := relays
    have fields := relays.fields_kept (detects intact) ok
    rw [isAck, sound.composed.data created (List.mem_of_getElem? at_)] at fields
    exact absurd fields.1 (by decide)
  · have fields := relays.fields_kept (detects intact) ok
    have same : pktGetSeqnum pkt = UInt8.ofNat a := fields.2
    rw [same, UInt8.toNat_ofNat']
    omega

/-! ## What has been written -/

theorem origin_of_write (sound : Sound crc32 relay state) (intact : Intact crc32 relay) {k : ℕ}
    {call : WriteCall} (found : state.receiver.writes[k]? = some call) :
    ∃ j, state.sender.Origin crc32 j call.packet.pkt := by
  obtain ⟨inputs, -, same⟩ := sound.receiver
  have owned := ReceiverState.owned_run crc32 fullWrite inputs
  have genuine := ReceiverState.genuine_run crc32 fullWrite inputs
  rw [← same] at owned genuine
  obtain ⟨reception, recorded, ok, decoded, data⟩ := owned.decoded (.inr k) call.packet (by
    rw [ReceiverState.place, found]
    rfl)
  have member := List.mem_of_getElem? recorded
  obtain ⟨plenty, bytes, received, onItsWay⟩ := sound.decoded reception member
  obtain ⟨found', past, same', accepted⟩ := genuine reception member ok
  rw [received, Option.some.injEq] at same'
  subst same'
  obtain ⟨sent, inside, relays⟩ := id onItsWay
  have fits : bytes.length ≤ maxPacketSize := relays.length_le.trans (by decide)
  rw [List.take_of_length_le fits, plenty, decoded] at accepted
  exact sound.origin_of_accepted intact onItsWay accepted data

/-- With at most 255 packets created, every write is that of its own packet. -/
theorem written (sound : Sound crc32 relay state) (intact : Intact crc32 relay)
    (short : state.sender.created.length ≤ 255) {k : ℕ} {call : WriteCall}
    (found : state.receiver.writes[k]? = some call) :
    state.sender.Origin crc32 k call.packet.pkt := by
  obtain ⟨inputs, -, same⟩ := sound.receiver
  have ordered := ReceiverState.ordered_run crc32 fullWrite inputs
  rw [← same] at ordered
  have numbered : ∀ (k : ℕ) call, state.receiver.writes[k]? = some call →
      ∃ j < 255, j = k % 256 ∧ state.sender.Origin crc32 j call.packet.pkt := by
    intro k call found
    obtain ⟨j, origin⟩ := sound.origin_of_write intact found
    have number := ordered.numbered k call found
    have less := origin.lt
    rw [sound.books.origin_numbered crc32 origin, Nat.mod_eq_of_lt (by omega)] at number
    exact ⟨j, by omega, number, origin⟩
  have inside := (List.getElem?_eq_some_iff.mp found).1
  -- a write number 255 would need a packet with that number
  have few : state.receiver.writes.length ≤ 255 := by
    by_contra many
    obtain ⟨j, less, at_, -⟩ := numbered 255 _ (List.getElem?_eq_getElem (by omega))
    omega
  obtain ⟨j, -, at_, origin⟩ := numbered k call found
  rw [Nat.mod_eq_of_lt (by omega)] at at_
  exact at_ ▸ origin

theorem writes_le (sound : Sound crc32 relay state) (intact : Intact crc32 relay)
    (short : state.sender.created.length ≤ 255) :
    state.receiver.writes.length ≤ state.sender.created.length := by
  by_contra more
  have inside : state.sender.created.length < state.receiver.writes.length := by omega
  exact absurd (sound.written intact short (List.getElem?_eq_getElem inside)).lt (Nat.lt_irrefl _)

/-! ## One action -/

/-- A datagram that the simulator has sent. -/
theorem onItsWay_of_call (sound : Sound crc32 relay state) {bytes : Datagram}
    (sent : ∃ call ∈ state.link.calls, bytes = call.buf.bytes) : state.OnItsWay relay bytes := by
  obtain ⟨call, member, rfl⟩ := sent
  exact sound.relayed.calls call member

theorem takeSender (sound : Sound crc32 relay state) (intact : Intact crc32 relay)
    (short : (state.take crc32 relay (.sender input)).sender.created.length ≤ 255)
    (sources : RelayState.Sources relay state (.sender input)) :
    Sound crc32 relay (state.take crc32 relay (.sender input)) := by
  have grown : state.sender.created <+:
      (state.sender.iterate crc32 secondOf relay.stdin input).created := created_prefix_iterate
  have few : state.sender.created.length ≤ 255 := grown.length_le.trans short
  have writes := sound.writes_le intact few
  have numbers : ∀ event bytes number, input = .polled event → event.recv = some (some bytes) →
      SenderState.Acknowledges crc32 bytes number →
      number.toNat ≤ state.receiver.writes.length := by
    rintro event bytes number rfl received accepted
    cases sources with
    | sender event heap recv read =>
        exact sound.number_le intact (writes.trans few)
          (sound.onItsWay_of_call (recv bytes received)) accepted
  have permitted : ¬ state.sender.Overruns crc32 secondOf input :=
    not_overruns_of_bounded sound.books few (sound.lastack.trans writes)
      fun event bytes number same received accepted =>
        (numbers event bytes number same received accepted).trans writes
  have books := SenderState.books_iterate crc32 secondOf relay.stdin sound.books permitted
  have chunks : (state.sender.iterate crc32 secondOf relay.stdin input).chunks <+:
      relay.file.chunks := sources.chunks_prefix sound.chunks
  refine
    { books := books
      composed := SenderState.composed_iterate crc32 secondOf relay.stdin sound.composed
        sources.plentiful
      chunks := chunks
      ended := SenderState.ended_iterate crc32 secondOf relay.stdin sound.ended input
      finished := sources.finished sound.chunks sound.finished
      data := fun datagram member => ?_
      acks := sound.acks
      queue := sound.queue
      relayed := ⟨fun slot member => (sound.relayed.queue slot member).take _,
        fun call member => (sound.relayed.calls call member).take _⟩
      decoded := fun reception member => ?_
      receiver := sound.receiver
      lastack := lastack_le_iterate sound.books permitted sound.lastack numbers
      freed := fun k member => ?_ }
  · rcases List.mem_append.mp member with old | new
    · obtain ⟨k, carries⟩ := sound.data datagram old
      exact ⟨k, SenderState.Carries.mono crc32 grown carries⟩
    · obtain ⟨k, carries, -⟩ := (SenderState.iterate_record crc32 secondOf relay.stdin sound.books
        input).2.2 datagram new
      exact ⟨k, carries⟩
  · obtain ⟨plenty, bytes, received, onItsWay⟩ := sound.decoded reception member
    exact ⟨plenty, bytes, received, onItsWay.take _⟩
  · rcases SenderState.freed_iterate crc32 secondOf relay.stdin sound.books permitted k member with
      old | ⟨event, bytes, number, same, received, accepted, below⟩
    · exact sound.freed k old
    · have less := books.past k member
      have bound := numbers event bytes number same received accepted
      change k < (state.sender.iterate crc32 secondOf relay.stdin input).created.length at less
      change (state.sender.iterate crc32 secondOf relay.stdin input).created.length ≤ 255 at short
      change k < state.receiver.writes.length
      omega

theorem takeReceiver (sound : Sound crc32 relay state)
    (sources : RelayState.Sources relay state (.receiver input)) :
    Sound crc32 relay (state.take crc32 relay (.receiver input)) := by
  obtain ⟨inputs, along, reached⟩ := sound.receiver
  have clear := ReceiverState.clear_run crc32 fullWrite inputs
  have ordered := ReceiverState.ordered_run crc32 fullWrite inputs
  rw [← reached] at clear ordered
  have longer := state.receiver.writes_length_le crc32 fullWrite input
  refine
    { books := sound.books
      composed := sound.composed
      chunks := sound.chunks
      ended := sound.ended
      finished := sound.finished
      data := sound.data
      acks := fun datagram member => ?_
      queue := sound.queue
      relayed := ⟨fun slot member => (sound.relayed.queue slot member).take _,
        fun call member => (sound.relayed.calls call member).take _⟩
      decoded := fun reception member => ?_
      receiver := ⟨inputs ++ [input], ?_, ?_⟩
      lastack := sound.lastack.trans longer
      freed := fun k member => (sound.freed k member).trans_le longer }
  · rcases List.mem_append.mp member with old | new
    · obtain ⟨window, a, le, same⟩ := sound.acks datagram old
      exact ⟨window, a, le.trans longer, same⟩
    · obtain ⟨window, same⟩ := SystemState.ack_of_sent crc32 clear ordered input new
      exact ⟨window, _, Nat.le_refl _, same⟩
  · rcases ReceiverState.iterate_receptions crc32 fullWrite input reception member with old | same
    · obtain ⟨plenty, bytes, received, onItsWay⟩ := sound.decoded reception old
      exact ⟨plenty, bytes, received, onItsWay.take _⟩
    · rw [same] at sources
      generalize taken : reception.bytes = bytes at sources ⊢
      generalize reception.past = past at sources
      generalize reception.heap = heap at sources ⊢
      cases sources with
      | receiver bytes past recv =>
          exact ⟨rfl, bytes, rfl, (sound.onItsWay_of_call recv).take _⟩
  · rw [Machine.along_append]
    refine ⟨along, ?_, trivial⟩
    cases sources with
    | receiverEnds => trivial
    | receiver bytes past recv =>
        obtain ⟨sent, -, relays⟩ := sound.onItsWay_of_call recv
        exact relays.length_le
  · rw [Machine.run_concat, receiverLoop_step, ← reached]
    rfl

theorem takeLink (sound : Sound crc32 relay state)
    (sources : RelayState.Sources relay state (.link input)) :
    Sound crc32 relay (state.take crc32 relay (.link input)) := by
  have iterates := iterate_cases relay.link state.link sound.queue input
  have relayed : (state.link.iterate relay.link input).Every fun parcel =>
      state.OnItsWay relay parcel.2.bytes := by
    refine iterates.every sound.relayed fun parcel offer after alters => ?_
    obtain ⟨event, sender, datagram, rfl, received, bytes⟩ := offers_datagram offer
    cases sources with
    | link input recv =>
        have sent : datagram ∈ state.data ++ state.acks :=
          List.mem_append.mpr ((recv event sender datagram rfl received).imp And.right And.right)
        exact ⟨datagram, sent, Relays.of_alters alters bytes⟩
  exact { sound with queue := iterates.ordered sound.queue, relayed := relayed }

theorem step (sound : Sound crc32 relay state) (intact : Intact crc32 relay)
    {action : RelayAction}
    (short : (state.step crc32 relay action).sender.created.length ≤ 255) :
    Sound crc32 relay (state.step crc32 relay action) := by
  unfold RelayState.step at short ⊢
  cases given : state.input relay action with
  | none => exact sound
  | some input =>
      have sources := RelayState.sources_of_input given
      rw [given] at short
      cases input with
      | sender input => exact sound.takeSender intact short sources
      | receiver input => exact sound.takeReceiver sources
      | link input => exact sound.takeLink sources

end Sound

/-! ## Runs -/

theorem created_prefix_step (action : RelayAction) :
    state.sender.created <+: (state.step crc32 relay action).sender.created := by
  unfold RelayState.step
  cases state.input relay action with
  | none => exact List.prefix_rfl
  | some input =>
      cases input with
      | sender input => exact created_prefix_iterate
      | receiver input => exact List.prefix_rfl
      | link input => exact List.prefix_rfl

theorem created_prefix_runFrom (actions : List RelayAction) :
    state.sender.created <+: ((relayed crc32 relay).runFrom state actions).sender.created := by
  induction actions generalizing state with
  | nil => exact List.prefix_rfl
  | cons action rest ih => exact (created_prefix_step action).trans ih

theorem sound_run (intact : Intact crc32 relay) (actions : List RelayAction)
    (short : ((relayed crc32 relay).run actions).sender.created.length ≤ 255) :
    Sound crc32 relay ((relayed crc32 relay).run actions) := by
  induction actions using List.reverseRecOn with
  | nil => exact sound_start
  | append_singleton actions action ih =>
      rw [Machine.run_concat, relayed_step] at short ⊢
      exact (ih ((created_prefix_step action).length_le.trans short)).step intact short

theorem Sound.outputs_prefix (sound : Sound crc32 relay state) (intact : Intact crc32 relay)
    (short : state.sender.created.length ≤ 255) :
    state.receiver.writes.map WriteCall.output <+: state.sender.chunks := by
  obtain ⟨inputs, -, same⟩ := sound.receiver
  have sized := ReceiverState.sized_run crc32 fullWrite inputs
  rw [← same] at sized
  let both : SystemState := ⟨state.sender, state.receiver, [], [], 0⟩
  have composed : both.sender.Composed := sound.composed
  exact SystemState.outputs_prefix crc32 composed sized fun k call found =>
    sound.written intact short found

/-- A sender at the end of the file has everything written. -/
theorem Sound.complete (sound : Sound crc32 relay state) (intact : Intact crc32 relay)
    (short : state.sender.created.length ≤ 255)
    (finished : state.sender.exit = some .endOfFile) :
    state.receiver.writes.map WriteCall.output = relay.file.chunks := by
  have freed := sound.books.freed_of_empty (sound.books.empty_of_size (sound.ended finished))
  have all : state.sender.created.length ≤ state.receiver.writes.length := by
    by_contra fewer
    exact absurd (sound.freed _ (freed state.receiver.writes.length (by omega))) (Nat.lt_irrefl _)
  refine ((sound.outputs_prefix intact short).eq_of_length_le ?_).trans (sound.finished finished)
  rw [List.length_map, ← sound.composed.chunks]
  exact (List.length_filterMap_le _ _).trans all

/-- A write writes the payload of its own packet. -/
theorem Sound.payload_of_write (sound : Sound crc32 relay state) (intact : Intact crc32 relay)
    (short : state.sender.created.length ≤ 255) {k : ℕ} {call : WriteCall}
    (found : state.receiver.writes[k]? = some call) :
    ∃ pkt, state.sender.created[k]? = some pkt ∧ pkt.payload = some call.output := by
  obtain ⟨inputs, -, same⟩ := sound.receiver
  have sized := ReceiverState.sized_run crc32 fullWrite inputs
  rw [← same] at sized
  obtain ⟨pkt, created, encodable, onWire⟩ := sound.written intact short found
  exact ⟨pkt, created, WriteCall.output_eq crc32 encodable
    (sound.composed.data pkt (List.mem_of_getElem? created)) onWire (sized k call found)⟩

theorem intact_noisyRelay {file : File} (small : ∀ chunk ∈ file.chunks, chunk.length ≤ 508) :
    Intact zlibCrc32 (noisyRelay file) := Or.inr ⟨zlibCrc32_detectsOneByte, small⟩

end SelectiveRepeat.System
