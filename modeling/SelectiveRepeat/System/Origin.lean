import SelectiveRepeat.Receiver.Acknowledgement
import SelectiveRepeat.Sender.Traffic
import SelectiveRepeat.System.Network

/-!
# Where everything comes from

As long as the sender does not overrun its buffer, what is under way to the receiver
are datagrams of packets created, what is under way to the sender are numbers of
writes, and what the receiver has written are packets created.
-/

namespace SelectiveRepeat.System

open SelectiveRepeat.Foundations SelectiveRepeat.Packet SelectiveRepeat.Transport
open SelectiveRepeat.Receiver SelectiveRepeat.Sender

variable (crc32 : List UInt8 → UInt32) (stdin : Bool) (file : File)

namespace SystemState

/-- The action does not make the sender overrun its buffer. -/
def NoOverrun (state : SystemState) (action : Action) : Prop :=
  ∀ input, state.senderInput file action = some input →
    ¬ state.sender.Overruns crc32 secondOf input

/-- The sources of what is under way, decoded or freed. -/
structure Sourced (state : SystemState) : Prop where
  books : state.sender.Books
  composed : state.sender.Composed
  data : ∀ datagram ∈ state.data, ∃ k, state.sender.Carries crc32 k datagram
  decoded : ∀ reception ∈ state.receiver.receptions, reception.heap = Heap.plenty ∧
    ∃ k datagram, state.sender.Carries crc32 k datagram ∧ reception.bytes = some datagram
  acks : ∀ datagram ∈ state.acks, ∃ window a, a ≤ state.receiver.writes.length ∧
    datagram = ackDatagram crc32 window (UInt8.ofNat a)
  freed : ∀ k ∈ state.sender.freed, ∃ a ≤ state.receiver.writes.length, k % 256 < a % 256
  clear : state.receiver.Clear
  ordered : state.receiver.Ordered

variable {state : SystemState}

theorem sourced_start : start.Sourced crc32 :=
  ⟨SenderState.books_start, SenderState.composed_start,
    fun _ member => absurd member List.not_mem_nil, fun _ member => absurd member List.not_mem_nil,
    fun _ member => absurd member List.not_mem_nil, fun _ member => absurd member List.not_mem_nil,
    ReceiverState.clear_start, ReceiverState.ordered_start⟩

/-- What an action does on the sender's side. -/
theorem Sourced.senderAfter (sourced : state.Sourced crc32) {action : Action}
    (allowed : state.NoOverrun crc32 file action) :
    let after := state.senderAfter crc32 stdin file action
    after.Books ∧ after.Composed ∧ state.sender.created <+: after.created ∧
      ∀ k ∈ after.freed, ∃ a ≤ state.receiver.writes.length, k % 256 < a % 256 := by
  intro after
  unfold after SystemState.senderAfter
  cases input : state.senderInput file action with
  | none => exact ⟨sourced.books, sourced.composed, List.prefix_rfl, sourced.freed⟩
  | some taken =>
      have permitted := allowed taken input
      have plenty : SenderState.Plentiful taken := by
        rintro event rfl
        exact (senderInput_polled file input).1
      refine ⟨SenderState.books_iterate crc32 secondOf stdin sourced.books permitted,
        SenderState.composed_iterate crc32 secondOf stdin sourced.composed plenty,
        (SenderState.iterate_record crc32 secondOf stdin sourced.books taken).1, ?_⟩
      intro k member
      rcases SenderState.freed_iterate crc32 secondOf stdin sourced.books permitted k member with
        old | ⟨event, bytes, number, rfl, received, accepted, below⟩
      · exact sourced.freed k old
      · obtain ⟨window, a, le, rfl⟩ :=
          sourced.acks bytes ((senderInput_polled file input).2 bytes received)
        rw [SenderState.Acknowledges.number_eq crc32 accepted, UInt8.toNat_ofNat'] at below
        exact ⟨a, le, below⟩

/-- What an action does on the receiver's side. -/
theorem Sourced.receiverAfter (sourced : state.Sourced crc32) (action : Action) :
    let after := state.receiverAfter crc32 action
    after.Clear ∧ after.Ordered ∧ state.receiver.writes.length ≤ after.writes.length ∧
      ∀ reception ∈ after.receptions, reception.heap = Heap.plenty ∧
        ∃ k datagram, state.sender.Carries crc32 k datagram ∧ reception.bytes = some datagram := by
  intro after
  unfold after SystemState.receiverAfter
  cases input : state.receiverInput action with
  | none => exact ⟨sourced.clear, sourced.ordered, Nat.le_refl _, sourced.decoded⟩
  | some taken =>
      refine ⟨ReceiverState.clear_iterate crc32 fullWrite sourced.clear taken,
        ReceiverState.ordered_iterate crc32 fullWrite sourced.ordered taken,
        ReceiverState.writes_length_le crc32 fullWrite taken, ?_⟩
      intro reception member
      rcases ReceiverState.iterate_receptions crc32 fullWrite taken reception member with old | rfl
      · exact sourced.decoded reception old
      · obtain ⟨plenty, datagram, underWay, same⟩ := receiverInput_readable input
        obtain ⟨k, carries⟩ := sourced.data datagram underWay
        exact ⟨plenty, k, datagram, carries, same⟩

/-- What the receiver sends is the number of its writes. -/
theorem ack_of_sent {receiver : ReceiverState} (clear : receiver.Clear)
    (ordered : receiver.Ordered) (input : ReceiverInput) {datagram : Datagram}
    (member : datagram ∈ (receiver.iterate crc32 fullWrite input).sent) :
    ∃ window, datagram = ackDatagram crc32 window
      (UInt8.ofNat (receiver.iterate crc32 fullWrite input).writes.length) := by
  have after := ReceiverState.ordered_iterate crc32 fullWrite ordered input
  have number : (receiver.iterate crc32 fullWrite input).seqnum =
      UInt8.ofNat (receiver.iterate crc32 fullWrite input).writes.length := by
    apply UInt8.toNat_inj.mp
    rw [after.expected, UInt8.toNat_ofNat']
  rw [← number]
  exact ⟨_, ReceiverState.answered_iterate crc32 fullWrite clear input datagram member⟩

theorem Sourced.step (sourced : state.Sourced crc32) {action : Action}
    (allowed : state.NoOverrun crc32 file action) :
    (state.step crc32 stdin file action).Sourced crc32 := by
  obtain ⟨books, composed, grown, freed⟩ := sourced.senderAfter crc32 stdin file allowed
  obtain ⟨clear, ordered, longer, decoded⟩ := sourced.receiverAfter crc32 action
  refine ⟨?_, ?_, ?_, ?_, ?_, ?_, ?_, ?_⟩
  · rw [step_sender]
    exact books
  · rw [step_sender]
    exact composed
  · intro datagram member
    rw [step_sender]
    rcases mem_data_step crc32 stdin file state action member with old | ⟨input, taken, new⟩
    · obtain ⟨k, carries⟩ := sourced.data datagram old
      exact ⟨k, SenderState.Carries.mono crc32 grown carries⟩
    · obtain ⟨k, carries, -⟩ :=
        (SenderState.iterate_record crc32 secondOf stdin sourced.books input).2.2 datagram new
      refine ⟨k, ?_⟩
      unfold SystemState.senderAfter
      rw [taken]
      exact carries
  · intro reception member
    rw [step_receiver] at member
    rw [step_sender]
    obtain ⟨plenty, k, datagram, carries, same⟩ := decoded reception member
    exact ⟨plenty, k, datagram, SenderState.Carries.mono crc32 grown carries, same⟩
  · intro datagram member
    rw [step_receiver]
    rcases mem_acks_step crc32 stdin file state action member with old | ⟨input, taken, new⟩
    · obtain ⟨window, a, le, same⟩ := sourced.acks datagram old
      exact ⟨window, a, le.trans longer, same⟩
    · obtain ⟨window, same⟩ := ack_of_sent crc32 sourced.clear sourced.ordered input new
      refine ⟨window, _, ?_, same⟩
      unfold SystemState.receiverAfter
      rw [taken]
  · intro k member
    rw [step_sender] at member
    rw [step_receiver]
    obtain ⟨a, le, below⟩ := freed k member
    exact ⟨a, le.trans longer, below⟩
  · rw [step_receiver]
    exact clear
  · rw [step_receiver]
    exact ordered

theorem sourced_run {actions : List Action}
    (allowed : (network crc32 stdin file).Along (NoOverrun crc32 file) .start actions) :
    ((network crc32 stdin file).run actions).Sourced crc32 :=
  (network crc32 stdin file).invariant_along (motive := fun state => state.Sourced crc32)
    (sourced_start crc32) (fun _ _ sourced allowed => sourced.step crc32 stdin file allowed) allowed

end SystemState

end SelectiveRepeat.System
