import SelectiveRepeat.System.Flow
import SelectiveRepeat.System.Refinement

/-!
# Transfers in sequence

What holds of the network holds of the relay: without jitter and corruption the number of
packets does not matter, as long as the two programs do not meet the situations in which
one of them goes wrong on its own.
-/

namespace SelectiveRepeat.System

open SelectiveRepeat.Foundations SelectiveRepeat.Packet SelectiveRepeat.Transport
open SelectiveRepeat.Receiver SelectiveRepeat.Sender SelectiveRepeat.LinkSim

variable (crc32 : List UInt8 → UInt32)

/-- The sender does not overrun its buffer, and does not send a packet again when 256 packets
have been created since. -/
def Careful (sender : SenderState) (input : SenderInput) : Prop :=
  ¬ sender.Overruns crc32 secondOf input ∧
    ∀ k, sender.Resends secondOf input k → sender.created.length < k + 256

theorem careful_pollEnds (sender : SenderState) : Careful crc32 sender .pollEnds := by
  refine ⟨?_, ?_⟩
  · rintro ⟨event, bytes, same, -⟩
    cases same
  · rintro k ⟨event, index, packet, same, -⟩
    cases same

theorem leavesNoCopy_pollEnds (receiver : ReceiverState) :
    LeavesNoCopy crc32 receiver .pollEnds := by
  intro bytes past heap pkt same
  cases same

/-- The loops meet nothing in which one of them goes wrong. -/
def Unharmed (relay : Relay) (seen : Observed RelayState Places) (action : RelayAction) : Prop :=
  InSequence seen action ∧
    seen.state.Gives relay (Careful crc32) (LeavesNoCopy crc32) action

variable {crc32} {relay : Relay}

/-- In a run of the network the chunks that have been written are the first ones that have been
read, and all of them once the sender has left its loop at the end of the file. -/
theorem outputs_of_along {actions : List Action}
    (along : (network crc32 relay.stdin relay.file).Along
      (SystemState.Gives relay (Careful crc32) (LeavesNoCopy crc32)) .start actions) :
    let state := (network crc32 relay.stdin relay.file).run actions
    state.receiver.writes.map WriteCall.output <+: state.sender.chunks ∧
      (state.sender.exit = some .endOfFile →
        state.receiver.writes.map WriteCall.output = state.sender.chunks) := by
  intro state
  have allowed : (network crc32 relay.stdin relay.file).Along
      (SystemState.NoOverrun crc32 relay.file) .start actions :=
    along.mono fun state action gives input given => (gives.1 input given).1
  have recent : (network crc32 relay.stdin relay.file).Along
      (SystemState.NoStaleResend relay.file) .start actions :=
    along.mono fun state action gives input given => (gives.1 input given).2
  have clean : (network crc32 relay.stdin relay.file).Along
      (SystemState.NoCopy crc32) .start actions :=
    along.mono fun state action gives input given => gives.2 input given
  have sourced : state.Sourced crc32 :=
    SystemState.sourced_run crc32 relay.stdin relay.file allowed
  have sized : state.receiver.Sized fullWrite :=
    SystemState.sized_run crc32 relay.stdin relay.file actions
  have ended : state.sender.Ended := SystemState.ended_run crc32 relay.stdin relay.file actions
  obtain ⟨acked, reached, flowing⟩ :=
    SystemState.flowing_run crc32 relay.stdin relay.file allowed recent clean
  have first := SystemState.outputs_prefix crc32 sourced.composed sized flowing.faithful.written
  refine ⟨first, fun finished => first.eq_of_length_le ?_⟩
  have freed := sourced.books.freed_of_empty (sourced.books.empty_of_size (ended finished))
  rw [List.length_map, ← sourced.composed.chunks]
  exact (List.length_filterMap_le _ _).trans (sourced.created_le_writes crc32 freed)

/-- Through a simulator without jitter and corruption, and in sequence, what the receiver has
written is the beginning of the file, however many packets have been created, and the whole file
once the sender has left its loop at its end. -/
theorem sequenced_transfer (steady : relay.link.jitter = 0) (exact_ : relay.link.errRate = 0)
    (apart : relay.srcAddr ≠ relay.link.destAddr)
    (small : ∀ chunk ∈ relay.file.chunks, chunk.length ≤ 508) (actions : List RelayAction)
    (along : (sequenced crc32 relay).Along (Unharmed crc32 relay) (sequenced crc32 relay).start
      actions) :
    let state := (relayed crc32 relay).run actions
    state.receiver.writes.map WriteCall.output <+: relay.file.chunks ∧
      (state.sender.exit = some .endOfFile →
        state.receiver.writes.map WriteCall.output = relay.file.chunks) := by
  intro state
  obtain ⟨matching, gives, mirrors⟩ := mirrors_run steady exact_ apart small
    (careful_pollEnds crc32) (leavesNoCopy_pollEnds crc32) along
  have same : ((sequenced crc32 relay).run actions).state = state :=
    (relayed crc32 relay).observe_run_state _ _ actions
  have issued : Issued crc32 relay state := issued_run actions
  obtain ⟨first, all⟩ := outputs_of_along gives
  rw [mirrors.sender, mirrors.receiver, same] at first all
  exact ⟨first.trans issued.chunks, fun finished => (all finished).trans (issued.finished finished)⟩

/-! ## A chunk that is sent twice -/

/-- A sender with room that has created few packets is harmless. -/
theorem careful_of_room {sender : SenderState} {event : SenderEvent}
    (few : sender.created.length ≤ 255)
    (room : (sender.beforeFile crc32 secondOf event).senderBufferSize ≠ 0) :
    Careful crc32 sender (.polled event) := by
  refine ⟨?_, fun k _ => by omega⟩
  rintro ⟨event, bytes, ⟨⟩, -, -, -, -, size, -⟩
  exact room size

/-- A receiver that holds no packet keeps no copy. -/
theorem leavesNoCopy_of_empty {receiver : ReceiverState} (input : ReceiverInput)
    (empty : receiver.receiverBuffer = Slots.empty) : LeavesNoCopy crc32 receiver input := by
  rintro bytes past heap pkt - - - ⟨⟨index, packet, held, -⟩, -⟩
  rw [empty] at held
  cases held

theorem sequenced_transfer_lostOnce :
    let state := (relayed zlibCrc32 (steadyRelay threeBytes)).run lostOnce
    state.receiver.writes.map WriteCall.output <+: [[1, 2, 3]] ∧
      state.receiver.writes.map WriteCall.output = [[1, 2, 3]] := by
  intro state
  have unharmed : (sequenced zlibCrc32 (steadyRelay threeBytes)).Along
      (Unharmed zlibCrc32 (steadyRelay threeBytes))
      (sequenced zlibCrc32 (steadyRelay threeBytes)).start lostOnce :=
    inSequence_lostOnce.and (gives_lostOnce (fun _ _ few room => careful_of_room (by omega) room)
      fun _ input empty => leavesNoCopy_of_empty input empty)
  obtain ⟨first, all⟩ :=
    sequenced_transfer rfl rfl (by decide) (by decide) lostOnce unharmed
  exact ⟨first, all exit_lostOnce⟩

end SelectiveRepeat.System
