import SelectiveRepeat.System.Origin
import SelectiveRepeat.System.Rounds

/-!
# What the end of the file means

A sender that leaves its loop at the end of the file has had every packet freed.  The
acknowledgement for a packet counts the packets written, and number 255 is never
acknowledged, so fewer than 256 packets were created and each was written.
-/

namespace SelectiveRepeat.System

open SelectiveRepeat.Foundations SelectiveRepeat.Packet SelectiveRepeat.Transport
open SelectiveRepeat.Receiver SelectiveRepeat.Sender

variable (crc32 : List UInt8 → UInt32) (stdin : Bool) (file : File)

namespace SystemState

/-- Every write is the write of a packet created. -/
theorem written_run {actions : List Action}
    (allowed : (network crc32 stdin file).Along (NoOverrun crc32 file) .start actions) :
    ∀ (k : ℕ) call, ((network crc32 stdin file).run actions).receiver.writes[k]? = some call →
      ∃ j, ((network crc32 stdin file).run actions).sender.Origin crc32 j call.packet.pkt := by
  intro k call found
  have sourced := sourced_run crc32 stdin file allowed
  obtain ⟨inputs, same⟩ := receiver_run crc32 stdin file actions
  have owned := ReceiverState.owned_run crc32 fullWrite inputs
  have genuine := ReceiverState.genuine_run crc32 fullWrite inputs
  rw [← same] at owned genuine
  obtain ⟨reception, recorded, ok, decoded, -⟩ := owned.decoded (.inr k) call.packet (by
    rw [ReceiverState.place, found]
    rfl)
  have member := List.mem_of_getElem? recorded
  obtain ⟨plenty, j, datagram, ⟨pkt, created, rfl⟩, bytes⟩ := sourced.decoded reception member
  obtain ⟨found', past, same', accepted⟩ := genuine reception member ok
  rw [bytes, Option.some.injEq] at same'
  subst same'
  have shaped := sourced.composed.shaped pkt (List.mem_of_getElem? created)
  rw [List.take_of_length_le (ReceiverState.wire_fits crc32 shaped), plenty] at accepted
  have holds := Memory.holds_store past 0 (pkt.wire crc32)
  rcases shaped with encodable | ⟨-, bare⟩
  · rw [pktDecode_wire crc32 holds encodable fun _ => ⟨rfl, rfl⟩] at accepted
    exact ⟨j, pkt, created, encodable, decoded.symm.trans (Prod.mk.inj accepted).1.symm⟩
  · have refused := pktDecode_wire_bare crc32 holds
      (sourced.composed.data pkt (List.mem_of_getElem? created)) bare Heap.plenty
      (pkt.wire crc32).length pktNew
    rw [accepted] at refused
    exact absurd rfl refused

theorem sized_run (actions : List Action) :
    ((network crc32 stdin file).run actions).receiver.Sized fullWrite := by
  obtain ⟨inputs, same⟩ := receiver_run crc32 stdin file actions
  rw [same]
  exact ReceiverState.sized_run crc32 fullWrite inputs

theorem ended_run (actions : List Action) :
    ((network crc32 stdin file).run actions).sender.Ended := by
  refine (network crc32 stdin file).invariant (motive := fun state => state.sender.Ended)
    SenderState.ended_start ?_ actions
  intro state action ended
  rw [network_step, step_sender, senderAfter]
  cases state.senderInput file action with
  | none => exact ended
  | some input => exact SenderState.ended_iterate crc32 secondOf stdin ended input

/-- Where every write is that of its own packet, the chunks written are the first ones
read. -/
theorem outputs_prefix {state : SystemState} (composed : state.sender.Composed)
    (sized : state.receiver.Sized fullWrite)
    (written : ∀ (k : ℕ) call, state.receiver.writes[k]? = some call →
      state.sender.Origin crc32 k call.packet.pkt) :
    state.receiver.writes.map WriteCall.output <+: state.sender.chunks := by
  rw [← composed.chunks]
  refine prefix_filterMap fun k output found => ?_
  rw [List.getElem?_map] at found
  obtain ⟨call, at_, rfl⟩ := Option.map_eq_some_iff.mp found
  obtain ⟨pkt, created, encodable, onWire⟩ := written k call at_
  exact ⟨pkt, created, WriteCall.output_eq crc32 encodable
    (composed.data pkt (List.mem_of_getElem? created)) onWire (sized k call at_)⟩

/-- Number 255 is never acknowledged, so after 255 packets some packet is not freed. -/
theorem Sourced.created_le {state : SystemState} (sourced : state.Sourced crc32)
    (freed : ∀ k < state.sender.created.length, k ∈ state.sender.freed) :
    state.sender.created.length ≤ 255 := by
  by_contra long
  obtain ⟨a, -, below⟩ := sourced.freed 255 (freed 255 (by omega))
  omega

/-- An acknowledgement for the newest packet counts a write for each packet. -/
theorem Sourced.created_le_writes {state : SystemState} (sourced : state.Sourced crc32)
    (freed : ∀ k < state.sender.created.length, k ∈ state.sender.freed) :
    state.sender.created.length ≤ state.receiver.writes.length := by
  have short := sourced.created_le crc32 freed
  cases length : state.sender.created.length with
  | zero => exact Nat.zero_le _
  | succ n =>
      obtain ⟨a, le, below⟩ := sourced.freed n (freed n (by omega))
      omega

/-- Among at most 256 packets the number tells which one was written. -/
theorem Sourced.origin_of_short {state : SystemState} (sourced : state.Sourced crc32)
    (short : state.sender.created.length ≤ 256) {k : ℕ} (small : k < 256) {call : WriteCall}
    (found : state.receiver.writes[k]? = some call) {j : ℕ}
    (origin : state.sender.Origin crc32 j call.packet.pkt) :
    state.sender.Origin crc32 k call.packet.pkt := by
  have number := sourced.ordered.numbered k call found
  rw [sourced.books.origin_numbered crc32 origin] at number
  have less := origin.lt
  have here : j = k := by omega
  exact here ▸ origin

end SystemState

/-- In a run that does not overrun the buffer a sender that has left its loop at the end
of the file holds no packet, and what it has read has been written. -/
theorem reported_complete (actions : List Action)
    (allowed : (network crc32 stdin file).Along (SystemState.NoOverrun crc32 file) .start actions)
    (finished : ((network crc32 stdin file).run actions).sender.exit = some .endOfFile) :
    (∀ index, ((network crc32 stdin file).run actions).sender.senderBuffer index = none) ∧
      ((network crc32 stdin file).run actions).receiver.writes.map WriteCall.output =
        ((network crc32 stdin file).run actions).sender.chunks := by
  have sourced := SystemState.sourced_run crc32 stdin file allowed
  have written := SystemState.written_run crc32 stdin file allowed
  have ended := SystemState.ended_run crc32 stdin file actions finished
  have sized := SystemState.sized_run crc32 stdin file actions
  generalize (network crc32 stdin file).run actions = state at sourced written ended sized ⊢
  have empty := sourced.books.empty_of_size ended
  refine ⟨empty, ?_⟩
  have freed := sourced.books.freed_of_empty empty
  have short := sourced.created_le crc32 freed
  have own : ∀ (k : ℕ) call, state.receiver.writes[k]? = some call → k < 256 →
      state.sender.Origin crc32 k call.packet.pkt := by
    intro k call found small
    obtain ⟨j, origin⟩ := written k call found
    exact sourced.origin_of_short crc32 (by omega) small found origin
  have notMore : state.receiver.writes.length ≤ state.sender.created.length := by
    by_contra more
    have inside : state.sender.created.length < state.receiver.writes.length := by omega
    exact absurd (own _ _ (List.getElem?_eq_getElem inside) (by omega)).lt (Nat.lt_irrefl _)
  have first := SystemState.outputs_prefix crc32 sourced.composed sized fun k call found =>
    own k call found (by
      have inside := (List.getElem?_eq_some_iff.mp found).1
      omega)
  apply first.eq_of_length_le
  rw [List.length_map, ← sourced.composed.chunks]
  exact (List.length_filterMap_le _ _).trans (sourced.created_le_writes crc32 freed)

/-! ## Two transfers -/

/-- A sender between two rounds does not overrun its buffer. -/
theorem Stage.noOverrun {k : ℕ} {state : SystemState} (stage : Stage k k k [] [] state) :
    state.NoOverrun crc32 file readAction := by
  rintro input ⟨⟩ ⟨event, bytes, ⟨⟩, -, -, -, -, size, -⟩
  rw [SenderState.beforeFile_quiet crc32 secondOf (by rw [stage.sender.count]; decide)
    (by unfold SystemState.event; rw [stage.clock]; rfl) rfl] at size
  exact stage.sender.room size

theorem noOverrun_rounds (empty : crc32 [] = 0) {n k : ℕ} (le : k ≤ n) (short : k ≤ 511) :
    (network crc32 true (zeros n)).Along (SystemState.NoOverrun crc32 (zeros n)) .start
      (rounds k) := by
  refine along_rounds crc32 empty n ?_ ?_ ?_ le short
  · intro k state stage
    exact stage.noOverrun crc32 (zeros n)
  · rintro k datagram state stage input ⟨⟩
  · rintro k datagram state stage input ⟨⟩ ⟨event, bytes, ⟨⟩, -, read, -⟩
    cases read

/-- Two chunks are transferred and the end of the file is met. -/
theorem reported_complete_two :
    let state := (network zlibCrc32 true (zeros 2)).run (rounds 2 ++ [readAction])
    (∀ index, state.sender.senderBuffer index = none) ∧
      state.receiver.writes.map WriteCall.output = state.sender.chunks := by
  have stage := stage_rounds zlibCrc32 zlibCrc32_nil 2 (Nat.le_refl 2) (by omega)
  have ends := sender_ends zlibCrc32 stage.clock stage.sender.chunks stage.sender.inLoop
    (by rw [stage.sender.count]; decide) (stage.sender.size_eq (by omega)) stage.sender.mayRead
  refine reported_complete zlibCrc32 true (zeros 2) (rounds 2 ++ [readAction]) ?_ ?_
  · rw [Machine.along_append]
    exact ⟨noOverrun_rounds zlibCrc32 zlibCrc32_nil (Nat.le_refl 2) (by omega),
      stage.noOverrun zlibCrc32 (zeros 2), trivial⟩
  · rw [Machine.run_concat, network_step, ends]

/-- 240 rounds, 31 chunks that fill the buffer, 225 chunks that overrun it, and the end of
the file. -/
def overrunActions : List Action :=
  rounds 240 ++ List.replicate 256 readAction ++ [readAction]

/-- The sender reports success with all its slots in use, and of 496 chunks read 240 have
been written. -/
theorem reported_overrun :
    let state := (network zlibCrc32 true (zeros 496)).run overrunActions
    state.sender.exit = some .endOfFile ∧ (∀ index, state.sender.senderBuffer index ≠ none) ∧
      ¬ state.receiver.writes.map WriteCall.output = state.sender.chunks := by
  have stage : Stage 240 240 240 [] [] ((network zlibCrc32 true (zeros 496)).run (rounds 240)) :=
    stage_rounds zlibCrc32 zlibCrc32_nil 496 (by omega) (by omega)
  have zero : secondOf 0 = 0 := rfl
  rw [overrunActions, Machine.run_concat, Machine.run_append, network_step]
  generalize (network zlibCrc32 true (zeros 496)).run (rounds 240) = state at stage ⊢
  have filling : SenderState.Filling 240 240 0 state.sender :=
    ⟨stage.sender.inLoop, by rw [stage.sender.count]; decide, stage.sender.books,
      stage.sender.chunks, stage.sender.created, stage.sender.lastack,
      stage.sender.used_eq_zero (by omega)⟩
  have fill : ∀ n ≤ 31, SenderState.Filling (240 + n) 240 (0 + n)
      ((readWriteLoop zlibCrc32 secondOf true).runFrom state.sender
        (List.replicate n (.polled chunkEvent))) := fun n le =>
    filling.fill zlibCrc32 true zero n fun i less => ⟨by omega, by omega⟩
  have overflow : ∀ n, SenderState.Overflowing 15 240 ((0 + 255 * n) % 256) (271 + n)
      ((readWriteLoop zlibCrc32 secondOf true).runFrom state.sender
        (List.replicate (31 + n) (.polled chunkEvent))) := by
    intro n
    rw [List.replicate_add, Machine.runFrom_append]
    exact (fill 31 (Nat.le_refl 31)).overflowing.overflow zlibCrc32 true zero (by omega) (by omega) n
  obtain ⟨sender, receiver, clock⟩ := sender_reads zlibCrc32 496 stage.clock 256
    fun i less => by
      rcases Nat.le_total i 31 with filled | more
      · rw [(fill i filled).chunks]
        omega
      · obtain ⟨j, rfl⟩ := Nat.exists_eq_add_of_le more
        rw [(overflow j).chunks]
        omega
  have reached := overflow 225
  rw [show 31 + 225 = 256 from rfl, ← sender] at reached
  generalize (network zlibCrc32 true (zeros 496)).runFrom state (List.replicate 256 readAction) =
    last at receiver clock reached ⊢
  have mayRead : last.sender.MayRead := by
    unfold SenderState.MayRead
    rw [reached.seqnum, reached.lastack]
    omega
  have ends := sender_ends zlibCrc32 clock reached.chunks reached.inLoop reached.few
    reached.size mayRead
  refine ⟨by rw [ends], by rw [ends]; exact reached.occupied, fun same => ?_⟩
  have lengths := congrArg List.length same
  rw [List.length_map, SystemState.step_sender_receiver, receiver, stage.receiver.writes, ends,
    reached.chunks] at lengths
  omega

end SelectiveRepeat.System
