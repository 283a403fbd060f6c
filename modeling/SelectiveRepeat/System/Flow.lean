import SelectiveRepeat.Foundations.Channel
import SelectiveRepeat.Sender.Tracking
import SelectiveRepeat.System.Completion
import SelectiveRepeat.System.Rounds

/-!
# The flow of a transfer

With the packets numbered as natural numbers, acknowledgements arrive in increasing
order and every datagram under way was sent at most 32 packets before the newest one
of its time.  Both sides are then within one window of each other, and the receiver
writes the packets created one by one.
-/

namespace SelectiveRepeat.System

open SelectiveRepeat.Foundations SelectiveRepeat.Packet SelectiveRepeat.Transport
open SelectiveRepeat.Receiver SelectiveRepeat.Sender

variable (crc32 : List UInt8 → UInt32) (stdin : Bool) (file : File)

namespace SystemState

/-- No packet is sent again when 256 packets have been created since. -/
def NoStaleResend (state : SystemState) (action : Action) : Prop :=
  ∀ input, state.senderInput file action = some input →
    ∀ k, state.sender.Resends secondOf input k → state.sender.created.length < k + 256

/-- The receiver does not keep a second copy of the arriving packet. -/
def NoCopy (state : SystemState) (action : Action) : Prop :=
  ∀ input, state.receiverInput action = some input → LeavesNoCopy crc32 state.receiver input

/-- An acknowledgement sent after `a` writes. -/
def AckOf (a : ℕ) (datagram : Datagram) : Prop :=
  ∃ window, datagram = ackDatagram crc32 window (UInt8.ofNat a)

/-- A datagram sent when `n` packets had been created. -/
def SentAt (sender : SenderState) (n : ℕ) (datagram : Datagram) : Prop :=
  ∃ k, sender.Carries crc32 k datagram ∧ k < n ∧ n ≤ k + 32

/-- The first `acked` packets are acknowledged, and what is still under way to the
receiver was sent when `reached` packets or more had been created. -/
structure Flowing (acked reached : ℕ) (state : SystemState) : Prop where
  tracked : state.sender.Tracked acked
  acks : Stamped (AckOf crc32) acked state.acks state.receiver.writes.length
  data : Stamped (SentAt crc32 state.sender) reached state.data state.sender.created.length
  accounted : state.receiver.Accounted
  faithful : state.receiver.Faithful (state.sender.Origin crc32) reached

variable {state : SystemState} {acked reached : ℕ}

theorem flowing_start : start.Flowing crc32 0 0 :=
  ⟨SenderState.tracked_start, .nil (Nat.le_refl _), .nil (Nat.le_refl _),
    ReceiverState.accounted_start, ReceiverState.faithful_start⟩

/-- What was under way is still under way after the sender has created more. -/
theorem Flowing.grown (flowing : state.Flowing crc32 acked reached) {sender : SenderState}
    (grown : state.sender.created <+: sender.created) :
    Stamped (SentAt crc32 sender) reached state.data sender.created.length := by
  refine (flowing.data.mono fun n datagram _ sent => ?_).raise grown.length_le
  obtain ⟨k, carries, less, close⟩ := sent
  exact ⟨k, carries.mono crc32 grown, less, close⟩

/-- What an iteration sends was created since or is not acknowledged. -/
theorem Flowing.sent (flowing : state.Flowing crc32 acked reached) (books : state.sender.Books)
    {input : SenderInput}
    (recent : ∀ k, state.sender.Resends secondOf input k → state.sender.created.length < k + 256) :
    Stamped (SentAt crc32 (state.sender.iterate crc32 secondOf stdin input)) reached
      (state.data ++ (state.sender.iterate crc32 secondOf stdin input).sent)
      (state.sender.iterate crc32 secondOf stdin input).created.length := by
  obtain ⟨grown, one, sent⟩ := SenderState.iterate_record crc32 secondOf stdin books input
  refine (flowing.grown crc32 grown).send (Nat.le_refl _) fun datagram member => ?_
  obtain ⟨k, carries, source⟩ := sent datagram member
  have near := flowing.tracked.near books
  have created := flowing.tracked.reached
  have unacknowledged : acked ≤ k := by
    rcases source with new | resends
    · exact created.trans new
    · exact flowing.tracked.due secondOf books resends (recent k resends)
  have window : windowSize = 31 := rfl
  obtain ⟨pkt, found, -⟩ := id carries
  have less := (List.getElem?_eq_some_iff.mp found).1
  exact ⟨k, carries, less, by omega⟩

/-- The acknowledgement that an iteration of the sender takes is the next one. -/
theorem Flowing.takeAck (sourced : state.Sourced crc32)
    (flowing : state.Flowing crc32 acked reached) (socket readable : Bool) (past : Memory)
    (wait work : ℕ) (permitted : ¬ state.sender.Overruns crc32 secondOf
      (.polled (state.event file socket readable past wait work))) :
    ∃ next, (state.sender.iterate crc32 secondOf stdin (.polled
        (state.event file socket readable past wait work))).Tracked next ∧
      Stamped (AckOf crc32) next
        (if socket ∧ state.sender.exit = none then state.acks.tail else state.acks)
        state.receiver.writes.length := by
  have written : state.receiver.writes.length ≤ state.sender.created.length :=
    flowing.faithful.reached.trans flowing.data.bounds
  rcases state.event_recv file socket readable past wait work with
    ⟨datagram, rest, queue, received, left⟩ | ⟨silent, left⟩
  · have acks := flowing.acks
    rw [queue] at acks
    obtain ⟨stamp, later, ⟨window, rfl⟩, remaining⟩ := acks.receive
    obtain ⟨next, -, high, tracked⟩ := flowing.tracked.iterate crc32 secondOf stdin
      sourced.books permitted later (remaining.bounds.trans written) (by
        rintro event bytes number ⟨⟩ found accepted
        rw [received] at found
        cases found
        exact accepted.number_eq crc32)
    rw [left]
    exact ⟨next, tracked, remaining.lower high⟩
  · obtain ⟨next, -, high, tracked⟩ := flowing.tracked.iterate crc32 secondOf stdin sourced.books
      permitted (Nat.le_refl _) flowing.tracked.reached (by
        rintro event bytes number ⟨⟩ found
        rw [silent] at found
        cases found)
    rw [left]
    exact ⟨next, tracked, flowing.acks.lower high⟩

/-- The datagram that an iteration of the receiver takes is near the packets expected. -/
theorem Flowing.takeData (sourced : state.Sourced crc32)
    (flowing : state.Flowing crc32 acked reached) {datagram : Datagram} {rest : List Datagram}
    (queue : state.data = datagram :: rest) (running : state.receiver.running = true)
    (past : Memory) (clean : LeavesNoCopy crc32 state.receiver
      (.readable (some datagram) past Heap.plenty)) :
    ∃ stamp, Stamped (SentAt crc32 state.sender) stamp rest state.sender.created.length ∧
      (state.receiver.iterate crc32 fullWrite
        (.readable (some datagram) past Heap.plenty)).Faithful (state.sender.Origin crc32) stamp := by
  have data := flowing.data
  rw [queue] at data
  obtain ⟨stamp, later, ⟨k, ⟨pkt, created, rfl⟩, less, close⟩, remaining⟩ := data.receive
  refine ⟨stamp, remaining, ?_⟩
  have window : windowSize = 31 := rfl
  have near := flowing.tracked.near sourced.books
  have acknowledged := flowing.acks.bounds
  have bound := remaining.bounds
  have extended := flowing.faithful.extend later (by omega)
  have received : (state.receiver.receive crc32 (some (pkt.wire crc32)) past
      Heap.plenty).Faithful (state.sender.Origin crc32) stamp := extended.congr rfl rfl rfl
  have accounted : (state.receiver.receive crc32 (some (pkt.wire crc32)) past
      Heap.plenty).Accounted := flowing.accounted
  have numbered : ∀ j received, state.sender.Origin crc32 j received →
      received.seqnum.toNat = j % 256 := fun j received origin =>
    sourced.books.origin_numbered crc32 origin
  obtain ⟨decoded, code, result⟩ : ∃ decoded code, state.receiver.decode crc32
      (some (pkt.wire crc32)) past Heap.plenty = (decoded, code) := ⟨_, _, rfl⟩
  rw [state.receiver.iterate_readable crc32 fullWrite _ _ _ running result]
  refine received.handle crc32 fullWrite numbered accounted fun ok type => ?_
  subst ok
  refine ⟨clean _ _ _ decoded rfl result ((pktGetType_eq_data decoded).mpr type), k, ?_, less, ?_⟩
  · have written := flowing.faithful.reached
    change state.receiver.writes.length ≤ k + 225
    omega
  · have member := List.mem_of_getElem? created
    rcases sourced.composed.shaped pkt member with encodable | ⟨held, bare⟩
    · rw [state.receiver.decode_wire crc32 encodable] at result
      exact ⟨pkt, created, encodable, (Prod.mk.inj result).1.symm⟩
    · have refused := state.receiver.decode_bare crc32 (sourced.composed.data pkt member) held bare
        past Heap.plenty
      rw [result] at refused
      exact absurd rfl refused

/-- An action of the receiver that takes no datagram. -/
theorem Flowing.idle (flowing : state.Flowing crc32 acked reached) (sent : List Datagram)
    (running : Bool) :
    Flowing crc32 acked reached
      { state with receiver := { state.receiver with sent := sent, running := running } } :=
  ⟨flowing.tracked, flowing.acks, flowing.data, flowing.accounted, flowing.faithful.congr rfl rfl rfl⟩

theorem Flowing.step (sourced : state.Sourced crc32)
    (flowing : state.Flowing crc32 acked reached) {action : Action}
    (allowed : state.NoOverrun crc32 file action) (recent : state.NoStaleResend file action)
    (clean : state.NoCopy crc32 action) :
    ∃ acked reached, (state.step crc32 stdin file action).Flowing crc32 acked reached := by
  cases action with
  | sender socket readable past wait work =>
      have permitted := allowed _ rfl
      have grown := (SenderState.iterate_record crc32 secondOf stdin sourced.books
        (.polled (state.event file socket readable past wait work))).1
      obtain ⟨next, tracked, acks⟩ := flowing.takeAck crc32 stdin file sourced socket readable past
        wait work permitted
      exact ⟨next, reached, tracked, acks,
        flowing.sent crc32 stdin sourced.books (recent _ rfl), flowing.accounted,
        flowing.faithful.mono fun j pkt => SenderState.Origin.mono crc32 grown⟩
  | senderEnds =>
      have permitted := allowed _ rfl
      have grown := (SenderState.iterate_record crc32 secondOf stdin sourced.books .pollEnds).1
      obtain ⟨next, -, high, tracked⟩ := flowing.tracked.iterate crc32 secondOf stdin sourced.books
        permitted (Nat.le_refl _) flowing.tracked.reached (by
          rintro event bytes number ⟨⟩)
      exact ⟨next, reached, tracked, flowing.acks.lower high, flowing.grown crc32 grown,
        flowing.accounted, flowing.faithful.mono fun j pkt => SenderState.Origin.mono crc32 grown⟩
  | receiver past =>
      by_cases taken : state.receiver.running = true ∧ state.data ≠ []
      · obtain ⟨running, some_data⟩ := taken
        obtain ⟨datagram, rest, queue⟩ := List.exists_cons_of_ne_nil some_data
        have input : state.receiverInput (.receiver past) =
            some (.readable (some datagram) past Heap.plenty) := by
          unfold SystemState.receiverInput
          rw [queue]
          rfl
        obtain ⟨stamp, data, faithful⟩ := flowing.takeData crc32 sourced queue running past
          (clean _ input)
        have acks := flowing.acks.send
          (ReceiverState.writes_length_le crc32 fullWrite (.readable (some datagram) past Heap.plenty))
          fun ack member => ack_of_sent crc32 sourced.clear sourced.ordered _ member
        rw [step_taken crc32 stdin file state running queue past]
        exact ⟨acked, stamp, flowing.tracked, acks, data,
          ReceiverState.accounted_iterate crc32 fullWrite flowing.accounted _, faithful⟩
      · obtain ⟨sent, running, same⟩ :=
          step_idle crc32 stdin file state (Or.inr ⟨past, rfl, taken⟩)
        rw [same]
        exact ⟨acked, reached, flowing.idle crc32 sent running⟩
  | receiverEnds =>
      obtain ⟨sent, running, same⟩ := step_idle crc32 stdin file state (Or.inl rfl)
      rw [same]
      exact ⟨acked, reached, flowing.idle crc32 sent running⟩
  | loseData index =>
      exact ⟨acked, reached, flowing.tracked, flowing.acks, flowing.data.lose index,
        flowing.accounted, flowing.faithful⟩
  | loseAck index =>
      exact ⟨acked, reached, flowing.tracked, flowing.acks.lose index, flowing.data,
        flowing.accounted, flowing.faithful⟩

theorem flowing_run {actions : List Action}
    (allowed : (network crc32 stdin file).Along (NoOverrun crc32 file) .start actions)
    (recent : (network crc32 stdin file).Along (NoStaleResend file) .start actions)
    (clean : (network crc32 stdin file).Along (NoCopy crc32) .start actions) :
    ∃ acked reached, ((network crc32 stdin file).run actions).Flowing crc32 acked reached := by
  have both : ((network crc32 stdin file).run actions).Sourced crc32 ∧
      ∃ acked reached, ((network crc32 stdin file).run actions).Flowing crc32 acked reached := by
    refine (network crc32 stdin file).invariant_along (motive := fun state =>
      state.Sourced crc32 ∧ ∃ acked reached, state.Flowing crc32 acked reached)
      ⟨sourced_start crc32, 0, 0, flowing_start crc32⟩ ?_ (allowed.and (recent.and clean))
    rintro state action ⟨sourced, acked, reached, flowing⟩ ⟨permitted, fresh, single⟩
    exact ⟨sourced.step crc32 stdin file permitted,
      flowing.step crc32 stdin file sourced permitted fresh single⟩
  exact both.2

end SystemState

/-- What the receiver has written is a prefix of what the sender has read, in every run
without an overrun, a stale packet sent again or a second copy kept. -/
theorem written_prefix (actions : List Action)
    (allowed : (network crc32 stdin file).Along (SystemState.NoOverrun crc32 file) .start actions)
    (recent : (network crc32 stdin file).Along (SystemState.NoStaleResend file) .start actions)
    (clean : (network crc32 stdin file).Along (SystemState.NoCopy crc32) .start actions) :
    ((network crc32 stdin file).run actions).receiver.output <+:
      ((network crc32 stdin file).run actions).sender.chunks.flatten := by
  have sourced := SystemState.sourced_run crc32 stdin file allowed
  obtain ⟨acked, reached, flowing⟩ := SystemState.flowing_run crc32 stdin file allowed recent clean
  obtain ⟨rest, split⟩ := SystemState.outputs_prefix crc32 sourced.composed
    (SystemState.sized_run crc32 stdin file actions) flowing.faithful.written
  rw [← split, List.flatten_append, ReceiverState.output, List.flatMap_def]
  exact List.prefix_append _ _

/-! ## Two transfers -/

theorem recent_rounds (empty : crc32 [] = 0) {n k : ℕ} (le : k ≤ n) (short : k ≤ 511) :
    (network crc32 true (zeros n)).Along (SystemState.NoStaleResend (zeros n)) .start
      (rounds k) := by
  have quiet : ∀ socket readable (state : SystemState), state.clock = 0 → state.sender.count = 0 →
      state.NoStaleResend (zeros n) (.sender socket readable (fun _ => 0) 0 0) := by
    rintro socket readable state clock count input ⟨⟩ j ⟨event, index, packet, ⟨⟩, -, -, -, due⟩
    refine absurd due (SenderState.not_due secondOf (by rw [count]; decide) ?_ packet)
    unfold SystemState.event
    rw [clock]
    rfl
  refine along_rounds crc32 empty n ?_ ?_ ?_ le short
  · intro j state stage
    exact quiet false true state stage.clock stage.sender.count
  · rintro j datagram state stage input ⟨⟩
  · intro j datagram state stage
    exact quiet true false state stage.clock stage.sender.count

theorem clean_rounds (empty : crc32 [] = 0) {n k : ℕ} (le : k ≤ n) (short : k ≤ 511) :
    (network crc32 true (zeros n)).Along (SystemState.NoCopy crc32) .start (rounds k) := by
  refine along_rounds crc32 empty n ?_ (fun j datagram state stage => ?_) ?_ le short
  · rintro j state stage input ⟨⟩
  · rintro input - bytes past heap pkt - - - ⟨⟨index, packet, held, -⟩, -⟩
    rw [stage.receiver.empty] at held
    cases held
  · rintro j datagram state stage input ⟨⟩

/-- Two chunks are transferred. -/
theorem written_prefix_rounds :
    ((network zlibCrc32 true (zeros 2)).run (rounds 2)).receiver.output <+:
      ((network zlibCrc32 true (zeros 2)).run (rounds 2)).sender.chunks.flatten :=
  written_prefix zlibCrc32 true (zeros 2) (rounds 2)
    (noOverrun_rounds zlibCrc32 zlibCrc32_nil (Nat.le_refl 2) (by omega))
    (recent_rounds zlibCrc32 zlibCrc32_nil (Nat.le_refl 2) (by omega))
    (clean_rounds zlibCrc32 zlibCrc32_nil (Nat.le_refl 2) (by omega))

/-- 511 rounds in second 0.  In second 1 the sender is at the end of the file, and the
receiver takes what it sends. -/
def staleActions : List Action :=
  rounds 511 ++ [.sender false true (fun _ => 0) 1 0, .receiver fun _ => 0]

/-- Packet 255 is sent again and written as packet 511, which was never created. -/
theorem written_stale :
    ¬ ((network zlibCrc32 true (zeros 511)).run staleActions).receiver.output <+:
      ((network zlibCrc32 true (zeros 511)).run staleActions).sender.chunks.flatten := by
  have stage := stage_rounds zlibCrc32 zlibCrc32_nil 511 (Nat.le_refl 511) (Nat.le_refl 511)
  rw [staleActions, Machine.run_append]
  generalize (network zlibCrc32 true (zeros 511)).run (rounds 511) = state at stage ⊢
  obtain ⟨pkt, encodable, data, payload, number, sent, read⟩ :=
    stage.sender.stale zlibCrc32 (fun _ => 0) Heap.plenty
  have event : state.event (zeros 511) false true (fun _ => 0) 1 0 =
      ⟨1, none, fun _ => 0, Heap.plenty, some (some []), 1, Heap.plenty⟩ := by
    unfold SystemState.event
    rw [stage.clock, stage.sender.chunks, next_zeros_end]
    rfl
  obtain ⟨written, -⟩ := stage.receiver.write zlibCrc32 encodable data payload number
    fun _ => 0
  have first := SystemState.step_polled zlibCrc32 true (zeros 511) state false true (fun _ => 0) 1 0
  rw [event] at first
  dsimp only at first
  rw [sent, stage.data, List.nil_append] at first
  have second := SystemState.step_taken zlibCrc32 true (zeros 511)
    (state.step zlibCrc32 true (zeros 511) (.sender false true (fun _ => 0) 1 0))
    (by rw [first]; exact stage.receiver.running)
    (show _ = [pkt.wire zlibCrc32] by rw [first]) fun _ => 0
  rw [Machine.runFrom_cons, Machine.runFrom_cons, Machine.runFrom_nil, network_step, second, first]
  intro prefix_
  have shorter := prefix_.length_le
  dsimp only at shorter
  rw [written.bytes, read, stage.sender.bytes] at shorter
  omega

end SelectiveRepeat.System
