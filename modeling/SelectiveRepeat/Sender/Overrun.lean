import SelectiveRepeat.Foundations.Crc32
import SelectiveRepeat.Sender.Bookkeeping
import SelectiveRepeat.Sender.Quiet

/-!
# When the bookkeeping holds

The counter, the numbers and the slots agree after every iteration of a run, and no
chunk is read without a free slot, exactly when no iteration overruns the buffer.
The second part follows the counter of a sender that does.
-/

namespace SelectiveRepeat.Sender

open SelectiveRepeat.Foundations SelectiveRepeat.Packet SelectiveRepeat.Transport

namespace SenderState

variable (crc32 : List UInt8 → UInt32) (tmSec : ℕ → UInt32) (stdin : Bool)

/-- What the variables and the record of the run say about each other. -/
structure Bookkeeping (state : SenderState) : Prop where
  size : state.senderBufferSize.toNat = state.senderBuffer.free
  numbered : ∀ k pkt, state.created[k]? = some pkt → (pktGetSeqnum pkt).toNat = k % 256
  held : ∀ k pkt, state.created[k]? = some pkt →
    (k ∈ state.freed ∧ ∀ index packet, state.senderBuffer index = some packet → packet.addr ≠ k) ∨
      (k ∉ state.freed ∧ ∃ index, state.senderBuffer index = some ⟨k, pkt⟩ ∧
        ∀ other packet, state.senderBuffer other = some packet → packet.addr = k → other = index)

/-- If the iteration reads a chunk, a slot is free to keep it. -/
def RoomToRead (state : SenderState) (input : SenderInput) : Prop :=
  ∀ event bytes, input = .polled event → state.exit = none →
    event.read = some (some bytes) → bytes ≠ [] →
    (state.beforeFile crc32 tmSec event).exit = none →
    (state.beforeFile crc32 tmSec event).MayRead →
    ∃ index, (state.beforeFile crc32 tmSec event).senderBuffer index = none

theorem Books.bookkeeping {state : SenderState} (books : state.Books) : state.Bookkeeping := by
  refine ⟨books.size_eq_free, books.numbered, fun k pkt created => ?_⟩
  by_cases freed : k ∈ state.freed
  · refine Or.inl ⟨freed, ?_⟩
    rintro index packet found rfl
    exact (books.held index packet found).2 freed
  · refine Or.inr ⟨freed, ?_⟩
    obtain ⟨index, packet, found, rfl⟩ := books.kept k (List.getElem?_eq_some_iff.mp created).1 freed
    have same : packet.pkt = pkt := by
      rw [(books.held index packet found).1] at created
      exact Option.some.inj created
    subst same
    exact ⟨index, found, fun other held at_ here => books.distinct _ _ _ _ at_ found here⟩

/-- With books in order the counter is 0 exactly when no slot is free. -/
theorem Books.room_iff {state : SenderState} (books : state.Books) :
    (∃ index, state.senderBuffer index = none) ↔ state.senderBufferSize ≠ 0 := by
  have size := books.size
  constructor
  · rintro ⟨index, hole⟩ empty
    have none_left : state.senderBuffer.free = 0 := by
      rw [← books.size_eq_free, empty]
      rfl
    have member : index ∈ Finset.univ.filter fun index => (state.senderBuffer index).isNone := by
      simp [hole]
    exact absurd (Finset.card_pos.mpr ⟨index, member⟩) (by unfold Slots.free at none_left; omega)
  · intro some_left
    exact Slots.exists_none (books.used_lt some_left)

theorem Books.roomToRead_iff {state : SenderState} (books : state.Books) (input : SenderInput) :
    state.RoomToRead crc32 tmSec input ↔ ¬ state.Overruns crc32 tmSec input := by
  constructor
  · rintro room ⟨event, bytes, same, inLoop, read, nonempty, stays, empty, below⟩
    have mayRead : (state.beforeFile crc32 tmSec event).MayRead := by
      unfold MayRead
      rw [empty]
      exact below
    exact (books_beforeFile crc32 tmSec books event).room_iff.mp
      (room event bytes same inLoop read nonempty stays mayRead) empty
  · intro allowed event bytes same inLoop read nonempty stays mayRead
    refine (books_beforeFile crc32 tmSec books event).room_iff.mpr fun empty => allowed ?_
    refine ⟨event, bytes, same, inLoop, read, nonempty, stays, empty, ?_⟩
    unfold MayRead at mayRead
    rw [empty] at mayRead
    exact mayRead

end SenderState

/-- The bookkeeping holds throughout a run and every chunk read finds a free slot, exactly
when no iteration of the run overruns the buffer. -/
theorem bookkeeping_iff (crc32 : List UInt8 → UInt32) (tmSec : ℕ → UInt32) (stdin : Bool)
    (inputs : List SenderInput) :
    ((∀ n, ((readWriteLoop crc32 tmSec stdin).run (inputs.take n)).Bookkeeping) ∧
        (readWriteLoop crc32 tmSec stdin).Along (SenderState.RoomToRead crc32 tmSec) .start
          inputs) ↔
      (readWriteLoop crc32 tmSec stdin).Along
        (fun state input => ¬ state.Overruns crc32 tmSec input) .start inputs := by
  have rooms := (readWriteLoop crc32 tmSec stdin).along_congr (motive := SenderState.Books)
    (fun _ input books => books.roomToRead_iff crc32 tmSec input)
    (fun _ input books room => SenderState.books_iterate crc32 tmSec stdin books
      ((books.roomToRead_iff crc32 tmSec input).mp room)) SenderState.books_start inputs
  constructor
  · rintro ⟨-, room⟩
    exact rooms.mp room
  · intro allowed
    refine ⟨fun n => ?_, rooms.mpr allowed⟩
    have split := List.take_append_drop n inputs
    rw [← split, Machine.along_append] at allowed
    exact (SenderState.books_run crc32 tmSec stdin allowed.1).bookkeeping

/-! ## A sender that overruns -/

/-- One chunk of one byte, and nothing on the socket. -/
abbrev chunkEvent : SenderEvent :=
  ⟨0, none, fun _ => 0, Heap.plenty, some (some [0]), 0, Heap.plenty⟩

namespace SenderState

section Runs

variable (crc32 : List UInt8 → UInt32) {tmSec : ℕ → UInt32} (stdin : Bool) {state : SenderState}

/-- A sender with its books in order and some slots in use. -/
structure Filling (created lastack used : ℕ) (state : SenderState) : Prop where
  inLoop : state.exit = none
  few : state.count < 3
  books : state.Books
  chunks : state.chunks.length = created
  created : state.created.length = created
  lastack : state.lastack = lastack
  used : state.senderBuffer.used = used

/-- A sender whose slots are all in use. -/
structure Overflowing (seqnum lastack size read : ℕ) (state : SenderState) : Prop where
  inLoop : state.exit = none
  few : state.count < 3
  occupied : ∀ index, state.senderBuffer index ≠ none
  seqnum : state.seqnum.toNat = seqnum
  lastack : state.lastack = lastack
  size : state.senderBufferSize.toNat = size
  chunks : state.chunks.length = read

variable (zero : tmSec 0 = 0)

include zero

omit zero in
/-- What the books say of the counters. -/
theorem Filling.counters {created lastack used : ℕ}
    (filling : Filling created lastack used state) :
    state.senderBufferSize.toNat + used = 31 ∧ state.seqnum.toNat = created % 256 := by
  have size := filling.books.size
  have next := filling.books.next
  rw [filling.used] at size
  rw [filling.created] at next
  exact ⟨size, next⟩

theorem Filling.chunk {created lastack used : ℕ} (filling : Filling created lastack used state)
    (room : used < 31) (guard : created % 256 + used < lastack + 31) :
    Filling (created + 1) lastack (used + 1)
      (state.iterate crc32 tmSec stdin (.polled chunkEvent)) := by
  obtain ⟨size, next⟩ := filling.counters
  have window : windowSize = 31 := rfl
  have mayRead : state.MayRead := by
    unfold MayRead
    rw [next, filling.lastack]
    omega
  have nonzero : state.senderBufferSize ≠ 0 := by
    intro empty
    rw [empty] at size
    have none_left : (0 : UInt8).toNat = 0 := rfl
    omega
  have step : state.iterate crc32 tmSec stdin (.polled chunkEvent) =
      sendChunk crc32 { state with sent := [] } [0] (tmSec 0) Heap.plenty :=
    iterate_chunk crc32 tmSec stdin filling.inLoop filling.few zero (by decide) (by decide) mayRead
  have quiet : Books { state with sent := [] } :=
    filling.books.frame state.lastack state.count state.ack state.buffer1 state.exit []
  have books := quiet.sendChunk crc32 nonzero [0] (tmSec 0) Heap.plenty
  have free : state.senderBuffer.used < windowSize := by
    rw [filling.used]
    omega
  obtain ⟨index, hole, first⟩ := Slots.exists_first_none free
  have kept := sendChunk_of_hole crc32 { state with sent := [] } hole first [0] (tmSec 0) Heap.plenty
  rw [step]
  rw [kept] at books ⊢
  refine ⟨filling.inLoop, filling.few, books, ?_, ?_, filling.lastack, ?_⟩
  · exact List.length_append.trans (congrArg (· + 1) filling.chunks)
  · exact List.length_append.trans (congrArg (· + 1) filling.created)
  · exact (Slots.used_put hole _).trans (congrArg (· + 1) filling.used)

/-- A run of chunks while the guard lets them pass. -/
theorem Filling.fill {created lastack used : ℕ} (filling : Filling created lastack used state)
    (n : ℕ) (guard : ∀ i < n, used + i < 31 ∧ (created + i) % 256 + (used + i) < lastack + 31) :
    Filling (created + n) lastack (used + n) ((readWriteLoop crc32 tmSec stdin).runFrom state
      (List.replicate n (.polled chunkEvent))) := by
  induction n with
  | zero => exact filling
  | succ n ih =>
      have reached := ih fun i less => guard i (by omega)
      obtain ⟨room, below⟩ := guard n (Nat.lt_succ_self n)
      rw [List.replicate_succ', Machine.runFrom_append]
      exact reached.chunk crc32 stdin zero room below

omit zero in
/-- With all slots in use the counter is 0. -/
theorem Filling.overflowing {created lastack : ℕ} (filling : Filling created lastack 31 state) :
    Overflowing (created % 256) lastack 0 created state := by
  obtain ⟨size, next⟩ := filling.counters
  refine ⟨filling.inLoop, filling.few, fun index hole => ?_, next, filling.lastack, by omega,
    filling.chunks⟩
  have empty := filling.books.room_iff.mp ⟨index, hole⟩
  refine empty (UInt8.toNat_inj.mp ?_)
  change state.senderBufferSize.toNat = 0
  omega

theorem Overflowing.chunk {seqnum lastack size read : ℕ}
    (overflowing : Overflowing seqnum lastack size read state) (below : seqnum < lastack) :
    Overflowing seqnum lastack ((size + 255) % 256) (read + 1)
      (state.iterate crc32 tmSec stdin (.polled chunkEvent)) := by
  have mayRead : state.MayRead := by
    unfold MayRead
    rw [overflowing.seqnum, overflowing.lastack]
    omega
  have step : state.iterate crc32 tmSec stdin (.polled chunkEvent) =
      sendChunk crc32 { state with sent := [] } [0] (tmSec 0) Heap.plenty :=
    iterate_chunk crc32 tmSec stdin overflowing.inLoop overflowing.few zero (by decide)
      (by decide) mayRead
  rw [step, sendChunk_of_full crc32 { state with sent := [] } overflowing.occupied]
  refine ⟨overflowing.inLoop, overflowing.few, overflowing.occupied, overflowing.seqnum,
    overflowing.lastack, ?_, ?_⟩
  · change (state.senderBufferSize - 1).toNat = _
    rw [UInt8.toNat_sub, overflowing.size, UInt8.toNat_one]
    omega
  · exact List.length_append.trans (congrArg (· + 1) overflowing.chunks)

/-- Every chunk takes one from the counter, which wraps. -/
theorem Overflowing.overflow {seqnum lastack size read : ℕ}
    (overflowing : Overflowing seqnum lastack size read state) (below : seqnum < lastack)
    (small : size < 256) (n : ℕ) :
    Overflowing seqnum lastack ((size + 255 * n) % 256) (read + n)
      ((readWriteLoop crc32 tmSec stdin).runFrom state
        (List.replicate n (.polled chunkEvent))) := by
  induction n with
  | zero =>
      rw [Nat.mul_zero, Nat.add_zero, Nat.mod_eq_of_lt small]
      exact overflowing
  | succ n ih =>
      have next := ih.chunk crc32 stdin zero below
      rw [List.replicate_succ', Machine.runFrom_append]
      rw [show (size + 255 * (n + 1)) % 256 = ((size + 255 * n) % 256 + 255) % 256 by omega]
      exact next

end Runs

end SenderState

/-- An acknowledgement with number 200 for packets never created, then 32 chunks. -/
def overrunInputs : List SenderInput :=
  .polled ⟨0, some (some (ackDatagram zlibCrc32 31 200)), fun _ => 0, Heap.plenty, none, 0,
    Heap.plenty⟩ :: List.replicate 32 (.polled chunkEvent)

/-- The packet of the last chunk is in no slot, and the counter is 255. -/
theorem bookkeeping_overrun :
    ¬ ((readWriteLoop zlibCrc32 secondOf true).run overrunInputs).Bookkeeping := by
  intro bookkeeping
  have zero : secondOf 0 = 0 := rfl
  have inLoop : SenderState.start.exit = none := rfl
  obtain ⟨ack, buffer1, first⟩ := SenderState.iterate_ack zlibCrc32 secondOf zlibCrc32_nil 0 0
    (fun _ => 0) Heap.plenty 31 200 inLoop (Nat.succ_pos 2) zero
  have filling : SenderState.Filling 0 200 0 (SenderState.start.iterate zlibCrc32 secondOf true
      (.polled ⟨0, some (some (ackDatagram zlibCrc32 31 200)), fun _ => 0, Heap.plenty, none, 0,
        Heap.plenty⟩)) := by
    rw [first, SenderState.acknowledge_idle _ _ fun index packet held => ?_]
    · exact ⟨rfl, Nat.succ_pos 2, SenderState.books_start.frame 200 0 ack buffer1 none [], rfl, rfl,
        rfl, Slots.used_empty⟩
    · cases held
  have full := (filling.fill zlibCrc32 true zero 31
    fun i less => ⟨by omega, by omega⟩).overflowing
  have overrun := full.overflow zlibCrc32 true zero (by decide) (by decide) 1
  have wrapped : ((readWriteLoop zlibCrc32 secondOf true).run
      overrunInputs).senderBufferSize.toNat = 255 := by
    have split : overrunInputs = .polled ⟨0, some (some (ackDatagram zlibCrc32 31 200)),
        fun _ => 0, Heap.plenty, none, 0, Heap.plenty⟩ ::
        (List.replicate 31 (.polled chunkEvent) ++ List.replicate 1 (.polled chunkEvent)) := by
      rw [← List.replicate_add, overrunInputs]
    rw [split, Machine.run, Machine.runFrom_cons, Machine.runFrom_append, readWriteLoop_step,
      readWriteLoop_start, overrun.size]
  have size := bookkeeping.size
  have total := ((readWriteLoop zlibCrc32 secondOf true).run
    overrunInputs).senderBuffer.used_add_free
  have window : windowSize = 31 := rfl
  omega

end SelectiveRepeat.Sender
