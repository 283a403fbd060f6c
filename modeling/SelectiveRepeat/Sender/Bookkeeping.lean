import SelectiveRepeat.Foundations.Distinct
import SelectiveRepeat.Sender.Step

/-!
# The sender's bookkeeping

`sender_buffer_size` counts the free slots and every packet stays in its slot until
an acknowledgement frees it, except that `read` is also allowed with no free slot
once the sequence number has wrapped below the last acknowledged one.  The packet
made then is kept nowhere and the counter wraps.
-/

namespace SelectiveRepeat.Sender

open SelectiveRepeat.Foundations SelectiveRepeat.Packet SelectiveRepeat.Transport

namespace SenderState

variable (crc32 : List UInt8 → UInt32) (tmSec : ℕ → UInt32) (stdin : Bool)

/-- The counter is the number of free slots, the packets are numbered modulo 256, and
every packet is in one slot until it is freed. -/
structure Books (state : SenderState) : Prop where
  size : state.senderBufferSize.toNat + state.senderBuffer.used = windowSize
  next : state.seqnum.toNat = state.created.length % 256
  numbered : ∀ k pkt, state.created[k]? = some pkt → pkt.seqnum.toNat = k % 256
  held : ∀ index packet, state.senderBuffer index = some packet →
    state.created[packet.addr]? = some packet.pkt ∧ packet.addr ∉ state.freed
  distinct : Distinct PktPtr.addr state.senderBuffer
  past : ∀ k ∈ state.freed, k < state.created.length
  kept : ∀ k < state.created.length, k ∉ state.freed →
    ∃ index packet, state.senderBuffer index = some packet ∧ packet.addr = k

variable {state : SenderState}

theorem books_start : start.Books := by
  refine ⟨?_, rfl, fun k pkt found => ?_, fun index packet found => ?_,
    fun index _ packet _ found => ?_, fun k member => absurd member List.not_mem_nil,
    fun k less => absurd less (Nat.not_lt_zero k)⟩
  · unfold start
    rw [Slots.used_empty]
    rfl
  · simp [start] at found
  · simp [start] at found
  · simp [start] at found

theorem Books.frame (books : state.Books) (lastack count : ℕ) (ack : Pkt) (buffer1 : Memory)
    (exit : Option Exit) (sent : List Datagram) : Books { state with
      lastack := lastack, count := count, ack := ack, buffer1 := buffer1, exit := exit,
      sent := sent } :=
  ⟨books.size, books.next, books.numbered, books.held, books.distinct, books.past, books.kept⟩

/-- The counter is the number of free slots. -/
theorem Books.size_eq_free (books : state.Books) :
    state.senderBufferSize.toNat = state.senderBuffer.free := by
  have total := state.senderBuffer.used_add_free
  have size := books.size
  omega

theorem Books.addr_lt (books : state.Books) {index : Fin windowSize} {packet : PktPtr}
    (found : state.senderBuffer index = some packet) : packet.addr < state.created.length :=
  (List.getElem?_eq_some_iff.mp (books.held index packet found).1).1

theorem Books.held_numbered (books : state.Books) {index : Fin windowSize} {packet : PktPtr}
    (held : state.senderBuffer index = some packet) :
    packet.pkt.seqnum.toNat = packet.addr % 256 :=
  books.numbered _ _ (books.held index packet held).1

/-- When all slots are counted free they are. -/
theorem Books.empty_of_size (books : state.Books)
    (all : state.senderBufferSize.toNat = windowSize) (index : Fin windowSize) :
    state.senderBuffer index = none := by
  have size := books.size
  exact Slots.eq_none_of_used_eq_zero (by omega) index

/-- When no packet is held every packet was freed. -/
theorem Books.freed_of_empty (books : state.Books)
    (empty : ∀ index, state.senderBuffer index = none) :
    ∀ k < state.created.length, k ∈ state.freed := by
  intro k less
  by_contra alive
  obtain ⟨index, packet, held, -⟩ := books.kept k less alive
  rw [empty index] at held
  cases held

/-! ## Freeing a slot -/

theorem Books.release (books : state.Books) {index : Fin windowSize} {packet : PktPtr}
    (found : state.senderBuffer index = some packet) : (state.release index packet).Books := by
  have others : ∀ other held, (state.release index packet).senderBuffer other = some held →
      other ≠ index ∧ state.senderBuffer other = some held := fun _ _ => Slots.of_clear_eq_some
  refine ⟨release_counts found books.size, books.next, books.numbered, fun other held found' => ?_,
    books.distinct.shrink fun other held found' => (others other held found').2,
    fun k member => ?_, fun k less notFreed => ?_⟩
  · obtain ⟨apart, old⟩ := others other held found'
    obtain ⟨created, alive⟩ := books.held other held old
    refine ⟨created, fun member => ?_⟩
    rcases List.mem_append.mp member with before | now
    · exact alive before
    · exact apart (books.distinct _ _ _ _ old found (List.mem_singleton.mp now))
  · rcases List.mem_append.mp member with before | now
    · exact books.past k before
    · rw [List.mem_singleton.mp now]
      exact books.addr_lt found
  · have alive : k ∉ state.freed := fun member => notFreed (List.mem_append_left _ member)
    obtain ⟨other, held, old, same⟩ := books.kept k less alive
    have apart : other ≠ index := by
      rintro rfl
      rw [found] at old
      rw [← Option.some.inj old] at same
      exact notFreed (List.mem_append_right _ (List.mem_singleton.mpr same.symm))
    exact ⟨other, held, (Slots.clear_of_ne _ apart).trans old, same⟩

theorem Books.acknowledge (books : state.Books) (number : UInt8) :
    (state.acknowledge number).Books := by
  unfold SenderState.acknowledge
  refine releaseAll_preserves number (fun reached index packet before found _ =>
    before.release found) ?_
  split
  · exact books.frame number.toNat _ _ _ _ _
  · exact books.frame number.toNat _ _ _ _ _

/-! ## Keeping a new packet -/

/-- A packet with the next number, counted and put into a free slot. -/
theorem Books.hold (books : state.Books) {pkt : Pkt} (number : pkt.seqnum = state.seqnum)
    {index : Fin windowSize} (hole : state.senderBuffer index = none)
    (chunks : List (List UInt8)) :
    (SenderState.hold { state.create crc32 pkt with chunks := chunks } index
      ⟨state.created.length, pkt⟩).Books := by
  have grown := Slots.used_put hole (⟨state.created.length, pkt⟩ : PktPtr)
  have bound := (state.senderBuffer.put index ⟨state.created.length, pkt⟩).used_le
  have size := books.size
  have added : ∀ other held,
      state.senderBuffer.put index ⟨state.created.length, pkt⟩ other = some held →
      (other = index ∧ held = ⟨state.created.length, pkt⟩) ∨
        state.senderBuffer other = some held :=
    fun other held found => (Slots.of_put_eq_some found).imp_right And.right
  have length : (state.created ++ [pkt]).length = state.created.length + 1 := by
    rw [List.length_append, List.length_singleton]
  refine ⟨?_, ?_, fun k other found => ?_, fun other held found => ?_,
    books.distinct.add (fun other held found => Nat.ne_of_lt (books.addr_lt found)) added,
    fun k member => ?_, fun k less notFreed => ?_⟩
  · change (state.senderBufferSize - 1).toNat +
      (state.senderBuffer.put index ⟨state.created.length, pkt⟩).used = windowSize
    have positive : 1 ≤ state.senderBufferSize.toNat := by omega
    have taken : (state.senderBufferSize - 1).toNat = state.senderBufferSize.toNat - 1 :=
      UInt8.toNat_sub_of_le _ _ (UInt8.le_iff_toNat_le.mpr positive)
    omega
  · change (incSeqnum state.seqnum).toNat = (state.created ++ [pkt]).length % 256
    rw [length]
    exact incSeqnum_count books.next
  · rcases getElem?_concat_eq_some.mp found with old | ⟨rfl, rfl⟩
    · exact books.numbered k other old
    · rw [number]
      exact books.next
  · rcases added other held found with ⟨-, rfl⟩ | old
    · refine ⟨List.getElem?_concat_length, fun member => ?_⟩
      exact Nat.lt_irrefl _ (books.past _ member)
    · obtain ⟨created, alive⟩ := books.held other held old
      exact ⟨getElem?_concat_eq_some.mpr (Or.inl created), alive⟩
  · exact (books.past k member).trans_le (length ▸ Nat.le_succ _)
  · change k < (state.created ++ [pkt]).length at less
    rw [length] at less
    rcases Nat.lt_succ_iff_lt_or_eq.mp less with old | rfl
    · obtain ⟨other, held, found, same⟩ := books.kept k old notFreed
      have apart : other ≠ index := by
        rintro rfl
        rw [hole] at found
        cases found
      exact ⟨other, held, (Slots.put_of_ne _ _ apart).trans found, same⟩
    · exact ⟨index, _, Slots.put_same _ _ _, rfl⟩

theorem chunkPkt_seqnum (state : SenderState) (chunk : List UInt8) (stamp : UInt32) (heap : Heap) :
    (state.chunkPkt chunk stamp heap).seqnum = state.seqnum := by
  unfold chunkPkt pktSetPayload
  split
  · rfl
  · rfl

/-- A counter above 0 means that a slot is free. -/
theorem Books.used_lt (books : state.Books) (room : state.senderBufferSize ≠ 0) :
    state.senderBuffer.used < windowSize := by
  have positive : 0 < state.senderBufferSize.toNat :=
    Nat.pos_of_ne_zero fun zero => room (UInt8.toNat_inj.mp zero)
  have size := books.size
  omega

/-- A chunk read while a slot is free is kept in one. -/
theorem Books.sendChunk (books : state.Books) (room : state.senderBufferSize ≠ 0)
    (chunk : List UInt8) (stamp : UInt32) (heap : Heap) :
    (state.sendChunk crc32 chunk stamp heap).Books := by
  obtain ⟨index, hole, first⟩ := Slots.exists_first_none (books.used_lt room)
  rw [sendChunk_of_hole crc32 state hole first]
  exact books.hold crc32 (chunkPkt_seqnum state chunk stamp heap) hole _

/-- The marker overwrites a slot, but all slots are free then. -/
theorem Books.sendMarker (books : state.Books)
    (full : state.senderBufferSize.toNat = windowSize) (stamp : UInt32) :
    (state.sendMarker crc32 stamp).Books :=
  books.hold crc32 rfl (books.empty_of_size full _) state.chunks

/-! ## Whole runs -/

/-- A chunk is offered while the counter is 0 and the sequence number is below the last
acknowledged one. -/
def Overruns (state : SenderState) (input : SenderInput) : Prop :=
  ∃ event bytes, input = .polled event ∧ state.exit = none ∧
    event.read = some (some bytes) ∧ bytes ≠ [] ∧
    (state.beforeFile crc32 tmSec event).exit = none ∧
    (state.beforeFile crc32 tmSec event).senderBufferSize = 0 ∧
    (state.beforeFile crc32 tmSec event).seqnum.toNat <
      (state.beforeFile crc32 tmSec event).lastack

theorem ne_nil_of_chunk {bytes : List UInt8} (nonempty : 0 < (bytes.take maxPayloadSize).length) :
    bytes ≠ [] := by
  rintro rfl
  simp at nonempty

theorem books_beforeFile (books : state.Books) (event : SenderEvent) :
    (state.beforeFile crc32 tmSec event).Books :=
  beforeFile_preserves crc32 tmSec
    (fun state count ack buffer1 exit sent before =>
      before.frame state.lastack count ack buffer1 exit sent)
    (fun _ _ number _ _ before => before.acknowledge number) books

/-- One packet more was created and put into a free slot. -/
structure Grows (before after : SenderState) : Prop where
  created : ∃ pkt, after.created = before.created ++ [pkt]
  freed : after.freed = before.freed
  lastack : after.lastack = before.lastack
  count : after.count = before.count
  slots : ∀ index packet, after.senderBuffer index = some packet →
    packet.addr = before.created.length ∨ before.senderBuffer index = some packet

theorem Books.sendChunk_grows (books : state.Books) (room : state.senderBufferSize ≠ 0)
    (chunk : List UInt8) (stamp : UInt32) (heap : Heap) :
    Grows state (state.sendChunk crc32 chunk stamp heap) := by
  obtain ⟨index, hole, first⟩ := Slots.exists_first_none (books.used_lt room)
  rw [sendChunk_of_hole crc32 state hole first]
  refine ⟨⟨_, rfl⟩, rfl, rfl, rfl, fun other packet found => ?_⟩
  rcases Slots.of_put_eq_some found with ⟨-, rfl⟩ | ⟨-, old⟩
  · exact Or.inl rfl
  · exact Or.inr old

theorem sendMarker_grows (state : SenderState) (stamp : UInt32) :
    Grows state (state.sendMarker crc32 stamp) := by
  refine ⟨⟨_, rfl⟩, rfl, rfl, rfl, fun other packet found => ?_⟩
  rcases Slots.of_put_eq_some found with ⟨-, rfl⟩ | ⟨-, old⟩
  · exact Or.inl rfl
  · exact Or.inr old

/-- The rule for a property of the slots, the last acknowledgement and the records, in an
iteration that does not overrun the buffer. -/
theorem Books.iterate_preserves {motive : SenderState → Prop} (books : state.Books)
    (input : SenderInput) (allowed : ¬ state.Overruns crc32 tmSec input)
    (frame : ∀ state count ack buffer1 exit sent, motive state → motive { state with
      count := count, ack := ack, buffer1 := buffer1, exit := exit, sent := sent })
    (acknowledge : ∀ state event bytes number, input = .polled event →
      event.recv = some (some bytes) → Acknowledges crc32 bytes number → state.Books →
      motive state → motive (state.acknowledge number))
    (grow : ∀ before after, Grows before after → after.Books → motive before → motive after)
    (before : motive state) :
    (state.iterate crc32 tmSec stdin input).Books ∧
      motive (state.iterate crc32 tmSec stdin input) := by
  refine SenderState.iterate_preserves crc32 tmSec stdin
    (motive := fun state => state.Books ∧ motive state) ?_ input ?_ ?_ ?_ ⟨books, before⟩
  · rintro state count ack buffer1 exit sent ⟨books, before⟩
    exact ⟨books.frame state.lastack count ack buffer1 exit sent, frame _ _ _ _ _ _ before⟩
  · rintro state event bytes number same received accepted ⟨books, before⟩
    exact ⟨books.acknowledge number,
      acknowledge state event bytes number same received accepted books before⟩
  · rintro event bytes same inLoop read nonempty stays mayRead ⟨books, before⟩
    have room : (state.beforeFile crc32 tmSec event).senderBufferSize ≠ 0 := by
      intro empty
      refine allowed ⟨event, bytes, same, inLoop, read, ne_nil_of_chunk nonempty, stays, empty, ?_⟩
      unfold MayRead at mayRead
      rw [empty] at mayRead
      exact mayRead
    have kept := books.sendChunk crc32 room (bytes.take maxPayloadSize) (tmSec event.later)
      event.payloadHeap
    exact ⟨kept, grow _ _ (books.sendChunk_grows crc32 room _ _ _) kept before⟩
  · rintro state stamp full ⟨books, before⟩
    have kept := books.sendMarker crc32 full stamp
    exact ⟨kept, grow _ _ (sendMarker_grows crc32 state stamp) kept before⟩

theorem books_iterate (books : state.Books) {input : SenderInput}
    (allowed : ¬ state.Overruns crc32 tmSec input) :
    (state.iterate crc32 tmSec stdin input).Books :=
  (books.iterate_preserves crc32 tmSec stdin input allowed (motive := fun _ => True)
    (fun _ _ _ _ _ _ _ => trivial) (fun _ _ _ _ _ _ _ _ _ => trivial)
    (fun _ _ _ _ _ => trivial) trivial).1

theorem books_run {inputs : List SenderInput}
    (allowed : (readWriteLoop crc32 tmSec stdin).Along
      (fun state input => ¬ state.Overruns crc32 tmSec input) .start inputs) :
    ((readWriteLoop crc32 tmSec stdin).run inputs).Books :=
  (readWriteLoop crc32 tmSec stdin).invariant_along books_start
    (fun _ _ books allowed => books_iterate crc32 tmSec stdin books allowed) allowed

end SenderState

end SelectiveRepeat.Sender
