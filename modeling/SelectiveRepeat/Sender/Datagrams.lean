import SelectiveRepeat.Sender.Traffic

/-!
# The datagrams of any run

Whether the buffer is overrun or not, every packet held has been created, and every
datagram sent is that of a packet created.  The chunks bound its length.
-/

namespace SelectiveRepeat.Sender

open SelectiveRepeat.Foundations SelectiveRepeat.Packet SelectiveRepeat.Transport

namespace SenderState

variable (crc32 : List UInt8 → UInt32) (tmSec : ℕ → UInt32) (stdin : Bool)

/-- Every packet held has been created. -/
def HoldsCreated (state : SenderState) : Prop :=
  ∀ index packet, state.senderBuffer index = some packet → packet.pkt ∈ state.created

variable {state : SenderState}

theorem holdsCreated_start : start.HoldsCreated := by
  intro index packet held
  cases held

/-- The newest packet may be held. -/
theorem HoldsCreated.hold (holds : state.HoldsCreated) (pkt : Pkt) (index : Fin windowSize)
    (addr : ℕ) : ((state.create crc32 pkt).hold index ⟨addr, pkt⟩).HoldsCreated := by
  intro other packet held
  change packet.pkt ∈ state.created ++ [pkt]
  rcases Slots.of_put_eq_some held with ⟨-, rfl⟩ | ⟨-, old⟩
  · exact List.mem_append_right _ (List.mem_singleton.mpr rfl)
  · exact List.mem_append_left _ (holds other packet old)

theorem HoldsCreated.sendChunk (holds : state.HoldsCreated) (chunk : List UInt8) (stamp : UInt32)
    (heap : Heap) : (state.sendChunk crc32 chunk stamp heap).HoldsCreated := by
  unfold SenderState.sendChunk
  dsimp only
  split
  · rename_i index _
    exact holds.hold crc32 _ index _
  · exact fun index packet held => List.mem_append_left _ (holds index packet held)

theorem holdsCreated_iterate (holds : state.HoldsCreated) (input : SenderInput) :
    (state.iterate crc32 tmSec stdin input).HoldsCreated := by
  refine iterate_preserves crc32 tmSec stdin (motive := HoldsCreated) ?_ input ?_ ?_ ?_ holds
  · intro state count ack buffer1 exit sent before
    exact before
  · intro state event bytes number _ _ _ before index packet held
    rw [acknowledge_senderBuffer, Slots.discard_eq_some] at held
    rw [(state.acknowledge_acked number).created]
    exact before index packet held.1
  · intro event bytes _ _ _ _ _ _ before
    exact before.sendChunk crc32 _ _ _
  · intro state stamp _ before
    exact before.hold crc32 (state.markerPkt stamp) _ _

/-- Every datagram sent is that of a packet created. -/
theorem sent_created (holds : state.HoldsCreated) (input : SenderInput) :
    ∀ datagram ∈ (state.iterate crc32 tmSec stdin input).sent,
      ∃ pkt ∈ (state.iterate crc32 tmSec stdin input).created, datagram = pkt.wire crc32 := by
  have again : ∀ event, ∀ datagram ∈ (state.beforeFile crc32 tmSec event).sent,
      ∃ pkt ∈ (state.beforeFile crc32 tmSec event).created, datagram = pkt.wire crc32 := by
    intro event datagram member
    have emitted := state.emitted_beforeFile crc32 tmSec event
    obtain ⟨index, packet, held, -, same⟩ := emitted.sent datagram member
    rw [emitted.created]
    exact ⟨packet.pkt, holds index packet held, same⟩
  have outcome := state.iterated crc32 tmSec stdin input
  generalize state.iterate crc32 tmSec stdin input = after at outcome ⊢
  cases outcome with
  | left left => exact fun _ member => absurd member List.not_mem_nil
  | pollEnds inLoop => exact fun _ member => absurd member List.not_mem_nil
  | failed inLoop recv => exact again _
  | looked inLoop stays outcome =>
      rcases outcome.record with ⟨created, sent⟩ | ⟨pkt, read, creates⟩
      · rw [created, sent]
        exact again _
      · rw [creates.created, creates.sent]
        intro datagram member
        rcases List.mem_append.mp member with old | new
        · obtain ⟨other, inside, same⟩ := again _ datagram old
          exact ⟨other, List.mem_append_left _ inside, same⟩
        · exact ⟨pkt, List.mem_append_right _ (List.mem_singleton.mpr rfl),
            List.mem_singleton.mp new⟩

/-- A sender that has left its loop, or leaves it now, sends nothing, whatever it is given. -/
theorem iterate_idle {input : SenderInput} (idle : state.exit ≠ none ∨ input = .pollEnds) :
    state.iterate crc32 tmSec stdin input = state.iterate crc32 tmSec stdin .pollEnds ∧
      (state.iterate crc32 tmSec stdin input).sent = [] := by
  unfold iterate
  rcases idle with left | rfl
  · rw [if_neg left, if_neg left]
    exact ⟨rfl, rfl⟩
  · refine ⟨rfl, ?_⟩
    split
    · rfl
    · rfl

/-- A packet with a chunk has a header, the chunk and a CRC, and the marker has a header. -/
theorem Composed.length_wire (composed : state.Composed) {n : ℕ}
    (small : ∀ chunk ∈ state.chunks, chunk.length ≤ n) {pkt : Pkt} (created : pkt ∈ state.created) :
    12 ≤ (pkt.wire crc32).length ∧ (pkt.wire crc32).length ≤ n + 16 := by
  rw [Pkt.length_wire]
  cases held : pkt.payload with
  | none =>
      rw [Option.isSome_none, if_neg Bool.false_ne_true]
      omega
  | some payload =>
      have read : payload ∈ state.chunks := by
        rw [← composed.chunks]
        exact List.mem_filterMap.mpr ⟨pkt, created, held⟩
      have fits := small payload read
      rcases composed.shaped pkt created with encodable | ⟨absent, -⟩
      · rcases encodable.payload with ⟨other, same, length, -, -⟩ | ⟨absent, -⟩
        · rw [held, Option.some.injEq] at same
          subst same
          rw [Option.isSome_some, if_pos rfl]
          omega
        · rw [held] at absent
          cases absent
      · rw [held] at absent
        cases absent

end SenderState

end SelectiveRepeat.Sender
