import SelectiveRepeat.Sender.Expiry
import SelectiveRepeat.Sender.Traffic

/-!
# The window shrinks

A slot is freed by an acknowledgement above the number of its packet, and there is none
above 255.  Every packet numbered 255 keeps its slot for ever, so the window loses a slot
with every 256 packets.
-/

namespace SelectiveRepeat.Sender

open SelectiveRepeat.Foundations SelectiveRepeat.Packet SelectiveRepeat.Transport

namespace SenderState

/-- Packets that have been created and not freed have slots of their own. -/
theorem Books.card_le_used {state : SenderState} (books : state.Books) (packets : Finset ℕ)
    (alive : ∀ k ∈ packets, k < state.created.length ∧ k ∉ state.freed) :
    packets.card ≤ state.senderBuffer.used := by
  refine Slots.card_le_used PktPtr.addr packets fun k member => ?_
  obtain ⟨created, notFreed⟩ := alive k member
  exact books.kept k created notFreed

/-- The packets numbered 255. -/
def lastNumbered (count : ℕ) : Finset ℕ := (Finset.range count).image fun k => 256 * k + 255

theorem card_lastNumbered (count : ℕ) : (lastNumbered count).card = count := by
  unfold lastNumbered
  rw [Finset.card_image_of_injective, Finset.card_range]
  intro first second same
  dsimp only at same
  omega

/-- No packet numbered 255 has been freed, and each of them has taken a slot. -/
structure Shrunk (state : SenderState) : Prop where
  past : ∀ k ∈ state.freed, k < state.created.length
  below : ∀ k ∈ state.freed, k % 256 < 255
  room : state.created.length ≤ windowSize * 256

variable {state : SenderState}

theorem shrunk_start : start.Shrunk :=
  ⟨fun _ member => absurd member List.not_mem_nil, fun _ member => absurd member List.not_mem_nil,
    Nat.zero_le _⟩

/-- The packets numbered 255 are in slots. -/
theorem Shrunk.alive (shrunk : state.Shrunk) {count : ℕ}
    (created : 256 * count ≤ state.created.length) :
    ∀ k ∈ lastNumbered count, k < state.created.length ∧ k ∉ state.freed := by
  intro k member
  obtain ⟨turn, less, rfl⟩ := Finset.mem_image.mp member
  have less := Finset.mem_range.mp less
  refine ⟨by omega, fun freed => ?_⟩
  have below := shrunk.below _ freed
  omega

theorem Shrunk.acknowledge (shrunk : state.Shrunk) (books : state.Books) (number : UInt8) :
    (state.acknowledge number).Shrunk := by
  have created := (state.acknowledge_acked number).created
  refine ⟨(books.acknowledge number).past, fun k member => ?_, created ▸ shrunk.room⟩
  rcases books.acknowledge_freed number k member with old | ⟨-, less, -⟩
  · exact shrunk.below k old
  · have most := number.toNat_lt
    omega

/-- One packet more needs a slot of its own. -/
theorem Shrunk.grow (shrunk : state.Shrunk) {after : SenderState} (grows : Grows state after)
    (books : after.Books) : after.Shrunk := by
  obtain ⟨pkt, created⟩ := grows.created
  have length : after.created.length = state.created.length + 1 := by
    rw [created, List.length_append, List.length_singleton]
  have freed := grows.freed
  refine ⟨books.past, freed ▸ shrunk.below, ?_⟩
  by_contra many
  have room := shrunk.room
  unfold windowSize at room many
  -- the packet and the 31 packets numbered 255 before it are in different slots
  have slots : (insert state.created.length (lastNumbered 31)).card ≤ after.senderBuffer.used := by
    refine books.card_le_used _ fun k member => ?_
    rw [length, freed]
    rcases Finset.mem_insert.mp member with rfl | old
    · exact ⟨Nat.lt_succ_self _, fun again => Nat.lt_irrefl _ (shrunk.past _ again)⟩
    · have alive := shrunk.alive (by omega) k old
      exact ⟨by omega, alive.2⟩
  have fresh : state.created.length ∉ lastNumbered 31 := fun old =>
    Nat.lt_irrefl _ (shrunk.alive (by omega) _ old).1
  rw [Finset.card_insert_of_notMem fresh, card_lastNumbered] at slots
  exact absurd (slots.trans after.senderBuffer.used_le) (by decide)

variable (crc32 : List UInt8 → UInt32) (tmSec : ℕ → UInt32) (stdin : Bool)

theorem shrunk_iterate (books : state.Books) {input : SenderInput}
    (allowed : ¬ state.Overruns crc32 tmSec input) (shrunk : state.Shrunk) :
    (state.iterate crc32 tmSec stdin input).Shrunk :=
  (books.iterate_preserves crc32 tmSec stdin input allowed (motive := Shrunk)
    (fun _ _ _ _ _ _ before => ⟨before.past, before.below, before.room⟩)
    (fun _ _ _ number _ _ _ books before => before.acknowledge books number)
    (fun _ _ grows books before => before.grow grows books) shrunk).2

/-- In every run that does not overrun the buffer. -/
theorem shrunk_run {inputs : List SenderInput} (allowed : (readWriteLoop crc32 tmSec stdin).Along
      (fun state input => ¬ state.Overruns crc32 tmSec input) .start inputs) :
    let state := (readWriteLoop crc32 tmSec stdin).run inputs
    state.Books ∧ state.Shrunk ∧ state.Ended :=
  (readWriteLoop crc32 tmSec stdin).invariant_along
    (motive := fun state => state.Books ∧ state.Shrunk ∧ state.Ended)
    ⟨books_start, shrunk_start, ended_start⟩
    (fun _ input before allowed =>
      ⟨books_iterate crc32 tmSec stdin before.1 allowed,
        shrunk_iterate crc32 tmSec stdin before.1 allowed before.2.1,
        ended_iterate crc32 tmSec stdin before.2.2 input⟩) allowed

/-- No packet numbered 255 is freed, so a slot is lost with every 256 packets. -/
structure LosesSlots (state : SenderState) : Prop where
  kept : ∀ k ∈ state.freed, k % 256 ≠ 255
  window : state.created.length / 256 + state.senderBufferSize.toNat ≤ windowSize
  created : state.created.length ≤ windowSize * 256
  finished : state.exit = some .endOfFile → state.created.length ≤ 255

theorem Shrunk.losesSlots (shrunk : state.Shrunk) (books : state.Books) (ended : state.Ended) :
    state.LosesSlots := by
  have slots := books.card_le_used _ (shrunk.alive (Nat.mul_div_le state.created.length 256))
  rw [card_lastNumbered] at slots
  have size := books.size
  have total : state.created.length / 256 + state.senderBufferSize.toNat ≤ windowSize := by omega
  refine ⟨fun k freed => (shrunk.below k freed).ne, total, shrunk.room, fun finished => ?_⟩
  have all := ended finished
  omega

end SenderState

end SelectiveRepeat.Sender
