import SelectiveRepeat.Sender.Traffic

/-!
# What the sender still holds

While acknowledgements arrive in order, no packet is freed before it was written, and
at most 31 packets are not acknowledged.  A packet may stay in its slot after it was
acknowledged, but only until the numbers have wrapped; it is sent again only when 256
packets have been created since.
-/

namespace SelectiveRepeat.Sender

open SelectiveRepeat.Foundations SelectiveRepeat.Packet SelectiveRepeat.Transport

namespace SenderState

variable (crc32 : List UInt8 → UInt32) (tmSec : ℕ → UInt32) (stdin : Bool)

/-- The first `acked` packets were acknowledged; those that are still held are of an
earlier cycle of numbers. -/
structure Tracked (acked : ℕ) (state : SenderState) : Prop where
  reached : acked ≤ state.created.length
  lastack : state.lastack = acked % 256
  freed : ∀ k ∈ state.freed, k < acked
  passed : ∀ index packet, state.senderBuffer index = some packet → packet.addr < acked →
    packet.addr / 256 < state.created.length / 256

variable {state : SenderState} {acked : ℕ}

theorem tracked_start : Tracked 0 start := by
  refine ⟨Nat.le_refl _, rfl, fun k member => absurd member List.not_mem_nil,
    fun index packet held => ?_⟩
  cases held

/-- All packets that are not acknowledged are held, so the slots bound their number. -/
theorem Tracked.near (tracked : Tracked acked state) (books : state.Books) :
    state.created.length ≤ acked + windowSize := by
  have covered : Finset.Ico acked state.created.length ⊆ Finset.univ.image fun index =>
      ((state.senderBuffer index).map PktPtr.addr).getD 0 := by
    intro k member
    obtain ⟨low, high⟩ := Finset.mem_Ico.mp member
    have alive : k ∉ state.freed := fun freed => absurd (tracked.freed k freed) (Nat.not_lt.mpr low)
    obtain ⟨index, packet, held, rfl⟩ := books.kept k high alive
    refine Finset.mem_image.mpr ⟨index, Finset.mem_univ index, ?_⟩
    rw [held]
    rfl
  have slots : (Finset.univ.image fun index =>
      ((state.senderBuffer index).map PktPtr.addr).getD 0).card ≤ windowSize :=
    Finset.card_image_le.trans (by rw [Finset.card_univ, Fintype.card_fin])
  have count := (Finset.card_le_card covered).trans slots
  rw [Nat.card_Ico] at count
  omega

/-! ## One iteration -/

/-- The next acknowledgement to arrive. -/
theorem Tracked.acknowledge (tracked : Tracked acked state) (books : state.Books) {next : ℕ}
    (later : acked ≤ next) (created : next ≤ state.created.length) :
    Tracked next (state.acknowledge (UInt8.ofNat next)) := by
  have near := tracked.near books
  have window : windowSize = 31 := rfl
  have number : (UInt8.ofNat next).toNat = next % 256 := UInt8.toNat_ofNat'
  have seqnum := books.next
  have acked := state.acknowledge_acked (UInt8.ofNat next)
  refine ⟨?_, acked.lastack.trans number, fun k member => ?_, fun index packet held passed => ?_⟩
  · rw [acked.created]
    exact created
  · rcases books.acknowledge_freed (UInt8.ofNat next) k member with old | ⟨less, below, inside⟩
    · exact (tracked.freed k old).trans_le later
    · omega
  · rw [acknowledge_senderBuffer, Slots.discard_eq_some] at held
    obtain ⟨old, fails⟩ := held
    have numbered := books.held_numbered old
    rw [acked.created]
    rcases acknowledged_eq_false.mp fails with before | beyond
    · omega
    · omega

/-- A packet more. -/
theorem Tracked.grow {after : SenderState} (tracked : Tracked acked state)
    (grows : Grows state after) : Tracked acked after := by
  obtain ⟨pkt, created⟩ := grows.created
  have length : after.created.length = state.created.length + 1 := by
    rw [created, List.length_append, List.length_singleton]
  have reached := tracked.reached
  refine ⟨by omega, grows.lastack.trans tracked.lastack, ?_, fun index packet held passed => ?_⟩
  · rw [grows.freed]
    exact tracked.freed
  · rw [length]
    rcases grows.slots index packet held with new | old
    · omega
    · have earlier := tracked.passed index packet old passed
      omega

/-- Acknowledgements that arrive in order are tracked through an iteration. -/
theorem Tracked.iterate (tracked : Tracked acked state) (books : state.Books)
    {input : SenderInput} (allowed : ¬ state.Overruns crc32 tmSec input) {next : ℕ}
    (later : acked ≤ next) (created : next ≤ state.created.length)
    (arrives : ∀ event bytes number, input = .polled event → event.recv = some (some bytes) →
      Acknowledges crc32 bytes number → number = UInt8.ofNat next) :
    ∃ reached, acked ≤ reached ∧ reached ≤ next ∧
      Tracked reached (state.iterate crc32 tmSec stdin input) := by
  have both := books.iterate_preserves crc32 tmSec stdin input allowed
    (motive := fun after => state.created.length ≤ after.created.length ∧
      ∃ reached, acked ≤ reached ∧ reached ≤ next ∧ Tracked reached after) ?_ ?_ ?_ ?_
  · exact both.2.2
  · rintro after count ack buffer1 exit sent ⟨longer, reached, low, high, before⟩
    exact ⟨longer, reached, low, high,
      ⟨before.reached, before.lastack, before.freed, before.passed⟩⟩
  · rintro after event bytes number same received accepted kept ⟨longer, reached, low, high, before⟩
    rw [arrives event bytes number same received accepted]
    refine ⟨?_, next, later, Nat.le_refl _, before.acknowledge kept high (created.trans longer)⟩
    rw [(after.acknowledge_acked _).created]
    exact longer
  · rintro before after grows - ⟨longer, reached, low, high, tracked⟩
    obtain ⟨pkt, same⟩ := grows.created
    refine ⟨longer.trans ?_, reached, low, high, tracked.grow grows⟩
    rw [same]
    exact (List.prefix_append _ _).length_le
  · exact ⟨Nat.le_refl _, acked, Nat.le_refl _, later, tracked⟩

/-! ## Sending again -/

/-- A packet that was acknowledged is due only when 256 packets have been created since. -/
theorem Tracked.due (tracked : Tracked acked state) (books : state.Books) {input : SenderInput}
    {k : ℕ} (resends : state.Resends tmSec input k) (recent : state.created.length < k + 256) :
    acked ≤ k := by
  obtain ⟨event, index, packet, -, -, held, rfl, due⟩ := resends
  by_contra before
  have passed := tracked.passed index packet held (by omega)
  have numbered := books.held_numbered held
  have reached := tracked.reached
  rcases due with ⟨-, fast⟩ | ⟨-, -, timer⟩
  · unfold fastDue at fast
    rw [pktGetSeqnum, numbered, tracked.lastack] at fast
    omega
  · rw [UInt8.le_iff_toNat_le, pktGetSeqnum, numbered, books.next] at timer
    omega

end SenderState

end SelectiveRepeat.Sender
