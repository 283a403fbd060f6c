import SelectiveRepeat.Foundations.Loops
import SelectiveRepeat.Receiver.Step

/-!
# The drain loop ends

The drain loop sets its index back after every delivery.  Every delivery frees a
slot, so there are at most as many of them as there were occupied slots, and between
two of them the index only rises.
-/

namespace SelectiveRepeat.Receiver

open SelectiveRepeat.Foundations SelectiveRepeat.Packet SelectiveRepeat.Transport

namespace ReceiverState

variable (write : ℕ → ℕ → ℤ)

/-- One round of the `for` statement from an index: the test, the body and the increment. -/
def drainRound : ℕ × ReceiverState → Option (ℕ × ReceiverState)
  | (i, state) =>
      if inside : i < windowSize then
        match state.receiverBuffer ⟨i, inside⟩ with
        | some packet =>
            if pktGetSeqnum packet.pkt = state.seqnum then
              let state := state.deliver write ⟨i, inside⟩ packet
              let i := 0
              some (i + 1, state)
            else some (i + 1, state)
        | none => some (i + 1, state)
      else none

/-- What a round can do. -/
inductive Rounds (i : ℕ) (state : ReceiverState) : ℕ → ReceiverState → Prop where
  | delivers {index : Fin windowSize} {packet : PktPtr} (at_ : index.val = i)
      (held : state.receiverBuffer index = some packet)
      (expected : pktGetSeqnum packet.pkt = state.seqnum) :
      Rounds i state 1 (state.deliver write index packet)
  | passes (inside : i < windowSize) (other : ∀ index packet, index.val = i →
      state.receiverBuffer index = some packet → pktGetSeqnum packet.pkt ≠ state.seqnum) :
      Rounds i state (i + 1) state

variable {write}

theorem drainRound_rounds {i j : ℕ} {state after : ReceiverState}
    (goesOn : drainRound write (i, state) = some (j, after)) : Rounds write i state j after := by
  unfold drainRound at goesOn
  dsimp only at goesOn
  split at goesOn
  · rename_i inside
    split at goesOn
    · rename_i packet held
      split at goesOn
      · rename_i expected
        cases goesOn
        exact .delivers rfl held expected
      · rename_i other
        cases goesOn
        refine .passes inside fun index found at_ held_ => ?_
        subst at_
        rw [held, Option.some.injEq] at held_
        rw [← held_]
        exact other
    · rename_i free
      cases goesOn
      refine .passes inside fun index found at_ held => ?_
      subst at_
      rw [free] at held
      cases held
  · cases goesOn

/-- The index has run over all slots when the loop is left. -/
theorem drainRound_none {i : ℕ} {state : ReceiverState}
    (left : drainRound write (i, state) = none) : windowSize ≤ i := by
  unfold drainRound at left
  dsimp only at left
  split at left
  · split at left
    · split at left
      · cases left
      · cases left
    · cases left
  · rename_i outside
    exact Nat.le_of_not_lt outside

/-- The slots in use count for a whole scan each, and the index for what is left of this one. -/
def roundsLeft (scan : ℕ × ReceiverState) : ℕ :=
  windowSize * scan.2.receiverBuffer.used + (windowSize - scan.1)

theorem Rounds.lower {i j : ℕ} {state after : ReceiverState}
    (rounds : Rounds write i state j after) : roundsLeft (j, after) < roundsLeft (i, state) := by
  have window : windowSize = 31 := rfl
  unfold roundsLeft
  cases rounds with
  | @delivers index packet at_ held expected =>
      have freed := used_deliver write state held
      have inside := index.isLt
      dsimp only
      rw [← freed, Nat.mul_add, Nat.mul_one]
      omega
  | passes inside other =>
      dsimp only
      omega

/-- Deliveries and slots in use together stay the same. -/
theorem Rounds.deliveries {i j : ℕ} {state after : ReceiverState}
    (rounds : Rounds write i state j after) :
    after.writes.length + after.receiverBuffer.used =
      state.writes.length + state.receiverBuffer.used := by
  cases rounds with
  | @delivers index packet at_ held expected =>
      have freed := used_deliver write state held
      have written : (state.deliver write index packet).writes.length = state.writes.length + 1 :=
        List.length_append
      omega
  | passes inside other => rfl

/-- The rounds are those of the drain loop. -/
theorem Rounds.drain {i j : ℕ} {state after : ReceiverState}
    (rounds : Rounds write i state j after) : state.drain write i = after.drain write j := by
  cases rounds with
  | delivers at_ held expected =>
      subst at_
      exact state.drain_of_held write (Nat.le_refl _) held expected fun other later less =>
        absurd less (not_lt.mpr later)
  | passes inside other =>
      rw [ReceiverState.drain, dif_pos inside]
      split
      · rename_i packet held
        rw [if_neg (other ⟨i, inside⟩ packet rfl held)]
      · rfl

/-- The drain loop ends from any state, whatever the calls of `write` return: within as many
rounds as scans of all slots, one for every slot in use and one more.  It has delivered at most
as many packets as there were slots in use. -/
theorem drain_terminates (write : ℕ → ℕ → ℤ) (state : ReceiverState) : ∃ i after,
    (∀ fuel, windowSize * (state.receiverBuffer.used + 1) < fuel →
      runLoop (drainRound write) fuel (0, state) = some (i, after)) ∧
      windowSize ≤ i ∧ after = state.drain write 0 ∧
      after.writes.length ≤ state.writes.length + state.receiverBuffer.used := by
  have lower : ∀ scan next, drainRound write scan = some next →
      roundsLeft next < roundsLeft scan := fun _ _ goesOn => (drainRound_rounds goesOn).lower
  obtain ⟨⟨i, after⟩, left, ends⟩ := runLoop_ends lower (0, state)
  have size : roundsLeft (0, state) = windowSize * (state.receiverBuffer.used + 1) := by
    rw [roundsLeft, Nat.mul_add, Nat.mul_one, Nat.sub_zero]
  rw [size] at ends
  have ran := ends _ (Nat.lt_succ_self _)
  have past := drainRound_none left
  refine ⟨i, after, ends, past, ?_, ?_⟩
  · have same := runLoop_preserves (motive := fun scan : ℕ × ReceiverState =>
      state.drain write 0 = scan.2.drain write scan.1)
      (fun scan next goesOn before => before.trans (drainRound_rounds goesOn).drain) rfl ran
    dsimp only at same
    rw [same, ReceiverState.drain, dif_neg (Nat.not_lt.mpr past)]
  · have kept := runLoop_preserves (motive := fun scan : ℕ × ReceiverState =>
      scan.2.writes.length + scan.2.receiverBuffer.used =
        state.writes.length + state.receiverBuffer.used)
      (fun scan next goesOn before => (drainRound_rounds goesOn).deliveries.trans before) rfl ran
    dsimp only at kept
    omega

end ReceiverState

end SelectiveRepeat.Receiver
