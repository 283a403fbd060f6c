import Mathlib.Data.Nat.Notation
import Mathlib.Tactic.Common

/-!
# Loops that may not end

A loop is given by one round, which says that the loop is left or gives the next
state.  It is run with fuel, and ends when some measure goes down in every round.
-/

namespace SelectiveRepeat.Foundations

variable {σ : Type*} (round : σ → Option σ)

/-- Run a loop for at most `fuel` rounds; `none` means that it has not ended. -/
def runLoop : ℕ → σ → Option σ
  | 0, _ => none
  | fuel + 1, state =>
      match round state with
      | none => some state
      | some next => runLoop fuel next

variable {round}

theorem runLoop_of_left {state : σ} (left : round state = none) (fuel : ℕ) :
    runLoop round (fuel + 1) state = some state := by
  rw [runLoop, left]

theorem runLoop_of_round {state next : σ} (goesOn : round state = some next) (fuel : ℕ) :
    runLoop round (fuel + 1) state = runLoop round fuel next := by
  rw [runLoop, goesOn]

/-- A loop whose measure goes down in every round ends, in a state in which it is left, and no
more rounds are needed than the measure was at first. -/
theorem runLoop_ends {measure : σ → ℕ}
    (lower : ∀ state next, round state = some next → measure next < measure state) (state : σ) :
    ∃ last, round last = none ∧ ∀ fuel, measure state < fuel →
      runLoop round fuel state = some last := by
  induction size : measure state using Nat.strongRecOn generalizing state with
  | ind size ih =>
      subst size
      cases found : round state with
      | none =>
          refine ⟨state, found, fun fuel enough => ?_⟩
          cases fuel with
          | zero => exact absurd enough (Nat.not_lt_zero _)
          | succ fuel => exact runLoop_of_left found fuel
      | some next =>
          have less := lower state next found
          obtain ⟨last, left, ends⟩ := ih (measure next) less next rfl
          refine ⟨last, left, fun fuel enough => ?_⟩
          cases fuel with
          | zero => exact absurd enough (Nat.not_lt_zero _)
          | succ fuel =>
              rw [runLoop_of_round found]
              exact ends fuel (Nat.lt_of_lt_of_le less (Nat.le_of_lt_succ enough))

/-- A property kept by every round holds where the loop ends. -/
theorem runLoop_preserves {motive : σ → Prop}
    (step : ∀ state next, round state = some next → motive state → motive next) {fuel : ℕ}
    {state last : σ} (before : motive state) (ends : runLoop round fuel state = some last) :
    motive last := by
  induction fuel generalizing state with
  | zero => cases ends
  | succ fuel ih =>
      cases found : round state with
      | none =>
          rw [runLoop_of_left found, Option.some.injEq] at ends
          rw [← ends]
          exact before
      | some next =>
          rw [runLoop_of_round found] at ends
          exact ih (step state next found before) ends

end SelectiveRepeat.Foundations
