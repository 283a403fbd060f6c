import SelectiveRepeat.Foundations.Machine

/-!
# Observed runs

An observer notes something on every step of a machine and leaves the machine as it
is.  Properties that speak about what happened earlier in a run are stated over the
observed machine.
-/

namespace SelectiveRepeat.Foundations

/-- A state together with what has been noted on the way to it. -/
structure Observed (σ ω : Type*) where
  state : σ
  noted : ω

namespace Machine

variable {σ ι ω : Type*} (machine : Machine σ ι) (nothing : ω) (note : ω → σ → ι → ω)

/-- The machine with an observer, who sees the state and the input before each step. -/
def observe : Machine (Observed σ ω) ι where
  start := ⟨machine.start, nothing⟩
  step seen input := ⟨machine.step seen.state input, note seen.noted seen.state input⟩

@[simp]
theorem observe_start : (machine.observe nothing note).start = ⟨machine.start, nothing⟩ := rfl

@[simp]
theorem observe_step (seen : Observed σ ω) (input : ι) :
    (machine.observe nothing note).step seen input =
      ⟨machine.step seen.state input, note seen.noted seen.state input⟩ := rfl

/-- The observer changes nothing. -/
theorem observe_runFrom_state (seen : Observed σ ω) (inputs : List ι) :
    ((machine.observe nothing note).runFrom seen inputs).state =
      machine.runFrom seen.state inputs := by
  induction inputs generalizing seen with
  | nil => rfl
  | cons input rest ih => exact ih _

theorem observe_run_state (inputs : List ι) :
    ((machine.observe nothing note).run inputs).state = machine.run inputs :=
  machine.observe_runFrom_state nothing note _ inputs

end Machine

end SelectiveRepeat.Foundations
