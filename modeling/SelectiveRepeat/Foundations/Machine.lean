import Mathlib.Data.List.Basic

/-!
# Runs of an input-driven machine

A machine is a start state together with what one input does to a state.  Every
reachable state is the result of a finite list of inputs, so a property of all
runs is proved from its start state and one step.
-/

namespace SelectiveRepeat.Foundations

/-- A deterministic machine driven by inputs. -/
structure Machine (σ ι : Type*) where
  start : σ
  step : σ → ι → σ

namespace Machine

variable {σ ι : Type*} (machine : Machine σ ι)

/-- The state after a list of inputs taken from a given state. -/
def runFrom (state : σ) (inputs : List ι) : σ := inputs.foldl machine.step state

/-- The state after a list of inputs taken from the start state. -/
def run (inputs : List ι) : σ := machine.runFrom machine.start inputs

/-- Every input of the run meets `Allowed` in the state that takes it. -/
def Along (Allowed : σ → ι → Prop) : σ → List ι → Prop
  | _, [] => True
  | state, input :: rest => Allowed state input ∧ Along Allowed (machine.step state input) rest

@[simp]
theorem runFrom_nil (state : σ) : machine.runFrom state [] = state := rfl

@[simp]
theorem runFrom_cons (state : σ) (input : ι) (rest : List ι) :
    machine.runFrom state (input :: rest) = machine.runFrom (machine.step state input) rest := rfl

theorem runFrom_append (state : σ) (first second : List ι) :
    machine.runFrom state (first ++ second) =
      machine.runFrom (machine.runFrom state first) second :=
  List.foldl_append

theorem run_append (first second : List ι) :
    machine.run (first ++ second) = machine.runFrom (machine.run first) second :=
  machine.runFrom_append machine.start first second

@[simp]
theorem run_concat (inputs : List ι) (input : ι) :
    machine.run (inputs ++ [input]) = machine.step (machine.run inputs) input :=
  machine.run_append inputs [input]

@[simp]
theorem along_nil (Allowed : σ → ι → Prop) (state : σ) : machine.Along Allowed state [] := trivial

@[simp]
theorem along_cons (Allowed : σ → ι → Prop) (state : σ) (input : ι) (rest : List ι) :
    machine.Along Allowed state (input :: rest) ↔
      Allowed state input ∧ machine.Along Allowed (machine.step state input) rest := Iff.rfl

theorem along_append (Allowed : σ → ι → Prop) (state : σ) (first second : List ι) :
    machine.Along Allowed state (first ++ second) ↔
      machine.Along Allowed state first ∧
        machine.Along Allowed (machine.runFrom state first) second := by
  induction first generalizing state with
  | nil => simp
  | cons input rest ih => simp [ih, and_assoc]

/-- Two conditions that every input of a run meets. -/
theorem Along.and {machine : Machine σ ι} {First Second : σ → ι → Prop} {state : σ}
    {inputs : List ι} (first : machine.Along First state inputs)
    (second : machine.Along Second state inputs) :
    machine.Along (fun state input => First state input ∧ Second state input) state inputs := by
  induction inputs generalizing state with
  | nil => trivial
  | cons input rest ih => exact ⟨⟨first.1, second.1⟩, ih first.2 second.2⟩

/-- A run of inputs that meet a condition meets every weaker one. -/
theorem Along.mono {machine : Machine σ ι} {First Second : σ → ι → Prop}
    (weaken : ∀ state input, First state input → Second state input) {state : σ}
    {inputs : List ι} (first : machine.Along First state inputs) :
    machine.Along Second state inputs := by
  induction inputs generalizing state with
  | nil => trivial
  | cons input rest ih => exact ⟨weaken state input first.1, ih first.2⟩

/-- Two conditions that agree wherever an invariant holds are met by the same runs, if the
steps that meet them keep the invariant. -/
theorem along_congr {First Second : σ → ι → Prop} {motive : σ → Prop}
    (agree : ∀ state input, motive state → (First state input ↔ Second state input))
    (step : ∀ state input, motive state → First state input → motive (machine.step state input))
    {state : σ} (before : motive state) (inputs : List ι) :
    machine.Along First state inputs ↔ machine.Along Second state inputs := by
  induction inputs generalizing state with
  | nil => exact Iff.rfl
  | cons input rest ih =>
      rw [along_cons, along_cons, agree state input before]
      refine and_congr_right fun second => ?_
      exact ih (step state input before ((agree state input before).mpr second))

/-- A property kept by every allowed step is kept by a run of allowed steps. -/
theorem invariant_from {Allowed : σ → ι → Prop} {motive : σ → Prop}
    (step : ∀ state input, motive state → Allowed state input →
      motive (machine.step state input))
    {state : σ} (before : motive state) {inputs : List ι}
    (along : machine.Along Allowed state inputs) :
    motive (machine.runFrom state inputs) := by
  induction inputs generalizing state with
  | nil => exact before
  | cons input rest ih => exact ih (step state input before along.1) along.2

/-- The invariant rule for runs whose inputs are all allowed. -/
theorem invariant_along {Allowed : σ → ι → Prop} {motive : σ → Prop}
    (start : motive machine.start)
    (step : ∀ state input, motive state → Allowed state input →
      motive (machine.step state input))
    {inputs : List ι} (along : machine.Along Allowed machine.start inputs) :
    motive (machine.run inputs) :=
  machine.invariant_from step start along

/-- The invariant rule for all runs. -/
theorem invariant {motive : σ → Prop} (start : motive machine.start)
    (step : ∀ state input, motive state → motive (machine.step state input))
    (inputs : List ι) : motive (machine.run inputs) :=
  List.foldlRecOn inputs machine.step start fun state before input _ => step state input before

/-! ## Refinement -/

variable {σ' ι' : Type*}

/-- A machine refines another one if each of its allowed steps is matched by some permitted
steps of the other, and then so is each of its allowed runs. -/
theorem simulates {abstract : Machine σ' ι'} {Allowed : σ → ι → Prop} {Permitted : σ' → ι' → Prop}
    {Mirrors : σ → σ' → Prop}
    (step : ∀ state mirror input, Mirrors state mirror → Allowed state input →
      ∃ inputs, abstract.Along Permitted mirror inputs ∧
        Mirrors (machine.step state input) (abstract.runFrom mirror inputs))
    {state : σ} {mirror : σ'} (before : Mirrors state mirror) {inputs : List ι}
    (along : machine.Along Allowed state inputs) :
    ∃ matching, abstract.Along Permitted mirror matching ∧
      Mirrors (machine.runFrom state inputs) (abstract.runFrom mirror matching) := by
  induction inputs generalizing state mirror with
  | nil => exact ⟨[], trivial, before⟩
  | cons input rest ih =>
      obtain ⟨first, permitted, after⟩ := step state mirror input before along.1
      obtain ⟨others, later, mirrors⟩ := ih after along.2
      refine ⟨first ++ others, ?_, ?_⟩
      · rw [along_append]
        exact ⟨permitted, later⟩
      · rw [runFrom_append]
        exact mirrors

end Machine

end SelectiveRepeat.Foundations
