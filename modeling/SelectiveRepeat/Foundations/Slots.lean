import Mathlib.Data.Fintype.Card
import Mathlib.Data.Fintype.Fin
import Mathlib.Data.Finset.Card
import Mathlib.Logic.Function.Basic

/-!
# Tables of optional entries

A fixed array of pointers, some of them null.  The counting lemmas say what one
assignment does to the number of occupied entries, and `discard` is a loop over
the whole table that frees the entries passing a test.
-/

namespace SelectiveRepeat.Foundations

/-- An array of `n` entries that may each be empty. -/
abbrev Slots (n : ℕ) (α : Type*) := Fin n → Option α

namespace Slots

variable {n : ℕ} {α : Type*}

/-- The table without entries. -/
def empty : Slots n α := fun _ => none

/-- Put an entry into one place. -/
def put (slots : Slots n α) (index : Fin n) (entry : α) : Slots n α :=
  Function.update slots index (some entry)

/-- Empty one place. -/
def clear (slots : Slots n α) (index : Fin n) : Slots n α := Function.update slots index none

/-- Empty every place whose entry passes a test. -/
def discard (slots : Slots n α) (test : α → Bool) : Slots n α :=
  fun index => (slots index).filter fun entry => !test entry

/-- The number of occupied places. -/
def used (slots : Slots n α) : ℕ := (Finset.univ.filter fun index => (slots index).isSome).card

/-- The number of empty places. -/
def free (slots : Slots n α) : ℕ := (Finset.univ.filter fun index => (slots index).isNone).card

/-- The first place that passes a test. -/
def firstWhere (slots : Slots n α) (test : Option α → Bool) : Option (Fin n) :=
  Fin.find? fun index => test (slots index)

@[simp] theorem empty_apply (index : Fin n) : (empty : Slots n α) index = none := rfl

@[simp]
theorem put_same (slots : Slots n α) (index : Fin n) (entry : α) :
    slots.put index entry index = some entry := by
  simp [put]

theorem put_of_ne (slots : Slots n α) {index other : Fin n} (entry : α) (ne : other ≠ index) :
    slots.put index entry other = slots other := by
  simp [put, ne]

@[simp]
theorem clear_same (slots : Slots n α) (index : Fin n) : slots.clear index index = none := by
  simp [clear]

theorem clear_of_ne (slots : Slots n α) {index other : Fin n} (ne : other ≠ index) :
    slots.clear index other = slots other := by
  simp [clear, ne]

/-- An entry of a table that one place was emptied in is an old entry elsewhere. -/
theorem of_clear_eq_some {slots : Slots n α} {index other : Fin n} {entry : α}
    (held : slots.clear index other = some entry) : other ≠ index ∧ slots other = some entry := by
  by_cases same : other = index
  · subst same
    simp at held
  · exact ⟨same, by rwa [clear_of_ne slots same] at held⟩

/-- An entry of a table that one place was filled in is the new one or an old one. -/
theorem of_put_eq_some {slots : Slots n α} {index other : Fin n} {new entry : α}
    (held : slots.put index new other = some entry) :
    (other = index ∧ entry = new) ∨ (other ≠ index ∧ slots other = some entry) := by
  by_cases same : other = index
  · subst same
    simp only [put_same, Option.some.injEq] at held
    exact Or.inl ⟨rfl, held.symm⟩
  · exact Or.inr ⟨same, by rwa [put_of_ne slots new same] at held⟩

theorem discard_eq_some {slots : Slots n α} {test : α → Bool} {index : Fin n} {entry : α} :
    slots.discard test index = some entry ↔ slots index = some entry ∧ test entry = false := by
  simp [discard, Option.filter_eq_some_iff]

/-- Two tests that agree on the entries empty the same places. -/
theorem discard_congr {slots : Slots n α} {first second : α → Bool}
    (agree : ∀ index entry, slots index = some entry → first entry = second entry) :
    slots.discard first = slots.discard second := by
  funext index
  unfold discard
  cases held : slots index with
  | none => rfl
  | some entry => rw [Option.filter_some, Option.filter_some, agree index entry held]

@[simp]
theorem used_empty : (empty : Slots n α).used = 0 := by
  simp [used]

theorem used_add_free (slots : Slots n α) : slots.used + slots.free = n := by
  have split := Finset.card_filter_add_card_filter_not (s := (Finset.univ : Finset (Fin n)))
    (fun index => (slots index).isSome = true)
  simpa [used, free, Option.not_isSome] using split

theorem used_le (slots : Slots n α) : slots.used ≤ n := by
  have total := slots.used_add_free
  omega

theorem used_pos {slots : Slots n α} {index : Fin n} {entry : α}
    (held : slots index = some entry) : 0 < slots.used :=
  Finset.card_pos.mpr ⟨index, by simp [held]⟩

/-- Things that are found in the slots have slots of their own. -/
theorem card_le_used {slots : Slots n α} {β : Type*} [DecidableEq β] (name : α → β)
    (names : Finset β)
    (held : ∀ b ∈ names, ∃ index entry, slots index = some entry ∧ name entry = b) :
    names.card ≤ slots.used := by
  have found : names.image some ⊆ (Finset.univ.filter fun index => (slots index).isSome).image
      fun index => (slots index).map name := by
    intro entry member
    obtain ⟨b, inside, rfl⟩ := Finset.mem_image.mp member
    obtain ⟨index, entry, here, rfl⟩ := held b inside
    refine Finset.mem_image.mpr ⟨index, ?_, ?_⟩
    · simp [here]
    · rw [here, Option.map_some]
  calc names.card = (names.image some).card :=
        (Finset.card_image_of_injective names (Option.some_injective β)).symm
    _ ≤ _ := Finset.card_le_card found
    _ ≤ slots.used := Finset.card_image_le

/-- A table with an empty place counted has an empty place. -/
theorem exists_none {slots : Slots n α} (room : slots.used < n) : ∃ index, slots index = none := by
  have total := slots.used_add_free
  obtain ⟨index, member⟩ := Finset.card_pos.mp (show 0 < slots.free by omega)
  exact ⟨index, by simpa using member⟩

theorem eq_none_of_used_eq_zero {slots : Slots n α} (none_used : slots.used = 0) (index : Fin n) :
    slots index = none := by
  cases held : slots index with
  | none => rfl
  | some entry => exact absurd (used_pos held) (by omega)

theorem used_put {slots : Slots n α} {index : Fin n} (hole : slots index = none) (entry : α) :
    (slots.put index entry).used = slots.used + 1 := by
  have grown : (Finset.univ.filter fun place => (slots.put index entry place).isSome) =
      insert index (Finset.univ.filter fun place => (slots place).isSome) := by
    ext place
    by_cases same : place = index
    · subst same
      simp
    · simp [put_of_ne slots entry same, same]
  rw [used, grown, Finset.card_insert_of_notMem (by simp [hole]), used]

theorem used_clear {slots : Slots n α} {index : Fin n} {entry : α}
    (held : slots index = some entry) : (slots.clear index).used + 1 = slots.used := by
  have refilled : (slots.clear index).put index entry = slots := by
    funext place
    by_cases same : place = index
    · subst same
      simp [held]
    · rw [put_of_ne _ _ same, clear_of_ne _ same]
  rw [← used_put (clear_same slots index) entry, refilled]

theorem firstWhere_eq_some {slots : Slots n α} {test : Option α → Bool} {index : Fin n} :
    slots.firstWhere test = some index ↔
      test (slots index) = true ∧ ∀ before < index, test (slots before) = false :=
  Fin.find?_eq_some_iff

theorem firstWhere_eq_none {slots : Slots n α} {test : Option α → Bool} :
    slots.firstWhere test = none ↔ ∀ index, test (slots index) = false :=
  Fin.find?_eq_none_iff

/-- A table that is not full has a first empty place. -/
theorem exists_first_none {slots : Slots n α} (room : slots.used < n) :
    ∃ index, slots index = none ∧ ∀ before < index, slots before ≠ none := by
  obtain ⟨index, hole⟩ := exists_none room
  cases found : slots.firstWhere Option.isNone with
  | none =>
      have fails := firstWhere_eq_none.mp found index
      rw [hole] at fails
      cases fails
  | some first =>
      obtain ⟨empty_, before⟩ := firstWhere_eq_some.mp found
      refine ⟨first, Option.isNone_iff_eq_none.mp empty_, fun place less none_ => ?_⟩
      have fails := before place less
      rw [none_] at fails
      cases fails

/-! ## Loops over a table

`forEach` is a loop over all places of a table that is part of a larger state.  Its
body is run for the entries that are present when the loop reaches them. -/

section Loop

variable {σ : Type*} (view : σ → Slots n α) (body : σ → Fin n → α → σ)

/-- The body of the loop at one place. -/
def visit (state : σ) (index : Fin n) : σ :=
  match view state index with
  | some entry => body state index entry
  | none => state

/-- The loop from the first to the last place. -/
def forEach (state : σ) : σ := (List.finRange n).foldl (visit view body) state

variable {view body}

theorem visit_some {state : σ} {index : Fin n} {entry : α} (held : view state index = some entry) :
    visit view body state index = body state index entry := by
  unfold visit
  rw [held]

theorem visit_none {state : σ} {index : Fin n} (hole : view state index = none) :
    visit view body state index = state := by
  unfold visit
  rw [hole]

/-- A property kept by the body is kept by the part of the loop over some places. -/
theorem foldl_visit_preserves {motive : σ → Prop}
    (step : ∀ state index entry, motive state → view state index = some entry →
      motive (body state index entry))
    (places : List (Fin n)) {state : σ} (before : motive state) :
    motive (places.foldl (visit view body) state) := by
  refine List.foldlRecOn places _ before fun reached kept index _ => ?_
  cases held : view reached index with
  | none =>
      rw [visit_none held]
      exact kept
  | some entry =>
      rw [visit_some held]
      exact step reached index entry kept held

/-- A property kept by the body is kept by the loop. -/
theorem forEach_preserves {motive : σ → Prop}
    (step : ∀ state index entry, motive state → view state index = some entry →
      motive (body state index entry))
    {state : σ} (before : motive state) : motive (forEach view body state) :=
  foldl_visit_preserves step (List.finRange n) before

/-- What the body establishes for an entry that stays in its place holds after the loop, if
the body keeps it elsewhere. -/
theorem forEach_reaches {motive : σ → Prop} (goal : σ → Prop) {index : Fin n} {entry : α}
    (held : ∀ state, motive state → view state index = some entry)
    (step : ∀ state other found, motive state → view state other = some found →
      motive (body state other found))
    (reaches : ∀ state, motive state → goal (body state index entry))
    (keeps : ∀ state other found, goal state → goal (body state other found))
    {state : σ} (before : motive state) : goal (forEach view body state) := by
  obtain ⟨early, late, split⟩ := List.append_of_mem (List.mem_finRange index)
  have kept := foldl_visit_preserves step early before
  rw [forEach, split, List.foldl_append, List.foldl_cons, visit_some (held _ kept)]
  exact foldl_visit_preserves (fun state other found done _ => keeps state other found done) late
    (reaches _ kept)

/-- A loop whose body changes nothing. -/
theorem forEach_eq_self {state : σ}
    (idle : ∀ index entry, view state index = some entry → body state index entry = state) :
    forEach view body state = state := by
  refine forEach_preserves (motive := fun reached => reached = state) ?_ rfl
  rintro reached index entry rfl held
  exact idle index entry held

/-- A loop over a table with one entry. -/
theorem forEach_single {state : σ} {index : Fin n} {entry : α}
    (held : view state index = some entry) (others : ∀ other ≠ index, view state other = none)
    (after : ∀ other ≠ index, view (body state index entry) other = none) :
    forEach view body state = body state index entry := by
  have passed : ∀ (places : List (Fin n)) (reached : σ),
      (∀ other ∈ places, other ≠ index ∧ view reached other = none) →
      places.foldl (visit view body) reached = reached := by
    intro places reached empty_
    induction places with
    | nil => rfl
    | cons first rest ih =>
        rw [List.foldl_cons, visit_none (empty_ first List.mem_cons_self).2]
        exact ih fun other member => empty_ other (List.mem_cons_of_mem _ member)
  obtain ⟨before, rest, split⟩ := List.append_of_mem (List.mem_finRange index)
  have nodup := List.nodup_finRange n
  rw [split, List.nodup_append] at nodup
  obtain ⟨-, right, apart⟩ := nodup
  rw [forEach, split, List.foldl_append, List.foldl_cons,
    passed before state fun other member => ?_, visit_some held,
    passed rest _ fun other member => ?_]
  · have different : other ≠ index := fun same =>
      (List.nodup_cons.mp right).1 (same ▸ member)
    exact ⟨different, after other different⟩
  · have different : other ≠ index := apart other member index List.mem_cons_self
    exact ⟨different, others other different⟩

/-- A loop that empties exactly the places whose entries pass a test. -/
theorem forEach_discard {motive : σ → Prop} {test : α → Bool}
    (step : ∀ state index entry, motive state → view state index = some entry →
      motive (body state index entry) ∧ view (body state index entry) =
        if test entry then (view state).clear index else view state)
    {state : σ} (before : motive state) :
    view (forEach view body state) = (view state).discard test := by
  have general : ∀ (places : List (Fin n)) (reached : σ), motive reached →
      ∀ index, view (places.foldl (visit view body) reached) index =
        if index ∈ places then (view reached index).filter fun entry => !test entry
        else view reached index := by
    intro places
    induction places with
    | nil =>
        intro reached _ index
        simp
    | cons first rest ih =>
        intro reached kept index
        rw [List.foldl_cons]
        cases held : view reached first with
        | none =>
            rw [visit_none held, ih reached kept]
            by_cases same : index = first
            · subst same
              simp [held]
            · simp [same]
        | some entry =>
            obtain ⟨still, changed⟩ := step reached first entry kept held
            rw [visit_some held, ih _ still, changed]
            by_cases same : index = first
            · subst same
              cases tested : test entry <;> simp [held, tested, Option.filter]
            · cases tested : test entry <;> simp [clear_of_ne, same]
  funext index
  rw [forEach, general _ _ before, if_pos (List.mem_finRange index), discard]

end Loop

end Slots

end SelectiveRepeat.Foundations
