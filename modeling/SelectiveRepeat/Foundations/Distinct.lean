import Mathlib.Data.List.Basic
import SelectiveRepeat.Foundations.Slots

/-!
# Records and tables with distinct keys

A record is a list that only grows at its end.  A table of optional entries has
distinct keys when no two places hold entries with one key; the lemmas say which
changes of a table keep this.
-/

namespace SelectiveRepeat.Foundations

/-- What a record holds after one more entry. -/
theorem getElem?_concat_eq_some {α : Type*} {record : List α} {new entry : α} {k : ℕ} :
    (record ++ [new])[k]? = some entry ↔
      record[k]? = some entry ∨ (k = record.length ∧ entry = new) := by
  rcases Nat.lt_trichotomy k record.length with less | same | more
  · rw [List.getElem?_append_left less]
    constructor
    · exact Or.inl
    · rintro (found | ⟨same, -⟩)
      · exact found
      · omega
  · subst same
    rw [List.getElem?_concat_length, Option.some_inj]
    constructor
    · intro same
      exact Or.inr ⟨rfl, same.symm⟩
    · rintro (found | ⟨-, same⟩)
      · rw [List.getElem?_eq_none (Nat.le_refl _)] at found
        cases found
      · exact same.symm
  · have beyond : (record ++ [new])[k]? = none :=
      List.getElem?_eq_none (by rw [List.length_append, List.length_singleton]; omega)
    rw [beyond, List.getElem?_eq_none (by omega)]
    constructor
    · intro found
      cases found
    · rintro (found | ⟨same, -⟩)
      · cases found
      · omega

/-- What a record holds it still holds when it has grown. -/
theorem getElem?_of_prefix {α : Type*} {record after : List α} (grown : record <+: after) {k : ℕ}
    {entry : α} (found : record[k]? = some entry) : after[k]? = some entry := by
  obtain ⟨rest, rfl⟩ := grown
  rw [List.getElem?_append_left (List.getElem?_eq_some_iff.mp found).1]
  exact found

/-- Where the first entries of a record select the outputs one by one, the outputs are the
first ones selected. -/
theorem prefix_filterMap {α β : Type*} {select : α → Option β} {record : List α}
    {outputs : List β}
    (selected : ∀ (k : ℕ) output, outputs[k]? = some output →
      ∃ entry, record[k]? = some entry ∧ select entry = some output) :
    outputs <+: record.filterMap select := by
  induction outputs generalizing record with
  | nil => exact List.nil_prefix
  | cons output outputs ih =>
      obtain ⟨entry, first, same⟩ := selected 0 output rfl
      cases record with
      | nil => cases first
      | cons head rest =>
          rw [List.getElem?_cons_zero, Option.some.injEq] at first
          rw [first, List.filterMap_cons_some same, List.cons_prefix_cons]
          exact ⟨rfl, ih fun k later => selected (k + 1) later⟩

/-- No two places hold entries with the same key. -/
def Distinct {ι α κ : Type*} (key : α → κ) (table : ι → Option α) : Prop :=
  ∀ first second left right, table first = some left → table second = some right →
    key left = key right → first = second

namespace Distinct

variable {ι α κ : Type*} {key : α → κ} {table after : ι → Option α}

/-- Entries may disappear. -/
theorem shrink (distinct : Distinct key table)
    (kept : ∀ place entry, after place = some entry → table place = some entry) :
    Distinct key after := by
  intro first second left right atFirst atSecond same
  exact distinct first second left right (kept _ _ atFirst) (kept _ _ atSecond) same

/-- An entry with a new key may be added. -/
theorem add (distinct : Distinct key table) {target : ι} {new : α}
    (fresh : ∀ place entry, table place = some entry → key entry ≠ key new)
    (added : ∀ place entry, after place = some entry →
      (place = target ∧ entry = new) ∨ table place = some entry) :
    Distinct key after := by
  intro first second left right atFirst atSecond same
  rcases added first left atFirst with ⟨rfl, rfl⟩ | oldFirst
  · rcases added second right atSecond with ⟨rfl, -⟩ | oldSecond
    · rfl
    · exact absurd same.symm (fresh second right oldSecond)
  · rcases added second right atSecond with ⟨rfl, rfl⟩ | oldSecond
    · exact absurd same (fresh first left oldFirst)
    · exact distinct first second left right oldFirst oldSecond same

/-- An entry may move to another place. -/
theorem move (distinct : Distinct key table) {source target : ι} {entry : α}
    (held : table source = some entry)
    (moved : ∀ place found, after place = some found →
      (place = target ∧ found = entry) ∨ (place ≠ source ∧ table place = some found)) :
    Distinct key after := by
  intro first second left right atFirst atSecond same
  rcases moved first left atFirst with ⟨rfl, rfl⟩ | ⟨apartFirst, oldFirst⟩
  · rcases moved second right atSecond with ⟨rfl, -⟩ | ⟨apartSecond, oldSecond⟩
    · rfl
    · exact absurd (distinct source second left right held oldSecond same).symm apartSecond
  · rcases moved second right atSecond with ⟨rfl, rfl⟩ | ⟨apartSecond, oldSecond⟩
    · exact absurd (distinct first source left right oldFirst held same) apartFirst
    · exact distinct first second left right oldFirst oldSecond same

/-- A table with one entry for each of `count` different keys has `count` entries. -/
theorem used_eq {n count : ℕ} {table : Slots n α} (distinct : Distinct key table) {number : ℕ → κ}
    (different : Set.InjOn number (Finset.range count))
    (every : ∀ j < count, ∃ place entry, table place = some entry ∧ key entry = number j)
    (only : ∀ place entry, table place = some entry → ∃ j < count, key entry = number j) :
    table.used = count := by
  classical
  have keys : (Finset.univ.filter fun place => (table place).isSome).image
      (fun place => (table place).map key) = (Finset.range count).image (some ∘ number) := by
    ext found
    simp only [Finset.mem_image, Finset.mem_filter, Finset.mem_univ, true_and, Finset.mem_range,
      Function.comp_apply]
    constructor
    · rintro ⟨place, occupied, rfl⟩
      obtain ⟨entry, held⟩ := Option.isSome_iff_exists.mp occupied
      obtain ⟨j, less, same⟩ := only place entry held
      exact ⟨j, less, by rw [held, Option.map_some, same]⟩
    · rintro ⟨j, less, rfl⟩
      obtain ⟨place, entry, held, same⟩ := every j less
      exact ⟨place, by rw [held]; rfl, by rw [held, Option.map_some, same]⟩
  have apart : Set.InjOn (fun place => (table place).map key)
      (Finset.univ.filter fun place => (table place).isSome) := by
    intro first atFirst second atSecond same
    obtain ⟨left, heldFirst⟩ := Option.isSome_iff_exists.mp (Finset.mem_filter.mp atFirst).2
    obtain ⟨right, heldSecond⟩ := Option.isSome_iff_exists.mp (Finset.mem_filter.mp atSecond).2
    refine distinct first second left right heldFirst heldSecond ?_
    simpa only [heldFirst, heldSecond, Option.map_some, Option.some.injEq] using same
  rw [Slots.used, ← Finset.card_image_of_injOn apart, keys,
    Finset.card_image_of_injOn ((Option.some_injective κ).comp_injOn different), Finset.card_range]

end Distinct

end SelectiveRepeat.Foundations
