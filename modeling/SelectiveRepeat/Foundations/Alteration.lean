import Mathlib.Data.List.Basic

/-!
# Lists that differ in one place

Corruption of a single byte, as a relation between the sent and the found list.
The case analysis on an appended list says on which side the byte lies.
-/

namespace SelectiveRepeat.Foundations

/-- Two lists of one length that differ in exactly one place. -/
inductive OneApart {α : Type*} : List α → List α → Prop where
  | head {old new : α} (rest : List α) (ne : old ≠ new) : OneApart (old :: rest) (new :: rest)
  | tail (entry : α) {first second : List α} (apart : OneApart first second) :
      OneApart (entry :: first) (entry :: second)

namespace OneApart

variable {α : Type*} {first second : List α}

theorem length_eq (apart : OneApart first second) : first.length = second.length := by
  induction apart with
  | head rest ne => rfl
  | tail entry apart ih => simp [ih]

theorem ne (apart : OneApart first second) : first ≠ second := by
  induction apart with
  | head rest ne => simp [ne]
  | tail entry apart ih => simp [ih]

/-- Replacing one entry by a different one. -/
theorem of_set {list : List α} {position : ℕ} (inside : position < list.length) {entry : α}
    (ne : entry ≠ list[position]) : OneApart list (list.set position entry) := by
  induction list generalizing position with
  | nil => exact absurd inside (Nat.not_lt_zero _)
  | cons old rest ih =>
      cases position with
      | zero => exact .head rest (Ne.symm ne)
      | succ position => exact .tail old (ih (Nat.lt_of_succ_lt_succ inside) ne)

theorem append_right (apart : OneApart first second) (rest : List α) :
    OneApart (first ++ rest) (second ++ rest) := by
  induction apart with
  | head entries ne => exact .head (entries ++ rest) ne
  | tail entry apart ih => exact .tail entry ih

/-- The place lies in the first or in the second part of an appended list. -/
theorem append_cases {third : List α} (apart : OneApart (first ++ second) third) :
    (∃ changed, OneApart first changed ∧ third = changed ++ second) ∨
      ∃ changed, OneApart second changed ∧ third = first ++ changed := by
  induction first generalizing third with
  | nil => exact Or.inr ⟨third, apart, rfl⟩
  | cons entry rest ih =>
      rw [List.cons_append] at apart
      cases apart with
      | head _ ne => exact Or.inl ⟨_, .head rest ne, rfl⟩
      | tail _ apart =>
          rcases ih apart with ⟨changed, here, rfl⟩ | ⟨changed, there, rfl⟩
          · exact Or.inl ⟨entry :: changed, .tail entry here, rfl⟩
          · exact Or.inr ⟨changed, there, rfl⟩

end OneApart

end SelectiveRepeat.Foundations
