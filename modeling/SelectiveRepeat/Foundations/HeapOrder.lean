import Mathlib.Data.Finset.Range
import Mathlib.Logic.Equiv.Basic
import Mathlib.Order.Defs.LinearOrder

/-!
# Heap order

A tree is laid out in an array, with a parent at a smaller index for every node but
the root.  While an operation works on the array one node may be out of order with
its parent, or with its children.  Exchanging it with the neighbour in question moves
the disorder there, and the array is ordered when there is none left.
-/

namespace SelectiveRepeat.Foundations

variable {κ : Type*} [Preorder κ] {parent : ℕ → ℕ} {size hole : ℕ} {rank : ℕ → κ}

/-- Every node is at or after its parent. -/
def HeapOrdered (parent : ℕ → ℕ) (size : ℕ) (rank : ℕ → κ) : Prop :=
  ∀ node, node ≠ 0 → node < size → rank (parent node) ≤ rank node

/-- Only the node at `hole` may be before its parent. -/
structure Raised (parent : ℕ → ℕ) (size : ℕ) (rank : ℕ → κ) (hole : ℕ) : Prop where
  others : ∀ node, node ≠ 0 → node < size → node ≠ hole → rank (parent node) ≤ rank node
  across : hole ≠ 0 → ∀ child, child ≠ 0 → child < size → parent child = hole →
    rank (parent hole) ≤ rank child

/-- Only the node at `hole` may be after its children. -/
structure Lowered (parent : ℕ → ℕ) (size : ℕ) (rank : ℕ → κ) (hole : ℕ) : Prop where
  others : ∀ node, node ≠ 0 → node < size → parent node ≠ hole → rank (parent node) ≤ rank node
  across : hole ≠ 0 → ∀ child, child ≠ 0 → child < size → parent child = hole →
    rank (parent hole) ≤ rank child

/-- The root is at or before every node. -/
theorem HeapOrdered.root_le (ordered : HeapOrdered parent size rank)
    (above : ∀ node, node ≠ 0 → parent node < node) {node : ℕ} (inside : node < size) :
    rank 0 ≤ rank node := by
  induction node using Nat.strongRecOn with
  | ind node ih =>
      by_cases root : node = 0
      · rw [root]
      · have smaller := above node root
        exact (ih (parent node) smaller (smaller.trans inside)).trans (ordered node root inside)

/-! ## A node that may be before its parent -/

theorem Raised.ordered (raised : Raised parent size rank hole)
    (stop : hole ≠ 0 → rank (parent hole) ≤ rank hole) : HeapOrdered parent size rank := by
  intro node nonroot inside
  by_cases here : node = hole
  · subst here
    exact stop nonroot
  · exact raised.others node nonroot inside here

/-- The node is exchanged with its parent. -/
theorem Raised.swap (raised : Raised parent size rank hole)
    (above : ∀ node, node ≠ 0 → parent node < node) (nonroot : hole ≠ 0) (inside : hole < size)
    (less : rank hole ≤ rank (parent hole)) :
    Raised parent size (rank ∘ Equiv.swap hole (parent hole)) (parent hole) := by
  have apart : parent hole ≠ hole := (above hole nonroot).ne
  have upper : parent hole ≠ 0 → rank (parent (parent hole)) ≤ rank (parent hole) :=
    fun nonzero => raised.others _ nonzero ((above hole nonroot).trans inside) apart
  constructor
  · intro node nonzero bound other
    have lower := above node nonzero
    by_cases here : node = hole
    · -- the former parent is now below the node
      subst here
      simpa using less
    · rw [Function.comp_apply, Function.comp_apply, Equiv.swap_apply_of_ne_of_ne here other]
      by_cases child : parent node = hole
      · rw [child, Equiv.swap_apply_left]
        exact raised.across nonroot node nonzero bound child
      · by_cases sibling : parent node = parent hole
        · rw [sibling, Equiv.swap_apply_right]
          have pair := raised.others node nonzero bound here
          rw [sibling] at pair
          exact less.trans pair
        · rw [Equiv.swap_apply_of_ne_of_ne child sibling]
          exact raised.others node nonzero bound here
  · intro nonzero child nonzero' bound below
    have lower := above (parent hole) nonzero
    have farther : parent (parent hole) ≠ hole := (lower.trans (above hole nonroot)).ne
    rw [Function.comp_apply, Function.comp_apply, Equiv.swap_apply_of_ne_of_ne farther lower.ne]
    by_cases here : child = hole
    · rw [here, Equiv.swap_apply_left]
      exact upper nonzero
    · have smaller := above child nonzero'
      rw [Equiv.swap_apply_of_ne_of_ne here (below ▸ smaller.ne')]
      have pair := raised.others child nonzero' bound here
      rw [below] at pair
      exact (upper nonzero).trans pair

/-! ## A node that may be after its children -/

theorem Lowered.ordered (lowered : Lowered parent size rank hole)
    (stop : ∀ child, child ≠ 0 → child < size → parent child = hole → rank hole ≤ rank child) :
    HeapOrdered parent size rank := by
  intro node nonroot inside
  by_cases below : parent node = hole
  · rw [below]
    exact stop node nonroot inside below
  · exact lowered.others node nonroot inside below

/-- The node is exchanged with the least of its children. -/
theorem Lowered.swap (lowered : Lowered parent size rank hole)
    (above : ∀ node, node ≠ 0 → parent node < node) {child : ℕ} (nonzero : child ≠ 0)
    (inside : child < size) (below : parent child = hole) (less : rank child ≤ rank hole)
    (least : ∀ other, other ≠ 0 → other < size → parent other = hole → rank child ≤ rank other) :
    Lowered parent size (rank ∘ Equiv.swap hole child) child := by
  have smaller : hole < child := below ▸ above child nonzero
  constructor
  · intro node nonroot bound other
    have lower := above node nonroot
    by_cases there : node = child
    · rw [there, below]
      simpa using less
    · by_cases here : node = hole
      · -- its new parent is what was above the hole
        subst here
        rw [Function.comp_apply, Function.comp_apply, Equiv.swap_apply_left,
          Equiv.swap_apply_of_ne_of_ne lower.ne other]
        exact lowered.across nonroot child nonzero inside below
      · rw [Function.comp_apply, Function.comp_apply, Equiv.swap_apply_of_ne_of_ne here there]
        by_cases sibling : parent node = hole
        · rw [sibling, Equiv.swap_apply_left]
          exact least node nonroot bound sibling
        · rw [Equiv.swap_apply_of_ne_of_ne sibling other]
          exact lowered.others node nonroot bound sibling
  · intro _ grandchild nonroot bound under
    have lower := above grandchild nonroot
    have pair := lowered.others grandchild nonroot bound (by omega)
    rw [under] at pair
    rw [below, Function.comp_apply, Function.comp_apply, Equiv.swap_apply_left,
      Equiv.swap_apply_of_ne_of_ne (by omega) (by omega)]
    exact pair

/-! ## What an array holds -/

/-- The first `size` entries, in no order. -/
def contents {α : Type*} (size : ℕ) (e : ℕ → α) : Multiset α := (Multiset.range size).map e

variable {α : Type*} {e : ℕ → α}

theorem contents_succ (size : ℕ) (e : ℕ → α) :
    contents (size + 1) e = e size ::ₘ contents size e := by
  rw [contents, Multiset.range_succ, Multiset.map_cons, contents]

@[simp]
theorem card_contents (size : ℕ) (e : ℕ → α) : (contents size e).card = size := by
  rw [contents, Multiset.card_map, Multiset.card_range]

theorem mem_contents {x : α} : x ∈ contents size e ↔ ∃ index < size, e index = x := by
  simp only [contents, Multiset.mem_map, Multiset.mem_range]

theorem contents_congr {other : ℕ → α} (same : ∀ index < size, e index = other index) :
    contents size e = contents size other :=
  Multiset.map_congr rfl fun index member => same index (Multiset.mem_range.mp member)

/-- An exchange of two entries changes nothing. -/
theorem contents_swap {i j : ℕ} (first : i < size) (second : j < size) :
    contents size (e ∘ Equiv.swap i j) = contents size e := by
  have kept : (Multiset.range size).map (Equiv.swap i j) = Multiset.range size := by
    refine (Multiset.Nodup.ext ((Multiset.nodup_range size).map (Equiv.injective _))
      (Multiset.nodup_range size)).mpr fun index => ?_
    rw [Multiset.mem_map, Multiset.mem_range]
    constructor
    · rintro ⟨source, member, rfl⟩
      rw [Multiset.mem_range] at member
      rw [Equiv.swap_apply_def]
      split_ifs
      · exact second
      · exact first
      · exact member
    · intro inside
      refine ⟨Equiv.swap i j index, ?_, Equiv.swap_apply_self i j index⟩
      rw [Multiset.mem_range, Equiv.swap_apply_def]
      split_ifs
      · exact second
      · exact first
      · exact inside
  rw [contents, ← Multiset.map_map, kept, contents]

/-- Moving one entry and then filling its place, instead of an exchange. -/
theorem update_update_eq_swap {i j : ℕ} (apart : i ≠ j) (e : ℕ → α) (x : α) :
    Function.update (Function.update e i (e j)) j x = Function.update e i x ∘ Equiv.swap i j := by
  funext index
  rw [Function.comp_apply, Equiv.swap_apply_def]
  by_cases second : index = j
  · subst second
    rw [Function.update_self, if_neg apart.symm, if_pos rfl, Function.update_self]
  · rw [Function.update_of_ne second]
    by_cases first : index = i
    · subst first
      rw [Function.update_self, if_pos rfl, Function.update_of_ne apart.symm]
    · rw [if_neg first, if_neg second, Function.update_of_ne first, Function.update_of_ne first]

/-! ## Least entries of a sorted list -/

/-- What is taken out of a strictly sorted list in ascending order is its beginning. -/
theorem split_of_least {κ : Type*} [LinearOrder κ] {key : α → κ} {line out : List α}
    {left : Multiset α} (increasing : line.Pairwise fun first second => key first < key second)
    (items : (line : Multiset α) = (out : Multiset α) + left)
    (sorted : out.Pairwise fun first second => key first ≤ key second)
    (earlier : ∀ x ∈ out, ∀ y ∈ left, key x ≤ key y) :
    ∃ rest : List α, line = out ++ rest ∧ (rest : Multiset α) = left := by
  induction out generalizing line with
  | nil => exact ⟨line, rfl, by simpa using items⟩
  | cons p out ih =>
      rw [← Multiset.cons_coe, Multiset.cons_add] at items
      have least : ∀ x ∈ line, key p ≤ key x := by
        intro x member
        rw [← Multiset.mem_coe, items, Multiset.mem_cons, Multiset.mem_add, Multiset.mem_coe]
          at member
        rcases member with rfl | later | left
        · exact le_rfl
        · exact List.rel_of_pairwise_cons sorted later
        · exact earlier p List.mem_cons_self x left
      have member : p ∈ line := by
        rw [← Multiset.mem_coe, items]
        exact Multiset.mem_cons_self p _
      cases line with
      | nil => exact absurd member List.not_mem_nil
      | cons q line =>
          have first : p = q := by
            rcases List.mem_cons.mp member with same | later
            · exact same
            · exact absurd (List.rel_of_pairwise_cons increasing later)
                (least q List.mem_cons_self).not_gt
          subst first
          rw [← Multiset.cons_coe, Multiset.cons_inj_right] at items
          obtain ⟨rest, rfl, same⟩ := ih increasing.of_cons items sorted.of_cons
            fun x member => earlier x (List.mem_cons_of_mem _ member)
          exact ⟨rest, rfl, same⟩

end SelectiveRepeat.Foundations
