import Mathlib.Data.Nat.Log
import SelectiveRepeat.LinkSim.PriorityQueue

/-!
# The comparisons of the priority queue

`min_queue.h` promises a push and a pop in logarithmic time.  The loops are written
again with a count of the calls of the compare function, which leaves their result as
it is.
-/

namespace SelectiveRepeat.LinkSim

open SelectiveRepeat.Foundations

variable {α : Type*} (cmp : α → α → Bool)

/-- `heapifyUp` with the number of comparisons. -/
def heapifyUpCounted (v : α) (e : ℕ → α) (i : ℕ) : (ℕ → α) × ℕ :=
  if i = 0 then (Function.update e i v, 0)
  else if cmp (e (parentOf i)) v = true then
    let up := heapifyUpCounted v (Function.update e i (e (parentOf i))) (parentOf i)
    (up.1, up.2 + 1)
  else (Function.update e i v, 1)
termination_by i
decreasing_by
  unfold parentOf
  omega

/-- `hasChild` with the number of comparisons. -/
def hasChildCounted (size : ℕ) (e : ℕ → α) (i : ℕ) : ℕ × ℕ :=
  let left := lchild i
  if size ≤ left then (0, 0)
  else
    let right := left + 1
    if right < size then (if cmp (e left) (e right) = true then right else left, 1)
    else (left, 0)

theorem hasChildCounted_fst (size : ℕ) (e : ℕ → α) (i : ℕ) :
    (hasChildCounted cmp size e i).1 = hasChild cmp size e i := by
  unfold hasChildCounted hasChild
  dsimp only
  by_cases none_ : size ≤ lchild i
  · rw [if_pos none_, if_pos none_]
  · rw [if_neg none_, if_neg none_]
    by_cases right : lchild i + 1 < size
    · rw [if_pos right]
      simp only [right, true_and]
    · rw [if_neg right, if_neg fun both => right both.1]

/-- `heapifyDown` with the number of comparisons. -/
def heapifyDownCounted (size : ℕ) (e : ℕ → α) (current : ℕ) : (ℕ → α) × ℕ :=
  let minChild := (hasChildCounted cmp size e current).1
  let looked := (hasChildCounted cmp size e current).2
  if minChild = 0 then (e, looked)
  else if cmp (e current) (e minChild) = true then
    let tmp := e current
    let down := heapifyDownCounted size
      (Function.update (Function.update e current (e minChild)) minChild tmp) minChild
    (down.1, down.2 + looked + 1)
  else (e, looked + 1)
termination_by size - current
decreasing_by
  rename_i nonzero _
  have same := hasChildCounted_fst cmp size e current
  obtain ⟨inside, below⟩ := hasChild_inside cmp size e current (same ▸ nonzero)
  rw [← same] at inside below
  have lower := parentOf_lt _ nonzero
  rw [below] at lower
  exact Nat.sub_lt_sub_left (lower.trans inside) lower

/-! ## The count changes nothing -/

theorem heapifyUpCounted_fst (v : α) (e : ℕ → α) (i : ℕ) :
    (heapifyUpCounted cmp v e i).1 = heapifyUp cmp v e i := by
  induction e, i using heapifyUp.induct cmp v with
  | case1 e i up ih =>
      rw [heapifyUpCounted, heapifyUp, if_neg up.1, if_pos up.2, if_pos up]
      exact ih
  | case2 e i stop =>
      rw [heapifyUpCounted, heapifyUp, if_neg stop]
      split_ifs with root after
      · rfl
      · exact absurd ⟨root, after⟩ stop
      · rfl

theorem heapifyDownCounted_fst (size : ℕ) (e : ℕ → α) (current : ℕ) :
    (heapifyDownCounted cmp size e current).1 = heapifyDown cmp size e current := by
  have child := hasChildCounted_fst cmp size
  induction e, current using heapifyDown.induct cmp size with
  | case1 e current minChild down tmp ih =>
      rw [heapifyDownCounted, heapifyDown, if_pos down]
      dsimp only
      rw [child, if_neg down.1, if_pos down.2]
      exact ih
  | case2 e current minChild stop =>
      rw [heapifyDownCounted, heapifyDown, if_neg stop]
      dsimp only
      rw [child]
      split_ifs with root after
      · rfl
      · exact absurd ⟨root, after⟩ stop
      · rfl

/-! ## Its bounds -/

/-- One comparison for each level that the value goes up. -/
theorem heapifyUpCounted_snd (v : α) (e : ℕ → α) (i : ℕ) :
    (heapifyUpCounted cmp v e i).2 ≤ Nat.log 2 i + 1 := by
  induction e, i using heapifyUp.induct cmp v with
  | case1 e i up ih =>
      rw [heapifyUpCounted, if_neg up.1, if_pos up.2]
      dsimp only
      by_cases one : i = 1
      · -- the parent is the root, where nothing is compared
        subst one
        rw [show parentOf 1 = 0 from rfl, heapifyUpCounted, if_pos rfl]
        exact Nat.le_add_left _ _
      · have level := Nat.log_of_one_lt_of_le Nat.one_lt_two (show 2 ≤ i by omega)
        rw [show i / 2 = parentOf i from rfl] at level
        omega
  | case2 e i stop =>
      rw [heapifyUpCounted]
      split_ifs with root after
      · exact Nat.zero_le _
      · exact absurd ⟨root, after⟩ stop
      · exact Nat.le_add_left _ _

theorem hasChildCounted_snd (size : ℕ) (e : ℕ → α) (i : ℕ) :
    (hasChildCounted cmp size e i).2 ≤ 1 ∧
      (size ≤ lchild i → (hasChildCounted cmp size e i).2 = 0) := by
  unfold hasChildCounted
  dsimp only
  by_cases none_ : size ≤ lchild i
  · rw [if_pos none_]
    exact ⟨Nat.zero_le _, fun _ => rfl⟩
  · rw [if_neg none_]
    refine ⟨?_, fun outside => absurd outside none_⟩
    split
    · exact Nat.le_refl _
    · exact Nat.zero_le _

/-- At most two comparisons for each level below a node other than the root. -/
theorem heapifyDownCounted_snd (size : ℕ) (e : ℕ → α) (current : ℕ) (nonroot : current ≠ 0) :
    (heapifyDownCounted cmp size e current).2 ≤ 2 * Nat.log 2 (size / current) := by
  have child := hasChildCounted_fst cmp size
  induction e, current using heapifyDown.induct cmp size with
  | case1 e current minChild down tmp ih =>
      obtain ⟨inside, below⟩ := hasChild_inside cmp size e current down.1
      have looked := (hasChildCounted_snd cmp size e current).1
      rw [heapifyDownCounted]
      dsimp only
      rw [child, if_neg down.1, if_pos down.2]
      have rest : (heapifyDownCounted cmp size (Function.update (Function.update e current
          (e (hasChild cmp size e current))) (hasChild cmp size e current) (e current))
          (hasChild cmp size e current)).2 ≤
          2 * Nat.log 2 (size / hasChild cmp size e current) := ih down.1
      have wide : current * 2 ≤ hasChild cmp size e current := by
        unfold parentOf at below
        omega
      -- one level less is below the child
      have fewer : size / hasChild cmp size e current ≤ size / current / 2 := by
        rw [Nat.div_div_eq_div_mul]
        exact Nat.div_le_div_left wide (by omega)
      have two : 2 ≤ size / current := by
        rw [Nat.le_div_iff_mul_le (Nat.pos_of_ne_zero nonroot), Nat.mul_comm]
        exact wide.trans inside.le
      have level := Nat.log_of_one_lt_of_le Nat.one_lt_two two
      have mono := Nat.log_mono_right (b := 2) fewer
      omega
  | case2 e current minChild stop =>
      have looked := hasChildCounted_snd cmp size e current
      rw [heapifyDownCounted]
      dsimp only
      rw [child]
      by_cases outside : size ≤ lchild current
      · have none_ : hasChild cmp size e current = 0 := by
          rw [hasChild, if_pos outside]
        rw [if_pos none_, looked.2 outside]
        exact Nat.zero_le _
      · have two : 2 ≤ size / current := by
          unfold lchild at outside
          rw [Nat.le_div_iff_mul_le (Nat.pos_of_ne_zero nonroot)]
          omega
        have level := Nat.log_of_one_lt_of_le Nat.one_lt_two two
        have one := looked.1
        split_ifs with root after
        · omega
        · exact absurd ⟨root, after⟩ stop
        · dsimp only
          omega

/-- At the root there is one child. -/
theorem heapifyDownCounted_root (size : ℕ) (e : ℕ → α) :
    (heapifyDownCounted cmp size e 0).2 ≤ 2 * Nat.log 2 size + 2 := by
  have child := hasChildCounted_fst cmp size e 0
  have looked := (hasChildCounted_snd cmp size e 0).1
  rw [heapifyDownCounted]
  dsimp only
  split_ifs with root after
  · dsimp only
    omega
  · dsimp only
    obtain ⟨inside, below⟩ := hasChild_inside cmp size e 0 (child ▸ root)
    have one : (hasChildCounted cmp size e 0).1 = 1 := by
      rw [child] at root ⊢
      unfold parentOf at below
      omega
    have rest := heapifyDownCounted_snd cmp size
      (Function.update (Function.update e 0 (e (hasChildCounted cmp size e 0).1))
        (hasChildCounted cmp size e 0).1 (e 0)) (hasChildCounted cmp size e 0).1 root
    rw [one, Nat.div_one] at rest
    rw [one]
    omega
  · dsimp only
    omega

/-! ## The two operations -/

theorem MinQueue.room_succ (q : MinQueue α) (full : ¬ q.size = q.alloc) : q.size + 1 ≤ q.alloc :=
  Nat.lt_of_le_of_ne q.room full

theorem MinQueue.room_grown (q : MinQueue α) : q.size + 1 ≤ q.size + slotsPerMalloc :=
  Nat.add_le_add_left (by decide) _

theorem MinQueue.room_pred (q : MinQueue α) : q.size - 1 ≤ q.alloc :=
  (Nat.sub_le q.size 1).trans q.room

/-- `minqPush` with the number of comparisons. -/
def minqPushCounted (realloc : Bool) (q : MinQueue α) (v : α) : (MinQueue α × ℤ) × ℕ :=
  let up := heapifyUpCounted cmp v q.e q.size
  if full : q.size = q.alloc then
    if realloc = false then ((q, -1), 0)
    else
      let resizeTo := q.size + slotsPerMalloc
      ((⟨q.size + 1, resizeTo, up.1, q.room_grown⟩, 0), up.2)
  else ((⟨q.size + 1, q.alloc, up.1, q.room_succ full⟩, 0), up.2)

/-- `minqPop` with the number of comparisons. -/
def minqPopCounted (q : MinQueue α) : MinQueue α × ℕ :=
  if minqEmpty q then (q, 0)
  else
    let size := q.size - 1
    let down := heapifyDownCounted cmp size (Function.update q.e 0 (q.e size)) 0
    (⟨size, q.alloc, down.1, q.room_pred⟩, down.2)

/-- `minq_push` and `minq_pop` compare no more often than the tree has levels: once for each
level of a push, twice for each level of a pop. -/
theorem minq_logarithmic (realloc : Bool) (q : MinQueue α) (v : α) :
    ((minqPushCounted cmp realloc q v).1 = minqPush cmp realloc q v ∧
      (minqPushCounted cmp realloc q v).2 ≤ Nat.log 2 q.size + 1) ∧
    (minqPopCounted cmp q).1 = minqPop cmp q ∧
      (minqPopCounted cmp q).2 ≤ 2 * Nat.log 2 q.size + 2 := by
  have up := heapifyUpCounted_fst cmp v q.e q.size
  have levels := heapifyUpCounted_snd cmp v q.e q.size
  refine ⟨?_, ?_⟩
  · unfold minqPushCounted minqPush
    dsimp only
    split_ifs with full refused
    · exact ⟨rfl, Nat.zero_le _⟩
    · exact ⟨by simp only [up], levels⟩
    · exact ⟨by simp only [up], levels⟩
  · unfold minqPopCounted minqPop
    dsimp only
    split_ifs with empty
    · exact ⟨rfl, Nat.zero_le _⟩
    · refine ⟨by simp only [heapifyDownCounted_fst], ?_⟩
      have bound := heapifyDownCounted_root cmp (q.size - 1)
        (Function.update q.e 0 (q.e (q.size - 1)))
      have mono := Nat.log_mono_right (b := 2) (Nat.sub_le q.size 1)
      dsimp only
      omega

end SelectiveRepeat.LinkSim
