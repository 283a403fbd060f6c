import SelectiveRepeat.Foundations.HeapOrder

/-!
# The priority queue of the link simulator

`min_queue.c` keeps its items in a heap inside an array.  The root is at index 0, yet
the children of a node are found by doubling its index, so the root has one child
only and every other node has two.
-/

namespace SelectiveRepeat.LinkSim

open SelectiveRepeat.Foundations

/-- How many item slots per allocation step. -/
def slotsPerMalloc : ℕ := 20

/-- `PARENT` of an index. -/
def parentOf (x : ℕ) : ℕ := x / 2

/-- `LCHILD` of an index. -/
def lchild (x : ℕ) : ℕ := 2 * x

/-- `struct minqueue` but for the compare function; what lies behind the first `size` entries
of `e` is never looked at. -/
structure MinQueue (α : Type*) where
  size : ℕ
  alloc : ℕ
  e : ℕ → α
  room : size ≤ alloc

variable {α : Type*}

/-- A new queue, if both allocations succeed; `e` is what is found in the slots. -/
def minqNew (queue slots : Bool) (e : ℕ → α) : Option (MinQueue α) :=
  if queue = false then none
  else if slots = false then none
  else some ⟨0, slotsPerMalloc, e, Nat.zero_le _⟩

def minqEmpty (q : MinQueue α) : Bool := q.size = 0

def minqSize (q : MinQueue α) : ℕ := q.size

def minqPeek (q : MinQueue α) : Option α := if minqEmpty q then none else some (q.e 0)

variable (cmp : α → α → Bool)

/-- The loop of `minq_push`: the new value goes up while it is smaller than the parent. -/
def heapifyUp (v : α) (e : ℕ → α) (i : ℕ) : ℕ → α :=
  if i ≠ 0 ∧ cmp (e (parentOf i)) v = true then
    heapifyUp v (Function.update e i (e (parentOf i))) (parentOf i)
  else Function.update e i v
termination_by i
decreasing_by
  unfold parentOf
  omega

/-- `minq_push`; `realloc` says whether the array can grow. -/
def minqPush (realloc : Bool) (q : MinQueue α) (v : α) : MinQueue α × ℤ :=
  if full : q.size = q.alloc then
    if realloc = false then (q, -1)
    else
      let resizeTo := q.size + slotsPerMalloc
      (⟨q.size + 1, resizeTo, heapifyUp cmp v q.e q.size, Nat.add_le_add_left (by decide) _⟩, 0)
  else
    (⟨q.size + 1, q.alloc, heapifyUp cmp v q.e q.size, Nat.lt_of_le_of_ne q.room full⟩, 0)

/-- The smallest child, or the root if there is none. -/
def hasChild (size : ℕ) (e : ℕ → α) (i : ℕ) : ℕ :=
  let left := lchild i
  if size ≤ left then 0
  else
    let right := left + 1
    if right < size ∧ cmp (e left) (e right) = true then right else left

theorem hasChild_inside (size : ℕ) (e : ℕ → α) (i : ℕ) (child : hasChild cmp size e i ≠ 0) :
    hasChild cmp size e i < size ∧ parentOf (hasChild cmp size e i) = i := by
  unfold hasChild lchild at *
  dsimp only at *
  unfold parentOf
  split_ifs at * with none_ right
  · exact absurd rfl child
  · omega
  · omega

theorem parentOf_lt (node : ℕ) (nonroot : node ≠ 0) : parentOf node < node := by
  unfold parentOf
  omega

/-- The loop of `minq_pop`: the value at `current` goes down while it is greater than its
smallest child. -/
def heapifyDown (size : ℕ) (e : ℕ → α) (current : ℕ) : ℕ → α :=
  let minChild := hasChild cmp size e current
  if minChild ≠ 0 ∧ cmp (e current) (e minChild) = true then
    let tmp := e current
    heapifyDown size (Function.update (Function.update e current (e minChild)) minChild tmp)
      minChild
  else e
termination_by size - current
decreasing_by
  rename_i down
  obtain ⟨inside, below⟩ := hasChild_inside cmp size e current down.1
  have lower : parentOf (hasChild cmp size e current) < hasChild cmp size e current :=
    parentOf_lt _ down.1
  rw [below] at lower
  exact Nat.sub_lt_sub_left (lower.trans inside) lower

/-- `minq_pop`; nothing is done to an empty queue. -/
def minqPop (q : MinQueue α) : MinQueue α :=
  if minqEmpty q then q
  else
    let size := q.size - 1
    let e := Function.update q.e 0 (q.e size)
    ⟨size, q.alloc, heapifyDown cmp size e 0, (Nat.sub_le q.size 1).trans q.room⟩

/-! ## The loops keep the heap -/

namespace MinQueue

/-- The items in the queue. -/
def items (q : MinQueue α) : Multiset α := contents q.size q.e

variable {κ : Type*} [LinearOrder κ] (key : α → κ)

/-- Every item is at or after its parent. -/
def Ordered (q : MinQueue α) : Prop := HeapOrdered parentOf q.size (key ∘ q.e)

end MinQueue

section Order

variable {κ : Type*} [LinearOrder κ] {key : α → κ}
  (greater : ∀ a b, cmp a b = true ↔ key b < key a)

include greater

theorem heapifyUp_spec {size : ℕ} (v : α) (e : ℕ → α) (i : ℕ) (inside : i < size)
    (raised : Raised parentOf size (key ∘ Function.update e i v) i) :
    HeapOrdered parentOf size (key ∘ heapifyUp cmp v e i) ∧
      contents size (heapifyUp cmp v e i) = contents size (Function.update e i v) := by
  induction e, i using heapifyUp.induct cmp v with
  | case1 e i up ih =>
      rw [heapifyUp, if_pos up]
      obtain ⟨nonroot, before⟩ := up
      have upper := parentOf_lt i nonroot
      have exchange := update_update_eq_swap upper.ne' e v
      have less := ((greater _ _).mp before).le
      have moved := raised.swap parentOf_lt nonroot inside (by
        rw [Function.comp_apply, Function.comp_apply, Function.update_self,
          Function.update_of_ne upper.ne]
        exact less)
      rw [Function.comp_assoc, ← exchange] at moved
      obtain ⟨ordered, same⟩ := ih (upper.trans inside) moved
      refine ⟨ordered, same.trans ?_⟩
      rw [exchange]
      exact contents_swap inside (upper.trans inside)
  | case2 e i stop =>
      rw [heapifyUp, if_neg stop]
      refine ⟨raised.ordered fun nonroot => ?_, rfl⟩
      have upper := parentOf_lt i nonroot
      rw [Function.comp_apply, Function.comp_apply, Function.update_self,
        Function.update_of_ne upper.ne]
      exact not_lt.mp fun less => stop ⟨nonroot, (greater _ _).mpr less⟩

/-- The smallest child is found, or the node is not after any child. -/
theorem hasChild_least (size : ℕ) (e : ℕ → α) (i : ℕ) :
    (hasChild cmp size e i = 0 → ∀ child, child ≠ 0 → child < size → parentOf child = i →
      key (e i) ≤ key (e child)) ∧
    (hasChild cmp size e i ≠ 0 → ∀ child, child ≠ 0 → child < size → parentOf child = i →
      key (e (hasChild cmp size e i)) ≤ key (e child)) := by
  have less : ∀ a b, ¬ cmp a b = true → key a ≤ key b := fun a b other =>
    not_lt.mp fun lt => other ((greater a b).mpr lt)
  unfold hasChild lchild parentOf
  dsimp only
  split_ifs with none_ right
  · refine ⟨fun _ child nonroot inside below => ?_, fun nonzero => absurd rfl nonzero⟩
    omega
  · refine ⟨fun zero => zero.elim, fun _ child nonroot inside below => ?_⟩
    by_cases left : child = 2 * i
    · rw [left]
      exact ((greater _ _).mp right.2).le
    · have same : child = 2 * i + 1 := by omega
      rw [same]
  · refine ⟨fun zero child nonroot inside below => ?_, fun nonzero child nonroot inside below => ?_⟩
    · -- the node is the root, and its only child is at index 1
      have root : i = 0 := by omega
      have only : child = 1 := by omega
      subst root only
      exact less _ _ fun after => right ⟨inside, after⟩
    · by_cases left : child = 2 * i
      · rw [left]
      · have same : child = 2 * i + 1 := by omega
        subst same
        exact less _ _ fun after => right ⟨inside, after⟩

theorem heapifyDown_spec (size : ℕ) (e : ℕ → α) (current : ℕ) (inside : current < size)
    (lowered : Lowered parentOf size (key ∘ e) current) :
    HeapOrdered parentOf size (key ∘ heapifyDown cmp size e current) ∧
      contents size (heapifyDown cmp size e current) = contents size e := by
  induction e, current using heapifyDown.induct cmp size with
  | case1 e current minChild down tmp ih =>
      obtain ⟨nonzero, after⟩ := down
      rw [heapifyDown, if_pos ⟨nonzero, after⟩]
      obtain ⟨bound, below⟩ := hasChild_inside cmp size e current nonzero
      have lower := below ▸ parentOf_lt _ nonzero
      have exchange := update_update_eq_swap lower.ne e (e current)
      rw [Function.update_eq_self] at exchange
      have least := (hasChild_least cmp greater size e current).2 nonzero
      have moved := lowered.swap parentOf_lt nonzero bound below ((greater _ _).mp after).le least
      rw [Function.comp_assoc, ← exchange] at moved
      obtain ⟨ordered, same⟩ := ih bound moved
      refine ⟨ordered, same.trans ?_⟩
      rw [exchange]
      exact contents_swap inside bound
  | case2 e current minChild stop =>
      rw [heapifyDown, if_neg stop]
      refine ⟨lowered.ordered fun child nonroot bound below => ?_, rfl⟩
      have least := hasChild_least cmp greater size e current
      by_cases found : hasChild cmp size e current = 0
      · exact least.1 found child nonroot bound below
      · have before : key (e current) ≤ key (e (hasChild cmp size e current)) :=
          not_lt.mp fun less => stop ⟨found, (greater _ _).mpr less⟩
        exact before.trans (least.2 found child nonroot bound below)

end Order

end SelectiveRepeat.LinkSim
