import Mathlib.Data.Multiset.AddSub
import SelectiveRepeat.Foundations.Machine
import SelectiveRepeat.LinkSim.MinQueue

/-!
# The operations of the priority queue

Seen from outside the queue is a bag of items.  A push adds one, a pop takes a least
one away, and both compare no more often than the tree has levels.
-/

namespace SelectiveRepeat.LinkSim

open SelectiveRepeat.Foundations

variable {α : Type*} (cmp : α → α → Bool) {κ : Type*} [LinearOrder κ] {key : α → κ}

namespace MinQueue

variable {q : MinQueue α}

theorem minqPeek_eq_none : minqPeek q = none ↔ q.size = 0 := by
  unfold minqPeek minqEmpty
  simp

theorem minqPeek_eq_some {x : α} : minqPeek q = some x ↔ q.size ≠ 0 ∧ q.e 0 = x := by
  unfold minqPeek minqEmpty
  simp

theorem card_items (q : MinQueue α) : q.items.card = minqSize q := card_contents _ _

theorem items_eq_zero : q.items = 0 ↔ q.size = 0 := by
  rw [← Multiset.card_eq_zero, card_items, minqSize]

/-! ## Push -/

/-- The array with the new item before the loop of `minq_push`. -/
theorem contents_pushed (q : MinQueue α) (v : α) :
    contents (q.size + 1) (Function.update q.e q.size v) = v ::ₘ q.items := by
  rw [contents_succ, Function.update_self, items]
  congr 1
  exact contents_congr fun index inside => Function.update_of_ne inside.ne _ _

theorem Ordered.raised (ordered : q.Ordered key) (v : α) :
    Raised parentOf (q.size + 1) (key ∘ Function.update q.e q.size v) q.size := by
  constructor
  · intro node nonroot inside other
    have upper := parentOf_lt node nonroot
    have pair := ordered node nonroot (by omega)
    rw [Function.comp_apply, Function.comp_apply, Function.update_of_ne other,
      Function.update_of_ne (by omega)]
    exact pair
  · intro nonroot child _ inside below
    unfold parentOf at below
    omega

section Greater

variable (greater : ∀ a b, cmp a b = true ↔ key b < key a)

include greater

theorem Ordered.heapifyUp (ordered : q.Ordered key) (v : α) :
    HeapOrdered parentOf (q.size + 1) (key ∘ heapifyUp cmp v q.e q.size) ∧
      contents (q.size + 1) (heapifyUp cmp v q.e q.size) = v ::ₘ q.items := by
  have spec := heapifyUp_spec cmp greater v q.e q.size (Nat.lt_succ_self _) (ordered.raised v)
  rw [contents_pushed] at spec
  exact spec

/-- A push adds the item, or fails and leaves the queue as it was. -/
theorem Ordered.push (ordered : q.Ordered key) (realloc : Bool) (v : α) :
    (minqPush cmp realloc q v).1.Ordered key ∧
      (((minqPush cmp realloc q v).2 = 0 ∧ (minqPush cmp realloc q v).1.items = v ::ₘ q.items) ∨
        (minqPush cmp realloc q v = (q, -1) ∧ realloc = false ∧ q.size = q.alloc)) := by
  obtain ⟨heap, same⟩ := ordered.heapifyUp cmp greater v
  unfold minqPush
  split_ifs with full refused
  · exact ⟨ordered, Or.inr ⟨rfl, refused, full⟩⟩
  · exact ⟨heap, Or.inl ⟨rfl, same⟩⟩
  · exact ⟨heap, Or.inl ⟨rfl, same⟩⟩

end Greater

/-! ## Pop -/

/-- The root is a least item. -/
theorem Ordered.root_le (ordered : q.Ordered key) : ∀ y ∈ q.items, key (q.e 0) ≤ key y := by
  intro y member
  obtain ⟨index, inside, rfl⟩ := mem_contents.mp member
  exact HeapOrdered.root_le ordered parentOf_lt inside

/-- The root is taken out and the last item put in its place. -/
theorem items_eq_cons {n : ℕ} (size : q.size = n + 1) :
    q.items = q.e 0 ::ₘ contents n (Function.update q.e 0 (q.e n)) := by
  have swapped : contents (n + 1) (q.e ∘ Equiv.swap 0 n) = contents (n + 1) q.e :=
    contents_swap (Nat.succ_pos n) (Nat.lt_succ_self n)
  rw [items, size, ← swapped, contents_succ, Function.comp_apply, Equiv.swap_apply_right]
  congr 1
  refine contents_congr fun index inside => ?_
  by_cases root : index = 0
  · rw [root, Function.comp_apply, Equiv.swap_apply_left, Function.update_self]
  · rw [Function.comp_apply, Equiv.swap_apply_of_ne_of_ne root inside.ne,
      Function.update_of_ne root]

theorem Ordered.lowered (ordered : q.Ordered key) {n : ℕ} (size : q.size = n + 1) :
    Lowered parentOf n (key ∘ Function.update q.e 0 (q.e n)) 0 := by
  constructor
  · intro node nonroot inside other
    have pair := ordered node nonroot (by omega)
    rw [Function.comp_apply, Function.comp_apply, Function.update_of_ne other,
      Function.update_of_ne nonroot]
    exact pair
  · intro nonroot
    exact absurd rfl nonroot

variable (greater : ∀ a b, cmp a b = true ↔ key b < key a)

include greater

/-- A pop takes the root away. -/
theorem Ordered.pop (ordered : q.Ordered key) (nonempty : q.size ≠ 0) :
    (minqPop cmp q).Ordered key ∧ q.items = q.e 0 ::ₘ (minqPop cmp q).items := by
  obtain ⟨n, size⟩ := Nat.exists_eq_succ_of_ne_zero nonempty
  have popped : minqPop cmp q =
      ⟨n, q.alloc, heapifyDown cmp n (Function.update q.e 0 (q.e n)) 0,
        (Nat.le_succ n).trans (size ▸ q.room)⟩ := by
    unfold minqPop minqEmpty
    simp [size]
  rw [popped, items_eq_cons size, items, Ordered]
  dsimp only
  cases n with
  | zero => exact ⟨fun node _ inside => absurd inside (Nat.not_lt_zero _), rfl⟩
  | succ n =>
      obtain ⟨heap, same⟩ := heapifyDown_spec cmp greater (n + 1) _ 0 (Nat.succ_pos n)
        (ordered.lowered size)
      exact ⟨heap, by rw [same]⟩

end MinQueue

/-! ## Runs of operations -/

/-- A call of an operation that changes the queue. -/
inductive QueueCall (α : Type*) where
  | push (realloc : Bool) (v : α)
  | pop

/-- The queue after a call. -/
def QueueCall.run (q : MinQueue α) : QueueCall α → MinQueue α
  | .push realloc v => (minqPush cmp realloc q v).1
  | .pop => minqPop cmp q

/-- Calls on one queue, from a new one. -/
def queueCalls (e : ℕ → α) : Machine (MinQueue α) (QueueCall α) where
  start := (minqNew true true e).get rfl
  step := QueueCall.run cmp

variable (key) in
/-- What a call is to do to the bag of items.  A push may fail only for want of memory, and
before a pop `minq_peek` gives the item that is taken away. -/
def Serves (q : MinQueue α) (call : QueueCall α) : Prop :=
  match call with
  | .push realloc v =>
      ((minqPush cmp realloc q v).2 = 0 ∧ (call.run cmp q).items = v ::ₘ q.items) ∨
        ((minqPush cmp realloc q v).2 = -1 ∧ call.run cmp q = q ∧ realloc = false)
  | .pop =>
      match minqPeek q with
      | none => q.items = 0 ∧ call.run cmp q = q
      | some x => q.items = x ::ₘ (call.run cmp q).items ∧ ∀ y ∈ q.items, key x ≤ key y

variable (greater : ∀ a b, cmp a b = true ↔ key b < key a)

include greater

theorem MinQueue.Ordered.run {q : MinQueue α} (ordered : q.Ordered key) (call : QueueCall α) :
    (call.run cmp q).Ordered key := by
  cases call with
  | push realloc v => exact (ordered.push cmp greater realloc v).1
  | pop =>
      by_cases empty : q.size = 0
      · have same : minqPop cmp q = q := by
          unfold minqPop minqEmpty
          simp [empty]
        rw [QueueCall.run, same]
        exact ordered
      · exact (ordered.pop cmp greater empty).1

theorem MinQueue.Ordered.serves {q : MinQueue α} (ordered : q.Ordered key) (call : QueueCall α) :
    Serves cmp key q call := by
  cases call with
  | push realloc v =>
      rcases (ordered.push cmp greater realloc v).2 with ⟨ok, items⟩ | ⟨same, refused, -⟩
      · exact Or.inl ⟨ok, items⟩
      · refine Or.inr ⟨?_, ?_, refused⟩
        · rw [same]
        · rw [QueueCall.run, same]
  | pop =>
      unfold Serves
      cases root : minqPeek q with
      | none =>
          have empty := MinQueue.minqPeek_eq_none.mp root
          refine ⟨MinQueue.items_eq_zero.mpr empty, ?_⟩
          rw [QueueCall.run, minqPop, minqEmpty, if_pos (by simp [empty])]
      | some x =>
          obtain ⟨nonempty, rfl⟩ := MinQueue.minqPeek_eq_some.mp root
          exact ⟨(ordered.pop cmp greater nonempty).2, ordered.root_le⟩

/-- In every run of calls each call does to the bag of items what it is to do. -/
theorem queue_serves (e : ℕ → α) (calls : List (QueueCall α)) :
    (queueCalls cmp e).Along (Serves cmp key) (queueCalls cmp e).start calls := by
  have all : ∀ q : MinQueue α, q.Ordered key →
      (queueCalls cmp e).Along (Serves cmp key) q calls := by
    intro q ordered
    induction calls generalizing q with
    | nil => trivial
    | cons call rest ih =>
        exact ⟨ordered.serves cmp greater call, ih _ (ordered.run cmp greater call)⟩
  exact all _ fun node _ inside => absurd inside (Nat.not_lt_zero _)

omit greater in
theorem queue_serves_nat :
    let greater : ℕ → ℕ → Bool := fun a b => b < a
    (queueCalls greater id).Along (Serves greater id) (queueCalls greater id).start
      [.push true 3, .push true 1, .pop] :=
  queue_serves _ (fun _ _ => decide_eq_true_iff) _ _

end SelectiveRepeat.LinkSim
