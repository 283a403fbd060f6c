import Mathlib.Data.List.Basic
import Mathlib.Order.Nat

/-!
# Queues of stamped messages

A channel that keeps the order of its messages is a list, oldest first.
`Stamped` says that its messages can be given nondecreasing stamps between two
bounds.  Sending, receiving, losing and waiting all keep the property, and only
sending and receiving move the bounds.  A reader who passes over messages takes from a
list what a channel with losses delivers.
-/

namespace SelectiveRepeat.Foundations

/-- Messages related to nondecreasing stamps between a low and a high bound. -/
inductive Stamped {μ : Type*} (Relates : ℕ → μ → Prop) : ℕ → List μ → ℕ → Prop where
  | nil {low high : ℕ} (ordered : low ≤ high) : Stamped Relates low [] high
  | cons {low stamp high : ℕ} {message : μ} {rest : List μ} (ordered : low ≤ stamp)
      (related : Relates stamp message) (later : Stamped Relates stamp rest high) :
      Stamped Relates low (message :: rest) high

namespace Stamped

variable {μ : Type*} {Relates : ℕ → μ → Prop} {low high : ℕ} {messages : List μ}

theorem bounds (stamped : Stamped Relates low messages high) : low ≤ high := by
  induction stamped with
  | nil ordered => exact ordered
  | cons ordered _ _ ih => exact ordered.trans ih

theorem lower (stamped : Stamped Relates low messages high) {lower : ℕ} (le : lower ≤ low) :
    Stamped Relates lower messages high := by
  cases stamped with
  | nil ordered => exact .nil (le.trans ordered)
  | cons ordered related later => exact .cons (le.trans ordered) related later

theorem raise (stamped : Stamped Relates low messages high) {higher : ℕ} (le : high ≤ higher) :
    Stamped Relates low messages higher := by
  induction stamped with
  | nil ordered => exact .nil (ordered.trans le)
  | cons ordered related _ ih => exact .cons ordered related (ih le)

/-- Weaken what a stamp says about its message. -/
theorem mono {Weaker : ℕ → μ → Prop} (stamped : Stamped Relates low messages high)
    (weaken : ∀ stamp message, stamp ≤ high → Relates stamp message → Weaker stamp message) :
    Stamped Weaker low messages high := by
  induction stamped with
  | nil ordered => exact .nil ordered
  | cons ordered related later ih =>
      exact .cons ordered (weaken _ _ later.bounds related) (ih weaken)

/-- Send messages that all carry one stamp. -/
theorem send {stamp : ℕ} {sent : List μ} (stamped : Stamped Relates low messages high)
    (le : high ≤ stamp) (related : ∀ message ∈ sent, Relates stamp message) :
    Stamped Relates low (messages ++ sent) stamp := by
  induction stamped with
  | nil ordered =>
      rename_i low high
      have bound : low ≤ stamp := ordered.trans le
      clear ordered
      rw [List.nil_append]
      induction sent generalizing low with
      | nil => exact .nil bound
      | cons message rest ih =>
          exact .cons bound (related message List.mem_cons_self)
            (ih (fun other member => related other (List.mem_cons_of_mem _ member)) le_rfl)
  | cons ordered related' _ ih => exact .cons ordered related' (ih le)

/-- Receive the oldest message. -/
theorem receive {message : μ} {rest : List μ}
    (stamped : Stamped Relates low (message :: rest) high) :
    ∃ stamp, low ≤ stamp ∧ Relates stamp message ∧ Stamped Relates stamp rest high := by
  cases stamped with
  | cons ordered related later => exact ⟨_, ordered, related, later⟩

/-- Lose any message. -/
theorem lose (stamped : Stamped Relates low messages high) (index : ℕ) :
    Stamped Relates low (messages.eraseIdx index) high := by
  induction stamped generalizing index with
  | nil ordered => exact .nil ordered
  | cons ordered related later ih =>
      cases index with
      | zero => exact later.lower ordered
      | succ index => exact .cons ordered related (ih index)

end Stamped

/-! ## Reading in sequence -/

section Reading

variable {μ : Type*} {messages queue : List μ} {n cursor : ℕ} {message : μ}

/-- The message at a place and those behind it come after every earlier place. -/
theorem cons_drop_sublist (found : messages[n]? = some message) (le : cursor ≤ n) :
    (message :: messages.drop (n + 1)).Sublist (messages.drop cursor) := by
  obtain ⟨inside, rfl⟩ := List.getElem?_eq_some_iff.mp found
  rw [← List.drop_eq_getElem_cons inside]
  exact List.drop_sublist_drop_left messages le

/-- What is sent comes behind what has not been read. -/
theorem drop_append_sublist (messages sent : List μ) (cursor : ℕ) :
    ((messages ++ sent).drop cursor).Sublist (messages.drop cursor ++ sent) := by
  rw [List.drop_append]
  exact (List.Sublist.refl _).append (List.drop_sublist _ _)

/-- What is sent goes behind what is under way. -/
theorem sublist_send {before sent : List μ}
    (sublist : (before ++ messages.drop cursor).Sublist queue) :
    (before ++ (messages ++ sent).drop cursor).Sublist (queue ++ sent) := by
  refine ((List.Sublist.refl before).append (drop_append_sublist messages sent cursor)).trans ?_
  rw [← List.append_assoc]
  exact sublist.append_right sent

/-- A channel that contains a message and others behind it delivers them after a loss. -/
theorem exists_drop_of_sublist {rest : List μ} (sublist : (message :: rest).Sublist queue) :
    ∃ lost later, queue.drop lost = message :: later ∧ rest.Sublist later := by
  obtain ⟨first, second, rfl, member, behind⟩ := List.cons_sublist_iff.mp sublist
  obtain ⟨before, after, rfl⟩ := List.append_of_mem member
  refine ⟨before.length, after ++ second, by simp, ?_⟩
  exact behind.trans (List.sublist_append_right _ _)

end Reading

end SelectiveRepeat.Foundations
