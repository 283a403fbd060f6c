import Mathlib.Algebra.Order.Group.Multiset
import Mathlib.Data.List.Forall2
import Mathlib.Tactic.Abel

/-!
# Carriers of messages

A carrier takes messages over, may lose or alter them, and delivers what it has taken.
What it has delivered and what waits in it are then altered copies of some of the
messages offered, each of them once.  A carrier that delivers in the order in which it
takes over keeps the order of the messages as well.
-/

namespace SelectiveRepeat.Foundations

/-- What a carrier may do to a message. -/
structure Faults (μ : Type*) where
  alters : μ → μ → Prop
  loses : μ → Prop

variable {μ : Type*} (faults : Faults μ)

/-- The histories of a carrier: the messages offered, those that wait and those delivered. -/
inductive Carries : List μ → Multiset μ → List μ → Prop where
  | start : Carries [] 0 []
  | lose {offers : List μ} {waiting : Multiset μ} {delivered : List μ} (message : μ)
      (lossy : faults.loses message) (before : Carries offers waiting delivered) :
      Carries (offers ++ [message]) waiting delivered
  | take {offers : List μ} {waiting : Multiset μ} {delivered : List μ} {message altered : μ}
      (alters : faults.alters message altered) (before : Carries offers waiting delivered) :
      Carries (offers ++ [message]) (altered ::ₘ waiting) delivered
  | deliver {offers : List μ} {waiting : Multiset μ} {delivered : List μ} {message : μ}
      (before : Carries offers (message ::ₘ waiting) delivered) :
      Carries offers waiting (delivered ++ [message])

variable {faults}

/-- The messages that were not lost, and what became of them. -/
structure Kept (faults : Faults μ) (offers carried : List μ) (kept : List μ) : Prop where
  sublist : kept.Sublist offers
  altered : List.Forall₂ faults.alters kept carried
  all : (∀ message ∈ offers, ¬ faults.loses message) → kept = offers

namespace Kept

variable {offers carried kept laterOffers laterCarried laterKept : List μ}

theorem nil : Kept faults [] [] [] := ⟨List.Sublist.refl [], .nil, fun _ => rfl⟩

theorem append (first : Kept faults offers carried kept)
    (second : Kept faults laterOffers laterCarried laterKept) :
    Kept faults (offers ++ laterOffers) (carried ++ laterCarried) (kept ++ laterKept) :=
  ⟨first.sublist.append second.sublist, List.rel_append first.altered second.altered,
    fun lossless => by
      rw [first.all fun other member => lossless other (List.mem_append_left _ member),
        second.all fun other member => lossless other (List.mem_append_right _ member)]⟩

theorem lose (before : Kept faults offers carried kept) {message : μ}
    (lossy : faults.loses message) : Kept faults (offers ++ [message]) carried kept :=
  ⟨before.sublist.trans (List.sublist_append_left _ _), before.altered,
    fun lossless => absurd lossy (lossless message (by simp))⟩

theorem take (before : Kept faults offers carried kept) {message altered : μ}
    (alters : faults.alters message altered) :
    Kept faults (offers ++ [message]) (carried ++ [altered]) (kept ++ [message]) :=
  before.append ⟨List.Sublist.refl _, .cons alters .nil, fun _ => rfl⟩

theorem mono (before : Kept faults offers carried kept) {worse : Faults μ}
    (alters : ∀ message altered, faults.alters message altered → worse.alters message altered)
    (loses : ∀ message, faults.loses message → worse.loses message) :
    Kept worse offers carried kept :=
  ⟨before.sublist, before.altered.imp alters,
    fun lossless => before.all fun message member lossy =>
      lossless message member (loses message lossy)⟩

end Kept

namespace Carries

variable {offers : List μ} {waiting : Multiset μ} {delivered : List μ}

/-- Nothing is delivered that was not offered, and nothing twice. -/
theorem accounted (carries : Carries faults offers waiting delivered) :
    ∃ kept carried, Kept faults offers carried kept ∧
      (carried : Multiset μ) = (delivered : Multiset μ) + waiting := by
  induction carries with
  | start => exact ⟨[], [], Kept.nil, by simp⟩
  | lose message lossy before ih =>
      obtain ⟨kept, carried, same, items⟩ := ih
      exact ⟨kept, carried, same.lose lossy, items⟩
  | take alters before ih =>
      obtain ⟨kept, carried, same, items⟩ := ih
      refine ⟨_, _, same.take alters, ?_⟩
      rw [← Multiset.coe_add, items, Multiset.coe_singleton, ← Multiset.singleton_add]
      abel
  | deliver before ih =>
      obtain ⟨kept, carried, same, items⟩ := ih
      refine ⟨kept, carried, same, ?_⟩
      rw [items, ← Multiset.coe_add, Multiset.coe_singleton, ← Multiset.singleton_add]
      abel

/-- A carrier with more faults does the same. -/
theorem mono (carries : Carries faults offers waiting delivered) {worse : Faults μ}
    (alters : ∀ message altered, faults.alters message altered → worse.alters message altered)
    (loses : ∀ message, faults.loses message → worse.loses message) :
    Carries worse offers waiting delivered := by
  induction carries with
  | start => exact .start
  | lose message lossy before ih => exact .lose message (loses _ lossy) ih
  | take altered before ih => exact .take (alters _ _ altered) ih
  | deliver before ih => exact .deliver ih

/-- Several messages are delivered. -/
theorem deliver_list {out : List μ}
    (carries : Carries faults offers ((out : Multiset μ) + waiting) delivered) :
    Carries faults offers waiting (delivered ++ out) := by
  induction out generalizing delivered with
  | nil => simpa using carries
  | cons message rest ih =>
      rw [← Multiset.cons_coe, Multiset.cons_add] at carries
      have next := ih carries.deliver
      rwa [List.append_assoc] at next

/-- A message is taken over and delivered at once. -/
theorem relay (carries : Carries faults offers waiting delivered) {message altered : μ}
    (alters : faults.alters message altered) :
    Carries faults (offers ++ [message]) waiting (delivered ++ [altered]) :=
  (carries.take alters).deliver

end Carries

/-! ## Transmission in order -/

/-- What is carried are the messages offered, in their order, some of them lost. -/
def Faults.Transmits (faults : Faults μ) (offers carried : List μ) : Prop :=
  ∃ kept, Kept faults offers carried kept

namespace Faults.Transmits

variable {offers carried : List μ}

theorem nil : faults.Transmits [] [] := ⟨[], Kept.nil⟩

theorem lost (lossy : ∀ message ∈ offers, faults.loses message) : faults.Transmits offers [] := by
  refine ⟨[], List.nil_sublist _, .nil, fun lossless => ?_⟩
  exact (List.eq_nil_iff_forall_not_mem.mpr fun message member =>
    lossless message member (lossy message member)).symm

theorem taken {message altered : μ} (alters : faults.alters message altered) :
    faults.Transmits [message] [altered] :=
  ⟨[message], List.Sublist.refl _, .cons alters .nil, fun _ => rfl⟩

theorem append {laterOffers laterCarried : List μ} (first : faults.Transmits offers carried)
    (second : faults.Transmits laterOffers laterCarried) :
    faults.Transmits (offers ++ laterOffers) (carried ++ laterCarried) := by
  obtain ⟨kept, same⟩ := first
  obtain ⟨laterKept, laterSame⟩ := second
  exact ⟨kept ++ laterKept, same.append laterSame⟩

/-- A carrier with more faults transmits the same. -/
theorem mono (transmits : faults.Transmits offers carried) {worse : Faults μ}
    (alters : ∀ message altered, faults.alters message altered → worse.alters message altered)
    (loses : ∀ message, faults.loses message → worse.loses message) :
    worse.Transmits offers carried := by
  obtain ⟨kept, same⟩ := transmits
  exact ⟨kept, same.mono alters loses⟩

/-- A carrier that alters nothing only leaves messages out. -/
theorem sublist (transmits : faults.Transmits offers carried)
    (exact : ∀ message altered, faults.alters message altered → altered = message) :
    carried.Sublist offers := by
  obtain ⟨kept, same⟩ := transmits
  have equal : kept = carried :=
    List.forall₂_eq_eq_eq ▸ same.altered.imp fun message altered alters =>
      (exact message altered alters).symm
  exact equal ▸ same.sublist

end Faults.Transmits

end SelectiveRepeat.Foundations
