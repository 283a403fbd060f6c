import Mathlib.Data.List.GetD
import Mathlib.Data.List.Range
import Mathlib.Tactic.Common

/-!
# Byte memory

A memory gives a byte to every offset from some pointer.  `store` is `memcpy`
into it and `load` is `memcpy` out of it.  `Loads` pairs a computed value with
the offsets that were read on the way, so one definition gives both a result and
its footprint.
-/

namespace SelectiveRepeat.Foundations

/-- The bytes found from a pointer on. -/
abbrev Memory := ℕ → UInt8

namespace Memory

/-- Copy `count` bytes out of a memory. -/
def load (memory : Memory) (offset count : ℕ) : List UInt8 :=
  (List.range count).map fun index => memory (offset + index)

/-- Copy a list of bytes into a memory. -/
def store (memory : Memory) (offset : ℕ) (bytes : List UInt8) : Memory := fun index =>
  if offset ≤ index ∧ index < offset + bytes.length then bytes.getD (index - offset) 0
  else memory index

/-- Set the first `count` bytes to `value`. -/
def memset (memory : Memory) (value : UInt8) (count : ℕ) : Memory := fun index =>
  if index < count then value else memory index

@[simp]
theorem length_load (memory : Memory) (offset count : ℕ) :
    (memory.load offset count).length = count := by
  simp [load]

theorem load_add (memory : Memory) (offset first second : ℕ) :
    memory.load offset (first + second) =
      memory.load offset first ++ memory.load (offset + first) second := by
  simp [load, List.range_add, Nat.add_assoc]

/-- Two memories that agree on a range give the same bytes from it. -/
theorem load_congr {first second : Memory} {offset count : ℕ}
    (agree : ∀ index < count, first (offset + index) = second (offset + index)) :
    first.load offset count = second.load offset count :=
  List.map_congr_left fun index inside => agree index (List.mem_range.mp inside)

/-- Reading a range of equal bytes. -/
theorem load_eq_replicate {memory : Memory} {offset count : ℕ} {value : UInt8}
    (agree : ∀ index < count, memory (offset + index) = value) :
    memory.load offset count = List.replicate count value := by
  refine List.eq_replicate_iff.mpr ⟨length_load _ _ _, ?_⟩
  intro byte member
  obtain ⟨index, inside, rfl⟩ := List.mem_map.mp member
  exact agree index (List.mem_range.mp inside)

theorem store_inside (memory : Memory) (offset : ℕ) (bytes : List UInt8) {index : ℕ}
    (inside : index < bytes.length) :
    memory.store offset bytes (offset + index) = bytes.getD index 0 := by
  simp [store, inside]

theorem store_outside (memory : Memory) (offset : ℕ) (bytes : List UInt8) {index : ℕ}
    (outside : index < offset ∨ offset + bytes.length ≤ index) :
    memory.store offset bytes index = memory index := by
  rw [store, if_neg]
  omega

/-- Reading back exactly what was stored. -/
@[simp]
theorem load_store_same (memory : Memory) (offset : ℕ) (bytes : List UInt8) :
    (memory.store offset bytes).load offset bytes.length = bytes := by
  apply List.ext_getElem (length_load _ _ _)
  intro index left right
  simp [load, store_inside memory offset bytes right, List.getElem?_eq_getElem right]

/-- The bytes of a list are found at an offset. -/
def Holds (memory : Memory) (offset : ℕ) (bytes : List UInt8) : Prop :=
  memory.load offset bytes.length = bytes

theorem holds_store (memory : Memory) (offset : ℕ) (bytes : List UInt8) :
    (memory.store offset bytes).Holds offset bytes :=
  load_store_same memory offset bytes

theorem holds_append {memory : Memory} {offset : ℕ} {first second : List UInt8} :
    memory.Holds offset (first ++ second) ↔
      memory.Holds offset first ∧ memory.Holds (offset + first.length) second := by
  rw [Holds, List.length_append, load_add]
  constructor
  · intro both
    exact List.append_inj both (length_load _ _ _)
  · rintro ⟨left, right⟩
    rw [left, right]

/-- A read that does not meet the stored range sees the old bytes. -/
theorem load_store_outside (memory : Memory) (offset : ℕ) (bytes : List UInt8) {start count : ℕ}
    (outside : start + count ≤ offset ∨ offset + bytes.length ≤ start) :
    (memory.store offset bytes).load start count = memory.load start count :=
  load_congr fun index _ => store_outside memory offset bytes (by omega)

/-- Two stores side by side are one store. -/
theorem store_store_append (memory : Memory) (offset : ℕ) (first second : List UInt8) :
    (memory.store offset first).store (offset + first.length) second =
      memory.store offset (first ++ second) := by
  funext index
  simp only [store, List.length_append]
  by_cases later : offset + first.length ≤ index
  · by_cases inside : index < offset + first.length + second.length
    · rw [if_pos ⟨later, inside⟩, if_pos (by omega), List.getD_append_right _ _ _ _ (by omega)]
      congr 1
      omega
    · rw [if_neg (by omega), if_neg (by omega), if_neg (by omega)]
  · rw [if_neg (by omega)]
    by_cases inside : offset ≤ index
    · rw [if_pos (by omega), if_pos (by omega), List.getD_append _ _ _ _ (by omega)]
    · rw [if_neg (by omega), if_neg (by omega)]

@[simp]
theorem memset_inside (memory : Memory) (value : UInt8) {count index : ℕ} (inside : index < count) :
    memory.memset value count index = value := by
  simp [memset, inside]

end Memory

/-- A value and the offsets that were read to compute it. -/
structure Loads (α : Type) where
  val : α
  reads : List ℕ

namespace Loads

instance : Monad Loads where
  pure value := ⟨value, []⟩
  bind first next := ⟨(next first.val).val, first.reads ++ (next first.val).reads⟩

variable {α β : Type}

@[simp] theorem val_pure (value : α) : (pure value : Loads α).val = value := rfl

@[simp] theorem reads_pure (value : α) : (pure value : Loads α).reads = [] := rfl

@[simp]
theorem val_bind (first : Loads α) (next : α → Loads β) :
    (first >>= next).val = (next first.val).val := (rfl)

@[simp]
theorem reads_bind (first : Loads α) (next : α → Loads β) :
    (first >>= next).reads = first.reads ++ (next first.val).reads := (rfl)

theorem val_ite (condition : Prop) [Decidable condition] (yes no : Loads α) :
    (if condition then yes else no).val = if condition then yes.val else no.val :=
  apply_ite Loads.val condition yes no

theorem reads_ite (condition : Prop) [Decidable condition] (yes no : Loads α) :
    (if condition then yes else no).reads = if condition then yes.reads else no.reads :=
  apply_ite Loads.reads condition yes no

end Loads

/-- Copy bytes out of a memory, recording their offsets. -/
def Memory.read (memory : Memory) (offset count : ℕ) : Loads (List UInt8) :=
  ⟨memory.load offset count, (List.range count).map (offset + ·)⟩

@[simp]
theorem Memory.val_read (memory : Memory) (offset count : ℕ) :
    (memory.read offset count).val = memory.load offset count := (rfl)

@[simp]
theorem Memory.mem_reads_read (memory : Memory) (offset count index : ℕ) :
    index ∈ (memory.read offset count).reads ↔ offset ≤ index ∧ index < offset + count := by
  simp only [Memory.read, List.mem_map, List.mem_range]
  constructor
  · rintro ⟨inner, bound, rfl⟩
    omega
  · rintro ⟨low, high⟩
    exact ⟨index - offset, by omega, by omega⟩

end SelectiveRepeat.Foundations
