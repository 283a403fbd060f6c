import Mathlib.Data.Nat.Notation
import Mathlib.Logic.Function.Basic
import SelectiveRepeat.Foundations.Alteration

/-!
# CRC-32

The reflected CRC-32 of polynomial `0xEDB88320`, as `crc32` of zlib computes it
from its initial value: all bits set, one byte at a time, complemented at the end.
-/

namespace SelectiveRepeat.Foundations

/-- One bit of the division. -/
def crc32Bit (crc : UInt32) : UInt32 :=
  if crc &&& 1 = 1 then (crc >>> 1) ^^^ 0xEDB88320 else crc >>> 1

/-- One byte of the division. -/
def crc32Byte (crc : UInt32) (byte : UInt8) : UInt32 := Nat.repeat crc32Bit 8 (crc ^^^ byte.toUInt32)

/-- The CRC-32 of a list of bytes. -/
def zlibCrc32 (bytes : List UInt8) : UInt32 := bytes.foldl crc32Byte 0xFFFFFFFF ^^^ 0xFFFFFFFF

/-- The check value: the CRC of the ASCII digits 1 to 9. -/
example : zlibCrc32 [49, 50, 51, 52, 53, 54, 55, 56, 57] = 0xCBF43926 := by decide +kernel

theorem zlibCrc32_nil : zlibCrc32 [] = 0 := by decide

/-! ## One altered byte

Every step of the division is injective in the register, and so is a byte in what
it adds to the register: two registers that differ once differ to the end. -/

/-- A checksum that tells two byte strings apart when they differ in exactly one byte. -/
def DetectsOneByte (crc32 : List UInt8 → UInt32) : Prop :=
  ∀ first second, OneApart first second → crc32 first ≠ crc32 second

theorem and_one_eq_one_iff (crc : UInt32) : crc &&& 1 = 1 ↔ crc.toBitVec.getLsbD 0 = true := by
  have low : (crc &&& 1).toBitVec = BitVec.setWidth 32 (BitVec.ofBool (crc.toBitVec.getLsbD 0)) := by
    rw [UInt32.toBitVec_and]
    exact BitVec.and_one_eq_setWidth_ofBool_getLsbD
  rw [← UInt32.toBitVec_inj, low]
  cases crc.toBitVec.getLsbD 0 <;> decide

/-- The highest bit after a step is the lowest bit before it. -/
theorem crc32Bit_high (crc : UInt32) :
    (crc32Bit crc).toBitVec.getLsbD 31 = crc.toBitVec.getLsbD 0 := by
  have shifted : (crc >>> 1).toBitVec.getLsbD 31 = false := by simp
  unfold crc32Bit
  by_cases odd : crc &&& 1 = 1
  · rw [if_pos odd, (and_one_eq_one_iff crc).mp odd, UInt32.toBitVec_xor, BitVec.getLsbD_xor, shifted]
    rfl
  · rw [if_neg odd, shifted]
    rw [and_one_eq_one_iff, Bool.not_eq_true] at odd
    exact odd.symm

theorem crc32Bit_injective : Function.Injective crc32Bit := by
  intro first second same
  have low : first.toBitVec.getLsbD 0 = second.toBitVec.getLsbD 0 := by
    rw [← crc32Bit_high, ← crc32Bit_high, same]
  have high : first >>> 1 = second >>> 1 := by
    have parity : first &&& 1 = 1 ↔ second &&& 1 = 1 := by
      rw [and_one_eq_one_iff, and_one_eq_one_iff, low]
    unfold crc32Bit at same
    by_cases odd : second &&& 1 = 1
    · rw [if_pos odd, if_pos (parity.mpr odd)] at same
      exact (UInt32.xor_left_inj _).mp same
    · rwa [if_neg odd, if_neg fun set => odd (parity.mp set)] at same
  apply UInt32.toBitVec_inj.mp
  apply BitVec.eq_of_getLsbD_eq
  intro index _
  cases index with
  | zero => exact low
  | succ index =>
      have bit := congrArg (fun crc : UInt32 => crc.toBitVec.getLsbD index) high
      simpa [BitVec.getLsbD_ushiftRight, Nat.add_comm] using bit

theorem repeat_injective {α : Type*} {step : α → α} (injective : Function.Injective step)
    (count : ℕ) : Function.Injective (Nat.repeat step count) := by
  induction count with
  | zero => exact fun _ _ same => same
  | succ count ih => exact injective.comp ih

theorem crc32Byte_left_injective (byte : UInt8) :
    Function.Injective fun crc => crc32Byte crc byte := by
  intro first second same
  exact (UInt32.xor_left_inj _).mp (repeat_injective crc32Bit_injective 8 same)

theorem crc32Byte_right_injective (crc : UInt32) : Function.Injective (crc32Byte crc) := by
  intro first second same
  have bytes := (UInt32.xor_right_inj _).mp (repeat_injective crc32Bit_injective 8 same)
  exact UInt8.toUInt32_inj.mp bytes

theorem foldl_crc32Byte_injective (bytes : List UInt8) :
    Function.Injective fun crc => bytes.foldl crc32Byte crc := by
  induction bytes with
  | nil => exact fun _ _ same => same
  | cons byte rest ih => exact ih.comp (crc32Byte_left_injective byte)

theorem foldl_crc32Byte_ne {first second : List UInt8} (apart : OneApart first second)
    (crc : UInt32) : first.foldl crc32Byte crc ≠ second.foldl crc32Byte crc := by
  induction apart generalizing crc with
  | head rest ne =>
      intro same
      exact ne (crc32Byte_right_injective crc (foldl_crc32Byte_injective rest same))
  | tail byte apart ih => exact ih (crc32Byte crc byte)

theorem zlibCrc32_detectsOneByte : DetectsOneByte zlibCrc32 := by
  intro first second apart same
  exact foldl_crc32Byte_ne apart _ ((UInt32.xor_left_inj _).mp same)

end SelectiveRepeat.Foundations
