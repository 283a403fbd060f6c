import Mathlib.Algebra.Order.Ring.Nat
import Mathlib.Data.List.Basic
import Mathlib.Tactic.Common

/-!
# Little-endian integers and byte swapping

Integers of `count` bytes as a little-endian host keeps them in memory.  Byte
swapping, which is what `htons` and `htonl` do on such a host, is reversal of the
byte list.
-/

namespace SelectiveRepeat.Foundations

/-- The low `count` bytes of a number, least significant byte first. -/
def leBytes : ℕ → ℕ → List UInt8
  | 0, _ => []
  | count + 1, value => UInt8.ofNat value :: leBytes count (value / 256)

/-- The number whose bytes, least significant first, are given. -/
def leValue : List UInt8 → ℕ
  | [] => 0
  | byte :: rest => byte.toNat + 256 * leValue rest

/-- Reverse the byte order of a number of `count` bytes. -/
def byteSwap (count value : ℕ) : ℕ := leValue (leBytes count value).reverse

@[simp]
theorem length_leBytes (count value : ℕ) : (leBytes count value).length = count := by
  induction count generalizing value with
  | zero => rfl
  | succ count ih => simp [leBytes, ih]

theorem leValue_leBytes (count value : ℕ) : leValue (leBytes count value) = value % 256 ^ count := by
  induction count generalizing value with
  | zero => simp [leBytes, leValue, Nat.mod_one]
  | succ count ih =>
      have low : (UInt8.ofNat value).toNat = value % 256 := by simp
      rw [leBytes, leValue, ih, low, Nat.pow_succ, Nat.mul_comm (256 ^ count) 256, Nat.mod_mul]

theorem leBytes_leValue (bytes : List UInt8) : leBytes bytes.length (leValue bytes) = bytes := by
  induction bytes with
  | nil => rfl
  | cons byte rest ih =>
      have bound : byte.toNat < 256 := byte.toNat_lt
      have low : UInt8.ofNat (byte.toNat + 256 * leValue rest) = byte := by
        apply UInt8.toNat_inj.mp
        simp only [UInt8.toNat_ofNat']
        omega
      have high : (byte.toNat + 256 * leValue rest) / 256 = leValue rest := by omega
      rw [List.length_cons, leValue, leBytes, low, high, ih]

theorem leValue_lt (bytes : List UInt8) : leValue bytes < 256 ^ bytes.length := by
  have value := leValue_leBytes bytes.length (leValue bytes)
  rw [leBytes_leValue] at value
  rw [value]
  exact Nat.mod_lt _ (Nat.pow_pos (by decide))

/-- The swapped number has the reversed bytes. -/
theorem leBytes_byteSwap (count value : ℕ) :
    leBytes count (byteSwap count value) = (leBytes count value).reverse := by
  have bytes := leBytes_leValue (leBytes count value).reverse
  rwa [List.length_reverse, length_leBytes] at bytes

theorem byteSwap_lt (count value : ℕ) : byteSwap count value < 256 ^ count := by
  have bound := leValue_lt (leBytes count value).reverse
  rwa [List.length_reverse, length_leBytes] at bound

theorem byteSwap_byteSwap {count value : ℕ} (bound : value < 256 ^ count) :
    byteSwap count (byteSwap count value) = value := by
  rw [byteSwap, leBytes_byteSwap, List.reverse_reverse, leValue_leBytes, Nat.mod_eq_of_lt bound]

end SelectiveRepeat.Foundations
