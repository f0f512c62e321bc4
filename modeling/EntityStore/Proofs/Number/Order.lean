import Mathlib.Algebra.Field.Rat
import Mathlib.Algebra.GroupWithZero.Basic
import Mathlib.Tactic.NormNum
import EntityStore.Number.Arithmetic

/-! # The order of dyadic numbers

* `compareDyadic_eq` — two dyadic numbers are equal to the engine if they stand for one number.
* `Binary64.truncate_of_compareInt` — the integer part of a double that is an integer.
-/

namespace EntityStore.Number

/-- The number that `m * 2 ^ e` stands for. -/
def dyadicValue (a : Int × Int) : ℚ := a.1 * 2 ^ a.2

theorem dyadicValue_shift (a : Int × Int) {e : Int} (low : e ≤ a.2) :
    dyadicValue a = (a.1 * Nat.pow 2 (a.2 - e).toNat : Int) * 2 ^ e := by
  have split : a.2 = ((a.2 - e).toNat : Int) + e := by omega
  have power : (2 : ℚ) ^ a.2 = 2 ^ (a.2 - e).toNat * 2 ^ e := by
    conv => lhs; rw [split]
    rw [zpow_add₀ (by norm_num), zpow_natCast]
  have scale : ((a.1 * Nat.pow 2 (a.2 - e).toNat : Int) : ℚ) = a.1 * 2 ^ (a.2 - e).toNat := by
    rw [show Nat.pow 2 (a.2 - e).toNat = 2 ^ (a.2 - e).toNat from rfl]
    push_cast
    rfl
  rw [dyadicValue, power, ← mul_assoc, scale]

/-- The order does not depend on how a number is written. -/
theorem compareDyadic_eq (a b : Int × Int) :
    compareDyadic a b = .eq ↔ dyadicValue a = dyadicValue b := by
  have positive : (2 : ℚ) ^ min a.2 b.2 ≠ 0 := zpow_ne_zero _ (by norm_num)
  rw [compareDyadic, Int.compare_eq_eq, dyadicValue_shift a (min_le_left _ _),
    dyadicValue_shift b (min_le_right _ _), mul_left_inj' positive, Int.cast_inj]

theorem dyadicValue_int (n : Int) : dyadicValue (n, 0) = n := by
  simp [dyadicValue]

namespace Binary64

theorem compareReal_of_compareInt {n : Int} {x y : Binary64} (first : compareInt n x = .eq)
    (second : compareInt n y = .eq) : compareReal x y = .eq := by
  rw [compareInt, compareDyadic_eq] at first second
  rw [compareReal, compareDyadic_eq, ← first, second]

theorem compareInt_of_compareReal {n : Int} {x y : Binary64} (first : compareInt n x = .eq)
    (same : compareReal x y = .eq) : compareInt n y = .eq := by
  rw [compareInt, compareDyadic_eq] at first
  rw [compareReal, compareDyadic_eq] at same
  rw [compareInt, compareDyadic_eq, first, same]

/-- No double equals two integers. -/
theorem compareInt_unique {m n : Int} {x : Binary64} (first : compareInt m x = .eq)
    (second : compareInt n x = .eq) : m = n := by
  rw [compareInt, compareDyadic_eq, dyadicValue_int] at first second
  exact_mod_cast first.trans second.symm

theorem integerPart_of_compareInt {n : Int} {x : Binary64} (same : compareInt n x = .eq) :
    x.integerPart = n := by
  rw [compareInt, compareDyadic_eq, dyadicValue_int] at same
  rw [integerPart]
  revert same
  rcases x.dyadic with ⟨m, e⟩
  intro same
  by_cases low : 0 ≤ e
  · rw [dyadicValue_shift (m, e) low] at same
    simp only [sub_zero, zpow_zero, mul_one, Int.cast_inj] at same
    simp only [low, ↓reduceIte]
    exact same.symm
  · -- The significand is the integer in units of a power of two that is less than one.
    have below : e ≤ ((n, 0) : Int × Int).2 := by simp only; omega
    have positive : (2 : ℚ) ^ e ≠ 0 := zpow_ne_zero _ (by norm_num)
    rw [← dyadicValue_int, dyadicValue_shift (n, 0) below, dyadicValue, mul_left_inj' positive,
      Int.cast_inj] at same
    simp only [low, ↓reduceIte]
    simp only [zero_sub] at same
    rw [← same]
    exact Int.mul_tdiv_cancel _ (by simp)

theorem truncate_of_compareInt {n : Int64} {x : Binary64} (number : x.isNaN = false)
    (same : compareInt n.toInt x = .eq) : x.truncate = n := by
  have low := Int64.le_toInt n
  have high := Int64.toInt_lt n
  have least : Int64.minValue.toInt = -2 ^ 63 := by decide
  have greatest : Int64.maxValue.toInt = 2 ^ 63 - 1 := by decide
  have kept : max Int64.minValue.toInt (min Int64.maxValue.toInt n.toInt) = n.toInt := by omega
  rw [truncate, number, integerPart_of_compareInt same, clamp64, kept]
  exact Int64.ofInt_toInt n

end Binary64

end EntityStore.Number
