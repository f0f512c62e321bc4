import Mathlib.Algebra.Order.Ring.Rat
import EntityStore.Engine.Table
import EntityStore.Proofs.Number.Order

/-! # The order of values

Values, and lists of them, stand in an order in which different ones may be equal:

* `Number.compareDyadic_eq_compare` — numbers stand in the order of the rational numbers.
* `Datum.compare_eq` — values stand in the order of their classes, numbers and bytes.
* `Engine.compareRows_eq` — lists of values stand in the order of the first difference.
-/

namespace EntityStore

/-- Numbers stand in the order of the rational numbers. -/
theorem Number.compareDyadic_eq_compare (a b : Int × Int) :
    compareDyadic a b = compare (dyadicValue a) (dyadicValue b) := by
  have positive : (0 : ℚ) < 2 ^ min a.2 b.2 := zpow_pos (by norm_num) _
  rw [compareDyadic, dyadicValue_shift a (min_le_left _ _), dyadicValue_shift b (min_le_right _ _)]
  set m := a.1 * Nat.pow 2 (a.2 - min a.2 b.2).toNat
  set n := b.1 * Nat.pow 2 (b.2 - min a.2 b.2).toNat
  rcases Int.lt_trichotomy m n with less | same | greater
  · rw [Int.compare_eq_lt.mpr less, eq_comm, compare_lt_iff_lt]
    exact mul_lt_mul_of_pos_right (Int.cast_lt.mpr less) positive
  · rw [same, Int.compare_eq_eq.mpr rfl, eq_comm, Std.compare_eq_iff_eq]
  · rw [Int.compare_eq_gt.mpr greater, eq_comm, compare_gt_iff_gt]
    exact mul_lt_mul_of_pos_right (Int.cast_lt.mpr greater) positive

namespace Sql.Datum

open Number (Binary64 dyadicValue compareDyadic_eq_compare dyadicValue_int)

theorem compareBytes_eq (as bs : List UInt8) : compareBytes as bs = Ord.compare as bs := by
  induction as generalizing bs with
  | nil => cases bs <;> rfl
  | cons a as ih =>
    cases bs with
    | nil => rfl
    | cons b bs =>
      rw [compareBytes, List.compare_cons_cons, ih]
      have order : Ord.compare a b = if a < b then .lt else if a = b then .eq else .gt := rfl
      rw [order]
      by_cases less : a < b
      · rw [if_pos less, if_pos less]
        rfl
      · by_cases greater : b < a
        · rw [if_neg less, if_pos greater, if_neg less, if_neg fun same : a = b => less (same ▸ greater)]
          rfl
        · have same : a = b := UInt8.le_antisymm (UInt8.not_lt.mp greater) (UInt8.not_lt.mp less)
          rw [if_neg less, if_neg greater, if_neg less, if_pos same]
          rfl

def number : Datum → ℚ
  | integer n => n.toInt
  | real x => dyadicValue x.dyadic
  | _ => 0

def octets : Datum → List UInt8
  | text b | blob b => b.toList
  | _ => []

theorem compare_integers (m n : Int) : Ord.compare m n = Ord.compare (m : ℚ) (n : ℚ) := by
  have same := compareDyadic_eq_compare (m, 0) (n, 0)
  rw [dyadicValue_int, dyadicValue_int] at same
  rw [← same]
  simp [Number.compareDyadic]

/-- Values stand in the order of their classes, those of one class in that of their numbers or bytes. -/
theorem compare_eq :
    compare = compareLex (compareOn rank) (compareLex (compareOn number) (compareOn octets)) := by
  funext a b
  have numbers (q p : ℚ) : (Ord.compare q p).then .eq = Ord.compare q p := Ordering.then_eq
  -- Values of different classes are told apart by that already.
  cases a <;> cases b
  case integer.integer m n =>
    exact (compare_integers _ _).trans (numbers _ _).symm
  case integer.real m y =>
    refine Eq.trans ?_ (numbers (m.toInt : ℚ) (dyadicValue y.dyadic)).symm
    rw [compare, Binary64.compareInt, compareDyadic_eq_compare, dyadicValue_int]
  case real.integer x n =>
    refine Eq.trans ?_ (numbers (dyadicValue x.dyadic) (n.toInt : ℚ)).symm
    rw [compare, Binary64.compareInt, compareDyadic_eq_compare, dyadicValue_int, ← Std.OrientedCmp.eq_swap]
  case real.real x y =>
    refine Eq.trans ?_ (numbers (dyadicValue x.dyadic) (dyadicValue y.dyadic)).symm
    rw [compare, Binary64.compareReal, compareDyadic_eq_compare]
  case text.text s t => exact compareBytes_eq _ _
  case blob.blob s t => exact compareBytes_eq _ _
  all_goals rfl

instance : Std.TransCmp compare := by
  rw [compare_eq]
  infer_instance

end Sql.Datum

namespace Engine

open Sql (Datum)

/-- Lists of values stand in the order of the first difference. -/
theorem compareRows_eq : compareRows = List.compareLex Datum.compare := by
  funext as bs
  induction as generalizing bs with
  | nil => cases bs <;> rfl
  | cons a as ih =>
    cases bs with
    | nil => rfl
    | cons b bs =>
      rw [compareRows, List.compareLex_cons_cons, ih]
      cases a.compare b <;> rfl

instance : Std.TransCmp compareRows := by
  rw [compareRows_eq]
  infer_instance

end Engine

end EntityStore
