import Mathlib.Algebra.Order.Field.Power
import Mathlib.Tactic.FieldSimp
import Mathlib.Tactic.Linarith
import Mathlib.Tactic.Positivity
import Mathlib.Tactic.Ring
import EntityStore.Number.Binary

/-! # Singles in doubles

A single survives being kept as a double:

* `Format.round_exact` — a quotient that a format can hold is held as it is.
* `Format.convert_convert` — a magnitude of single precision in double precision and back.
* `Binary32.narrow_widen` — the same for words with a sign.
-/

namespace EntityStore.Number

/-! ## Logarithms of quotients -/

/-- The power of two at or below a number is unique. -/
theorem binade_unique {x : ℚ} {a b : Int} (low : (2 : ℚ) ^ a ≤ x) (high : x < 2 ^ (a + 1))
    (low' : (2 : ℚ) ^ b ≤ x) (high' : x < 2 ^ (b + 1)) : a = b := by
  have first : a < b + 1 := (zpow_lt_zpow_iff_right₀ (by norm_num)).mp (lt_of_le_of_lt low high')
  have second : b < a + 1 := (zpow_lt_zpow_iff_right₀ (by norm_num)).mp (lt_of_le_of_lt low' high)
  omega

theorem log2_bounds {n : Nat} (positive : 0 < n) :
    (2 : ℚ) ^ (n.log2 : Int) ≤ n ∧ (n : ℚ) < 2 ^ ((n.log2 : Int) + 1) := by
  constructor
  · rw [zpow_natCast]
    exact_mod_cast Nat.log2_self_le positive.ne'
  · have above : n < 2 ^ (n.log2 + 1) := Nat.lt_log2_self
    have : ((n.log2 : Int) + 1) = ((n.log2 + 1 : Nat) : Int) := by push_cast; rfl
    rw [this, zpow_natCast]
    exact_mod_cast above

theorem log2Quotient_bounds {num den : Nat} (top : 0 < num) (bottom : 0 < den) :
    (2 : ℚ) ^ log2Quotient num den ≤ (num : ℚ) / den
      ∧ (num : ℚ) / den < 2 ^ (log2Quotient num den + 1) := by
  obtain ⟨numLow, numHigh⟩ := log2_bounds top
  obtain ⟨denLow, denHigh⟩ := log2_bounds bottom
  have den0 : (0 : ℚ) < den := by exact_mod_cast bottom
  -- The difference of the logarithms is right or one too large.
  let guess : Int := (num.log2 : Int) - den.log2
  have reached : (if 0 ≤ guess then den * Nat.pow 2 guess.toNat ≤ num
      else den ≤ num * Nat.pow 2 (-guess).toNat) ↔ (2 : ℚ) ^ guess ≤ (num : ℚ) / den := by
    rw [le_div_iff₀ den0]
    split
    · next positive =>
      obtain ⟨k, same⟩ := Int.eq_ofNat_of_zero_le positive
      rw [same, zpow_natCast, Int.toNat_natCast]
      rw [mul_comm]
      exact_mod_cast Iff.rfl
    · next negative =>
      obtain ⟨k, same⟩ := Int.eq_ofNat_of_zero_le (a := -guess) (by omega)
      have back : guess = -(k : Int) := by omega
      rw [same, back, zpow_neg, zpow_natCast, Int.toNat_natCast, inv_mul_le_iff₀ (by positivity),
        mul_comm]
      exact_mod_cast Iff.rfl
  have above : (num : ℚ) / den < 2 ^ (guess + 1) := by
    rw [div_lt_iff₀ den0]
    have shift : (2 : ℚ) ^ (guess + 1) * 2 ^ (den.log2 : Int) = 2 ^ ((num.log2 : Int) + 1) := by
      rw [← zpow_add₀ (by norm_num)]
      congr 1
      omega
    calc (num : ℚ) < 2 ^ ((num.log2 : Int) + 1) := numHigh
      _ = 2 ^ (guess + 1) * 2 ^ (den.log2 : Int) := shift.symm
      _ ≤ 2 ^ (guess + 1) * den := by gcongr
  have below : (2 : ℚ) ^ (guess - 1) ≤ (num : ℚ) / den := by
    rw [le_div_iff₀ den0]
    have shift : (2 : ℚ) ^ (guess - 1) * 2 ^ ((den.log2 : Int) + 1) = 2 ^ (num.log2 : Int) := by
      rw [← zpow_add₀ (by norm_num)]
      congr 1
      omega
    calc (2 : ℚ) ^ (guess - 1) * den ≤ 2 ^ (guess - 1) * 2 ^ ((den.log2 : Int) + 1) := by gcongr
      _ = 2 ^ (num.log2 : Int) := shift
      _ ≤ num := numLow
  have unfolded : log2Quotient num den = if (2 : ℚ) ^ guess ≤ (num : ℚ) / den then guess else guess - 1 := by
    exact if_congr reached rfl rfl
  rw [unfolded]
  split
  · next here => exact ⟨here, above⟩
  · next past => exact ⟨below, by rw [sub_add_cancel]; exact not_le.mp past⟩

/-! ## Exact quotients -/

namespace Format

variable {f : Format}

/-- A significand that a format can hold with an exponent, as it holds it. -/
structure Holds (f : Format) (m : Nat) (e : Int) : Prop where
  positive : 0 < m
  small : m < 2 ^ f.precision
  least : f.leastExponent ≤ e
  normal : 2 ^ (f.precision - 1) ≤ m ∨ e = f.leastExponent

def word (f : Format) (m : Nat) (e : Int) : Nat :=
  min ((e - f.leastExponent).toNat * Nat.pow 2 (f.precision - 1) + m) f.infinity

theorem roundQuotient_mul (m : Nat) {d : Nat} (positive : 0 < d) : roundQuotient (m * d) d = m := by
  simp [roundQuotient, Nat.mul_div_cancel m positive, positive]

theorem scaledQuotient_exact {num den m : Nat} {e : Int} (bottom : 0 < den)
    (value : (num : ℚ) / den = m * 2 ^ e) : scaledQuotient num den e = m := by
  have den0 : (den : ℚ) ≠ 0 := by exact_mod_cast bottom.ne'
  rw [div_eq_iff den0] at value
  rw [scaledQuotient]
  -- Either the quotient is scaled down by a power of two or its numerator is scaled up.
  split
  · next positive =>
    obtain ⟨k, rfl⟩ := Int.eq_ofNat_of_zero_le positive
    have same : num = m * (den * Nat.pow 2 k) := by
      have exact : (num : ℚ) = m * (den * 2 ^ k) := by
        rw [value, zpow_natCast]
        ring
      exact_mod_cast exact
    rw [Int.toNat_natCast, same]
    exact roundQuotient_mul m (Nat.mul_pos bottom (Nat.pow_pos (by omega)))
  · next negative =>
    obtain ⟨k, opposite⟩ := Int.eq_ofNat_of_zero_le (a := -e) (by omega)
    have back : e = -(k : Int) := by omega
    have same : num * Nat.pow 2 k = m * den := by
      have exact : (num : ℚ) * 2 ^ k = m * den := by
        rw [value, back, zpow_neg, zpow_natCast]
        field_simp
      exact_mod_cast exact
    rw [opposite, Int.toNat_natCast, same, roundQuotient_mul _ bottom]

/-- A quotient that a format can hold is held as it is. -/
theorem round_exact {num den m : Nat} {e : Int} (digits : 0 < f.precision) (bottom : 0 < den)
    (holds : f.Holds m e) (value : (num : ℚ) / den = m * 2 ^ e) : f.round num den = f.word m e := by
  have den0 : (0 : ℚ) < den := by exact_mod_cast bottom
  have m0 : (0 : ℚ) < m := by exact_mod_cast holds.positive
  have top : 0 < num := by
    rcases Nat.eq_zero_or_pos num with none | some
    · rw [none, Nat.cast_zero, zero_div] at value
      have : (0 : ℚ) < m * 2 ^ e := by positivity
      linarith
    · exact some
  obtain ⟨low, high⟩ := log2Quotient_bounds top bottom
  obtain ⟨mLow, mHigh⟩ := log2_bounds holds.positive
  -- Both are the binade of the one quotient.
  have logarithm : log2Quotient num den = m.log2 + e := by
    refine binade_unique low high ?_ ?_
    · rw [value, zpow_add₀ (by norm_num)]
      gcongr
    · rw [value, show (m.log2 : Int) + e + 1 = (m.log2 + 1) + e by omega, zpow_add₀ (by norm_num)]
      gcongr
  have logSmall : m.log2 < f.precision := (Nat.log2_lt holds.positive.ne').mpr holds.small
  have exponent : max f.leastExponent (log2Quotient num den - (f.precision - 1)) = e := by
    have least := holds.least
    rcases holds.normal with normal | subnormal
    · have logLarge : f.precision - 1 ≤ m.log2 := (Nat.le_log2 holds.positive.ne').mpr normal
      omega
    · omega
  rw [round, if_neg top.ne', exponent]
  dsimp only
  rw [scaledQuotient_exact bottom value]
  rfl

/-- So is a number in whatever form it comes. -/
theorem ofDyadic_exact {m m' : Nat} {e e' : Int} (digits : 0 < f.precision) (holds : f.Holds m e)
    (value : (m' : ℚ) * 2 ^ e' = m * 2 ^ e) : f.ofDyadic m' e' = f.word m e := by
  rw [ofDyadic]
  split
  · next positive =>
    obtain ⟨k, rfl⟩ := Int.eq_ofNat_of_zero_le positive
    refine round_exact digits Nat.one_pos holds ?_
    rw [← value, Int.toNat_natCast, zpow_natCast]
    push_cast
    simp
  · next negative =>
    obtain ⟨k, opposite⟩ := Int.eq_ofNat_of_zero_le (a := -e') (by omega)
    have back : e' = -(k : Int) := by omega
    rw [opposite, Int.toNat_natCast]
    refine round_exact digits (Nat.pow_pos (by omega)) holds ?_
    rw [← value, back, zpow_neg, zpow_natCast, div_eq_mul_inv, Nat.pow_eq, Nat.cast_pow, Nat.cast_ofNat]

/-! ## Words and their parts -/

theorem pow_precision (digits : 0 < f.precision) :
    2 ^ f.precision = 2 * 2 ^ (f.precision - 1) := by
  rw [← pow_succ', Nat.sub_add_cancel digits]

/-- What a magnitude stands for is held by it. -/
theorem holds_dyadic (digits : 0 < f.precision) {k : Nat} (positive : 0 < k) :
    f.Holds (f.dyadic k).1 (f.dyadic k).2 := by
  have unit : 0 < 2 ^ (f.precision - 1) := Nat.pow_pos (by omega)
  have double := pow_precision digits
  have fraction : k % 2 ^ (f.precision - 1) < 2 ^ (f.precision - 1) := Nat.mod_lt _ unit
  have parts := Nat.div_add_mod k (2 ^ (f.precision - 1))
  simp only [dyadic, Nat.pow_eq]
  split
  · next subnormal =>
    rw [subnormal, Nat.mul_zero, Nat.zero_add] at parts
    exact ⟨by omega, by dsimp only; omega, le_refl _, .inr rfl⟩
  · next normal => exact ⟨by dsimp only; omega, by dsimp only; omega, by dsimp only; omega,
      .inl (by dsimp only; omega)⟩

theorem word_dyadic {k : Nat} (finite : k < f.infinity) :
    f.word (f.dyadic k).1 (f.dyadic k).2 = k := by
  have parts := Nat.div_add_mod k (2 ^ (f.precision - 1))
  simp only [dyadic, word, Nat.pow_eq]
  split
  · next subnormal =>
    rw [subnormal, Nat.mul_zero, Nat.zero_add] at parts
    simp only [sub_self, Int.toNat_zero, Nat.zero_mul, Nat.zero_add, parts]
    exact Nat.min_eq_left finite.le
  · next normal =>
    obtain ⟨field, same⟩ := Nat.exists_eq_succ_of_ne_zero normal
    rw [same, Nat.succ_eq_add_one, Nat.mul_add, Nat.mul_one] at parts
    rw [same, add_sub_cancel_left, Nat.succ_sub_one, Int.toNat_natCast, Nat.mul_comm, ← Nat.add_assoc, parts]
    exact Nat.min_eq_left finite.le

theorem dyadic_word (digits : 0 < f.precision) {m : Nat} {e : Int} (holds : f.Holds m e)
    (finite : f.word m e < f.infinity) :
    f.dyadic (f.word m e) = (m, e) := by
  have double := pow_precision digits
  have unit : 0 < 2 ^ (f.precision - 1) := Nat.pow_pos (by omega)
  have least := holds.least
  have small := holds.small
  have same : f.word m e = (e - f.leastExponent).toNat * 2 ^ (f.precision - 1) + m := by
    rw [word, Nat.pow_eq] at finite ⊢
    omega
  rw [same]
  simp only [dyadic, Nat.pow_eq]
  -- The leading digit of a normal significand carries into the field of the exponent.
  by_cases subnormal : m < 2 ^ (f.precision - 1)
  · have exponent : e = f.leastExponent := by
      rcases holds.normal with normal | exponent
      · omega
      · exact exponent
    rw [exponent, sub_self, Int.toNat_zero, Nat.zero_mul, Nat.zero_add, Nat.div_eq_of_lt subnormal,
      if_pos rfl, Nat.mod_eq_of_lt subnormal]
  · obtain ⟨fraction, rest⟩ := Nat.exists_eq_add_of_le (not_lt.mp subnormal)
    have word : (e - f.leastExponent).toNat * 2 ^ (f.precision - 1) + m =
        fraction + ((e - f.leastExponent).toNat + 1) * 2 ^ (f.precision - 1) := by
      rw [rest]
      ring
    have bound : fraction < 2 ^ (f.precision - 1) := by omega
    rw [word, Nat.add_mul_div_right _ _ unit, Nat.div_eq_of_lt bound, Nat.zero_add,
      if_neg (Nat.succ_ne_zero _), Nat.add_mul_mod_self_right, Nat.mod_eq_of_lt bound, ← rest,
      Nat.add_sub_cancel, Int.toNat_of_nonneg (by omega)]
    congr 1
    omega

end Format

/-! ## There and back -/

theorem holds_double {m : Nat} {e : Int} (single : binary32.Holds m e) (finite : e ≤ 104) :
    ∃ q d, binary64.Holds q d ∧ (m : ℚ) * 2 ^ e = q * 2 ^ d ∧ binary64.word q d < binary64.infinity := by
  have logarithm : m.log2 < 24 := (Nat.log2_lt single.positive.ne').mpr single.small
  have least : (-149 : Int) ≤ e := single.least
  have low := Nat.log2_self_le single.positive.ne'
  have high : m < 2 ^ (m.log2 + 1) := Nat.lt_log2_self
  -- Zeros are appended until there are as many digits as double precision has.
  let digits := 52 - m.log2
  have normal : 2 ^ 52 ≤ m * 2 ^ digits := by
    calc 2 ^ 52 = 2 ^ m.log2 * 2 ^ digits := by rw [← pow_add]; congr 1; omega
      _ ≤ m * 2 ^ digits := Nat.mul_le_mul_right _ low
  have small : m * 2 ^ digits < 2 ^ 53 := by
    calc m * 2 ^ digits < 2 ^ (m.log2 + 1) * 2 ^ digits :=
        Nat.mul_lt_mul_of_pos_right high (Nat.pow_pos (by omega))
      _ = 2 ^ 53 := by rw [← pow_add]; congr 1; omega
  refine ⟨m * 2 ^ digits, e - digits, ⟨by omega, small, ?_, .inl normal⟩, ?_, ?_⟩
  · change (-1074 : Int) ≤ e - digits
    omega
  · rw [zpow_sub₀ (by norm_num), zpow_natCast]
    push_cast
    field_simp
  · have exponent : (e - digits - binary64.leastExponent).toNat ≤ 1178 := by
      change (e - digits - (-1074 : Int)).toNat ≤ 1178
      omega
    refine lt_of_le_of_lt (Nat.min_le_left _ _) ?_
    change (e - digits - binary64.leastExponent).toNat * 2 ^ 52 + m * 2 ^ digits < 2047 * 2 ^ 52
    have := Nat.mul_le_mul_right (2 ^ 52) exponent
    omega

/-- A magnitude of single precision is the same after it has been one of double precision. -/
theorem convert_convert {k : Nat} (range : k ≤ binary32.infinity) :
    binary64.convert binary32 (binary32.convert binary64 k) = k := by
  rcases range.lt_or_eq with finite | infinite
  · rcases Nat.eq_zero_or_pos k with none | positive
    · subst none
      decide
    · have single := Format.holds_dyadic (f := binary32) (by decide) positive
      have back := Format.word_dyadic finite
      rcases parts : binary32.dyadic k with ⟨m, e⟩
      rw [parts] at single back
      dsimp only at single back
      -- A finite single has an exponent that a double has room for.
      have bound : e ≤ 104 := by
        have least : (-149 : Int) ≤ e := single.least
        have word : (e - (-149)).toNat * 2 ^ 23 + m < 255 * 2 ^ 23 := by
          rw [Format.word] at back
          have inside : min ((e - (-149)).toNat * 2 ^ 23 + m) (255 * 2 ^ 23) = k := back
          have limit : k < 255 * 2 ^ 23 := finite
          omega
        have normal : 2 ^ 23 ≤ m ∨ e = -149 := single.normal
        omega
      obtain ⟨q, d, double, value, inside⟩ := holds_double single bound
      have widened : binary32.convert binary64 k = binary64.word q d := by
        rw [Format.convert, if_neg (not_le.mpr finite), parts]
        exact Format.ofDyadic_exact (by decide) double value
      -- The double holds the same number, so that rounding it back changes nothing.
      rw [widened, Format.convert, if_neg (not_le.mpr inside),
        Format.dyadic_word (by decide) double inside]
      rw [Format.ofDyadic_exact (by decide) single value.symm, back]
  · subst infinite
    decide

/-! ## Words -/

namespace Binary32

theorem ofParts_self (x : Binary32) : ofParts x.negative x.magnitude = x := by
  obtain ⟨bits⟩ := x
  have range := bits.toNat_lt
  have weight : binary32.signWeight = 2 ^ 31 := by decide
  have same : (if binary32.signWeight ≤ bits.toNat
      then binary32.signWeight + bits.toNat % binary32.signWeight
      else bits.toNat % binary32.signWeight) = bits.toNat := by
    rw [weight]
    split <;> omega
  simp only [ofParts, negative, magnitude, decide_eq_true_eq, same, UInt32.ofNat_toNat]

end Binary32

namespace Binary64

variable {sign : Bool} {k : Nat} (range : k < binary64.signWeight)
include range

theorem toNat_ofParts : (ofParts sign k).bits.toNat =
    if sign then binary64.signWeight + k else k := by
  have weight : binary64.signWeight = 2 ^ 63 := by decide
  rw [weight] at range ⊢
  cases sign
  · simp only [ofParts, Bool.false_eq_true, ↓reduceIte]
    rw [UInt64.toNat_ofNat']
    exact Nat.mod_eq_of_lt (by omega)
  · simp only [ofParts, ↓reduceIte, weight]
    rw [UInt64.toNat_ofNat']
    exact Nat.mod_eq_of_lt (by omega)

@[simp] theorem negative_ofParts : (ofParts sign k).negative = sign := by
  rw [negative, toNat_ofParts range]
  cases sign <;> simp [range]

@[simp] theorem magnitude_ofParts : (ofParts sign k).magnitude = k := by
  rw [magnitude, toNat_ofParts range]
  cases sign <;> simp [Nat.mod_eq_of_lt range]

end Binary64

theorem Format.round_le (f : Format) (num den : Nat) : f.round num den ≤ f.infinity := by
  rw [round]
  split
  · exact Nat.zero_le _
  · exact Nat.min_le_right _ _

theorem Format.convert_le (f target : Format) (k : Nat) : f.convert target k ≤ target.infinity := by
  rw [convert]
  split
  · exact le_refl _
  · rw [ofDyadic]
    split <;> exact round_le ..

namespace Binary32

variable {x : Binary32} (number : x.isNaN = false)
include number

theorem magnitude_le : x.magnitude ≤ binary32.infinity := by
  simpa [isNaN] using number

theorem magnitude_widen : x.widen.magnitude = binary32.convert binary64 x.magnitude := by
  have range : binary32.convert binary64 x.magnitude < binary64.signWeight :=
    lt_of_le_of_lt (binary32.convert_le binary64 _) (by decide)
  rw [widen, number, if_neg (by simp), Binary64.magnitude_ofParts range]

theorem isNaN_widen : x.widen.isNaN = false := by
  rw [Binary64.isNaN, magnitude_widen number, decide_eq_false_iff_not, not_lt]
  exact binary32.convert_le binary64 _

/-- A single is the same after it has been a double. -/
theorem narrow_widen : x.widen.narrow = x := by
  have range : binary32.convert binary64 x.magnitude < binary64.signWeight :=
    lt_of_le_of_lt (binary32.convert_le binary64 _) (by decide)
  have negative : x.widen.negative = x.negative := by
    rw [widen, number, if_neg (by simp), Binary64.negative_ofParts range]
  rw [Binary64.narrow, isNaN_widen number, if_neg (by simp), negative, magnitude_widen number,
    convert_convert (magnitude_le number), ofParts_self]

omit number in
def unsignZero (x : Binary32) : Binary32 := if x.magnitude = 0 then zero else x

theorem narrow_unsignZero_widen : x.widen.unsignZero.narrow = x.unsignZero := by
  have zero_iff : x.widen.magnitude = 0 ↔ x.magnitude = 0 := by
    rw [magnitude_widen number]
    constructor
    · intro none
      rw [← convert_convert (magnitude_le number), none]
      decide
    · intro none
      rw [none]
      decide
  rw [Binary64.unsignZero, unsignZero]
  by_cases none : x.magnitude = 0
  · rw [if_pos (zero_iff.mpr none), if_pos none]
    decide
  · rw [if_neg (mt zero_iff.mp none), if_neg none, narrow_widen number]

end Binary32

end EntityStore.Number
