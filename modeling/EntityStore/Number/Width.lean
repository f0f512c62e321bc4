/-! # Widths of integers

Integers in words of a number of bits, one of them for the sign:

* `Fits` — whether an integer fits in a word.
* `int64?`, `clamp64` — an integer as a word of 64 bits, if it fits or by the nearest that does.
-/

namespace EntityStore.Number

/-- How many words of a width are not negative. -/
def halfRange (bits : Nat) : Int := (Nat.pow 2 (bits - 1) : Nat)

/-- An integer fits in a word of so many bits. -/
def Fits (bits : Nat) (n : Int) : Prop := -halfRange bits ≤ n ∧ n < halfRange bits

instance (bits : Nat) (n : Int) : Decidable (Fits bits n) :=
  inferInstanceAs (Decidable (-halfRange bits ≤ n ∧ n < halfRange bits))

/-- An integer within 64 bits. -/
def int64? (n : Int) : Option Int64 := if Fits 64 n then some (Int64.ofInt n) else none

/-- The nearest 64-bit integer. -/
def clamp64 (n : Int) : Int64 :=
  Int64.ofInt (max Int64.minValue.toInt (min Int64.maxValue.toInt n))

/-- A word is read back from its integer. -/
@[simp] theorem int64?_toInt (n : Int64) : int64? n.toInt = some n := by
  have low := Int64.le_toInt n
  have high := Int64.toInt_lt n
  have fits : Fits 64 n.toInt := ⟨low, high⟩
  simp [int64?, fits]

end EntityStore.Number
