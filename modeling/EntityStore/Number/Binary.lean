import EntityStore.Number.Width

/-! # Binary floating point by its bits

Floating-point words as exact dyadic numbers, in integer arithmetic only:

* `Format` — a binary interchange format; `binary64`, `binary32`.
* `Format.round` — the magnitude nearest to a quotient, ties to the even significand.
* `Format.dyadic` — the significand and exponent of a magnitude.
* `Binary64`, `Binary32` — words of the two formats; `widen`, `narrow`, `ofInt`, `truncate`.

An infinite magnitude reads as the power of two after the largest finite one, which is where it
belongs in the order and what a widening or narrowing conversion makes infinite again.
-/

namespace EntityStore.Number

/-- A binary interchange format: significand digits with the leading one, and exponent digits. -/
structure Format where
  precision : Nat
  exponentBits : Nat

def binary64 : Format := ⟨53, 11⟩

def binary32 : Format := ⟨24, 8⟩

namespace Format

variable (f : Format)

/-- Exponent of the last place of the smallest normal magnitudes and of all subnormal ones. -/
def leastExponent : Int := 3 - Nat.pow 2 (f.exponentBits - 1) - f.precision

/-- The magnitude word of infinity; greater magnitude words are not numbers. -/
def infinity : Nat := (Nat.pow 2 f.exponentBits - 1) * Nat.pow 2 (f.precision - 1)

def signWeight : Nat := Nat.pow 2 (f.precision - 1 + f.exponentBits)

end Format

/-- The quotient `num / den` to the nearest integer, a half to the even neighbour. -/
def roundQuotient (num den : Nat) : Nat :=
  let q := num / den
  let r := num % den
  if 2 * r < den then q
  else if 2 * r = den then q + q % 2
  else q + 1

/-- The integer part of the binary logarithm of the positive quotient `num / den`. -/
def log2Quotient (num den : Nat) : Int :=
  let guess : Int := (num.log2 : Int) - den.log2
  let reached :=
    if 0 ≤ guess then den * Nat.pow 2 guess.toNat ≤ num
    else den ≤ num * Nat.pow 2 (-guess).toNat
  if reached then guess else guess - 1

/-- `num / den` in units of `2 ^ e`, to the nearest integer. -/
def scaledQuotient (num den : Nat) (e : Int) : Nat :=
  if 0 ≤ e then roundQuotient num (den * Nat.pow 2 e.toNat)
  else roundQuotient (num * Nat.pow 2 (-e).toNat) den

namespace Format

variable (f : Format)

/-- The magnitude word nearest to the quotient `num / den`, infinity past the range. -/
def round (num den : Nat) : Nat :=
  if num = 0 then 0
  else
    let e := max f.leastExponent (log2Quotient num den - (f.precision - 1))
    let q := scaledQuotient num den e
    -- A significand rounded up to the next power of two carries into the exponent field by itself.
    min ((e - f.leastExponent).toNat * Nat.pow 2 (f.precision - 1) + q) f.infinity

/-- Significand and exponent of a magnitude word: it stands for `m * 2 ^ e`. -/
def dyadic (magnitude : Nat) : Nat × Int :=
  let field := magnitude / Nat.pow 2 (f.precision - 1)
  let fraction := magnitude % Nat.pow 2 (f.precision - 1)
  if field = 0 then (fraction, f.leastExponent)
  else (Nat.pow 2 (f.precision - 1) + fraction, f.leastExponent + (field - 1 : Nat))

/-- The magnitude word nearest to `m * 2 ^ e`. -/
def ofDyadic (m : Nat) (e : Int) : Nat :=
  if 0 ≤ e then f.round (m * Nat.pow 2 e.toNat) 1
  else f.round m (Nat.pow 2 (-e).toNat)

/-- The magnitude word of another format's magnitude word. -/
def convert (target : Format) (magnitude : Nat) : Nat :=
  if f.infinity ≤ magnitude then target.infinity
  else target.ofDyadic (f.dyadic magnitude).1 (f.dyadic magnitude).2

end Format

/-- A double-precision word. -/
structure Binary64 where
  bits : UInt64
  deriving DecidableEq, Inhabited

/-- A single-precision word. -/
structure Binary32 where
  bits : UInt32
  deriving DecidableEq, Inhabited

namespace Binary64

def negative (x : Binary64) : Bool := binary64.signWeight ≤ x.bits.toNat

def magnitude (x : Binary64) : Nat := x.bits.toNat % binary64.signWeight

def isNaN (x : Binary64) : Bool := binary64.infinity < x.magnitude

def ofParts (negative : Bool) (magnitude : Nat) : Binary64 :=
  ⟨UInt64.ofNat (if negative then binary64.signWeight + magnitude else magnitude)⟩

def nan : Binary64 := ofParts false (binary64.infinity + Nat.pow 2 51)

def zero : Binary64 := ⟨0⟩

/-- Significand with its sign, and exponent: the word stands for `m * 2 ^ e`. -/
def dyadic (x : Binary64) : Int × Int :=
  let (m, e) := binary64.dyadic x.magnitude
  (if x.negative then -m else m, e)

/-- The double nearest to an integer. -/
def ofInt (n : Int) : Binary64 := ofParts (n < 0) (binary64.round n.natAbs 1)

/-- The integer part, toward zero. -/
def integerPart (x : Binary64) : Int :=
  let (m, e) := x.dyadic
  if 0 ≤ e then m * Nat.pow 2 e.toNat else m.tdiv (Nat.pow 2 (-e).toNat)

/-- The integer part as a 64-bit integer: clamped to its range, and zero for what is no
    number. -/
def truncate (x : Binary64) : Int64 :=
  if x.isNaN then 0 else clamp64 x.integerPart

def isInfinite (x : Binary64) : Bool := x.magnitude = binary64.infinity

def unsignZero (x : Binary64) : Binary64 := if x.magnitude = 0 then zero else x

end Binary64

namespace Binary32

def negative (x : Binary32) : Bool := binary32.signWeight ≤ x.bits.toNat

def magnitude (x : Binary32) : Nat := x.bits.toNat % binary32.signWeight

def isNaN (x : Binary32) : Bool := binary32.infinity < x.magnitude

def ofParts (negative : Bool) (magnitude : Nat) : Binary32 :=
  ⟨UInt32.ofNat (if negative then binary32.signWeight + magnitude else magnitude)⟩

def nan : Binary32 := ofParts false (binary32.infinity + Nat.pow 2 22)

def zero : Binary32 := ⟨0⟩

/-- The double of the same value. -/
def widen (x : Binary32) : Binary64 :=
  if x.isNaN then .nan else .ofParts x.negative (binary32.convert binary64 x.magnitude)

end Binary32

/-- The nearest single. -/
def Binary64.narrow (x : Binary64) : Binary32 :=
  if x.isNaN then .nan else .ofParts x.negative (binary64.convert binary32 x.magnitude)

def compareDyadic (a b : Int × Int) : Ordering :=
  let e := min a.2 b.2
  compare (a.1 * Nat.pow 2 (a.2 - e).toNat) (b.1 * Nat.pow 2 (b.2 - e).toNat)

end EntityStore.Number
