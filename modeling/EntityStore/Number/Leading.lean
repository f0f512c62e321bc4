import EntityStore.Number.Arithmetic

/-! # Numbers at the start of a text

Lenient reading, for columns and operands that expect numbers:

* `leadingInteger` — the decimal integer that a text starts with.
* `leadingReal` — the decimal number that a text starts with.
* `Binary64.short` — a double in at most fifteen significant digits.

A decimal number is scaled by a power of ten in a format with 64 significant digits, and only then
rounded to a double.
-/

namespace EntityStore.Number

/-- Whether a character is a blank that numbers may stand between. -/
def isGap (c : Char) : Bool := c = ' ' ∨ ('\t' ≤ c ∧ c ≤ '\r')

/-- What stands at the start of a text. -/
inductive Extent where
  /-- No number. -/
  | none
  /-- A number, and something else after it. -/
  | part
  /-- A number, and at most blanks after it. -/
  | whole
  deriving DecidableEq

/-! ## Integers -/

/-- An integer at the start of a text: its value within 64 bits, and how far it reaches. -/
structure LeadingInteger where
  value : Int64
  extent : Extent
  /-- Whether the value is the integer itself and not the bound that it lies beyond. -/
  exact : Bool

/-- The decimal integer that a text starts with, after blanks; zero if there is none. -/
def leadingInteger (cs : List Char) : LeadingInteger :=
  let (negative, rest) := splitSign (cs.dropWhile isGap)
  let digits := rest.takeWhile isDigit
  let n := withSign negative (ofDigits digits)
  { value := clamp64 n
    extent :=
      if digits.isEmpty then .none
      else if (rest.dropWhile isDigit).all isGap then .whole else .part
    exact := (clamp64 n).toInt = n }

/-! ## Decimal numbers -/

/-- The format in which decimal numbers are scaled. -/
def extended : Format := ⟨64, 15⟩

/-- A number of the extended format as significand and exponent. -/
abbrev Scaled := Nat × Int

/-- The extended number nearest to a quotient. -/
def Scaled.round (num den : Nat) : Scaled := extended.dyadic (extended.round num den)

/-- The product of two extended numbers. -/
def Scaled.mul (a b : Scaled) : Scaled :=
  let e := a.2 + b.2
  if 0 ≤ e then Scaled.round (a.1 * b.1 * Nat.pow 2 e.toNat) 1
  else Scaled.round (a.1 * b.1) (Nat.pow 2 (-e).toNat)

/-- The quotient of two extended numbers, the second not zero. -/
def Scaled.div (a b : Scaled) : Scaled :=
  let e := a.2 - b.2
  if 0 ≤ e then Scaled.round (a.1 * Nat.pow 2 e.toNat) b.1
  else Scaled.round a.1 (b.1 * Nat.pow 2 (-e).toNat)

def powerOfTen (e : Nat) : Scaled :=
  let rec go : Nat → Nat → Scaled → Scaled → Scaled
    | 0, _, r, _ => r
    | fuel + 1, e, r, x =>
      let r := if e % 2 = 1 then r.mul x else r
      if e / 2 = 0 then r else go fuel (e / 2) r (x.mul x)
  go (e + 1) e (1, 0) (10, 0)

/-- The double nearest to an extended number. -/
def Scaled.toMagnitude (a : Scaled) : Nat := binary64.ofDyadic a.1 a.2

/-- Takes factors of ten out of the exponent into the significand while it stays small, or out of
    the significand while it has them. -/
def reduceExponent : Nat → Nat → Int → Nat × Int
  | 0, s, e => (s, e)
  | fuel + 1, s, e =>
    if 0 < e then
      if s < (Nat.pow 2 63 - 1) / 10 then reduceExponent fuel (s * 10) (e - 1) else (s, e)
    else if e < 0 then
      if s % 10 = 0 then reduceExponent fuel (s / 10) (e + 1) else (s, e)
    else (s, e)

/-- The double nearest to 10 ^ 308. -/
def largePower : Binary64 := .ofParts false (ofDecimal binary64 1 308)

/-- The magnitude of `s * 10 ^ e`, for a significand below 2 ^ 63.  Far exponents are scaled in two
    steps, the second in double precision. -/
def scaledMagnitude (s : Nat) (e : Int) : Nat :=
  if s = 0 then 0
  else
    let (s, e) := reduceExponent 400 s e
    -- Exact as an integer, or so far out that only zero and infinity are left.
    if e = 0 then binary64.round s 1
    else if 342 ≤ e.natAbs then (if e < 0 then 0 else binary64.infinity)
    else
      -- The extended format holds ten to the 307th; what goes beyond it is scaled a second time.
      let scale := powerOfTen (if 307 < e.natAbs then e.natAbs - 308 else e.natAbs)
      let near := (if e < 0 then Scaled.div (s, 0) scale else Scaled.mul (s, 0) scale).toMagnitude
      if 307 < e.natAbs then
        let x := Binary64.ofParts false near
        (if e < 0 then x.div largePower else x.mul largePower).magnitude
      else near

/-- The significand of digits, no further digit taken once it has 18 or 19 of them, and the count
    of digits that were left out. -/
def takeDigits (s : Nat) : List Char → Nat × Nat
  | [] => (s, 0)
  | c :: rest =>
    if s < (Nat.pow 2 63 - 1 - 9) / 10 then takeDigits (10 * s + (digit? c).getD 0) rest
    else (s, rest.length + 1)

/-- A decimal number at the start of a text. -/
structure LeadingReal where
  value : Binary64
  extent : Extent
  /-- Whether it has neither a point nor a complete exponent. -/
  plain : Bool

/-- The exponent after its mark: its value, whether there is one, and what follows. -/
def leadingExponent (cs : List Char) : Int × Bool × List Char :=
  let (negative, rest) := splitSign cs
  let digits := rest.takeWhile isDigit
  (withSign negative (min 10000 (ofDigits digits)), !digits.isEmpty, rest.dropWhile isDigit)

/-- The decimal number that a text starts with, after blanks; zero if there is none. -/
def leadingReal (cs : List Char) : LeadingReal :=
  let (negative, rest) := splitSign (cs.dropWhile isGap)
  let whole := rest.takeWhile isDigit
  let rest := rest.dropWhile isDigit
  let (fraction, rest, pointed) :=
    match rest with
    | '.' :: rest => (rest.takeWhile isDigit, rest.dropWhile isDigit, true)
    | rest => ([], rest, false)
  let (s, dropped) := takeDigits 0 whole
  let (s, unread) := takeDigits s fraction
  let shift : Int := dropped - ((fraction.length : Int) - unread)
  let (e, valid, rest, marked) :=
    match rest with
    | c :: more =>
      if c = 'e' ∨ c = 'E' then
        let (e, valid, after) := leadingExponent more
        (e, valid, after, true)
      else (0, true, rest, false)
    | [] => (0, true, [], false)
  let found := !(whole.isEmpty && fraction.isEmpty)
  { value := .ofParts negative (scaledMagnitude s (e + shift))
    extent := if !found then .none else if valid && rest.all isGap then .whole else .part
    plain := !pointed && !(marked && valid) }

/-! ## Fifteen digits -/

/-- Digits without the zeros at their end, at least the first. -/
def trimZeros (digits : List Char) : List Char :=
  match (digits.reverse.dropWhile (· = '0')).reverse with
  | [] => ['0']
  | cs => cs

/-- A double in at most fifteen significant digits: positional for exponents from −4 to 14, else
    with an exponent of two digits or more; always with a point. -/
def Binary64.short (x : Binary64) : String :=
  let sign := if x.negative && x.magnitude ≠ 0 then "-" else ""
  if x.isNaN then "NaN"
  else if x.isInfinite then sign ++ "Inf"
  else if x.magnitude = 0 then "0.0"
  else
    let (n, e) := rounded binary64 x.magnitude 15
    let digits := (toString n).toList
    let withPoint (cs : List Char) (places : Nat) : List Char :=
      let fraction := trimZeros (cs.drop places)
      cs.take places ++ '.' :: fraction
    if -4 ≤ e ∧ e ≤ 14 then
      if 0 ≤ e then sign ++ String.ofList (withPoint digits (e.toNat + 1))
      else sign ++ String.ofList (withPoint (List.replicate (-e).toNat '0' ++ digits) 1)
    else
      let power := (toString e.natAbs).toList
      let power := if power.length < 2 then '0' :: power else power
      sign ++ String.ofList
        (withPoint digits 1 ++ 'e' :: (if e < 0 then '-' else '+') :: power)

end EntityStore.Number
