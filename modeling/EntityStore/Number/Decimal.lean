import EntityStore.Number.Binary
import EntityStore.Text.Blank

/-! # Decimal text of numbers

Reading and writing of numbers in decimal:

* `readInteger?` — an optional sign and digits.
* `readBinary64?` — a decimal number, an infinity or a word for what is no number, as the nearest
  double.
* `shortest` — the fewest digits that read back as the same double.
* `positional` — a double by its shortest digits, never with an exponent.
* `rounded` — a magnitude to a given count of significant digits.
-/

namespace EntityStore.Number

def digit? (c : Char) : Option Nat :=
  if '0' ≤ c ∧ c ≤ '9' then some (c.toNat - '0'.toNat) else none

def isDigit (c : Char) : Bool := (digit? c).isSome

/-- The number that a list of digits stands for; other characters count as zero. -/
def ofDigits (cs : List Char) : Nat :=
  cs.foldl (fun n c => 10 * n + (digit? c).getD 0) 0

def readNatural? (cs : List Char) : Option Nat :=
  if !cs.isEmpty && cs.all isDigit then some (ofDigits cs) else none

def splitSign : List Char → Bool × List Char
  | '-' :: rest => (true, rest)
  | '+' :: rest => (false, rest)
  | cs => (false, cs)

def withSign (negative : Bool) (n : Nat) : Int := if negative then -n else n

/-- An integer: an optional sign and at least one digit, nothing else. -/
def readInteger? (cs : List Char) : Option Int :=
  let (negative, rest) := splitSign cs
  (readNatural? rest).map (withSign negative)

/-- An integer in the range of 64 bits. -/
def readInt64? (cs : List Char) : Option Int64 :=
  (readInteger? cs).bind int64?

/-- The magnitude word nearest to `m * 10 ^ e`.  Exponents far outside the range are settled
    without the power. -/
def ofDecimal (f : Format) (m : Nat) (e : Int) : Nat :=
  let places : Int := (toString m).length + e
  if m = 0 then 0
  else if 400 < places then f.infinity
  else if places < -400 then 0
  else if 0 ≤ e then f.round (m * Nat.pow 10 e.toNat) 1
  else f.round m (Nat.pow 10 (-e).toNat)

/-- The text of an exponent after its letter: none, or a sign and digits. -/
def readExponent? : List Char → Option Int
  | [] => some 0
  | c :: rest => if c = 'e' ∨ c = 'E' then readInteger? rest else none

/-- The magnitude of an unsigned decimal number: digits with an optional point somewhere, at
    least one digit, and an optional exponent. -/
def readMagnitude? (cs : List Char) : Option Nat :=
  let whole := cs.takeWhile isDigit
  let afterWhole := cs.dropWhile isDigit
  let (fraction, tail) :=
    match afterWhole with
    | '.' :: rest => (rest.takeWhile isDigit, rest.dropWhile isDigit)
    | rest => ([], rest)
  if whole.isEmpty && fraction.isEmpty then none
  else
    (readExponent? tail).map fun e =>
      ofDecimal binary64 (ofDigits (whole ++ fraction)) (e - fraction.length)

/-- A text in lower case letters of the Latin alphabet. -/
def lowerLatin (cs : List Char) : String := String.ofList (cs.map Char.toLower)

/-- A double: an optional sign and a decimal number, an infinity or a word for what is no
    number, letters in either case. -/
def readBinary64? (cs : List Char) : Option Binary64 :=
  let (negative, rest) := splitSign cs
  match lowerLatin rest with
  | "inf" | "infinity" => some (.ofParts negative binary64.infinity)
  | "nan" => some .nan
  | _ => (readMagnitude? rest).map (.ofParts negative)

/-! ## Fewest digits that read back -/

/-- A positive quotient of naturals, for exact comparisons. -/
structure Quotient where
  num : Nat
  den : Nat

def Quotient.ofDyadic (m : Nat) (e : Int) : Quotient :=
  if 0 ≤ e then ⟨m * Nat.pow 2 e.toNat, 1⟩ else ⟨m, Nat.pow 2 (-e).toNat⟩

def Quotient.ofDecimal (m : Nat) (e : Int) : Quotient :=
  if 0 ≤ e then ⟨m * Nat.pow 10 e.toNat, 1⟩ else ⟨m, Nat.pow 10 (-e).toNat⟩

def Quotient.compare (a b : Quotient) : Ordering := Ord.compare (a.num * b.den) (b.num * a.den)

/-- The value of a quotient in units of `10 ^ e`, rounded down. -/
def Quotient.floorUnits (a : Quotient) (e : Int) : Nat :=
  if 0 ≤ e then a.num / (a.den * Nat.pow 10 e.toNat)
  else a.num * Nat.pow 10 (-e).toNat / a.den

/-- Twice the value of a quotient in units of `10 ^ e`, compared with the odd number
    `2 * n + 1`. -/
def Quotient.compareMiddle (a : Quotient) (n : Nat) (e : Int) : Ordering :=
  if 0 ≤ e then Ord.compare (2 * a.num) ((2 * n + 1) * (a.den * Nat.pow 10 e.toNat))
  else Ord.compare (2 * (a.num * Nat.pow 10 (-e).toNat)) ((2 * n + 1) * a.den)

/-- The reals that round to a finite double's magnitude: lower end, upper end, and whether the
    ends belong to it. -/
def roundingInterval (f : Format) (magnitude : Nat) : Quotient × Quotient × Bool :=
  let (m, e) := f.dyadic magnitude
  let lower :=
    -- Below a power of two the magnitudes stand twice as close.
    if m = Nat.pow 2 (f.precision - 1) ∧ f.leastExponent < e then
      Quotient.ofDyadic (4 * m - 1) (e - 2)
    else Quotient.ofDyadic (2 * m - 1) (e - 1)
  (lower, Quotient.ofDyadic (2 * m + 1) (e - 1), m % 2 = 0)

/-- Whether `m * 10 ^ e` lies in the interval. -/
def inInterval (interval : Quotient × Quotient × Bool) (m : Nat) (e : Int) : Bool :=
  let d := Quotient.ofDecimal m e
  let (lower, upper, closed) := interval
  let above := lower.compare d
  let below := d.compare upper
  (above == .lt || (closed && above == .eq)) && (below == .lt || (closed && below == .eq))

/-- On the grid of multiples of `10 ^ e`, the neighbour of `a` that lies in the interval; of two
    the nearer, the upper one at the middle. -/
def gridPoint? (interval : Quotient × Quotient × Bool) (a : Quotient) (e : Int) : Option Nat :=
  let n := a.floorUnits e
  match inInterval interval n e, inInterval interval (n + 1) e with
  | true, true => some (if a.compareMiddle n e == .lt then n else n + 1)
  | true, false => some n
  | false, true => some (n + 1)
  | false, false => none

/-- The first grid with a point in the interval, from the grid of `10 ^ e` to finer ones. -/
def searchGrids (interval : Quotient × Quotient × Bool) (a : Quotient) : Nat → Int → Nat × Int
  | 0, e => (a.floorUnits e, e)
  | fuel + 1, e =>
    match gridPoint? interval a e with
    | some n => (n, e)
    | none => searchGrids interval a fuel (e - 1)

/-- The exponent of a power of ten above `m * 2 ^ e`. -/
def decimalReach (m : Nat) (e : Int) : Int := ((m.log2 : Int) + e + 1) * 30103 / 100000 + 1

/-- The digits and the decimal exponent of the shortest decimal that reads back as a positive
    finite magnitude. -/
def shortest (f : Format) (magnitude : Nat) : Nat × Int :=
  let (m, e) := f.dyadic magnitude
  searchGrids (roundingInterval f magnitude) (Quotient.ofDyadic m e) 24 (decimalReach m e)

/-- `m * 10 ^ e` without an exponent. -/
def positionalText (m : Nat) (e : Int) : String :=
  let digits := (toString m).toList
  if 0 ≤ e then String.ofList (digits ++ List.replicate e.toNat '0')
  else
    let places := (-e).toNat
    let padded := List.replicate (places + 1 - digits.length) '0' ++ digits
    let cut := padded.length - places
    String.ofList (padded.take cut ++ '.' :: padded.drop cut)

/-- A double by its shortest digits, never with an exponent; the sign of zero is kept. -/
def Binary64.positional (x : Binary64) : String :=
  if x.isNaN then "NaN"
  else
    let sign := if x.negative then "-" else ""
    if x.isInfinite then sign ++ "inf"
    else if x.magnitude = 0 then sign ++ "0"
    else
      let (m, e) := shortest binary64 x.magnitude
      sign ++ positionalText m e

/-! ## A given count of digits -/

/-- The quotient in units of `10 ^ e`, a half rounded up. -/
def Quotient.roundUnits (a : Quotient) (e : Int) : Nat :=
  let n := a.floorUnits e
  if a.compareMiddle n e == .lt then n else n + 1

/-- A positive finite magnitude to `count` significant digits: the digits, and the decimal exponent
    of the first of them. -/
def rounded (f : Format) (magnitude count : Nat) : Nat × Int :=
  let (m, e) := f.dyadic magnitude
  let a := Quotient.ofDyadic m e
  let reach := decimalReach m e
  -- The reach is at most two places too far, and never short.
  let first := if a.floorUnits reach = 0 then reach - 1 else reach
  let first := if a.floorUnits first = 0 then first - 1 else first
  let n := a.roundUnits (first - (count - 1))
  -- Rounding up may bring one more digit, which is a zero at the end.
  if Nat.pow 10 count ≤ n then (n / 10, first + 1) else (n, first)

end EntityStore.Number
