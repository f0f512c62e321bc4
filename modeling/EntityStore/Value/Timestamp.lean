/-! # Timestamps

Instants in whole seconds since the epoch and nanoseconds after them, in the years −262143 to
262142.

Leap seconds, which chrono writes as 1000000000 nanoseconds and more after the last second of a minute, are
left out: only the second of an instant is stored, so a leap second is stored as the second that it follows,
as every other instant in it, and none is ever given back.
-/

namespace EntityStore

namespace Timestamp

def firstSecond : Int := -8334601228800

def lastSecond : Int := 8210266876799

end Timestamp

/-- An instant: the second it lies in, and how far. -/
structure Timestamp where
  second : Int
  nanosecond : Nat
  first_le : Timestamp.firstSecond ≤ second
  le_last : second ≤ Timestamp.lastSecond
  nanosecond_lt : nanosecond < 1000000000
  deriving DecidableEq

namespace Timestamp

theorem start_lt : 0 < 1000000000 := by decide

def of? (second : Int) (nanosecond : Nat) : Option Timestamp :=
  if h : firstSecond ≤ second ∧ second ≤ lastSecond ∧ nanosecond < 1000000000 then
    some ⟨second, nanosecond, h.1, h.2.1, h.2.2⟩
  else none

end Timestamp

end EntityStore
