import Mathlib.Data.List.Basic
import EntityStore.Value.Key

/-! # Texts of integers

What texts an integer has in base ten, and that these are the texts that are read:

* `Spells` — the texts of an integer, with a sign or without.
* `readInteger?_eq_some` — what is read of a text is the integer that it spells.
* `spells_toString` — what is written of an integer spells it.
* `KeyType.Reads` — the texts of a key, blanks around them allowed.
-/

namespace EntityStore

namespace Number

def IsNumeral (cs : List Char) : Prop := cs ≠ [] ∧ ∀ c ∈ cs, c.isDigit = true

/-- The texts of an integer: digits of base ten, after a sign or without one. -/
inductive Spells : List Char → Int → Prop
  | plain {cs : List Char} (digits : IsNumeral cs) : Spells cs (Nat.ofDigitChars 10 cs 0 : Nat)
  | plus {cs : List Char} (digits : IsNumeral cs) :
      Spells ('+' :: cs) (Nat.ofDigitChars 10 cs 0 : Nat)
  | minus {cs : List Char} (digits : IsNumeral cs) :
      Spells ('-' :: cs) (-(Nat.ofDigitChars 10 cs 0 : Nat))

/-! ## Reading -/

theorem digit?_of_isDigit {c : Char} (digit : c.isDigit = true) :
    digit? c = some (c.toNat - '0'.toNat) := by
  rw [digit?, if_pos]
  simpa [Char.isDigit, Char.le_def] using digit

theorem isDigit_eq (c : Char) : isDigit c = c.isDigit := by
  rw [isDigit, digit?]
  split
  · next digit => simpa [Char.isDigit, Char.le_def] using digit
  · next other => simpa [Char.isDigit, Char.le_def] using other

theorem readNatural?_eq_some {cs : List Char} {n : Nat} :
    readNatural? cs = some n ↔ IsNumeral cs ∧ Nat.ofDigitChars 10 cs 0 = n := by
  have digits : (!cs.isEmpty && cs.all isDigit) = true ↔ IsNumeral cs := by
    simp [IsNumeral, isDigit_eq]
  rw [readNatural?, Option.ite_none_right_eq_some, digits, Option.some.injEq]
  refine and_congr_right fun numeral => ?_
  have value : ofDigits cs = Nat.ofDigitChars 10 cs 0 := by
    rw [ofDigits, Nat.ofDigitChars_eq_foldl]
    refine List.foldl_ext _ _ _ fun n c member => ?_
    rw [digit?_of_isDigit (numeral.2 c member), Option.getD_some]
  rw [value]

theorem IsNumeral.splitSign {cs : List Char} (digits : IsNumeral cs) : splitSign cs = (false, cs) := by
  rw [Number.splitSign.eq_def]
  split
  · exact absurd (digits.2 '-' (List.mem_cons_self ..)) (by decide)
  · exact absurd (digits.2 '+' (List.mem_cons_self ..)) (by decide)
  · rfl

theorem spells_of_splitSign {cs : List Char} (digits : IsNumeral (splitSign cs).2) :
    Spells cs (withSign (splitSign cs).1 (Nat.ofDigitChars 10 (splitSign cs).2 0)) := by
  revert digits
  rw [splitSign.eq_def]
  split
  · exact .minus
  · exact .plus
  · exact .plain

theorem readInteger?_eq_some {cs : List Char} {n : Int} : readInteger? cs = some n ↔ Spells cs n := by
  constructor
  · intro read
    obtain ⟨m, natural, rfl⟩ := Option.map_eq_some_iff.mp read
    obtain ⟨digits, rfl⟩ := readNatural?_eq_some.mp natural
    exact spells_of_splitSign digits
  · intro spells
    cases spells with
    | plain digits =>
      rw [readInteger?, digits.splitSign]
      exact Option.map_eq_some_iff.mpr ⟨_, readNatural?_eq_some.mpr ⟨digits, rfl⟩, rfl⟩
    | plus digits => exact Option.map_eq_some_iff.mpr ⟨_, readNatural?_eq_some.mpr ⟨digits, rfl⟩, rfl⟩
    | minus digits => exact Option.map_eq_some_iff.mpr ⟨_, readNatural?_eq_some.mpr ⟨digits, rfl⟩, rfl⟩

theorem int64?_eq_some {n : Int} {k : Int64} : int64? n = some k ↔ n = k.toInt := by
  constructor
  · intro fits
    obtain ⟨⟨low, high⟩, word⟩ := Option.ite_none_right_eq_some.mp fits
    obtain rfl := Option.some.inj word
    exact (Int64.toInt_ofInt_of_le low high).symm
  · rintro rfl
    exact int64?_toInt k

/-! ## Writing -/

theorem isNumeral_repr (n : Nat) : IsNumeral n.repr.toList := by
  rw [Nat.repr_eq_ofList_toDigits, String.toList_ofList]
  exact ⟨Nat.toDigits_ne_nil, fun _ => Nat.isDigit_of_mem_toDigits (by decide) (by decide)⟩

theorem ofDigitChars_repr (n : Nat) : Nat.ofDigitChars 10 n.repr.toList 0 = n := by
  rw [Nat.repr_eq_ofList_toDigits, String.toList_ofList]
  exact Nat.ofDigitChars_toDigits (by decide) (by decide)

/-- What is written of an integer spells it. -/
theorem spells_toString (n : Int) : Spells (toString n).toList n := by
  change Spells n.repr.toList n
  rw [Int.repr_eq_if]
  split
  · next positive =>
    have spells := Spells.plain (isNumeral_repr n.toNat)
    rwa [ofDigitChars_repr, Int.toNat_of_nonneg positive] at spells
  · next negative =>
    have spells := Spells.minus (isNumeral_repr (-n).toNat)
    rw [ofDigitChars_repr, Int.toNat_of_nonneg (by omega), Int.neg_neg] at spells
    rw [String.toList_append]
    exact spells

theorem Spells.letter {cs : List Char} {n : Int} (spells : Spells cs n) {c : Char} (member : c ∈ cs) :
    c.isDigit = true ∨ c = '+' ∨ c = '-' := by
  cases spells with
  | plain digits => exact .inl (digits.2 c member)
  | plus digits =>
    rcases List.mem_cons.mp member with rfl | digit
    · exact .inr (.inl rfl)
    · exact .inl (digits.2 c digit)
  | minus digits =>
    rcases List.mem_cons.mp member with rfl | digit
    · exact .inr (.inr rfl)
    · exact .inl (digits.2 c digit)

end Number

namespace KeyType

open Number (Spells)

variable {t : KeyType} {text : String} {key : Int64}

/-- The texts of a key: between blanks, an integer that the width has room for. -/
def Reads (t : KeyType) (text : String) (key : Int64) : Prop :=
  Spells (Text.trim text).toList key.toInt ∧ Number.Fits t.bits key.toInt

theorem readToken?_eq_some : t.readToken? text = some key ↔ t.Reads text key := by
  have width (n : Int64) : t.ofInt64? n = some key ↔ n = key ∧ Number.Fits t.bits key.toInt := by
    rw [ofInt64?, Option.ite_none_right_eq_some, admits, decide_eq_true_eq, Option.some.injEq]
    constructor
    · rintro ⟨fits, rfl⟩
      exact ⟨rfl, fits⟩
    · rintro ⟨rfl, fits⟩
      exact ⟨fits, rfl⟩
  rw [readToken?, Reads, Text.trim, String.toList_ofList, Option.bind_eq_some_iff]
  constructor
  · rintro ⟨n, read, inWidth⟩
    obtain ⟨rfl, fits⟩ := (width n).mp inWidth
    obtain ⟨integer, spelled, same⟩ := Option.bind_eq_some_iff.mp read
    obtain rfl := Number.int64?_eq_some.mp same
    exact ⟨Number.readInteger?_eq_some.mp spelled, fits⟩
  · rintro ⟨spelled, fits⟩
    refine ⟨key, ?_, (width key).mpr ⟨rfl, fits⟩⟩
    rw [Number.readInt64?, Number.readInteger?_eq_some.mpr spelled]
    exact Number.int64?_toInt key

end KeyType

end EntityStore
