import Mathlib.Algebra.BigOperators.Group.List.Basic
import Mathlib.Algebra.Ring.Int.Defs
import EntityStore.Proofs.Number.Reading
import EntityStore.Store.Read

/-! # Sums of integers

The sum of a column whose values are integers or null:

* `Datum.IsWhole`, `Datum.summand` — such a value, and what it adds to a sum.
* `RunsWithin` — integers whose sum never leaves the 64 bits, place by place.
* `Total.Counts` — a sum that has come to an integer so far.
* `Total.result?_ofList` — the sum is exact, or there is none.
* `runsWithin_of_signs` — integers whose sum never leaves the 64 bits, in whatever order they come.
-/

namespace EntityStore.Sql

/-! ## Integers in a row -/

/-- Integers whose sums up to each of them are within 64 bits. -/
def RunsWithin (ns : List Int) : Prop := ∀ start, start <+: ns → Number.Fits 64 start.sum

theorem sum_negative (n : Int) (ns : List Int) :
    ((n :: ns).filter (· < 0)).sum = min n 0 + (ns.filter (· < 0)).sum := by
  by_cases negative : n < 0
  · rw [List.filter_cons_of_pos (by simpa using negative), List.sum_cons]
    omega
  · rw [List.filter_cons_of_neg (by simpa using negative)]
    omega

theorem sum_positive (n : Int) (ns : List Int) :
    ((n :: ns).filter (0 < ·)).sum = max n 0 + (ns.filter (0 < ·)).sum := by
  by_cases positive : 0 < n
  · rw [List.filter_cons_of_pos (by simpa using positive), List.sum_cons]
    omega
  · rw [List.filter_cons_of_neg (by simpa using positive)]
    omega

theorem sum_between {part ns : List Int} (sub : part.Sublist ns) :
    (ns.filter (· < 0)).sum ≤ part.sum ∧ part.sum ≤ (ns.filter (0 < ·)).sum := by
  induction sub with
  | slnil => exact ⟨Int.le_refl _, Int.le_refl _⟩
  | cons n _ ih =>
    rw [sum_negative, sum_positive]
    omega
  | cons_cons n _ ih =>
    rw [sum_negative, sum_positive, List.sum_cons]
    omega

/-- The order of integers does not matter if neither the positive nor the negative ones alone go beyond
    64 bits. -/
theorem runsWithin_of_signs {ns order : List Int} (positive : Number.Fits 64 (ns.filter (0 < ·)).sum)
    (negative : Number.Fits 64 (ns.filter (· < 0)).sum) (perm : order.Perm ns) : RunsWithin order := by
  intro start part
  obtain ⟨low, high⟩ := sum_between part.sublist
  rw [(perm.filter _).sum_eq] at low high
  exact ⟨Int.le_trans negative.1 low, Int.lt_of_le_of_lt high positive.2⟩

/-! ## Values -/

/-- A value that is an integer or null. -/
def Datum.IsWhole (d : Datum) : Prop := d = .null ∨ ∃ n, d = .integer n

/-- What a value adds to a sum of integers. -/
def Datum.summand : Datum → Int
  | .integer n => n.toInt
  | _ => 0

@[simp] theorem Datum.summand_null : Datum.null.summand = 0 := rfl

@[simp] theorem Datum.summand_integer (n : Int64) : (Datum.integer n).summand = n.toInt := rfl

/-! ## Sums -/

namespace Total

variable {t : Total} {n : Int} {d : Datum} {ds : List Datum}

/-- A sum that has met nothing but integers, and has come to one. -/
structure Counts (t : Total) (n : Int) : Prop where
  plain : t.approximate = false
  within : t.overflow = false
  exact : t.exact.toInt = n
  started : t.started = false → n = 0

theorem counts_start : ({} : Total).Counts 0 := ⟨rfl, rfl, rfl, fun _ => rfl⟩

/-- One more value that the sum has room for. -/
theorem Counts.add (counts : t.Counts n) (whole : d.IsWhole) (fits : Number.Fits 64 (n + d.summand)) :
    (t.add d).Counts (n + d.summand) := by
  rcases whole with rfl | ⟨k, rfl⟩
  · rw [Datum.summand_null, Int.add_zero]
    exact counts
  · rw [Datum.summand_integer] at fits ⊢
    have room : Number.int64? (t.exact.toInt + k.toInt) = some (Int64.ofInt (n + k.toInt)) := by
      rw [counts.exact, Number.int64?, if_pos fits]
    simp only [Total.add, counts.plain, counts.within, Bool.or_self, Bool.false_eq_true, ↓reduceIte, room]
    exact ⟨rfl, rfl, Int64.toInt_ofInt_of_le fits.1 fits.2, fun idle => absurd idle Bool.noConfusion⟩

/-- One more value that the sum has no room for. -/
theorem Counts.overflow_add (counts : t.Counts n) (whole : d.IsWhole) (fits : Number.Fits 64 n)
    (beyond : ¬Number.Fits 64 (n + d.summand)) : (t.add d).overflow = true := by
  rcases whole with rfl | ⟨k, rfl⟩
  · rw [Datum.summand_null, Int.add_zero] at beyond
    exact absurd fits beyond
  · rw [Datum.summand_integer] at beyond
    have room : Number.int64? (t.exact.toInt + k.toInt) = none := by
      rw [counts.exact, Number.int64?, if_neg beyond]
    simp only [Total.add, counts.plain, counts.within, Bool.or_self, Bool.false_eq_true, ↓reduceIte, room]

/-- What has gone beyond 64 bits stays there. -/
theorem overflow_add (beyond : t.overflow = true) (whole : d.IsWhole) : (t.add d).overflow = true := by
  rcases whole with rfl | ⟨k, rfl⟩
  · exact beyond
  · simp only [Total.add, beyond, Bool.or_true, ↓reduceIte]

theorem overflow_foldl (beyond : t.overflow = true) (whole : ∀ d ∈ ds, d.IsWhole) :
    (ds.foldl Total.add t).overflow = true := by
  induction ds generalizing t with
  | nil => exact beyond
  | cons d rest ih =>
    rw [List.forall_mem_cons] at whole
    exact ih (overflow_add beyond whole.1) whole.2

/-- Values that the sum has room for, one after the other. -/
theorem Counts.foldl (counts : t.Counts n) (whole : ∀ d ∈ ds, d.IsWhole)
    (fits : ∀ start, start <+: ds.map Datum.summand → Number.Fits 64 (n + start.sum)) :
    (ds.foldl Total.add t).Counts (n + (ds.map Datum.summand).sum) := by
  induction ds generalizing t n with
  | nil => simpa using counts
  | cons d rest ih =>
    rw [List.forall_mem_cons] at whole
    have here : Number.Fits 64 (n + d.summand) := by
      simpa using fits [d.summand] (by simp)
    have next := ih (counts.add whole.1 here) whole.2 fun start part => by
      have later := fits (d.summand :: start) (by simpa using part)
      rwa [List.sum_cons, ← Int.add_assoc] at later
    rwa [Int.add_assoc, ← List.sum_cons, ← List.map_cons] at next

theorem Counts.overflow_foldl (counts : t.Counts n) (whole : ∀ d ∈ ds, d.IsWhole) (room : Number.Fits 64 n)
    (beyond : ¬∀ start, start <+: ds.map Datum.summand → Number.Fits 64 (n + start.sum)) :
    (ds.foldl Total.add t).overflow = true := by
  induction ds generalizing t n with
  | nil =>
    refine absurd (fun start part => ?_) beyond
    rw [List.map_nil, List.prefix_nil] at part
    simpa [part] using room
  | cons d rest ih =>
    rw [List.forall_mem_cons] at whole
    by_cases fits : Number.Fits 64 (n + d.summand)
    · refine ih (counts.add whole.1 fits) whole.2 fits fun later => beyond fun start part => ?_
      rcases List.prefix_cons_iff.mp part with rfl | ⟨more, rfl, inner⟩
      · simpa using room
      · rw [List.sum_cons, ← Int.add_assoc]
        exact later more inner
    · rw [List.foldl_cons]
      exact Total.overflow_foldl (counts.overflow_add whole.1 room fits) whole.2

/-- A sum of integers is what they come to, if it never leaves the 64 bits; otherwise there is none. -/
theorem result?_ofList (whole : ∀ d ∈ ds, d.IsWhole) :
    (RunsWithin (ds.map Datum.summand) → ∃ d, (ofList ds).result? = some d
        ∧ (aggregateOf d).toInt = (ds.map Datum.summand).sum)
      ∧ (¬RunsWithin (ds.map Datum.summand) → (ofList ds).result? = none) := by
  refine ⟨fun within => ?_, fun beyond => ?_⟩
  · have counts := counts_start.foldl whole fun start part => by simpa using within start part
    rw [Int.zero_add] at counts
    simp only [result?, ofList, counts.within, counts.plain, Bool.false_eq_true, ↓reduceIte]
    cases started : (ds.foldl Total.add {}).started with
    | true => exact ⟨_, rfl, counts.exact⟩
    | false => exact ⟨_, rfl, (counts.started started).symm⟩
  · have overflow : (ds.foldl Total.add {}).overflow = true := by
      refine counts_start.overflow_foldl whole (by decide) fun fits => beyond fun start part => ?_
      simpa using fits start part
    simp only [result?, ofList, overflow, ↓reduceIte]

end Total

end EntityStore.Sql
