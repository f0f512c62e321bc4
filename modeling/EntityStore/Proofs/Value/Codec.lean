import EntityStore.Catalog.Plan
import EntityStore.Proofs.Number.Widening
import EntityStore.Proofs.Value.Text

/-! # Field values in tables

What a column makes of a field value, and what is read from it:

* `FieldValue.stored`, `FieldValue.cell` — what is bound, and what the column keeps of it.
* `FieldValue.settled` — what is read back.
* `Codec.decode_cell` — reading what has been kept.
* `SemanticType.absent`, `Codec.decode_null` — reading where nothing has been kept.
-/

namespace EntityStore

open EntityStore.Number (Binary32 Binary64)
open EntityStore.Sql (Datum)

/-! ## What is kept -/

def FieldValue.stored : FieldValue → StoredValue
  | .int8 n => .integer n.toInt64
  | .int16 n => .integer n.toInt64
  | .int32 n => .integer n.toInt64
  | .int64 n => .integer n
  | .float32 x => .real x.widen
  | .float64 x => .real x
  | .bool b => .integer (if b then 1 else 0)
  | .text s => .text (s.getD "")
  | .timestamp none => .integer 0
  | .timestamp (some t) => .integer (Int64.ofInt t.second)
  | .blob none => .null
  | .blob (some b) => .blob b

theorem Codec.bind_stored (v : FieldValue) : Codec.bind v.semantic.bindOp v = .ok v.stored := by
  cases v with
  | timestamp t => cases t <;> rfl
  | blob b => cases b <;> rfl
  | _ => rfl

def FieldValue.cell (v : FieldValue) : Datum :=
  (Sql.Affinity.ofType v.semantic.affinity.keyword).store (.ofStored v.stored)

/-! ## What is read back -/

/-- The value that a table gives back: text is present, a timestamp falls on a whole second other
    than the epoch, and a number that is none, or a negative zero, is zero. -/
def FieldValue.settled : FieldValue → FieldValue
  | .float32 x => .float32 (if x.isNaN then .zero else x.unsignZero)
  | .float64 x => .float64 (if x.isNaN then .zero else x.unsignZero)
  | .text s => .text (some (s.getD ""))
  | .timestamp (some t) => .timestamp (if t.second = 0 then none else some t.wholeSecond)
  | value => value

@[simp] theorem FieldValue.semantic_settled (v : FieldValue) : v.settled.semantic = v.semantic := by
  cases v with
  | timestamp t => cases t <;> rfl
  | _ => rfl

/-- An integer that fits in a narrower word is read from a wide one. -/
theorem Codec.narrowOf_integer {op : DecodeOp} {bits : Nat} {n : Int64}
    (fits : Number.Fits bits n.toInt) : Codec.narrowOf op bits (.integer n) = .ok n.toInt := by
  change (if Number.Fits bits n.toInt then Except.ok n.toInt else _) = _
  rw [if_pos fits]

theorem Timestamp.toInt_second (t : Timestamp) : (Int64.ofInt t.second).toInt = t.second := by
  have low := t.first_le
  have high := t.le_last
  simp only [Timestamp.firstSecond, Timestamp.lastSecond] at low high
  exact Int64.toInt_ofInt_of_le (by omega) (by omega)

theorem Codec.timestampOf_second {op : DecodeOp} (t : Timestamp) :
    Codec.timestampOf op (.integer (Int64.ofInt t.second)) =
      .ok (if t.second = 0 then none else some t.wholeSecond) := by
  have range : Timestamp.firstSecond ≤ t.second ∧ t.second ≤ Timestamp.lastSecond ∧ 0 < 1000000000 :=
    ⟨t.first_le, t.le_last, Timestamp.start_lt⟩
  have found : Timestamp.of? t.second 0 = some t.wholeSecond := by
    rw [Timestamp.of?, dif_pos range]
    rfl
  change (if (Int64.ofInt t.second).toInt = 0 then Except.ok none else _) = _
  rw [t.toInt_second, found]
  split <;> rfl

/-- What the engine makes of the names of affinities. -/
theorem Affinity.ofType_keyword (a : Affinity) : Sql.Affinity.ofType a.keyword = match a with
    | .integer => .integer
    | .real => .real
    | .text => .text
    | .blob => .none := by
  cases a <;> rfl

theorem FieldValue.cell_eq (v : FieldValue) : v.cell = match v with
    | .int8 n => .integer n.toInt64
    | .int16 n => .integer n.toInt64
    | .int32 n => .integer n.toInt64
    | .int64 n => .integer n
    | .float32 x => Sql.Affinity.real.store (.ofReal x.widen)
    | .float64 x => Sql.Affinity.real.store (.ofReal x)
    | .bool b => .integer (if b then 1 else 0)
    | .text s => .ofString (s.getD "")
    | .timestamp none => .integer 0
    | .timestamp (some t) => .integer (Int64.ofInt t.second)
    | .blob none => .null
    | .blob (some b) => .blob b := by
  rw [cell, Affinity.ofType_keyword]
  cases v with
  | timestamp t => cases t <;> rfl
  | blob b => cases b <;> rfl
  | _ => rfl

/-- A number that is none is kept as nothing, which reads as zero. -/
theorem Codec.realOf_kept {op : DecodeOp} (x : Binary64) :
    Codec.realOf op (Sql.Affinity.real.store (.ofReal x)).toStored =
      .ok (if x.isNaN then .zero else x.unsignZero) := by
  rw [Datum.ofReal]
  cases x.isNaN <;> rfl

theorem Number.Binary32.isNaN_widen_eq (x : Binary32) : x.widen.isNaN = x.isNaN := by
  cases number : x.isNaN with
  | false => exact Number.Binary32.isNaN_widen number
  | true =>
    rw [Number.Binary32.widen, number, if_pos rfl]
    decide

theorem Codec.narrowOf_bind {op : DecodeOp} {width : Nat} {n : Int64} (fits : Number.Fits width n.toInt)
    (make : Int → FieldValue) :
    (Codec.narrowOf op width (.integer n) >>= fun k => pure (make k)) = .ok (make n.toInt) := by
  rw [narrowOf_integer fits]
  rfl

/-- What a column has kept is read back. -/
theorem Codec.decode_cell (v : FieldValue) :
    Codec.decode v.semantic.decodeOp v.cell.toStored = .ok v.settled := by
  rw [FieldValue.cell_eq]
  cases v with
  | int8 n =>
    have fits : Number.Fits 8 n.toInt64.toInt := by
      rw [Int8.toInt_toInt64]
      exact ⟨Int8.le_toInt n, Int8.toInt_lt n⟩
    refine (narrowOf_bind fits fun k => .int8 (Int8.ofInt k)).trans ?_
    rw [Int8.toInt_toInt64, Int8.ofInt_toInt]
    rfl
  | int16 n =>
    have fits : Number.Fits 16 n.toInt64.toInt := by
      rw [Int16.toInt_toInt64]
      exact ⟨Int16.le_toInt n, Int16.toInt_lt n⟩
    refine (narrowOf_bind fits fun k => .int16 (Int16.ofInt k)).trans ?_
    rw [Int16.toInt_toInt64, Int16.ofInt_toInt]
    rfl
  | int32 n =>
    have fits : Number.Fits 32 n.toInt64.toInt := by
      rw [Int32.toInt_toInt64]
      exact ⟨Int32.le_toInt n, Int32.toInt_lt n⟩
    refine (narrowOf_bind fits fun k => .int32 (Int32.ofInt k)).trans ?_
    rw [Int32.toInt_toInt64, Int32.ofInt_toInt]
    rfl
  | int64 n => rfl
  | float32 x =>
    change (realOf .float32 (Sql.Affinity.real.store (.ofReal x.widen)).toStored >>= fun y =>
      pure (FieldValue.float32 y.narrow)) = _
    rw [realOf_kept, Number.Binary32.isNaN_widen_eq]
    -- A table keeps neither what is not a number nor the sign of zero.
    refine congrArg (Except.ok ∘ FieldValue.float32) ?_
    cases number : x.isNaN with
    | true =>
      rw [if_pos rfl, if_pos rfl]
      decide
    | false => exact Number.Binary32.narrow_unsignZero_widen number
  | float64 x =>
    change (realOf .float64 (Sql.Affinity.real.store (.ofReal x)).toStored >>= fun y =>
      pure (FieldValue.float64 y)) = _
    rw [realOf_kept]
    rfl
  | bool b => cases b <;> rfl
  | text s =>
    change Except.ok (FieldValue.text (some (Datum.readText (s.getD "").toByteArray))) = _
    rw [Datum.readText_toByteArray]
    rfl
  | timestamp t =>
    cases t with
    | none => rfl
    | some t =>
      change (timestampOf .epochSecondsZeroAbsent (.integer (Int64.ofInt t.second)) >>= fun t =>
        pure (FieldValue.timestamp t)) = _
      rw [timestampOf_second]
      rfl
  | blob b => cases b <;> rfl

/-! ## Nothing kept -/

/-- The value that is read where nothing has been kept. -/
def SemanticType.absent : SemanticType → FieldValue
  | .int8 => .int8 0
  | .int16 => .int16 0
  | .int32 => .int32 0
  | .int64 => .int64 0
  | .float32 => .float32 .zero
  | .float64 => .float64 .zero
  | .bool => .bool false
  | .text => .text none
  | .timestamp => .timestamp none
  | .blob => .blob none

theorem Codec.decode_null (t : SemanticType) : Codec.decode t.decodeOp .null = .ok t.absent := by
  cases t <;> rfl

@[simp] theorem SemanticType.semantic_absent (t : SemanticType) : t.absent.semantic = t := by
  cases t <;> rfl

end EntityStore
