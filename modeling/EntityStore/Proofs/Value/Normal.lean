import EntityStore.Proofs.Catalog.Decoding

/-! # The normal form of values

What the codec makes of a value, and what it can make values of:

* `Codec.decode_stored` — what has been written is read as the normal form of the value.
* `FieldValue.stored_normal` — a value and its normal form are written alike.
* `Codec.normal_decode` — whatever is read, from whatever was stored, is in normal form but for
  absent text.
-/

namespace EntityStore

open EntityStore.Engine (bind_eq_ok)
open EntityStore.Number (Binary32 Binary64)

/-! ## Whole seconds -/

/-- The nanoseconds since the epoch, negative before it. -/
def Timestamp.nanoseconds (t : Timestamp) : Int := t.second * 1000000000 + t.nanosecond

/-- A whole second is the last one not after the instant, also before the epoch. -/
theorem Timestamp.nanoseconds_wholeSecond (t : Timestamp) :
    t.wholeSecond.nanoseconds = t.nanoseconds / 1000000000 * 1000000000 := by
  have inside : t.nanosecond < 1000000000 := t.nanosecond_lt
  simp only [nanoseconds, wholeSecond]
  omega

theorem Timestamp.wholeSecond_of_start {t : Timestamp} (start : t.nanosecond = 0) :
    t.wholeSecond = t := by
  cases t
  cases start
  rfl

/-! ## Singles -/

theorem Number.Binary32.isNaN_nan : Number.Binary32.nan.isNaN = true := by decide

theorem Number.Binary32.widen_of_isNaN {x : Binary32} (none : x.isNaN = true) : x.widen = .nan := by
  rw [widen, if_pos none]

theorem Number.Binary64.narrow_of_isNaN {x : Binary64} (none : x.isNaN = true) :
    x.narrow = .nan := by
  rw [narrow, if_pos none]

theorem Number.Binary32.magnitude_ofParts {sign : Bool} {k : Nat}
    (range : k < Number.binary32.signWeight) : (ofParts sign k).magnitude = k := by
  have weight : Number.binary32.signWeight = 2 ^ 31 := by decide
  rw [weight] at range
  rw [magnitude, ofParts, weight, UInt32.toNat_ofNat']
  cases sign with
  | false =>
    rw [if_neg (by decide)]
    omega
  | true =>
    rw [if_pos rfl]
    omega

theorem Number.Binary64.isNaN_narrow {x : Binary64} (number : x.isNaN = false) :
    x.narrow.isNaN = false := by
  have bound := Number.binary64.convert_le Number.binary32 x.magnitude
  have range : Number.binary64.convert Number.binary32 x.magnitude < Number.binary32.signWeight :=
    lt_of_le_of_lt bound (by decide)
  rw [narrow, number, if_neg (by decide), Number.Binary32.isNaN,
    Number.Binary32.magnitude_ofParts range, decide_eq_false_iff_not, not_lt]
  exact bound

/-! ## There and back -/

namespace FieldValue

@[simp] theorem semantic_normal (v : FieldValue) : v.normal.semantic = v.semantic := by
  cases v with
  | text s => cases s <;> rfl
  | timestamp t => cases t <;> rfl
  | _ => rfl

/-- A value and its normal form are written alike. -/
theorem stored_normal (v : FieldValue) : v.normal.stored = v.stored := by
  cases v with
  | float32 x =>
    cases number : x.isNaN with
    | false => rw [normal, number, if_neg (by decide)]
    | true =>
      rw [normal, number, if_pos rfl, stored, stored, Binary32.widen_of_isNaN number,
        Binary32.widen_of_isNaN Binary32.isNaN_nan]
  | text s => cases s <;> rfl
  | timestamp t =>
    cases t with
    | none => rfl
    | some t =>
      rw [normal]
      by_cases epoch : t.second = 0
      · rw [if_pos epoch, stored, stored, epoch]
        rfl
      · rw [if_neg epoch]
        rfl
  | _ => rfl

/-- Absent text is present and empty. -/
def present : FieldValue → FieldValue
  | text none => text (some "")
  | v => v

end FieldValue

namespace Codec

theorem decode_stored_of_kept {v : FieldValue} (kept : v.cell.toStored = v.stored)
    (settled : v.settled = v.normal) : Codec.decode v.semantic.decodeOp v.stored = .ok v.normal := by
  rw [← kept, ← settled]
  exact decode_cell v

/-- What has been written is read as the normal form of the value. -/
theorem decode_stored (v : FieldValue) :
    Codec.decode v.semantic.decodeOp v.stored = .ok v.normal := by
  cases v with
  | float32 x =>
    refine congrArg (Except.ok ∘ FieldValue.float32) ?_
    cases number : x.isNaN with
    | false => exact Binary32.narrow_widen number
    | true =>
      rw [Binary32.widen_of_isNaN number, if_pos rfl]
      decide
  | float64 x => rfl
  | text s => cases s <;> rfl
  | timestamp t =>
    cases t with
    | none => rfl
    | some t => exact decode_stored_of_kept (by rw [FieldValue.cell_eq]; rfl) rfl
  | blob b => cases b <;> rfl
  | _ => exact decode_stored_of_kept (by rw [FieldValue.cell_eq]; rfl) rfl

/-! ## From what was stored -/

/-- A timestamp that is read is a whole second other than the epoch. -/
theorem timestampOf_ok {op : DecodeOp} {s : StoredValue} {t : Timestamp}
    (done : timestampOf op s = .ok (some t)) : t.second ≠ 0 ∧ t.nanosecond = 0 := by
  obtain ⟨n, _, done⟩ := bind_eq_ok done
  dsimp only at done
  split at done
  · cases done
  · next later =>
    rw [Timestamp.of?] at done
    split at done
    · next found =>
      split at found
      · cases found
        cases done
        exact ⟨later, rfl⟩
      · cases found
    · cases done

/-- A single that is read is a number or the one word for what is none. -/
theorem normal_narrow (x : Binary64) : (FieldValue.float32 x.narrow).normal = .float32 x.narrow := by
  cases number : x.isNaN with
  | false => rw [FieldValue.normal, Binary64.isNaN_narrow number, if_neg (by decide)]
  | true =>
    rw [FieldValue.normal, Binary64.narrow_of_isNaN number, Binary32.isNaN_nan, if_pos rfl]

/-- Whatever is read is in normal form, but for absent text. -/
theorem normal_decode {t : SemanticType} {s : StoredValue} {v : FieldValue}
    (done : Codec.decode t.decodeOp s = .ok v) : v.normal = v.present := by
  -- Only three types have values that are not normal; of these reading gives absent texts alone.
  cases t with
  | float32 =>
    obtain ⟨x, _, done⟩ := bind_eq_ok done
    cases done
    exact normal_narrow x
  | text =>
    obtain ⟨x, _, done⟩ := bind_eq_ok done
    cases done
    cases x <;> rfl
  | timestamp =>
    obtain ⟨x, read, done⟩ := bind_eq_ok done
    cases done
    cases x with
    | none => rfl
    | some x =>
      obtain ⟨later, start⟩ := timestampOf_ok read
      rw [FieldValue.normal, if_neg later, Timestamp.wholeSecond_of_start start]
      rfl
  | _ =>
    obtain ⟨_, _, done⟩ := bind_eq_ok done
    cases done
    rfl

/-- The codec has one normal form: every value is written, read back in normal form, and written
    alike in that form, with timestamps at the start of their second; and whatever is read, from
    whatever was stored, is of the type it is read for and comes back when it is written, but for
    absent text, which comes back empty. -/
theorem normal_form :
    (∀ v : FieldValue, ∃ s, Codec.bind v.semantic.bindOp v = .ok s ∧
      Codec.decode v.semantic.decodeOp s = .ok v.normal ∧
      Codec.bind v.semantic.bindOp v.normal = .ok s) ∧
    (∀ t : Timestamp, t.wholeSecond.nanoseconds = t.nanoseconds / 1000000000 * 1000000000) ∧
    (∀ (t : SemanticType) (s : StoredValue) (v : FieldValue),
      Codec.decode t.decodeOp s = .ok v → v.semantic = t ∧
        ∃ s', Codec.bind t.bindOp v = .ok s' ∧ Codec.decode t.decodeOp s' = .ok v.present) := by
  refine ⟨fun v => ⟨v.stored, bind_stored v, decode_stored v, ?_⟩,
    Timestamp.nanoseconds_wholeSecond, fun t s v done => ?_⟩
  · rw [← v.semantic_normal, bind_stored, v.stored_normal]
  · have type := semantic_decode done
    refine ⟨type, v.stored, ?_, ?_⟩
    · rw [← type]
      exact bind_stored v
    · rw [← normal_decode done, ← type]
      exact decode_stored v

/-- Text with the number of a second before the epoch is read as that second, and comes back. -/
theorem second_comes_back :
    ∃ v, Codec.decode .epochSecondsZeroAbsent (.text " -1 ") = .ok v ∧ v.semantic = .timestamp ∧
      ∃ s', Codec.bind .epochSeconds v = .ok s' ∧
        Codec.decode .epochSecondsZeroAbsent s' = .ok v.present :=
  ⟨.timestamp (some ⟨-1, 0, by decide, by decide, by decide⟩), rfl,
    normal_form.2.2 .timestamp (.text " -1 ") _ rfl⟩

end Codec

end EntityStore
