import EntityStore.Proofs.Catalog.Row
import EntityStore.Proofs.Mapper.Working

/-! # Records that are read

What is known of the record of any row, whoever has stored it:

* `CompiledEntity.decodeRow_ok` — its columns are what is decoded of the values.
* `Mapper.keyOf_recordOf` — its key is the integer that the key of the row is.
-/

namespace EntityStore

open EntityStore.Engine (Row bind_eq_ok)
open EntityStore.Sql (Datum)

/-! ## Values -/

theorem Codec.semantic_decode {t : SemanticType} {x : StoredValue} {v : FieldValue}
    (done : Codec.decode t.decodeOp x = .ok v) : v.semantic = t := by
  cases t with
  | _ =>
    obtain ⟨_, _, done⟩ := bind_eq_ok done
    cases done
    rfl

theorem Codec.integerOf_number {op : DecodeOp} {d : Datum} {n : Int64} (isKey : d.IsKey)
    (number : d.isNumber n = true) : Codec.integerOf op d.toStored = .ok n := by
  cases d with
  | integer m =>
    rw [Datum.isNumber_integer, decide_eq_true_eq] at number
    rw [← number]
    rfl
  | real x =>
    have same : Number.Binary64.compareInt n.toInt x = .eq := by
      simpa [Datum.isNumber, Datum.compare] using number
    rw [Datum.toStored, integerOf, Number.Binary64.truncate_of_compareInt (isKey.number x rfl) same]
  | _ => simp [Datum.isNumber, Datum.compare, Datum.rank] at number

theorem Codec.narrowOf_number {op : DecodeOp} {bits : Nat} {d : Datum} {n : Int64} {m : Int}
    (isKey : d.IsKey) (number : d.isNumber n = true) (done : Codec.narrowOf op bits d.toStored = .ok m) :
    m = n.toInt ∧ Number.Fits bits m := by
  obtain ⟨k, known, done⟩ := bind_eq_ok done
  rw [integerOf_number isKey number] at known
  cases known
  dsimp only at done
  split at done
  · next fits =>
    cases done
    exact ⟨rfl, fits⟩
  · cases done

theorem Codec.decode_number {k : KeyType} {d : Datum} {n : Int64} {v : FieldValue} (isKey : d.IsKey)
    (number : d.isNumber n = true) (done : Codec.decode k.semantic.decodeOp d.toStored = .ok v) :
    v.toInt64? = some n := by
  -- A narrow key is read from a wide one that fits, so that widening it again gives the number.
  cases k with
  | int64 =>
    obtain ⟨m, known, done⟩ := bind_eq_ok done
    rw [integerOf_number isKey number] at known
    cases known
    cases done
    rfl
  | int16 =>
    obtain ⟨m, known, done⟩ := bind_eq_ok done
    obtain ⟨rfl, low, high⟩ := narrowOf_number isKey number known
    cases done
    refine congrArg some (Int64.toInt_inj.mp ?_)
    rw [Int16.toInt_toInt64, Int16.toInt_ofInt_of_le low high]
  | int32 =>
    obtain ⟨m, known, done⟩ := bind_eq_ok done
    obtain ⟨rfl, low, high⟩ := narrowOf_number isKey number known
    cases done
    refine congrArg some (Int64.toInt_inj.mp ?_)
    rw [Int32.toInt_toInt64, Int32.toInt_ofInt_of_le low high]

/-- A column that holds an integer holds it as it is. -/
theorem ColumnType.toInt64?_admitted (t : ColumnType) (v : FieldValue) :
    (t.admitted v).toInt64? = v.toInt64? := by
  cases t <;> cases v <;> rfl

/-! ## Rows -/

namespace CompiledEntity

variable {e : CompiledEntity}

theorem storeColumn_ok {record after : Record} {c : ColumnPlan} {access : Column} {x : StoredValue}
    (fits : c.Fits access) (done : e.storeColumn record c access x = .ok after) :
    ∃ v, Reads access (x, v) ∧ after = access.put record v := by
  obtain ⟨v, decoded, done⟩ := bind_eq_ok done
  rw [fits.decode] at decoded
  cases read : Codec.decode access.semantic.decodeOp x with
  | error failure => rw [read] at decoded; cases decoded
  | ok value =>
    rw [read] at decoded
    cases decoded
    have type := Codec.semantic_decode read
    rw [Column.store?_eq (type.trans fits.setter.symm)] at done
    cases done
    exact ⟨v, ⟨read, type⟩, rfl⟩

theorem decodeRow_ok (regular : e.Regular) {values : List StoredValue} {record : Record}
    (done : e.decodeRow values = .ok record) :
    ∃ cells : List (StoredValue × FieldValue), cells.map (·.1) = values
      ∧ List.Forall₂ Reads e.columns cells ∧ record = e.assembled (cells.map (·.2)) := by
  have columns := regular.columns
  rw [decodeRow] at done
  split at done
  · cases done
  next same =>
  rw [not_ne_iff] at same
  simp only [assembled]
  -- The entity itself only stands in failures from here on.
  revert columns same done
  generalize e.initial = start
  generalize e.plan.columns = plan
  generalize e.columns = accesses
  intro columns same done
  induction columns generalizing values start with
  | nil =>
    cases done
    exact ⟨[], (List.length_eq_zero_iff.mp same).symm, .nil, rfl⟩
  | @cons c access _ _ fits _ ih =>
    cases values with
    | nil => cases same
    | cons x values =>
      simp only [List.zip_cons_cons, List.foldlM_cons] at done
      obtain ⟨between, first, done⟩ := bind_eq_ok done
      obtain ⟨v, reads, rfl⟩ := storeColumn_ok fits first
      obtain ⟨cells, rfl, others, rfl⟩ := ih _ (Nat.succ.inj same) done
      exact ⟨(x, v) :: cells, rfl, .cons reads others, rfl⟩

end CompiledEntity

theorem Mapper.keyOf_recordOf {m : Mapper} (regular : m.entity.Regular)
    (lawful : m.entity.LawfulAt m.plan.primaryKey) {row : Row} {record : Record} {n : Int64}
    (isKey : (m.plan.keyAt row).IsKey) (number : (m.plan.keyAt row).isNumber n = true)
    (read : m.recordOf row = .ok record) : m.entity.keyOf record = n := by
  obtain ⟨c, access, _, there, _, type⟩ := regular.key
  obtain ⟨cells, values, reads, rfl⟩ := CompiledEntity.decodeRow_ok regular read
  obtain ⟨cell, here, decode, semantic⟩ := getElem?_of_forall₂ reads there
  -- The value that the key column reads is that of the key of the row.
  have stored : (row.map Datum.toStored)[m.plan.primaryKey]? = some cell.1 := by
    have place : ((row.map Datum.toStored).take m.plan.columns.length)[m.plan.primaryKey]? =
        some cell.1 := by
      rw [← values, List.getElem?_map]
      exact congrArg _ here
    rw [List.getElem?_take] at place
    split at place
    · exact place
    · cases place
  have key : cell.1 = (m.plan.keyAt row).toStored := by
    rw [List.getElem?_map, Option.map_eq_some_iff] at stored
    obtain ⟨d, found, same⟩ := stored
    rw [← same, MappingPlan.keyAt, List.getD_eq_getElem?_getD, found]
    rfl
  rw [type, key] at decode
  obtain ⟨_, _, fits⟩ := getElem?_of_forall₂_right regular.columns there
  have field := CompiledEntity.field_assembled lawful there
    (by rw [List.getElem?_map]; exact congrArg _ here) (semantic.trans fits.setter.symm)
  have same := Codec.decode_number isKey number decode
  rw [CompiledEntity.keyOf, show m.entity.columns[m.entity.plan.primaryKey]? = some access from there]
  simp only [field, ColumnType.toInt64?_admitted, same]
  rfl

end EntityStore
