import EntityStore.Proofs.Catalog.Decoding
import EntityStore.Proofs.Catalog.Analysis
import EntityStore.Proofs.Store.Failing

/-! # Compiled entities are type-safe

The types that a declaration names, the accessors, the plan and the codec agree in every entity that a
catalog compiles, so the failures for where they do not are never seen:

* `CompiledEntity.TypeSafe` — what rows can be relied on.
* `CompiledEntity.decodeRow_error_iff` — a row is not read exactly if the codec rejects a value of it.
* `Mapper.load_decode` — a read of a table fails on the content of a row only for that reason.
* `CompiledCatalog.typeSafe` — compiled entities are safe.
-/

namespace EntityStore

open EntityStore.Engine (bind_eq_ok)
open EntityStore.Session (Fails)

def Affinity.Suits : Affinity → StoredValue → Prop
  | .integer, .integer _ => True
  | .real, .real _ => True
  | .text, .text _ => True
  | .blob, .blob _ => True
  | _, _ => False

/-- What is bound is of the class of its column, unless it is an absent blob. -/
theorem FieldValue.stored_suits (v : FieldValue) :
    v.semantic.affinity.Suits v.stored ∨ v = .blob none ∧ v.stored = .null := by
  cases v with
  | timestamp t => cases t <;> exact .inl trivial
  | blob b =>
    cases b with
    | none => exact .inr ⟨rfl, rfl⟩
    | some bytes => exact .inl trivial
  | _ => exact .inl trivial

theorem KeyType.ofInt64?_eq {t : KeyType} {n : Int64} (fits : Number.Fits t.bits n.toInt) :
    t.ofInt64? n = some n := if_pos (decide_eq_true fits)

theorem FieldValue.toInt64?_key {v : FieldValue} {t : KeyType} (type : v.semantic = t.semantic) :
    ∃ n, v.toInt64? = some n ∧ t.ofInt64? n = some n := by
  cases t with
  | int16 =>
    cases v with
    | int16 n =>
      refine ⟨n.toInt64, rfl, KeyType.ofInt64?_eq ?_⟩
      rw [Int16.toInt_toInt64]
      exact ⟨n.le_toInt, n.toInt_lt⟩
    | _ => cases type
  | int32 =>
    cases v with
    | int32 n =>
      refine ⟨n.toInt64, rfl, KeyType.ofInt64?_eq ?_⟩
      rw [Int32.toInt_toInt64]
      exact ⟨n.le_toInt, n.toInt_lt⟩
    | _ => cases type
  | int64 =>
    cases v with
    | int64 n => exact ⟨n, rfl, KeyType.ofInt64?_eq ⟨n.le_toInt, n.toInt_lt⟩⟩
    | _ => cases type

/-! ## What the codec rejects -/

namespace Codec

variable {op : DecodeOp} {x : StoredValue} {failure : Failure}

def Mismatch (op : DecodeOp) (failure : Failure) : Prop := ∃ x detail, failure = decodeMismatch op x detail

theorem integerOf_error (failed : integerOf op x = .error failure) : Mismatch op failure := by
  cases x with
  | text s =>
    rw [integerOf] at failed
    split at failed
    · cases failed
    · cases failed; exact ⟨_, _, rfl⟩
  | blob _ => cases failed; exact ⟨_, _, rfl⟩
  | _ => cases failed

theorem realOf_error (failed : realOf op x = .error failure) : Mismatch op failure := by
  cases x with
  | text s =>
    rw [realOf] at failed
    split at failed
    · cases failed
    · cases failed; exact ⟨_, _, rfl⟩
  | blob _ => cases failed; exact ⟨_, _, rfl⟩
  | _ => cases failed

theorem narrowOf_error {bits : Nat} (failed : narrowOf op bits x = .error failure) :
    Mismatch op failure := by
  rcases bind_eq_error.mp failed with failed | ⟨n, _, failed⟩
  · exact integerOf_error failed
  · dsimp only at failed
    split at failed
    · cases failed
    · cases failed; exact ⟨_, _, rfl⟩

theorem textOf_error (failed : textOf op x = .error failure) : Mismatch op failure := by
  cases x with
  | blob _ =>
    rw [textOf] at failed
    split at failed
    · cases failed
    · cases failed; exact ⟨_, _, rfl⟩
  | _ => cases failed

theorem timestampOf_error (failed : timestampOf op x = .error failure) : Mismatch op failure := by
  rcases bind_eq_error.mp failed with failed | ⟨n, _, failed⟩
  · exact integerOf_error failed
  · dsimp only at failed
    split at failed
    · cases failed
    · split at failed
      · cases failed
      · cases failed; exact ⟨_, _, rfl⟩

theorem bytesOf_error (failed : bytesOf op x = .error failure) : Mismatch op failure := by
  cases x with
  | integer _ => cases failed; exact ⟨_, _, rfl⟩
  | real _ => cases failed; exact ⟨_, _, rfl⟩
  | _ => cases failed

theorem decode_error (failed : decode op x = .error failure) : Mismatch op failure := by
  -- Each operation reads the stored value first, and only that can fail.
  cases op with
  | int8 | int16 | int32 =>
    rcases bind_eq_error.mp failed with failed | ⟨_, _, done⟩
    · exact narrowOf_error failed
    · cases done
  | int64 | boolEqualsOne =>
    rcases bind_eq_error.mp failed with failed | ⟨_, _, done⟩
    · exact integerOf_error failed
    · cases done
  | float32 | float64 =>
    rcases bind_eq_error.mp failed with failed | ⟨_, _, done⟩
    · exact realOf_error failed
    · cases done
  | textOrAbsent =>
    rcases bind_eq_error.mp failed with failed | ⟨_, _, done⟩
    · exact textOf_error failed
    · cases done
  | epochSecondsZeroAbsent =>
    rcases bind_eq_error.mp failed with failed | ⟨_, _, done⟩
    · exact timestampOf_error failed
    · cases done
  | blobOrAbsent =>
    rcases bind_eq_error.mp failed with failed | ⟨_, _, done⟩
    · exact bytesOf_error failed
    · cases done

end Codec

/-! ## Rows -/

def ColumnPlan.Rejects (x : ColumnPlan × StoredValue) : Prop :=
  ∃ failure, Codec.decode x.1.decode x.2 = .error failure

namespace CompiledEntity

variable {e : CompiledEntity}

theorem storeColumn_cases {c : ColumnPlan} {access : Column} (fits : c.Fits access) (record : Record)
    (x : StoredValue) :
    (∃ v after, Codec.decode c.decode x = .ok v ∧ e.storeColumn record c access x = .ok after)
      ∨ ∃ failure, Codec.decode c.decode x = .error failure
        ∧ e.storeColumn record c access x = .error (e.inColumn c failure) := by
  cases read : Codec.decode c.decode x with
  | error failure =>
    refine .inr ⟨failure, rfl, ?_⟩
    rw [storeColumn, read]
    rfl
  | ok v =>
    have type : v.semantic = access.setter.type.semantic :=
      (Codec.semantic_decode (fits.decode ▸ read)).trans fits.setter.symm
    exact .inl ⟨v, access.put record v, rfl, storeColumn_stored read (Column.store?_eq type record)⟩

theorem decodeRow_error_iff (regular : e.Regular) {values : List StoredValue}
    (wide : values.length = e.plan.columns.length) {failure : Failure} :
    e.decodeRow values = .error failure ↔ ∃ c x rejection,
      First ColumnPlan.Rejects (e.plan.columns.zip values) (c, x)
        ∧ Codec.decode c.decode x = .error rejection ∧ failure = e.inColumn c rejection := by
  have columns := regular.columns
  rw [decodeRow, if_neg (not_ne_iff.mpr (wide.trans columns.length_eq))]
  -- The entity itself only stands in failures from here on.
  revert columns wide
  generalize e.initial = record
  generalize e.plan.columns = plan
  generalize e.columns = accesses
  intro wide columns
  induction columns generalizing values record with
  | nil =>
    constructor
    · rintro ⟨⟩
    · rintro ⟨c, x, rejection, first, _⟩
      exact absurd first First.not_nil
  | @cons c access plan accesses fits _ ih =>
    cases values with
    | nil => cases wide
    | cons x values =>
      simp only [List.zip_cons_cons, List.foldlM_cons, First.cons_iff]
      rcases storeColumn_cases (e := e) fits record x with ⟨v, after, read, done⟩ | ⟨rejection, rejected, failed⟩
      · have accepts : ¬ColumnPlan.Rejects (c, x) := by
          rintro ⟨rejection, rejected⟩
          rw [read] at rejected
          cases rejected
        rw [done]
        simp only [accepts, false_and, false_or, not_false_eq_true, true_and]
        exact ih after (Nat.succ.inj wide)
      · rw [failed]
        constructor
        · rintro ⟨⟩
          exact ⟨c, x, rejection, .inl ⟨⟨rejection, rejected⟩, rfl⟩, rejected, rfl⟩
        · rintro ⟨_, _, other, ⟨_, ⟨⟩⟩ | ⟨accepts, _⟩, rejected', rfl⟩
          · rw [rejected] at rejected'
            cases rejected'
            rfl
          · exact absurd ⟨rejection, rejected⟩ accepts

theorem keyOf_field (regular : e.Regular) : ∃ c access, e.plan.columns[e.plan.primaryKey]? = some c
    ∧ e.columns[e.plan.primaryKey]? = some access ∧ c.primaryKey = true
    ∧ ∀ record, (access.getter.field record).semantic = e.keyType.semantic
      ∧ (access.getter.field record).toInt64? = some (e.keyOf record)
      ∧ e.typedKeyOf record = .ok (e.keyOf record)
      ∧ e.keyType.ofInt64? (e.keyOf record) = some (e.keyOf record) := by
  obtain ⟨c, access, here, there, _, type⟩ := regular.key
  obtain ⟨_, _, fits⟩ := getElem?_of_forall₂_right regular.columns there
  have flag : c.primaryKey = true := by rw [regular.flag _ c here, decide_eq_true_eq]
  refine ⟨c, access, here, there, flag, fun record => ?_⟩
  have semantic : (access.getter.field record).semantic = e.keyType.semantic := by
    rw [ColumnGetter.semantic_field, fits.getter, type]
  obtain ⟨n, integer, admitted⟩ := FieldValue.toInt64?_key semantic
  have key : e.keyOf record = n := by
    rw [keyOf, there]
    simp only [integer, Option.getD_some]
  rw [typedKeyOf, key, admitted]
  exact ⟨semantic, integer, rfl, rfl⟩

theorem bindRow_suits (regular : e.Regular) (record : Record) :
    ∃ values, e.bindRow record = .ok values ∧ values.length = e.plan.columns.length
      ∧ ∀ (i : Nat) c access x, e.plan.columns[i]? = some c → e.columns[i]? = some access →
        values[i]? = some x → c.affinity.Suits x
          ∨ c.affinity = .blob ∧ x = .null ∧ access.getter.field record = .blob none := by
  refine ⟨_, bindRow_eq regular record, by rw [List.length_map, regular.columns.length_eq], ?_⟩
  intro i c access x here there value
  obtain ⟨_, found, fits⟩ := getElem?_of_forall₂ regular.columns here
  rw [there, Option.some.injEq] at found
  subst found
  rw [List.getElem?_map, there] at value
  cases value
  have affinity : c.affinity = (access.getter.field record).semantic.affinity := by
    rw [fits.affinity, ColumnGetter.semantic_field, fits.getter]
  rcases FieldValue.stored_suits (access.getter.field record) with suits | ⟨absent, none⟩
  · exact .inl (affinity ▸ suits)
  · refine .inr ⟨?_, none, absent⟩
    rw [affinity, absent]
    rfl

end CompiledEntity

/-! ## Reads of a table -/

theorem length_readRow {width : Nat} {row values : List StoredValue}
    (read : readRow width row = .ok values) : values.length = width := by
  rw [readRow] at read
  split at read
  · cases read
  · next wide =>
    cases read
    rw [List.length_take]
    omega

theorem readRow_error {width : Nat} {row : List StoredValue} {failure : Failure}
    (failed : readRow width row = .error failure) : failure.OfConnection := by
  rw [readRow] at failed
  split at failed
  · cases failed
    simp [Failure.OfConnection]
  · cases failed

namespace Mapper

theorem fails_load (m : Mapper) (text : String) (parameters : List StoredValue) :
    Fails (fun failure => failure.OfConnection ∨ ∃ values, values.length = m.plan.columns.length
      ∧ m.entity.decodeRow values = .error failure) (m.load text parameters) := by
  have asked (id : Nat) : Fails Failure.OfConnection (do
      m.countQuery
      Session.rows id (← Session.prepareCached id text) parameters) :=
    .bind (.change _) fun _ => .bind (Session.fails_prepareCached text) fun p => Session.fails_rows p _
  refine .bind (.imp (fun _ => .inl) (m.fails_withTable (fun _ known => known) asked)) fun answer => ?_
  rw [Session.mapM_ofExcept]
  refine .ofExcept_bind (fun failure failed => ?_) fun raw read => ?_
  · obtain ⟨row, _, failed⟩ := mapM_eq_error.mp failed
    exact .inl (readRow_error failed)
  · rw [Session.mapM_ofExcept]
    refine .ofExcept_bind (fun failure failed => ?_) fun rows _ => .bind (.change _) fun _ => .pure _
    obtain ⟨values, first, failed⟩ := mapM_eq_error.mp failed
    obtain ⟨row, _, read⟩ := Engine.mem_of_mapM read values first.mem
    exact .inr ⟨values, length_readRow read, failed⟩

end Mapper

/-! ## Compiled entities -/

/-- What can be relied on in an entity. -/
structure CompiledEntity.TypeSafe (e : CompiledEntity) : Prop where
  /-- Every record is bound, with one value for each column of the plan and of the class of its
      affinity, or null for an absent blob. -/
  binds : ∀ record, ∃ values, e.bindRow record = .ok values ∧ values.length = e.plan.columns.length
    ∧ ∀ (i : Nat) c access x, e.plan.columns[i]? = some c → e.columns[i]? = some access →
      values[i]? = some x → c.affinity.Suits x
        ∨ c.affinity = .blob ∧ x = .null ∧ access.getter.field record = .blob none
  /-- Values as wide as the plan are read unless the codec rejects one of them. -/
  reads : ∀ values, values.length = e.plan.columns.length → ∀ failure,
    e.decodeRow values = .error failure ↔ ∃ c x rejection,
      First ColumnPlan.Rejects (e.plan.columns.zip values) (c, x)
        ∧ Codec.decode c.decode x = .error rejection ∧ failure = e.inColumn c rejection
  /-- A mapper reads such values only; when it fails for what they are, the codec is what has failed. -/
  loads : ∀ m : Mapper, m.entity = e → ∀ text parameters,
    Fails (fun failure => failure.OfConnection ∨ failure.op = some "decode"
      ∧ ∃ values, values.length = e.plan.columns.length ∧ e.decodeRow values = .error failure)
      (m.load text parameters)
  /-- The key of a record is the integer in its key column, and one of the key type. -/
  key : ∃ c access, e.plan.columns[e.plan.primaryKey]? = some c
    ∧ e.columns[e.plan.primaryKey]? = some access ∧ c.primaryKey = true
    ∧ ∀ record, (access.getter.field record).semantic = e.keyType.semantic
      ∧ (access.getter.field record).toInt64? = some (e.keyOf record)
      ∧ e.typedKeyOf record = .ok (e.keyOf record)
      ∧ e.keyType.ofInt64? (e.keyOf record) = some (e.keyOf record)

theorem CompiledEntity.Regular.safe {e : CompiledEntity} (regular : e.Regular) : e.TypeSafe where
  binds := bindRow_suits regular
  reads := fun _ wide _ => decodeRow_error_iff regular wide
  loads := by
    rintro m rfl text parameters
    refine .imp (fun failure failed => ?_) (m.fails_load text parameters)
    rcases failed with known | ⟨values, wide, failed⟩
    · exact .inl known
    · obtain ⟨c, x, rejection, _, rejected, same⟩ := (decodeRow_error_iff regular wide).mp failed
      obtain ⟨y, detail, same'⟩ := Codec.decode_error rejected
      exact .inr ⟨by rw [same, same']; rfl, values, wide, failed⟩
  key := keyOf_field regular

/-- The entities of a catalog that compiles are safe, whatever has been declared. -/
theorem CompiledCatalog.typeSafe {models : List Model} {compiled : CompiledCatalog}
    (done : ((({} : Catalog).registerAll models).1.compile).1 = .ok compiled) :
    ∀ e ∈ compiled.entities, e.TypeSafe := by
  have empty : ({} : Catalog).Checked := ⟨fun _ member => absurd member List.not_mem_nil, .nil⟩
  have checked := empty.registerAll models
  intro e member
  exact ((checked.check (Catalog.compile_ok done)).entities e member).safe

/-- An entity with a key that is bound, a title that the convention finds accessors for, and a cover
    that may be absent. -/
def Model.page : Model where
  qualifiedName := "Page"
  keyType := .int32
  initial := some .empty
  fields := [
    { name := "id", semantic := .int32, primaryKey := true
      binding := some (.property .int32 "id") },
    { name := "title", semantic := .text },
    { name := "cover", semantic := .blob
      binding := some (.property .optionalBytes "cover") }]
  methods := [
    ⟨"getTitle", false, .get (.property .text "title")⟩,
    ⟨"setTitle", false, .set (.property .text "title")⟩]

theorem CompiledCatalog.typeSafe_page : ∃ compiled,
    ((({} : Catalog).registerAll [.page]).1.compile).1 = .ok compiled
      ∧ compiled.plans.map (·.columnNames) = [["id", "title", "cover"]]
      ∧ ∀ e ∈ compiled.entities, e.TypeSafe :=
  ⟨_, rfl, rfl, @typeSafe [.page] _ rfl⟩

end EntityStore
