import EntityStore.Proofs.Catalog.Compilation
import EntityStore.Proofs.Mapper.Working
import EntityStore.Proofs.Value.Codec

/-! # Records and their rows

What the table of an entity keeps of its records, and what is read from it:

* `MappingPlan.Spelled` — the names of a plan are identifiers that the engine keeps apart.
* `CompiledEntity.image`, `Mapper.stores_image` — the row of a record.
* `CompiledEntity.assembled`, `CompiledEntity.decodeRow_assembled` — a record from field values.
* `CompiledEntity.restored`, `Mapper.recordOf_image` — what comes back of a record.
* `CompiledEntity.Lawful`, `CompiledEntity.field_restored` — its columns, if the accessors fit.
-/

namespace EntityStore

open EntityStore.Engine (Row)
open EntityStore.Sql (Datum sameName isName)

/-- The names of a plan are identifiers that the engine accepts and keeps apart. -/
structure MappingPlan.Spelled (p : MappingPlan) : Prop where
  table : isName p.table = true
  columns : ∀ c ∈ p.columns, isName c.column = true
  apart : p.columns.Pairwise fun c d => sameName c.column d.column = false
  openTable : isOpen p.table = true
  openIndex : ∀ c ∈ p.indexedColumns, isOpen (c.indexName p.table) = true

theorem KeyType.affinity (t : KeyType) : t.semantic.affinity = .integer := by
  cases t <;> rfl

theorem CompiledEntity.Regular.accepted {e : CompiledEntity} (regular : e.Regular)
    (spelled : e.plan.Spelled) : e.plan.Accepted := by
  obtain ⟨c, access, here, there, name, type⟩ := regular.key
  obtain ⟨other, found, fits⟩ := getElem?_of_forall₂ regular.columns here
  rw [there, Option.some.injEq] at found
  subst found
  have key : e.plan.keyColumn ∈ e.plan.columnNames :=
    name ▸ List.mem_map_of_mem (List.mem_of_getElem? here)
  exact {
    table := spelled.table
    columns := spelled.columns
    key := key
    apart := spelled.apart
    keyPlace := ⟨c, here, name, by rw [fits.affinity, type, KeyType.affinity]⟩
    keyFlag := regular.flag
    openTable := spelled.openTable
    openIndex := spelled.openIndex }

/-! ## What is kept -/

theorem ColumnGetter.semantic_field (g : ColumnGetter) (record : Record) :
    (g.field record).semantic = g.type.semantic := ColumnType.semantic_toField ..

theorem FieldValue.cell_integer {v : FieldValue} {t : KeyType} (type : v.semantic = t.semantic) :
    v.cell = .integer (v.toInt64?.getD 0) := by
  rw [cell_eq]
  cases v <;> cases t <;> first | rfl | cases type

namespace CompiledEntity

/-- The row that the table of an entity keeps of a record. -/
def image (e : CompiledEntity) (record : Record) : Row :=
  e.columns.map fun access => (access.getter.field record).cell

variable {e : CompiledEntity}

theorem bindRow_eq (regular : e.Regular) (record : Record) :
    e.bindRow record = .ok (e.columns.map fun access => (access.getter.field record).stored) := by
  have bound : ∀ pair ∈ e.plan.columns.zip e.columns,
      (Codec.bind pair.1.bind (pair.2.getter.field record)).mapError (e.inColumn pair.1) =
        .ok (pair.2.getter.field record).stored := by
    intro pair member
    obtain ⟨i, here⟩ := List.getElem?_of_mem member
    rw [List.getElem?_zip_eq_some] at here
    obtain ⟨access, there, fits⟩ := getElem?_of_forall₂ regular.columns here.1
    rw [here.2, Option.some.injEq] at there
    subst there
    rw [fits.bind, ← fits.getter, ← ColumnGetter.semantic_field pair.2.getter record,
      Codec.bind_stored]
    rfl
  have accesses : (e.plan.columns.zip e.columns).map Prod.snd = e.columns :=
    List.map_snd_zip (Nat.le_of_eq regular.columns.length_eq.symm)
  rw [bindRow, mapM_eq_ok bound]
  conv => rhs; rw [← accesses, List.map_map]
  rfl

theorem kept_eq (regular : e.Regular) (record : Record) :
    e.plan.kept ((e.columns.map fun access => (access.getter.field record).stored).map .ofStored) =
      e.image record := by
  have columns := regular.columns
  simp only [MappingPlan.kept, image]
  generalize e.plan.columns = plan at columns
  generalize e.columns = accesses at columns
  induction columns with
  | nil => rfl
  | cons fits _ ih =>
    simp only [List.map_cons, List.zipWith_cons_cons, ih, List.cons.injEq, and_true]
    rw [FieldValue.cell, fits.affinity, ColumnGetter.semantic_field, fits.getter]

theorem keyAt_image (regular : e.Regular) (record : Record) :
    e.plan.keyAt (e.image record) = .integer (e.keyOf record) := by
  obtain ⟨c, access, here, there, _, type⟩ := regular.key
  obtain ⟨other, found, fits⟩ := getElem?_of_forall₂ regular.columns here
  rw [there, Option.some.injEq] at found
  subst found
  have semantic : (access.getter.field record).semantic = e.keyType.semantic := by
    rw [ColumnGetter.semantic_field, fits.getter, type]
  rw [MappingPlan.keyAt, image, List.getD_eq_getElem?_getD, List.getElem?_map, there, keyOf, there]
  exact FieldValue.cell_integer semantic

end CompiledEntity

theorem Mapper.stores_image {m : Mapper} (regular : m.entity.Regular) (record : Record) :
    m.Stores record (m.entity.image record) where
  binds := ⟨_, CompiledEntity.bindRow_eq regular record,
    (List.length_map _).trans regular.columns.length_eq.symm, CompiledEntity.kept_eq regular record⟩
  key := CompiledEntity.keyAt_image regular record

/-! ## What is read -/

def Column.put (access : Column) (record : Record) (v : FieldValue) : Record :=
  (access.setter.store? record v).getD record

theorem Column.store?_eq {access : Column} {v : FieldValue}
    (type : v.semantic = access.setter.type.semantic) (record : Record) :
    access.setter.store? record v = some (access.put record v) := by
  obtain ⟨carried, fits⟩ := Option.isSome_iff_exists.mp
    ((ColumnType.isSome_ofField? access.setter.type v).mpr type)
  rw [put, ColumnSetter.store?, fits]
  rfl

namespace CompiledEntity

/-- A record of the values of its columns, the rest of it as the constructor gives it. -/
def assembled (e : CompiledEntity) (values : List FieldValue) : Record :=
  (e.columns.zip values).foldl (fun record (access, v) => access.put record v) e.initial

structure Reads (access : Column) (x : StoredValue × FieldValue) : Prop where
  decode : Codec.decode access.semantic.decodeOp x.1 = .ok x.2
  type : x.2.semantic = access.semantic

variable {e : CompiledEntity}

theorem storeColumn_stored {record row : Record} {c : ColumnPlan} {access : Column} {x : StoredValue}
    {v : FieldValue} (read : Codec.decode c.decode x = .ok v)
    (stored : access.setter.store? record v = some row) : e.storeColumn record c access x = .ok row := by
  simp only [storeColumn, read, Except.mapError, bind, Except.bind, stored]
  rfl

theorem decodeRow_assembled (regular : e.Regular) {cells : List (StoredValue × FieldValue)}
    (reads : List.Forall₂ Reads e.columns cells) :
    e.decodeRow (cells.map (·.1)) = .ok (e.assembled (cells.map (·.2))) := by
  have columns := regular.columns
  have same : (cells.map (·.1)).length = e.columns.length := by
    rw [List.length_map, reads.length_eq]
  rw [decodeRow, if_neg (not_ne_iff.mpr same), assembled]
  clear same
  generalize e.initial = record
  -- The entity itself only stands in failures from here on.
  revert columns
  generalize e.plan.columns = plan
  generalize e.columns = accesses at reads
  intro columns
  induction columns generalizing cells record with
  | nil => cases reads; rfl
  | @cons c access _ _ fits _ ih =>
    cases reads with
    | @cons _ cell _ rest read later =>
      have stored : e.storeColumn record c access cell.1 = .ok (access.put record cell.2) := by
        have type : cell.2.semantic = access.setter.type.semantic := read.type.trans fits.setter.symm
        exact storeColumn_stored (by rw [fits.decode, read.decode]) (Column.store?_eq type record)
      simp only [List.map_cons, List.zip_cons_cons, List.foldlM_cons, List.foldl_cons]
      rw [stored]
      exact ih _ later

/-- What comes back of a record that a table keeps. -/
def restored (e : CompiledEntity) (record : Record) : Record :=
  e.assembled (e.columns.map fun access => (access.getter.field record).settled)

theorem decodeRow_image (regular : e.Regular) (record : Record) :
    e.decodeRow ((e.image record).map Datum.toStored) = .ok (e.restored record) := by
  have reads : List.Forall₂ Reads e.columns (e.columns.map fun access =>
      ((access.getter.field record).cell.toStored, (access.getter.field record).settled)) := by
    refine List.forall₂_map_right_iff.mpr (List.forall₂_same.mpr fun access member => ?_)
    obtain ⟨i, here⟩ := List.getElem?_of_mem member
    obtain ⟨c, _, fits⟩ := getElem?_of_forall₂_right regular.columns here
    have type : (access.getter.field record).semantic = access.semantic := by
      rw [ColumnGetter.semantic_field, fits.getter]
    refine ⟨?_, by rw [FieldValue.semantic_settled, type]⟩
    rw [← type]
    exact Codec.decode_cell _
  have decoded := decodeRow_assembled regular reads
  simp only [List.map_map, Function.comp_def] at decoded
  rw [image, List.map_map]
  exact decoded

end CompiledEntity

theorem Mapper.recordOf_image {m : Mapper} (regular : m.entity.Regular) (record : Record) :
    m.recordOf (m.entity.image record) = .ok (m.entity.restored record) := by
  have width : ((m.entity.image record).map Datum.toStored).length = m.plan.columns.length := by
    rw [List.length_map, CompiledEntity.image, List.length_map]
    exact regular.columns.length_eq.symm
  rw [recordOf, ← width, List.take_length]
  exact CompiledEntity.decodeRow_image regular record

/-! ## Lawful accessors -/

/-- A field value as a column of a type holds it: absence is emptiness where the type does not admit
    it. -/
def ColumnType.admitted (t : ColumnType) (v : FieldValue) : FieldValue :=
  ((t.ofField? v).map t.toField).getD v

/-- What is read back of a column of the type is held as it is. -/
theorem ColumnType.admitted_settled (t : ColumnType) (v : t.Carrier) :
    t.admitted (t.toField v).settled = (t.toField v).settled := by
  cases t with
  | optionalTimestamp => cases v <;> rfl
  | _ => rfl

theorem ColumnGetter.field_property (t : ColumnType) (name : String) (record : Record) (v : t.Carrier) :
    (ColumnGetter.property t name).field ((ColumnSetter.property t name).write record v) =
      t.toField v := by
  simp [property, ColumnSetter.property, field]

namespace CompiledEntity

/-- A column reads back what has been written to it, and nothing that is written to another. -/
structure Lawful (e : CompiledEntity) : Prop where
  same : ∀ access ∈ e.columns, ∀ record v,
    access.getter.field (access.setter.write record v) = access.setter.type.toField v
  other : ∀ (i j : Nat) access another, e.columns[i]? = some access → e.columns[j]? = some another → i ≠ j →
    ∀ record v, another.getter.field (access.setter.write record v) = another.getter.field record

structure LawfulAt (e : CompiledEntity) (i : Nat) : Prop where
  same : ∀ access, e.columns[i]? = some access → ∀ record v,
    access.getter.field (access.setter.write record v) = access.setter.type.toField v
  other : ∀ (j : Nat) access another, e.columns[i]? = some access → e.columns[j]? = some another → j ≠ i →
    ∀ record v, access.getter.field (another.setter.write record v) = access.getter.field record

theorem Lawful.at {e : CompiledEntity} (lawful : e.Lawful) (i : Nat) : e.LawfulAt i where
  same access here := lawful.same access (List.mem_of_getElem? here)
  other j access another here there apart := lawful.other j i another access there here apart

def property (type : ColumnType) (name : String) : Column :=
  ⟨type.semantic, .property type name, .property type name⟩

/-- Properties under names of their own are lawful columns. -/
theorem Lawful.properties {e : CompiledEntity} {columns : List (ColumnType × String)}
    (same : e.columns = columns.map fun c => property c.1 c.2) (apart : (columns.map (·.2)).Nodup) :
    e.Lawful where
  same access member record v := by
    rw [same] at member
    obtain ⟨c, _, rfl⟩ := List.mem_map.mp member
    exact ColumnGetter.field_property c.1 c.2 record v
  other i j access another here there different record v := by
    rw [same, List.getElem?_map, Option.map_eq_some_iff] at here there
    obtain ⟨c, first, rfl⟩ := here
    obtain ⟨d, second, rfl⟩ := there
    have names : d.2 ≠ c.2 := by
      intro equal
      have bound : i < (columns.map (·.2)).length := by
        rw [List.length_map]
        exact (List.getElem?_eq_some_iff.mp first).1
      exact different ((List.getElem?_inj bound apart).mp (by simp [first, second, equal]))
    simp [property, ColumnGetter.property, ColumnSetter.property, ColumnGetter.field, names]

variable {e : CompiledEntity}

theorem field_assembled {i : Nat} (lawful : e.LawfulAt i) {values : List FieldValue}
    {access : Column} {v : FieldValue} (here : e.columns[i]? = some access) (value : values[i]? = some v)
    (type : v.semantic = access.setter.type.semantic) :
    access.getter.field (e.assembled values) = access.setter.type.admitted v := by
  have reads : ∀ record, access.getter.field (access.put record v) = access.setter.type.admitted v := by
    intro record
    obtain ⟨carried, fits⟩ := Option.isSome_iff_exists.mp
      ((ColumnType.isSome_ofField? access.setter.type v).mpr type)
    simp only [Column.put, ColumnSetter.store?, ColumnType.admitted, fits, Option.map_some,
      Option.getD_some]
    exact lawful.same access here record carried
  have ignores : ∀ (j : Nat) other w, e.columns[j]? = some other → j ≠ i → ∀ record,
      access.getter.field (other.put record w) = access.getter.field record := by
    intro j other w there apart record
    simp only [Column.put, ColumnSetter.store?]
    cases other.setter.type.ofField? w with
    | none => rfl
    | some carried => exact lawful.other j access other here there apart record carried
  -- After the column has been written, only other columns are.
  have after : ∀ (pairs : List (Column × FieldValue)) record (k : Nat), i < k →
      (∀ (j : Nat) pair, pairs[j]? = some pair → e.columns[k + j]? = some pair.1) →
      access.getter.field (pairs.foldl (fun record (access, v) => access.put record v) record) =
        access.getter.field record := by
    intro pairs
    induction pairs with
    | nil => exact fun _ _ _ _ => rfl
    | cons pair rest ih =>
      intro record k later placed
      rw [List.foldl_cons, ih _ (k + 1) (by omega) fun j other there => by
        rw [show k + 1 + j = k + (j + 1) by omega]; exact placed (j + 1) other there]
      exact ignores k pair.1 pair.2 (placed 0 pair rfl) (by omega) record
  -- The columns before it may have written what they like.
  have located : (e.columns.zip values)[i]? = some (access, v) := by
    rw [List.getElem?_zip_eq_some]
    exact ⟨here, value⟩
  obtain ⟨bound, same⟩ := List.getElem?_eq_some_iff.mp located
  rw [assembled, ← List.take_append_drop i (e.columns.zip values), List.foldl_append,
    List.drop_eq_getElem_cons bound, same, List.foldl_cons, after _ _ (i + 1) (by omega)]
  · exact reads _
  · intro j pair there
    rw [List.getElem?_drop, List.getElem?_zip_eq_some] at there
    exact there.1

/-- The columns of what comes back of a record. -/
theorem field_restored (regular : e.Regular) (lawful : e.Lawful) (record : Record) {access : Column}
    (member : access ∈ e.columns) : access.getter.field (e.restored record) =
      access.setter.type.admitted (access.getter.field record).settled := by
  obtain ⟨i, here⟩ := List.getElem?_of_mem member
  obtain ⟨c, _, fits⟩ := getElem?_of_forall₂_right regular.columns here
  refine field_assembled (lawful.at i) here (by rw [List.getElem?_map, here]; rfl) ?_
  rw [FieldValue.semantic_settled, ColumnGetter.semantic_field, fits.getter, fits.setter]

end CompiledEntity

end EntityStore
