import EntityStore.Proofs.Table.Frame

/-! # Versions of one table

Plans of one table of which the newer has all columns of the older:

* `Text.lowercase_ascii` — what lower case is for names of ASCII characters.
* `GrowsInto.ascii`, `GrowsInto.trans` — when a plan grows into another, in one step or in several.
* `Serves.grow` — the rows that the newer plan reads where the older one has written.
* `Table.Extends`, `In.extends` — nothing that is stored goes or changes.
-/

namespace EntityStore

open EntityStore.Engine (Database Table Row)
open EntityStore.Sql (Datum sameName foldWord)

/-! ## Letters -/

namespace Text

def isAscii (s : String) : Bool := s.toList.all fun c => c.toNat < 128

theorem lower_ascii {c : Char} (ascii : c.toNat < 128) : lower c = [c.toLower] := by
  have each : ∀ n < 128, lower (Char.ofNat n) = [(Char.ofNat n).toLower] := by decide +kernel
  have same : Char.ofNat c.toNat = c := Char.ofNat_toNat c
  rw [← same]
  exact each c.toNat ascii

theorem lowerAfter_ascii (before : List Char) {cs : List Char} (ascii : ∀ c ∈ cs, c.toNat < 128) :
    lowerAfter before cs = cs.map Char.toLower := by
  induction cs generalizing before with
  | nil => rfl
  | cons c rest ih =>
    have small := ascii c (List.mem_cons_self ..)
    have others := ih (c :: before) fun d member => ascii d (List.mem_cons_of_mem _ member)
    rw [lowerAfter, others, lower_ascii small]
    · rfl
    · rintro rfl
      exact absurd small (by decide)

/-- Texts of ASCII characters have the engine's lower case. -/
theorem lowercase_ascii {s : String} (ascii : isAscii s = true) : lowercase s = foldWord s := by
  rw [lowercase, foldWord, lowerAfter_ascii]
  simpa [isAscii] using ascii

end Text

/-- A table that has all the rows of another, with each of its values under the name of its column. -/
structure Engine.Table.Extends (newer older : Table) : Prop where
  length : newer.rows.length = older.rows.length
  values : ∀ (i : Nat) row (j : Nat) c, older.rows[i]? = some row → older.columns[j]? = some c →
    ∃ (row' : Row) (k : Nat) (c' : Engine.Column), newer.rows[i]? = some row' ∧ newer.columns[k]? = some c'
      ∧ c'.name = c.name ∧ row'.getD k .null = row.getD j .null

namespace MappingPlan

variable {p q r : MappingPlan} {rows : List Row} {db before after : Database}
  {layout newer : List ColumnPlan}

/-! ## Growing -/

theorem Sound.primaryKey_eq (sound : p.Sound) {c : ColumnPlan} (member : c ∈ p.columns) :
    c.primaryKey = decide (c.column = p.keyColumn) := by
  obtain ⟨i, here⟩ := List.getElem?_of_mem member
  obtain ⟨key, there, name, _⟩ := sound.keyPlace
  rw [sound.keyFlag i c here, decide_eq_decide]
  constructor
  · rintro rfl
    rw [there, Option.some.injEq] at here
    rw [← here, name]
  · intro same
    rw [← placeOf_column sound.apart here, same, ← name, placeOf_column sound.apart there]

/-- Among names of ASCII characters a plan grows into another that has all its columns. -/
theorem GrowsInto.ascii (old : q.Sound) (sound : p.Sound)
    (ascii : ∀ d ∈ p.columns, Text.isAscii d.column = true) (table : q.table = p.table)
    (key : q.keyColumn = p.keyColumn)
    (columns : ∀ c ∈ q.columns, ∃ d ∈ p.columns, d.column = c.column ∧ d.affinity = c.affinity) :
    q.GrowsInto p where
  sound := old
  table := table
  key := key
  columns c member := by
    obtain ⟨d, listed, name, affinity⟩ := columns c member
    refine ⟨d, listed, name, affinity, ?_⟩
    rw [sound.primaryKey_eq listed, old.primaryKey_eq member, name, key]
  lower d member _ e listed same := by
    rw [Text.lowercase_ascii (ascii e listed), Text.lowercase_ascii (ascii d member)] at same
    exact column_unique sound.apart listed member (decide_eq_true same)

theorem GrowsInto.trans (sound : p.Sound) (first : r.GrowsInto q) (second : q.GrowsInto p) :
    r.GrowsInto p where
  sound := first.sound
  table := first.table.trans second.table
  key := first.key.trans second.key
  columns c member := by
    obtain ⟨d, listed, name, affinity, flag⟩ := first.columns c member
    obtain ⟨e, known, name', affinity', flag'⟩ := second.columns d listed
    exact ⟨e, known, name'.trans name, affinity'.trans affinity, flag'.trans flag⟩
  lower d member absent e listed same := by
    by_cases old : d.column ∈ q.columnNames
    · by_cases other : e.column ∈ q.columnNames
      · -- Both are columns of the plan between, where the older plan lacks the first.
        obtain ⟨d', known, name⟩ := List.mem_map.mp old
        obtain ⟨e', stated, letters⟩ := List.mem_map.mp other
        have equal := first.lower d' known (name ▸ absent) e' stated (by rw [letters, name, same])
        refine column_unique sound.apart listed member ?_
        rw [← letters, ← name, equal]
        simp [sameName]
      · exact (second.lower e listed other d member same.symm).symm
    · exact second.lower d member old e listed same

theorem placeOf_congr {a b : String} (same : sameName a b = true) : p.placeOf a = p.placeOf b := by
  rw [placeOf, placeOf]
  congr 1
  funext c
  rw [sameName_comm, sameName_trans same, sameName_comm]

/-- What is picked in two steps is picked at once. -/
theorem picked_trans (columns : ∀ c ∈ r.columns, ∃ d ∈ q.columns, d.column = c.column) {row : Row}
    (wide : row.length = r.columns.length) :
    q.picked p.columns (r.picked q.columns row) = r.picked p.columns row := by
  refine List.map_congr_left fun d _ => ?_
  rw [picked, List.getD_eq_getElem?_getD, List.getElem?_map]
  cases here : q.columns[q.placeOf d.column]? with
  | some c =>
    have named : sameName c.column d.column = true := by
      obtain ⟨bound, same⟩ := List.getElem?_eq_some_iff.mp here
      rw [← same]
      exact List.findIdx_getElem (w := bound)
    simp [placeOf_congr named]
  | none =>
    -- What the plan between does not have, the oldest does not have either.
    have nowhere : r.placeOf d.column = r.columns.length := by
      refine List.findIdx_eq_length.mpr fun c member => ?_
      obtain ⟨e, listed, name⟩ := columns c member
      have absent := List.findIdx_eq_length.mp
        (Nat.le_antisymm List.findIdx_le_length (List.getElem?_eq_none_iff.mp here)) e listed
      rwa [name] at absent
    rw [nowhere, ← wide]
    simp

/-- Where the mapper of a plan reads rows, that of a plan that it grows into reads them with nothing in
    the columns that are new. -/
theorem Serves.grow (sound : p.Sound) (grows : q.GrowsInto p) (serves : q.Serves rows db) :
    p.Serves (rows.map (q.picked p.columns)) db := by
  cases serves with
  | absent table none => exact .absent (grows.table ▸ table) (by rw [none]; rfl)
  | older r layout stored first table wide same =>
    refine .older r layout stored (first.trans sound grows) table wide ?_
    rw [same, List.map_map]
    exact List.map_congr_left fun row member => picked_trans
      (fun c listed => by
        obtain ⟨d, known, name, _⟩ := first.columns c listed
        exact ⟨d, known, name⟩) (wide row member)

/-! ## Keys -/

theorem GrowsInto.keyAt (sound : p.Sound) (grows : q.GrowsInto p) (row : Row) :
    p.keyAt (q.picked p.columns row) = q.keyAt row := by
  obtain ⟨c, here, name, _⟩ := sound.keyPlace
  obtain ⟨d, there, name', _⟩ := grows.sound.keyPlace
  rw [MappingPlan.keyAt, picked, List.getD_eq_getElem?_getD, List.getElem?_map, here, Option.map_some,
    Option.getD_some, name, ← grows.key, ← name', placeOf_column grows.sound.apart there]
  rfl

theorem GrowsInto.rowsOf (sound : p.Sound) (grows : q.GrowsInto p) (keys : List Int64)
    (rows : List Row) : p.rowsOf keys (rows.map (q.picked p.columns)) =
      (q.rowsOf keys rows).map (q.picked p.columns) := by
  simp only [MappingPlan.rowsOf, List.filter_map, Function.comp_def, grows.keyAt sound]

theorem GrowsInto.fits (sound : p.Sound) (grows : q.GrowsInto p) (fits : q.Fits rows) :
    p.Fits (rows.map (q.picked p.columns)) where
  wide row member := by
    obtain ⟨_, _, rfl⟩ := List.mem_map.mp member
    exact length_picked ..
  keys row member := by
    obtain ⟨old, listed, rfl⟩ := List.mem_map.mp member
    rw [grows.keyAt sound]
    exact fits.keys old listed

theorem GrowsInto.ordered (sound : p.Sound) (grows : q.GrowsInto p) (ordered : q.Ordered rows) :
    p.Ordered (rows.map (q.picked p.columns)) := by
  rw [Ordered, List.pairwise_map]
  simp only [grows.keyAt sound]
  exact ordered

theorem GrowsInto.numbered (sound : p.Sound) (grows : q.GrowsInto p) (numbered : q.Numbered rows) :
    p.Numbered (rows.map (q.picked p.columns)) := by
  intro row member
  obtain ⟨old, listed, rfl⟩ := List.mem_map.mp member
  rw [grows.keyAt sound]
  exact numbered old listed

/-! ## What stays stored -/

/-- When a table has grown, nothing that was stored has gone or changed. -/
theorem In.extends (sound : p.Sound) (grows : q.GrowsInto p) (old : q.In layout rows before)
    (new : p.In newer (rows.map (q.picked p.columns)) after) :
    ∃ T T', before.table? p.table = some T ∧ after.table? p.table = some T' ∧ T'.Extends T := by
  refine ⟨_, _, grows.table ▸ old.found, new.found, by simp [shape], fun i row j c here there => ?_⟩
  simp only [shape, List.getElem?_map, Option.map_eq_some_iff] at here
  obtain ⟨row, stored, rfl⟩ := here
  rw [shape_column, Option.map_eq_some_iff] at there
  obtain ⟨c, column, rfl⟩ := there
  have listed : c ∈ q.columns := old.perm.mem_iff.mp (List.mem_of_getElem? column)
  obtain ⟨d, known, name, _⟩ := grows.columns c listed
  obtain ⟨k, place⟩ := List.getElem?_of_mem (new.perm.mem_iff.mpr known)
  refine ⟨p.picked newer (q.picked p.columns row), k, _, by simp [shape, stored], by
    rw [shape_column, show (p.onto newer).columns = newer from rfl, place]; rfl, name, ?_⟩
  obtain ⟨n, position⟩ := List.getElem?_of_mem known
  rw [picked, List.getD_eq_getElem?_getD, List.getElem?_map, place]
  simp only [Option.map_some, Option.getD_some, placeOf_column sound.apart position]
  simp only [picked, List.getD_eq_getElem?_getD, List.getElem?_map, position]
  rw [show layout[j]? = some c from column, Option.map_some, Option.map_some, name]

/-- When the table has been brought up to date, nothing that was stored has gone or changed. -/
theorem Serves.extends (sound : p.Sound) (serves : p.Serves rows before) {T : Table}
    (found : before.table? p.table = some T) (new : p.In newer rows after) :
    ∃ T', after.table? p.table = some T' ∧ T'.Extends T := by
  cases serves with
  | absent table _ => rw [table] at found; cases found
  | older q layout stored grows table wide same =>
    rw [same] at new
    obtain ⟨old, T', here, there, extends_⟩ := table.extends sound grows new
    rw [here, Option.some.injEq] at found
    exact ⟨T', there, found ▸ extends_⟩

/-- No statement of a plan takes its table away. -/
theorem Changes.table (changes : p.Changes before after) {t : Table} {name : String}
    (found : before.table? name = some t) : ∃ t, after.table? name = some t := by
  induction changes with
  | refl => exact ⟨t, found⟩
  | @tail b c _ change ih =>
    obtain ⟨u, found⟩ := ih
    cases change with
    | created new named =>
      exact ⟨u, by simp [Database.table?, List.find?_append, show b.tables.find? _ = some u from found]⟩
    | replaced new named =>
      rw [table?_setTable, found]
      exact ⟨_, rfl⟩
    | _ => exact ⟨u, found⟩

theorem Changes.table?_other (changes : p.Changes before after) {name : String}
    (apart : sameName p.table name = false) : after.table? name = before.table? name := by
  induction changes with
  | refl => rfl
  | tail _ change ih => rw [change.table? apart, ih]

end MappingPlan

end EntityStore
