import EntityStore.Proofs.Migration.Text
import EntityStore.Proofs.Store.Statement
import EntityStore.Proofs.Table.Definition

/-! # Definitions of a plan

What the definitions in the texts of a plan make of a database, whatever it holds:

* `Program.Makes` — what a program makes of a database; a definition that stops leaves it as it is.
* `createTable_makes`, `createIndex_makes`, `prepareColumn_makes` — the definitions of the engine.
* `MappingPlan.Creates`, `MappingPlan.Widens`, `MappingPlan.Indexes` — those of a plan.
* `Effects` — what the one statement of a text makes of a database.
* `MappingPlan.effects_createTable` and the like — the texts of a plan whose names are identifiers.
-/

namespace EntityStore

open EntityStore.Engine (Database Table Program Term Index bind_eq_ok columnPlace?)
open EntityStore.Sql (startsExpr ObjectName TableDefinition IndexDefinition ColumnDefinition ColumnName sameName)

/-! ## Definitions of the engine -/

namespace Engine

variable {db : Database} {program : Program}

/-- What a program without parameters makes of a database if it goes through; if it stops, it undoes
    what it has done. -/
def Program.Makes (p : Program) (db : Database) (S : Database → Prop) : Prop :=
  match p.run [] db with
  | .ok outcome => S (if p.writes then outcome.database else db)
  | .error stop => stop.effect = .undo

theorem Program.Makes.imp {S T : Database → Prop} (weaker : ∀ next, S next → T next)
    (makes : program.Makes db S) : program.Makes db T := by
  unfold Program.Makes at makes ⊢
  split
  · next ran => rw [ran] at makes; exact weaker _ makes
  · next ran => rw [ran] at makes; exact makes

theorem isFree_ok {name : ObjectName} {ifAbsent free : Bool}
    (done : isFree db name ifAbsent = .ok free) : free = (db.holder? name.name).isNone := by
  obtain ⟨_, _, done⟩ := bind_eq_ok done
  cases held : db.holder? name.name with
  | some kind =>
    simp only [held] at done
    split at done
    · cases done; rfl
    · cases done
  | none =>
    simp only [held] at done
    split at done
    · cases done
    · cases done; rfl

theorem createTable_makes {d : TableDefinition} (prepared : createTable db d = .ok program) :
    program.Makes db fun next =>
      (db.holder? d.name.name = none ∧ ∃ t, Table.define d = .ok t
        ∧ next = { db with tables := db.tables ++ [t] })
      ∨ ((db.holder? d.name.name).isSome = true ∧ next = db) := by
  obtain ⟨free, checked, prepared⟩ := bind_eq_ok prepared
  have free_eq := isFree_ok checked
  cases free with
  | true =>
    obtain ⟨t, defined, done⟩ := bind_eq_ok prepared
    cases done
    exact .inl ⟨Option.isNone_iff_eq_none.mp free_eq.symm, t, defined, rfl⟩
  | false =>
    cases prepared
    exact .inr ⟨by simpa using free_eq.symm, rfl⟩

theorem defineColumn_ok {d : ColumnDefinition} {c : Column} (done : defineColumn d = .ok c) :
    c.name = d.name ∧ c.hidden = false := by
  simp only [defineColumn] at done
  split at done
  · cases done; exact ⟨rfl, rfl⟩
  · split at done
    · cases done; exact ⟨rfl, rfl⟩
    · cases done

theorem defineColumns_ok {table : String} {seen : List String} {keyed : Bool}
    {definitions : List ColumnDefinition} {columns : List Column}
    (done : defineColumns table seen keyed definitions = .ok columns) :
    columns.map (·.name) = definitions.map (·.name) ∧ ∀ c ∈ columns, c.hidden = false := by
  induction definitions generalizing seen keyed columns with
  | nil => cases done; exact ⟨rfl, nofun⟩
  | cons d rest ih =>
    rw [defineColumns] at done
    split at done
    · cases done
    · obtain ⟨c, here, done⟩ := bind_eq_ok done
      split at done
      · cases done
      · obtain ⟨later, others, done⟩ := bind_eq_ok done
        cases done
        obtain ⟨names, shown⟩ := ih others
        obtain ⟨name, open_⟩ := defineColumn_ok here
        exact ⟨by rw [List.map_cons, List.map_cons, name, names],
          List.forall_mem_cons.mpr ⟨open_, shown⟩⟩

theorem define_withoutRowId {d : TableDefinition} {t : Table} (defined : Table.define d = .ok t)
    (plain : d.withoutRowId = true) :
    t.name = d.name.name ∧ t.columns.map (·.name) = d.columns.map (·.name)
      ∧ (∀ c ∈ t.columns, c.hidden = false) ∧ t.rowId = none := by
  obtain ⟨columns, made, defined⟩ := bind_eq_ok defined
  obtain ⟨names, shown⟩ := defineColumns_ok made
  obtain ⟨uniques, _, defined⟩ := bind_eq_ok defined
  split at defined
  · cases defined
  · obtain ⟨key, _, defined⟩ := bind_eq_ok defined
    simp only [plain, ↓reduceIte] at defined
    split at defined
    · cases defined
    · cases defined
      refine ⟨rfl, ?_, fun c member => ?_, rfl⟩
      · rw [← names, List.map_map, ← congrArg (List.map (·.name)) (List.zipIdx_map_fst 0 columns),
          List.map_map]
        rfl
      · obtain ⟨⟨c, i⟩, listed, rfl⟩ := List.mem_map.mp member
        exact shown c (List.fst_mem_of_mem_zipIdx listed)

theorem createIndex_makes {d : IndexDefinition} {place : Nat} {column : String}
    (plain : d.unique = false) (single : d.terms = [.column place none column false])
    (prepared : createIndex db d = .ok program) :
    ∃ t, db.table? d.table = some t ∧ program.Makes db fun next =>
      (db.index? d.name.name = none ∧ ∃ columns,
        (∀ i, columnPlace? t.columns none column = some i → columns = some [i])
          ∧ next = { db with indexes :=
              db.indexes ++ [{ name := d.name.name, table := t.name, columns := columns }] })
      ∨ ((db.index? d.name.name).isSome = true ∧ next = db) := by
  obtain ⟨_, _, prepared⟩ := bind_eq_ok prepared
  cases found : db.table? d.table with
  | none => simp only [found] at prepared; cases prepared
  | some t =>
    simp only [found] at prepared
    obtain ⟨_, _, prepared⟩ := bind_eq_ok prepared
    refine ⟨t, rfl, ?_⟩
    split at prepared
    · cases prepared
    · split at prepared
      · next taken =>
        split at prepared
        · cases prepared; exact .inr ⟨taken, rfl⟩
        · cases prepared
      · next free =>
        obtain ⟨terms, resolved, done⟩ := bind_eq_ok prepared
        cases done
        simp only [Program.Makes, plain, Bool.false_eq_true, ↓reduceIte]
        refine .inl ⟨Option.not_isSome_iff_eq_none.mp free, _, fun i here => ?_, rfl⟩
        -- A term that is the name of a column is that column, not an expression.
        have name : ({ sources := [{ t.source with rowId := none }] } : Scope).resolve
            (.column place none column false) =
              .ok (.column i ((t.columns[i]?.map (·.affinity)).getD .none)) := by
          simp [Scope.resolve, Scope.column, findColumn?, Table.source, here]
        rw [single, Scope.resolveAll, name] at resolved
        cases resolved
        rfl

theorem table?_congr {a b : String} (same : sameName a b = true) : db.table? a = db.table? b := by
  rw [Database.table?, Database.table?]
  congr 1
  funext t
  rw [EntityStore.sameName_comm, EntityStore.sameName_trans same, EntityStore.sameName_comm]

theorem table?_name {name : String} {t : Table} (found : db.table? name = some t) :
    sameName t.name name = true := by
  simpa using List.find?_some found

theorem prepareColumn_makes {table : ObjectName} {d : ColumnDefinition}
    (prepared : prepareColumn db table d = .ok program) :
    ∃ t, db.table? table.name = some t ∧ columnPlace? t.columns none d.name = none
      ∧ program.Makes db fun next => ∃ c, c.name = d.name ∧ c.hidden = false
        ∧ next = db.setTable (t.addColumn c) := by
  simp only [prepareColumn] at prepared
  split at prepared
  · cases prepared
  · cases prepared
  · next _ _ t found =>
    have found : db.table? table.name = some t := by
      rw [Database.tableOf?] at found
      split at found
      · exact found
      · cases found
    have again : db.table? t.name = some t := by
      rw [table?_congr (table?_name found), found]
    refine ⟨t, found, ?_⟩
    split at prepared
    · cases prepared
    · next fresh =>
      refine ⟨Option.not_isSome_iff_eq_none.mp fresh, ?_⟩
      split at prepared
      · cases prepared
      · split at prepared
        · cases prepared
        · obtain ⟨c, defined, done⟩ := bind_eq_ok prepared
          obtain ⟨name, shown⟩ := defineColumn_ok defined
          cases done
          simp only [Program.Makes, again]
          split
          · next ran =>
            split at ran
            · cases ran
            · cases ran
              exact ⟨c, name, shown, rfl⟩
          · next ran =>
            split at ran
            · cases ran; rfl
            · cases ran

end Engine

/-! ## Texts of plans -/

variable {text : String} {R : Database → Database → Prop}

/-- The text is one statement, if the engine prepares it, and that one makes of the database what the
    relation says. -/
def Effects (text : String) (R : Database → Database → Prop) : Prop :=
  ∀ db again prepared, prepareText db text again = .ok prepared →
    ∃ p program, prepared = some p ∧ p.rest = "" ∧ p.program = some program ∧ program.Makes db (R db)

theorem Effects.imp {S : Database → Database → Prop} (effects : Effects text R)
    (weaker : ∀ db next, R db next → S db next) : Effects text S := by
  intro db again prepared read
  obtain ⟨p, program, same, rest, compiled, makes⟩ := effects db again prepared read
  exact ⟨p, program, same, rest, compiled, makes.imp (weaker db)⟩

theorem DefinesAlone.effects (alone : DefinesAlone text) {s : Sql.Statement}
    (parsed : Sql.parse (Sql.tokens text.toList) = .ok (some ⟨s, 0, []⟩))
    (makes : ∀ (db : Database) found, db.prepare s = .ok found →
      ∃ program, found = some program ∧ program.Makes db (R db)) : Effects text R := by
  intro db again prepared read
  have parsed : Sql.parse ((Sql.lexemes text.toList).map (·.token)) = .ok (some ⟨s, 0, []⟩) := parsed
  simp only [prepareText, parsed] at read
  cases found : db.prepare s with
  | error fault => rw [found] at read; cases read
  | ok program =>
    rw [found] at read
    cases read
    obtain ⟨program, rfl, makes⟩ := makes db program found
    exact ⟨_, program, rfl, alone.textAfter _, rfl, makes⟩

theorem effects_unreadable {place : Nat}
    (unread : Sql.parse (Sql.tokens text.toList) = .error place) : Effects text R := by
  intro db again prepared read
  have unread : Sql.parse ((Sql.lexemes text.toList).map (·.token)) = .error place := unread
  simp only [prepareText, unread] at read
  cases read

theorem prepared_program {found : Except Engine.Fault Program} {program : Option Program}
    (prepared : found.map some = .ok program) : ∃ p, found = .ok p ∧ program = some p := by
  cases found with
  | error fault => cases prepared
  | ok p => cases prepared; exact ⟨p, rfl, rfl⟩

namespace MappingPlan

variable (p : MappingPlan) (c : ColumnPlan)

structure Founds (t : Table) : Prop where
  name : t.name = p.table
  columns : t.columns.map (·.name) = p.columnNames
  shown : ∀ c ∈ t.columns, c.hidden = false

/-- What the definition of the table makes of a database: a name that is taken is left alone. -/
def Creates (db next : Database) : Prop :=
  (db.holder? p.table = none ∧ ∃ t, p.Founds t ∧ next = { db with tables := db.tables ++ [t] })
    ∨ ((db.holder? p.table).isSome = true ∧ next = db)

/-- What a column that the table gets later makes of a database. -/
def Widens (db next : Database) : Prop :=
  ∃ t column, db.table? p.table = some t ∧ columnPlace? t.columns none c.column = none
    ∧ column.name = c.column ∧ column.hidden = false ∧ next = db.setTable (t.addColumn column)

/-- What an index makes of a database: here, too, a name that is taken is left alone. -/
def Indexes (db next : Database) : Prop :=
  ∃ t, db.table? p.table = some t ∧
    ((db.index? (c.indexName p.table) = none ∧ ∃ columns,
        (∀ i, columnPlace? t.columns none c.column = some i → columns = some [i])
          ∧ next = { db with indexes := db.indexes ++
              [{ name := c.indexName p.table, table := t.name, columns := columns }] })
      ∨ ((db.index? (c.indexName p.table)).isSome = true ∧ next = db))

variable {p c} (named : p.Named)
include named

theorem effects_createTable : Effects p.createTable p.Creates := by
  by_cases no_column : p.columns = []
  · obtain ⟨place, unread⟩ := createTable_unreadable named no_column
    exact effects_unreadable unread
  · obtain ⟨place, parsed⟩ := parse_createTable named no_column
    refine (createTable_alone named.unbroken).effects parsed fun db found prepared => ?_
    obtain ⟨program, made, rfl⟩ := prepared_program prepared
    refine ⟨program, rfl, (Engine.createTable_makes made).imp fun next made => ?_⟩
    rcases made with ⟨free, t, defined, rfl⟩ | taken
    · obtain ⟨name, columns, shown, _⟩ := Engine.define_withoutRowId defined rfl
      refine .inl ⟨free, t, ⟨name, columns.trans ?_, shown⟩, rfl⟩
      rw [columnNames, List.map_map]
      rfl
    · exact .inr taken

theorem effects_addColumn (member : c ∈ p.columns) : Effects (p.addColumn c) (p.Widens c) := by
  obtain ⟨place, parsed⟩ := parse_addColumn named (named.columns c member)
  refine (addColumn_alone named.unbroken member).effects parsed fun db found prepared => ?_
  obtain ⟨program, made, rfl⟩ := prepared_program prepared
  obtain ⟨t, found, fresh, makes⟩ := Engine.prepareColumn_makes made
  refine ⟨program, rfl, makes.imp fun next made => ?_⟩
  obtain ⟨column, name, shown, rfl⟩ := made
  exact ⟨t, column, found, fresh, name, shown, rfl⟩

theorem effects_createIndex (member : c ∈ p.columns) : Effects (p.createIndex c) (p.Indexes c) := by
  cases starts : startsExpr c.column with
  | true =>
    obtain ⟨place, unread⟩ := createIndex_unreadable named member starts
    exact effects_unreadable unread
  | false =>
    obtain ⟨place, column, parsed⟩ := parse_createIndex named member starts
    refine (createIndex_alone named.unbroken member).effects parsed fun db found prepared => ?_
    obtain ⟨program, made, rfl⟩ := prepared_program prepared
    obtain ⟨t, found, makes⟩ := Engine.createIndex_makes rfl rfl made
    exact ⟨program, rfl, makes.imp fun next made => ⟨t, found, made⟩⟩

end MappingPlan

end EntityStore
