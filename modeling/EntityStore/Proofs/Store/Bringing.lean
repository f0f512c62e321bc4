import EntityStore.Proofs.Migration.Steps
import EntityStore.Proofs.Store.Opening
import EntityStore.Proofs.Table.Frame
import EntityStore.Proofs.Value.Text

/-! # Migrations in scenes

A migration that nothing stands in the way of brings its table up to date, whether or not a
transaction is open, and nothing else changes:

* `World.Bringing` — a world in the middle of a migration.
* `Session.succeeds_addColumns`, `Session.succeeds_migrateTable`, `Session.succeeds_addIndex` — its
  steps.
* `Session.succeeds_migrate` — the migration.
-/

namespace EntityStore

open EntityStore.Engine (Database Handle Program Row Outcome)
open EntityStore.Sql (Datum)

/-! ## Statements of a migration -/

namespace Engine

variable {image current : Database} {begun : Bool} {points : List (String × Option Database)}
  {h : Handle}

/-- A program that runs in an open transaction while nobody is in the way. -/
theorem Handle.Within.run_alone (within : h.Within (· = current) image begun points) {p : Program}
    {parameters : List Datum} {outcome : Outcome} (runs : p.run parameters current = .ok outcome) :
    ∃ next, h.run [] p parameters = (.ok outcome, next)
      ∧ next.Within (· = if p.writes then outcome.database else current) image begun points := by
  obtain ⟨rfl, ⟨t, opened, rfl, rfl⟩, rfl⟩ := within
  have same : t.changed.getD h.image = h.current := by simp only [Handle.current, opened]; rfl
  simp only [Handle.run, opened, Handle.runWithin, mayWrite, mayRead, List.all_nil, Bool.or_true, ite_self,
    Bool.not_true, Bool.false_eq_true, ↓reduceIte, runs]
  cases p.writes with
  | true => exact ⟨_, rfl, rfl, ⟨_, rfl, rfl, rfl⟩, rfl⟩
  | false => exact ⟨_, rfl, rfl, ⟨_, rfl, rfl, rfl⟩, same⟩

/-- The changes of a transaction are there when its outermost savepoint is given up. -/
theorem Handle.Within.release_alone {name : String} {saved : Option Database}
    (within : h.Within (· = current) image false [(name, saved)]) :
    h.release [] name = (.ok (), ⟨current, none⟩) := by
  obtain ⟨rfl, ⟨t, opened, outermost, at_points⟩, rfl⟩ := within
  have same : t.changed.getD h.image = h.current := by simp only [Handle.current, opened]; rfl
  simp only [Handle.release, opened, at_points, Handle.savepointsFrom_cons]
  rw [dif_pos (by simp [outermost]), ← same, Handle.commitChanges, mayCommit, List.all_nil, Bool.not_true,
    Bool.and_false]
  rfl

/-- What a savepoint opens is over when it is given up. -/
theorem Handle.savepoint_like (h : Handle) (name : String) :
    ∃ begun saved points, (h.savepoint name).Within (· = h.current) h.image begun ((name, saved) :: points)
      ∧ ∀ db next, Handle.Within (· = db) h.image begun ((name, saved) :: points) next →
        ∃ after, next.release [] name = (.ok (), after) ∧ after.Sees h.isAutocommit db := by
  -- Without a transaction the savepoint begins one, and its release ends that again.
  cases opened : h.transaction with
  | none =>
    refine ⟨false, none, [], ?_, fun db next within => ⟨_, within.release_alone, ?_, rfl⟩⟩
    · simp only [Handle.savepoint, opened]
      refine ⟨rfl, ⟨_, rfl, rfl, rfl⟩, ?_⟩
      simp only [Handle.current, opened]
      rfl
    · simp only [Handle.isAutocommit, opened]
  | some t =>
    have here : h.Within (· = h.current) h.image t.begun t.savepoints :=
      ⟨rfl, ⟨t, opened, rfl, rfl⟩, rfl⟩
    obtain ⟨saved, _, within⟩ := here.savepoint name
    refine ⟨t.begun, saved, t.savepoints, within, fun db next inner => ?_⟩
    obtain ⟨released, left⟩ := inner.release here.rooted []
    obtain ⟨u, open_, _⟩ := left.transaction
    refine ⟨(next.release [] name).2, ?_, ?_, left.current⟩
    · rw [← released]
    · simp only [Handle.isAutocommit, opened, open_]
      rfl

end Engine

variable {s : Scene} {id : Nat} {p : MappingPlan} {image current next : Database} {rows : List Row}
  {begun : Bool} {points : List (String × Option Database)}

/-- A world in the middle of a migration, which sees the database as `current`. -/
def World.Bringing (s : Scene) (id : Nat) (image : Database) (begun : Bool)
    (points : List (String × Option Database)) (current : Database) (w : World) : Prop :=
  ∃ h, h.Within (· = current) image begun points ∧ w.Shows (s.put id h)

def World.Brought (s : Scene) (id : Nat) (image : Database) (begun : Bool)
    (points : List (String × Option Database)) (Q : Database → Prop) (w : World) : Prop :=
  ∃ current, Q current ∧ World.Bringing s id image begun points current w

/-! ## What is asked -/

namespace Engine.Database

variable {db : Database} {q : MappingPlan} {layout : List ColumnPlan}

theorem hasTable_absent {name : String} (absent : db.table? name = none) : db.hasTable name = false := by
  rw [Database.table?, List.find?_eq_none] at absent
  rw [Database.hasTable, List.any_eq_false]
  intro t member same
  exact absent t member (by rw [of_decide_eq_true same]; exact sameName_refl _)

theorem hasTable_in (stored : q.In layout rows db) : db.hasTable q.table = true := by
  rw [Database.hasTable, List.any_eq_true]
  exact ⟨_, List.mem_of_find?_eq_some stored.found, decide_eq_true rfl⟩

theorem columnNames_in (stored : q.In layout rows db) :
    db.columnNames q.table = layout.map (·.column) := by
  let laid := (q.onto layout).shape (rows.map (q.picked layout))
  have all : laid.columns.filter (fun c => !c.hidden) = laid.columns := by
    refine List.filter_eq_self.mpr fun c member => ?_
    obtain ⟨pair, _, rfl⟩ := List.mem_map.mp member
    rfl
  rw [Database.columnNames, stored.found]
  change (laid.columns.filter fun c => !c.hidden).map (·.name) = _
  rw [all]
  refine List.ext_getElem (by simp [laid]) fun j _ _ => ?_
  simp [laid, MappingPlan.shape]

end Engine.Database

namespace Session

open World (Bringing Brought)

section
variable (opened : (s.lives id).2 = true)
include opened

theorem yields_ask {program : Program} {outcome : Outcome} (reads : program.writes = false)
    (runs : program.run [] current = .ok outcome) :
    Yields (Bringing s id image begun points current) (execute id program []) outcome
      (Bringing s id image begun points current) := by
  rintro w ⟨h, within, shows⟩
  obtain ⟨next, ran, after⟩ := within.run_alone runs
  rw [reads, if_neg (by simp)] at after
  obtain ⟨v, done, shown⟩ := yields_execute (s.put_handles id h) opened ran w shows
  rw [Scene.put_put] at shown
  exact ⟨v, done, next, after, shown⟩

theorem yields_change {program : Program} {outcome : Outcome} (writes : program.writes = true)
    (runs : program.run [] current = .ok outcome) :
    Yields (Bringing s id image begun points current) (execute id program []) outcome
      (Bringing s id image begun points outcome.database) := by
  rintro w ⟨h, within, shows⟩
  obtain ⟨next, ran, after⟩ := within.run_alone runs
  rw [writes, if_pos rfl] at after
  obtain ⟨v, done, shown⟩ := yields_execute (s.put_handles id h) opened ran w shows
  rw [Scene.put_put] at shown
  exact ⟨v, done, next, after, shown⟩

theorem yields_finds (test : Database → Bool) :
    Yields (Bringing s id image begun points current) (finds id test) (test current)
      (Bringing s id image begun points current) := by
  have asked : Yields (Bringing s id image begun points current)
      (execute id (textQuery fun db => if test db then ["1"] else []) [])
      { database := current
        rows := (if test current then ["1"] else []).map fun s => [Datum.ofString s] }
      (Bringing s id image begun points current) := yields_ask opened rfl rfl
  have answer : (!((if test current then ["1"] else []).map fun s => [Datum.ofString s]).isEmpty) =
      test current := by cases test current <;> rfl
  refine .bind asked ?_
  dsimp only
  rw [answer]
  exact .pure _

theorem yields_liveColumns (table : String) :
    Yields (Bringing s id image begun points current) (liveColumns id table)
      ((current.columnNames table).map Text.lowercase)
      (Bringing s id image begun points current) := by
  have asked : Yields (Bringing s id image begun points current)
      (execute id (textQuery fun db => db.columnNames table) [])
      { database := current
        rows := (current.columnNames table).map fun s => [Datum.ofString s] }
      (Bringing s id image begun points current) := yields_ask opened rfl rfl
  have answer := Datum.readText_rows Text.lowercase (current.columnNames table)
  refine .bind asked ?_
  dsimp only
  rw [answer]
  exact .pure _

theorem succeeds_define {text : String} {prepared : Prepared} {program : Program}
    (read : prepareText current text false = .ok (some prepared)) (alone : prepared.rest = "")
    (prepares : prepared.program = some program)
    (defines : MappingPlan.Defines program current next) (report : MigrationReport) :
    Succeeds (Bringing s id image begun points current) (define id text report)
      (Brought s id image begun points fun brought =>
        ∃ version, brought = { next with version := version }) := by
  have defined : Yields (Bringing s id image begun points current) (executeBatch id text) ()
      (Bringing s id image begun points next) := by
    rintro w ⟨h, within, shows⟩
    obtain ⟨after, ran, here⟩ := within.run_alone defines.2
    rw [defines.1, if_pos rfl] at here
    have current : h.current = current := within.current
    obtain ⟨v, done, shown⟩ := yields_executeBatch (s.put_handles id h) opened (current ▸ read) alone
      prepares ran w shows
    rw [Scene.put_put] at shown
    exact ⟨v, done, after, here, shown⟩
  let version := singleInteger [[.integer (Int64.ofInt next.version.toInt)]]
  have asked : Yields (Bringing s id image begun points next) (versionOn id) version
      (Bringing s id image begun points next) := .bind (yields_ask opened rfl rfl) (.pure _)
  have counted (version : Int32) : Yields (Bringing s id image begun points next)
      (execute id (.define fun db => { db with version := version }) [])
      { database := { next with version := version } }
      (Bringing s id image begun points { next with version := version }) :=
    yields_change opened rfl rfl
  have reported : Yields (Bringing s id image begun points current)
      (Session.report (Event.remark .debug "ddl" [("sql", text)])) ()
      (Bringing s id image begun points current) := by
    rintro w ⟨h, within, shows⟩
    obtain ⟨v, done, shown⟩ := yields_report _ w shows
    exact ⟨v, done, h, within, shown⟩
  -- A definition is reported and run, and then the version is asked for and counted up.
  refine reported.bind_succeeds (defined.bind_succeeds ?_)
  have bumped : Yields (Bringing s id image begun points next) (bumpVersion id) (version + 1)
      (Bringing s id image begun points { next with version := versionOf (version + 1) }) :=
    .bind asked (.bind (counted _) (.pure _))
  refine bumped.bind_succeeds ?_
  intro w bringing
  exact ⟨_, w, rfl, _, ⟨_, rfl⟩, bringing⟩

end

/-! ## Steps -/

end Session

/-- The names of a plan that the engine reads break no statement in two. -/
theorem MappingPlan.Written.definite (written : p.Written) : p.Definite := written.named.definite

/-- What a migration has made of a database when the table is up to date. -/
structure MappingPlan.Reached (p : MappingPlan) (rows : List Row) (before after : Database) : Prop where
  changes : p.Changes before after
  ready : p.Ready after
  table : ∃ layout, p.In layout rows after

/-- What a migration has made of a database while columns may be lacking. -/
structure MappingPlan.Reaching (p : MappingPlan) (rows : List Row) (lacking : List ColumnPlan)
    (before after : Database) (q : MappingPlan) : Prop where
  changes : p.Changes before after
  ready : p.Ready after
  grows : q.GrowsInto p
  /-- Every column that is not there yet is among those that are looked at later. -/
  rest : ∀ d ∈ p.columns, d ∉ lacking → d.column ∈ q.columnNames
  table : ∃ layout stored, q.In layout stored after
    ∧ (∀ row ∈ stored, row.length = q.columns.length) ∧ rows = stored.map (q.picked p.columns)

section
variable {before : Database} {d : ColumnPlan} {later : List ColumnPlan} {q : MappingPlan}
  (reaching : p.Reaching rows (d :: later) before current q)
include reaching

theorem MappingPlan.Reaching.known (known : d.column ∈ q.columnNames) :
    p.Reaching rows later before current q where
  changes := reaching.changes
  ready := reaching.ready
  grows := reaching.grows
  rest e listed free := by
    by_cases same : e = d
    · rw [same]; exact known
    · exact reaching.rest e listed (by simp [same, free])
  table := reaching.table

/-- A column is added behind the others, without values in the rows that are there. -/
theorem MappingPlan.Reaching.added (sound : p.Sound) (member : d ∈ p.columns)
    (absent : d.column ∉ q.columnNames) {t : Engine.Table} {layout : List ColumnPlan} {stored : List Row}
    (wide : ∀ row ∈ stored, row.length = q.columns.length) (same : rows = stored.map (q.picked p.columns))
    (named : t.name = q.table)
    (added : (q.grown d).In (layout ++ [d]) (stored.map (· ++ [.null])) (current.setTable t))
    (version : Int32) :
    p.Reaching rows later before { current.setTable t with version := version } (q.grown d) := by
  have step : p.Change current (current.setTable t) := .replaced t (named.trans reaching.grows.table)
  have counted : p.Change (current.setTable t) { current.setTable t with version := version } :=
    .counted version
  -- The column stands last, with null in every row, which is what it reads as before it is added.
  refine ⟨(reaching.changes.tail step).tail counted,
    (reaching.ready.step sound.spares step).step sound.spares counted,
    reaching.grows.grown sound member absent, fun e listed free => ?_,
    layout ++ [d], stored.map (· ++ [.null]), ?_, ?_, ?_⟩
  · rw [MappingPlan.columnNames, MappingPlan.grown, List.map_append, List.mem_append]
    by_cases here : e = d
    · exact .inr (by simp [here])
    · exact .inl (reaching.rest e listed (by simp [here, free]))
  · exact ⟨⟨added.view, added.triggers, added.plain⟩, added.perm, added.found⟩
  · intro row listed
    obtain ⟨old, known, rfl⟩ := List.mem_map.mp listed
    simp [MappingPlan.grown, wide old known]
  · rw [same, List.map_map]
    exact List.map_congr_left fun row listed =>
      (MappingPlan.picked_grown (wide row listed) p.columns).symm

end

namespace Session

open World (Bringing Brought)

section
variable (opened : (s.lives id).2 = true) (accepted : p.Accepted)
include opened accepted

theorem succeeds_addColumn {before : Database} {live : List String} {d : ColumnPlan}
    {later : List ColumnPlan} (member : d ∈ p.columns) {q : MappingPlan} {report : MigrationReport}
    (looked : live.contains (Text.lowercase d.column) = true ↔ d.column ∈ q.columnNames)
    (reaching : p.Reaching rows (d :: later) before current q) :
    Succeeds (Bringing s id image begun points current) (addColumn id p live report d)
      (Brought s id image begun points fun after =>
        ∃ r, p.Reaching rows later before after r
          ∧ ∀ name, name ∈ r.columnNames ↔ name ∈ q.columnNames ∨ name = d.column) := by
  have sound := accepted.toSound
  rw [addColumn]
  -- Whether the column is there has been looked up before the first one was added.
  by_cases there : live.contains (Text.lowercase d.column) = true
  · have known := looked.mp there
    rw [if_pos there]
    intro w bringing
    refine ⟨report, w, rfl, current, ⟨q, reaching.known known, fun name => ?_⟩, bringing⟩
    refine ⟨.inl, fun either => either.elim (fun old => old) fun same => ?_⟩
    rw [same]; exact known
  · have absent : d.column ∉ q.columnNames := fun known => there (looked.mpr known)
    have fresh := reaching.grows.fresh sound member absent
    obtain ⟨layout, stored, table, wide, same⟩ := reaching.table
    obtain ⟨place, parsed⟩ := MappingPlan.parse_addColumn sound.toWritten.named
      (Sql.isName_identifier (sound.columns d member))
    rw [← reaching.grows.table] at parsed
    obtain ⟨program, t, prepared, defines, named, added⟩ :=
      MappingPlan.prepare_addColumn reaching.grows.sound table wide fresh place
    have alone := sound.toWritten.definite _ (MappingPlan.addColumn_mem member)
    have read := prepareText_parsed parsed prepared false
    rw [if_neg there]
    refine (succeeds_define opened read (alone.textAfter 0) rfl defines _).bind fun report => ?_
    rintro w ⟨brought, ⟨version, rfl⟩, bringing⟩
    refine ⟨_, w, rfl, _, ⟨q.grown d, reaching.added sound member absent wide same named added version,
      fun name => ?_⟩, bringing⟩
    simp [MappingPlan.columnNames, MappingPlan.grown]

theorem succeeds_addColumns {before : Database} {live : List String} {later : List ColumnPlan}
    (members : ∀ d ∈ later, d ∈ p.columns) (once : later.Nodup) {q : MappingPlan}
    (looked : ∀ d ∈ later,
      (live.contains (Text.lowercase d.column) = true ↔ d.column ∈ q.columnNames))
    {current : Database} (reaching : p.Reaching rows later before current q)
    (report : MigrationReport) :
    Succeeds (Bringing s id image begun points current) (later.foldlM (addColumn id p live) report)
      (Brought s id image begun points fun after => p.Reached rows before after) := by
  have sound := accepted.toSound
  -- On the columns still to look at: the names that were looked up at the start stay right for them,
  -- since no column is looked at twice.
  induction later generalizing q current report with
  | nil =>
    obtain ⟨layout, stored, table, wide, rfl⟩ := reaching.table
    have whole := reaching.grows.completed sound (fun d member => reaching.rest d member (by simp)) table
    intro w bringing
    exact ⟨report, w, rfl, current, ⟨reaching.changes, reaching.ready, _, whole⟩, bringing⟩
  | cons d later ih =>
    rw [List.nodup_cons] at once
    have member := members d (List.mem_cons_self ..)
    rw [List.foldlM_cons]
    refine (succeeds_addColumn opened accepted member (looked d (List.mem_cons_self ..)) reaching).bind
      fun report => ?_
    rintro w ⟨after, ⟨r, reaching, names⟩, bringing⟩
    refine ih (fun e listed => members e (List.mem_cons_of_mem _ listed)) once.2 (fun e listed => ?_)
      reaching report w bringing
    rw [looked e (List.mem_cons_of_mem _ listed), names]
    refine ⟨.inl, fun either => either.elim (fun old => old) fun same => ?_⟩
    have equal := MappingPlan.column_unique sound.apart (members e (List.mem_cons_of_mem _ listed))
      member (by rw [same]; exact sameName_refl _)
    exact absurd (equal ▸ listed) once.1

theorem succeeds_migrateTable (ready : p.Ready current) (serves : p.Serves rows current) :
    Succeeds (Bringing s id image begun points current) (migrateTable id p)
      (Brought s id image begun points fun after => p.Reached rows current after) := by
  have sound := accepted.toSound
  have exists_ : Yields (Bringing s id image begun points current) (tableExists id p.table)
      (current.hasTable p.table) (Bringing s id image begun points current) := yields_finds opened _
  refine exists_.bind_succeeds ?_
  -- An absent table is created with all columns; an older one gets those that it lacks.
  cases serves with
  | absent absent none =>
    rw [Engine.Database.hasTable_absent absent, if_neg (by simp)]
    obtain ⟨place, parsed⟩ := MappingPlan.parse_createTable sound.toWritten.named sound.toWritten.columns_ne
    obtain ⟨program, prepared, defines⟩ :=
      MappingPlan.prepare_createTable accepted ready absent place
    have alone := sound.toWritten.definite _ (List.mem_cons_self ..)
    have read := prepareText_parsed parsed prepared false
    have created := sound.created ready.toClear absent
    refine (succeeds_define opened read (alone.textAfter 0) rfl defines _).bind fun report => ?_
    rintro w ⟨brought, ⟨version, rfl⟩, bringing⟩
    have step : p.Change current { current with tables := current.tables ++ [p.shape []] } :=
      .created _ rfl
    have counted : p.Change { current with tables := current.tables ++ [p.shape []] }
        { current with tables := current.tables ++ [p.shape []], version := version } :=
      .counted version
    refine ⟨_, w, rfl, _, ⟨.tail (.single step) counted,
      (ready.step sound.spares step).step sound.spares counted, p.columns, ?_⟩, bringing⟩
    rw [none]
    exact ⟨⟨created.view, created.triggers, created.plain⟩, created.perm, created.found⟩
  | older q layout stored grows table wide same =>
    rw [← grows.table, Engine.Database.hasTable_in table, if_pos rfl]
    refine (yields_liveColumns opened q.table).bind_succeeds ?_
    rw [Engine.Database.columnNames_in table]
    have names (name : String) : name ∈ layout.map (·.column) ↔ name ∈ q.columnNames :=
      (table.perm.map _).mem_iff
    have looked : ∀ d ∈ p.columns, ((layout.map (·.column)).map Text.lowercase).contains
        (Text.lowercase d.column) = true ↔ d.column ∈ q.columnNames := by
      intro d member
      rw [List.contains_iff_mem, ← grows.lacking member]
      exact ((table.perm.map _).map _).mem_iff
    have once : p.columns.Nodup := sound.apart.imp fun different same => by
      simp [same, sameName_refl] at different
    exact succeeds_addColumns opened accepted (fun _ member => member) once looked
      ⟨.refl, ready, grows, fun d member free => absurd member free, layout, stored, table, wide, same⟩ _

theorem succeeds_addIndex {before : Database} {c : ColumnPlan} (indexed : c ∈ p.indexedColumns)
    (report : MigrationReport) :
    Succeeds (Brought s id image begun points fun after => p.Reached rows before after)
      (addIndex id p report c)
      (Brought s id image begun points fun after => p.Reached rows before after) := by
  rintro w ⟨current, reached, bringing⟩
  have sound := accepted.toSound
  obtain ⟨layout, table⟩ := reached.table
  have exists_ : Yields (Bringing s id image begun points current)
      (indexExists id (c.indexName p.table)) (current.hasIndex (c.indexName p.table))
      (Bringing s id image begun points current) := yields_finds opened _
  refine exists_.bind_succeeds ?_ w bringing
  cases absent : current.hasIndex (c.indexName p.table) with
  | true =>
    intro w bringing
    exact ⟨report, w, rfl, current, reached, bringing⟩
  | false =>
    obtain ⟨place, column, parsed⟩ :=
      MappingPlan.parse_createIndex sound.toWritten.named (List.mem_filter.mp indexed).1
        (Sql.isName_plain (sound.columns c (List.mem_filter.mp indexed).1))
    obtain ⟨program, i, prepared, defines⟩ :=
      MappingPlan.prepare_createIndex accepted reached.ready table indexed absent place column
    have alone := sound.toWritten.definite _ (MappingPlan.createIndex_mem indexed)
    have read := prepareText_parsed parsed prepared false
    refine (succeeds_define opened read (alone.textAfter 0) rfl defines _).bind fun report => ?_
    rintro w ⟨brought, ⟨version, rfl⟩, bringing⟩
    have step : p.Change current { current with indexes := current.indexes ++ [p.index c i] } :=
      .indexed c indexed i
    have counted : p.Change { current with indexes := current.indexes ++ [p.index c i] }
        { current with indexes := current.indexes ++ [p.index c i], version := version } :=
      .counted version
    have clear := (table.toClear.step step).step counted
    exact ⟨_, w, rfl, _, ⟨(reached.changes.tail step).tail counted,
      (reached.ready.step sound.spares step).step sound.spares counted, layout,
      ⟨clear, table.perm, table.found⟩⟩, bringing⟩

theorem succeeds_migrateWithin (ready : p.Ready current) (serves : p.Serves rows current) :
    Succeeds (Bringing s id image begun points current) (migrateWithin id p)
      (Brought s id image begun points fun after => p.Reached rows current after) := by
  refine (succeeds_migrateTable opened accepted ready serves).bind fun report => ?_
  have indexes : Succeeds (Brought s id image begun points fun after => p.Reached rows current after)
      (p.indexedColumns.foldlM (addIndex id p) report)
      (Brought s id image begun points fun after => p.Reached rows current after) :=
    .foldlM (fun report c indexed => succeeds_addIndex opened accepted indexed report) report
  refine indexes.bind fun report => ?_
  rintro w ⟨brought, reached, h, within, shows⟩
  obtain ⟨v, done, shown⟩ := yields_report _ w shows
  exact ⟨report, v, by rw [outcome_bind_ok done]; rfl, brought, reached, h, within, shown⟩

/-! ## The migration -/

/-- A migration succeeds, and the table is there afterwards, with the rows that it had. -/
theorem succeeds_migrate {alone : Bool} (ready : p.Ready current) (serves : p.Serves rows current) :
    Succeeds (World.Sees s id alone current) (migrate id p) fun w =>
      ∃ after, p.Reached rows current after ∧ w.Sees s id alone after := by
  rintro w ⟨h, ⟨rfl, rfl⟩, shows⟩
  obtain ⟨begun, saved, points, within, releases⟩ := h.savepoint_like migrationPoint
  have marked : Yields (World.Shows (s.put id h)) (control id (.savepoint migrationPoint)) ()
      (Bringing s id h.image begun ((migrationPoint, saved) :: points) h.current) := by
    intro w shows
    have point : h.control [] (.savepoint migrationPoint) = (.ok (), h.savepoint migrationPoint) := rfl
    obtain ⟨v, done, shown⟩ := yields_control (s.put_handles id h) opened point w shows
    rw [Scene.put_put] at shown
    exact ⟨v, done, _, within, shown⟩
  obtain ⟨u, first, bringing⟩ := marked w shows
  obtain ⟨report, v, second, brought, reached, inner, inside, shown⟩ :=
    succeeds_migrateWithin opened accepted ready serves u bringing
  -- The release leaves the transaction as it has been before the savepoint.
  obtain ⟨next, released, like⟩ := releases brought inner inside
  have given : Yields (World.Shows (s.put id inner)) (control id (.release migrationPoint)) ()
      (World.Shows ((s.put id inner).put id next)) :=
    yields_control (s.put_handles id inner) opened released
  obtain ⟨x, third, after⟩ := given v shown
  rw [Scene.put_put] at after
  have outcome := outcome_migrate_ok first second
  rw [third] at outcome
  exact ⟨report, x, outcome, brought, reached, next, like, after⟩

end

end Session

end EntityStore
