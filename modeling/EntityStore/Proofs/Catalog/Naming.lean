import EntityStore.Proofs.Catalog.Compilation
import EntityStore.Proofs.Migration.Definition
import EntityStore.Proofs.Table.Version

/-! # Names in a compiled catalog

The checks compare names as texts, the engine by their letters alone:

* `CaseVariants` — texts that are one name for the engine.
* `ShareTable`, `ShareColumn` — plans and fields whose statements come upon one table or column.
* `shareTable_iff`, `shareColumn_iff` — which names lead to that.
* `Text.foldWord_lowercase` — a text in lower case is the engine's form of itself.
* `Catalog.compile_sharing` — what of a compiled catalog shares a table or a column.
-/

namespace EntityStore

open EntityStore.Engine (Database Table columnPlace? bind_eq_ok)
open EntityStore.Sql (sameName foldWord Output)

/-- Different texts of the same letters, some of them in the other case. -/
def CaseVariants (a b : String) : Prop := a ≠ b ∧ sameName a b = true

/-! ## What statements are about -/

def Sql.Statement.subject? : Statement → Option ObjectName
  | .select q => q.source
  | .insert change => some change.table
  | .update change => some change.table
  | .delete change => some change.table
  | _ => none

/-- The table of a database that a text is about. -/
def Engine.Database.tableOfText? (db : Database) (text : String) : Option Table :=
  match Sql.parse (Sql.tokens text.toList) with
  | .ok (some parsed) => parsed.statement.subject?.bind db.tableOf?
  | _ => none

def Engine.Table.placeOf? (t : Table) (output : Output) : Option Nat :=
  match Engine.resolveOutput { sources := [t.source], aggregates := true } output with
  | .ok [result] =>
    match result.term with
    | .column i _ => some i
    | _ => none
  | _ => none

/-- The place of the column of a table that a text queries as its result with the number. -/
def Engine.Table.placeOfText? (t : Table) (text : String) (i : Nat) : Option Nat :=
  match Sql.parse (Sql.tokens text.toList) with
  | .ok (some ⟨.select q, _, _⟩) => q.outputs[i]?.bind t.placeOf?
  | _ => none

/-- What one plan saves the other may read. -/
def ShareTable (p q : MappingPlan) : Prop :=
  ∃ (db : Database) (t : Table), db.tableOfText? p.insert = some t ∧ db.tableOfText? q.select = some t

/-- Two fields of a plan may be read from one column of a table whose rows, like those of the tables that
    plans define, have no numbers. -/
def ShareColumn (p : MappingPlan) (i j : Nat) : Prop :=
  ∃ (t : Table) (n : Nat), t.rowId = none ∧ t.placeOfText? p.select i = some n
    ∧ t.placeOfText? p.select j = some n

section
variable {p q : MappingPlan}

theorem tableOfText?_insert (written : p.Written) (db : Database) :
    db.tableOfText? p.insert = db.table? p.table := by
  obtain ⟨place, parsed⟩ := MappingPlan.parse_insert written
  rw [Database.tableOfText?, parsed]
  rfl

theorem tableOfText?_select (written : p.Written) (db : Database) :
    db.tableOfText? p.select = db.table? p.table := by
  obtain ⟨outputs, place, key, parsed, _⟩ := MappingPlan.parse_select written
  rw [Database.tableOfText?, parsed]
  rfl

/-- A name of a column is the first column of that name, whatever its case. -/
theorem placeOf?_column {t : Table} (rowless : t.rowId = none) (place : Nat) (name : String) :
    t.placeOf? (.value (.column place none name false) none) = columnPlace? t.columns none name := by
  have source : columnPlace? t.source.columns t.source.rowId name = columnPlace? t.columns none name :=
    rowless ▸ rfl
  cases found : columnPlace? t.columns none name with
  | some i =>
    simp [Table.placeOf?, Engine.resolveOutput, Engine.Scope.resolve, Engine.Scope.column,
      Engine.findColumn?, source, found, bind, Except.bind, pure, Except.pure]
  | none =>
    cases truth : Engine.truthWord? name <;>
      simp [Table.placeOf?, Engine.resolveOutput, Engine.Scope.resolve, Engine.Scope.column,
        Engine.Scope.otherName, Engine.Scope.result?, Engine.findColumn?, source, found, truth, bind,
        Except.bind, pure, Except.pure]

/-- A query of a plan finds its columns by their names. -/
theorem placeOfText?_select (written : p.Written) {t : Table} (rowless : t.rowId = none) {i : Nat}
    {name : String} (here : p.columnNames[i]? = some name) :
    t.placeOfText? p.select i = columnPlace? t.columns none name := by
  obtain ⟨outputs, place, key, parsed, columns⟩ := MappingPlan.parse_select written
  rw [MappingPlan.columnNames, List.getElem?_map] at here
  obtain ⟨c, listed, rfl⟩ := Option.map_eq_some_iff.mp here
  obtain ⟨output, result, at_, rfl⟩ := getElem?_of_forall₂ columns listed
  simp only [Table.placeOfText?, parsed, result, Option.bind_some]
  exact placeOf?_column rowless at_ c.column

/-! ## What is shared -/

theorem shareTable_iff (written : p.Written) (written' : q.Written) :
    ShareTable p q ↔ sameName p.table q.table = true := by
  simp only [ShareTable, tableOfText?_insert written, tableOfText?_select written']
  constructor
  · rintro ⟨db, t, first, second⟩
    rw [Database.table?] at first second
    have named := List.find?_some first
    have named' := List.find?_some second
    rw [← sameName_trans named]
    exact named'
  · intro same
    let t : Table := { name := p.table, columns := [], key := [], rowId := none }
    refine ⟨{ tables := [t] }, t, ?_, ?_⟩
    · simp [Database.table?, t, sameName_refl]
    · simp [Database.table?, t, same]

theorem ShareTable.always (share : ShareTable p q) (written : p.Written) (written' : q.Written)
    (db : Database) : db.tableOfText? p.insert = db.tableOfText? q.select := by
  rw [tableOfText?_insert written, tableOfText?_select written']
  exact Engine.table?_congr ((shareTable_iff written written').mp share)

theorem columnPlace?_named {t : Table} {name : String} {i : Nat}
    (found : columnPlace? t.columns none name = some i) :
    ∃ c, t.columns[i]? = some c ∧ sameName c.name name = true := by
  rw [columnPlace?] at found
  split at found
  · next located =>
    cases found
    obtain ⟨bound, named, _⟩ := List.findIdx?_eq_some_iff_getElem.mp located
    exact ⟨_, List.getElem?_eq_getElem bound, (Bool.and_eq_true_iff.mp named).2⟩
  · split at found <;> cases found

theorem shareColumn_iff (written : p.Written) {i j : Nat} {a b : String}
    (first : p.columnNames[i]? = some a) (second : p.columnNames[j]? = some b) :
    ShareColumn p i j ↔ sameName a b = true := by
  constructor
  · rintro ⟨t, n, rowless, found, found'⟩
    rw [placeOfText?_select written rowless first] at found
    rw [placeOfText?_select written rowless second] at found'
    obtain ⟨c, here, named⟩ := columnPlace?_named found
    obtain ⟨d, there, other⟩ := columnPlace?_named found'
    rw [here, Option.some.injEq] at there
    subst there
    rw [← sameName_trans named]
    exact other
  · intro same
    let c : Engine.Column := { name := a, affinity := .none }
    let t : Table := { name := a, columns := [c], key := [], rowId := none }
    refine ⟨t, 0, rfl, ?_, ?_⟩
    · rw [placeOfText?_select written rfl first]
      simp [columnPlace?, t, c, sameName_refl]
    · rw [placeOfText?_select written rfl second]
      simp [columnPlace?, t, c, same]

end

/-! ## Lower case -/

namespace Text

theorem toLower_of_number {c : Char} (other : c.toNat < 65 ∨ 90 < c.toNat) : c.toLower = c := by
  refine dif_neg ?_
  rintro ⟨low, high⟩
  have low : 65 ≤ c.toNat := low
  have high : c.toNat ≤ 90 := high
  omega

theorem toLower_ofNat {n : Nat} (above : 90 < n) : (Char.ofNat n).toLower = Char.ofNat n := by
  refine toLower_of_number ?_
  by_cases valid : n.isValidChar
  · rw [Char.ofNat, dif_pos valid]
    exact .inr above
  · rw [Char.ofNat, dif_neg valid]
    exact .inl (by decide)

/-- What a run is shifted to lies beyond the capital letters of ASCII. -/
theorem above_of_mapped {n image : Nat} (mapped : lowerRuns.findSome? (·.map? n) = some image) :
    90 < image := by
  obtain ⟨run, listed, shifted⟩ := List.exists_of_findSome?_eq_some mapped
  have each : ∀ run ∈ lowerRuns, 90 < (run.first : Int) + run.shift := by decide +kernel
  have above := each run listed
  rw [CaseRun.map?] at shifted
  split at shifted
  · cases shifted
    omega
  · cases shifted

/-- The capital letters of ASCII are the first run. -/
theorem small_of_unmapped {n : Nat} (unmapped : lowerRuns.findSome? (·.map? n) = none) :
    n < 65 ∨ 90 < n := by
  by_contra capital
  have first := List.findSome?_eq_none_iff.mp unmapped ⟨0x41, 0x5A, 1, 32⟩ (.head _)
  rw [CaseRun.map?, if_pos (by dsimp only; omega)] at first
  cases first

/-- No character is mapped to one that the engine would change. -/
theorem lower_folded (c : Char) : ∀ d ∈ lower c, d.toLower = d := by
  intro d member
  rw [lower, mapCase] at member
  -- A character has a list of images, is in a run that is shifted, or is left as it is.
  split at member
  · next image listed =>
    have each : ∀ entry ∈ lowerLists, ∀ n ∈ entry.2, (Char.ofNat n).toLower = Char.ofNat n := by decide
    obtain ⟨n, here, rfl⟩ := List.mem_map.mp member
    have entry : (c.toNat, image) ∈ lowerLists := by
      obtain ⟨before, after, split, _⟩ := List.lookup_eq_some_iff.mp listed
      rw [split]
      exact List.mem_append_right _ (List.mem_cons_self ..)
    exact each _ entry n here
  · split at member
    · next image mapped =>
      rw [List.mem_singleton.mp member]
      exact toLower_ofNat (above_of_mapped mapped)
    · next unmapped =>
      rw [List.mem_singleton.mp member]
      exact toLower_of_number (small_of_unmapped unmapped)

/-- The engine takes a text in lower case as it is. -/
theorem foldWord_lowercase (s : String) : foldWord (lowercase s) = lowercase s := by
  have folded (before cs : List Char) : ∀ d ∈ lowerAfter before cs, d.toLower = d := by
    induction before, cs using lowerAfter.induct with
    | case1 => exact nofun
    | case2 before rest ih =>
      intro d member
      rw [lowerAfter] at member
      rcases List.mem_cons.mp member with rfl | later
      · split <;> decide
      · exact ih d later
    | case3 before c rest other ih =>
      intro d member
      rw [lowerAfter] at member
      · rcases List.mem_append.mp member with here | later
        · exact lower_folded c d here
        · exact ih d later
      · exact other
  rw [foldWord, lowercase, String.toList_ofList, List.map_congr_left (folded [] s.toList), List.map_id']

end Text

/-- Texts that are the engine's form of themselves are not variants of each other. -/
theorem not_caseVariants {a b : String} (first : foldWord a = a) (second : foldWord b = b) :
    ¬CaseVariants a b := by
  rintro ⟨different, same⟩
  have folded : foldWord a = foldWord b := of_decide_eq_true same
  rw [first, second] at folded
  exact different folded

theorem caseVariants_iff {a b : String} (different : a ≠ b) : sameName a b = true ↔ CaseVariants a b :=
  ⟨fun same => ⟨different, same⟩, And.right⟩

/-! ## What the checks tell apart -/

theorem firstRepeated?_none {α : Type} [DecidableEq α] {seen items : List α}
    (absent : firstRepeated? seen items = none) : items.Nodup ∧ ∀ a ∈ items, a ∉ seen := by
  induction items generalizing seen with
  | nil => exact ⟨.nil, nofun⟩
  | cons a rest ih =>
    rw [firstRepeated?] at absent
    split at absent
    · cases absent
    · next fresh =>
      obtain ⟨apart, others⟩ := ih absent
      refine ⟨List.nodup_cons.mpr ⟨fun again => others a again (List.mem_cons_self ..), apart⟩, ?_⟩
      intro b member
      rcases List.mem_cons.mp member with rfl | later
      · exact fresh
      · exact fun here => others b later (List.mem_cons_of_mem _ here)

theorem checkTablesAfter_ok {seen schemas : List EntitySchema}
    (done : checkTablesAfter seen schemas = .ok ()) :
    schemas.Pairwise (fun s t => s.tag = t.tag → s.table ≠ t.table)
      ∧ ∀ s ∈ schemas, ∀ t ∈ seen, t.tag = s.tag → t.table ≠ s.table := by
  induction schemas generalizing seen with
  | nil => exact ⟨.nil, nofun⟩
  | cons s rest ih =>
    rw [checkTablesAfter] at done
    split at done
    · cases done
    · next unowned =>
      obtain ⟨apart, others⟩ := ih done
      refine ⟨.cons (fun t member => others t member s (List.mem_cons_self ..)) apart, ?_⟩
      intro t member u before tagged shared
      rcases List.mem_cons.mp member with rfl | later
      · have owned := List.find?_eq_none.mp unowned u before
        simp [tagged, shared] at owned
      · exact others t later u (List.mem_cons_of_mem _ before) tagged shared

theorem Model.checkColumns_ok {m : Model} (done : m.checkColumns = .ok ()) :
    (m.fields.map (·.columnName)).Nodup := by
  rw [checkColumns] at done
  split at done
  · next absent => exact (firstRepeated?_none absent).1
  · cases done

/-! ## From declarations to plans -/

theorem Model.bindField_column {m : Model} {found : AccessorMatch} {f : FieldDeclaration}
    {bound : FieldSpec × Column} (done : m.bindField found f = .ok bound) :
    bound.1.column = f.columnName := by
  rw [bindField] at done
  split at done
  · split at done
    · cases done
      rfl
    · cases done
  · split at done
    · obtain ⟨_, _, done⟩ := bind_eq_ok done
      obtain ⟨_, _, done⟩ := bind_eq_ok done
      cases done
      rfl
    · cases done
    · cases done

theorem Model.analyze_names {m : Model} {a : AnalyzedEntity} (done : m.analyze = .ok a) :
    a.schema.tag = m.context ∧ a.schema.table = m.tableName
      ∧ a.schema.fields.map (·.column) = m.fields.map (·.columnName)
      ∧ (m.fields.map (·.columnName)).Nodup := by
  obtain ⟨columns, relations, initial, declared, fields, _, _, rfl⟩ := analyze_parts done
  rw [checkDeclaration] at declared
  obtain ⟨_, _, declared⟩ := bind_eq_ok declared
  obtain ⟨_, _, declared⟩ := bind_eq_ok declared
  obtain ⟨_, apart, _⟩ := bind_eq_ok declared
  refine ⟨rfl, rfl, ?_, checkColumns_ok apart⟩
  have named : List.Forall₂ (fun (f : FieldDeclaration) (bound : FieldSpec × Column) =>
      f.columnName = bound.1.column) m.fields columns :=
    (forall₂_of_mapM fields).imp fun f bound binds => (bindField_column binds).symm
  rw [List.map_map]
  exact (map_eq_of_forall₂ named).symm

namespace Catalog

theorem registerAll_violated {c : Catalog} {violation : Violation} (broken : c.violation = some violation)
    (models : List Model) : (c.registerAll models).1 = c := by
  have stays (m : Model) : c.register m = (c, []) := by simp only [register, broken]
  induction models with
  | nil => rfl
  | cons m rest ih => rw [registerAll, stays]; exact ih

theorem register_ok {c : Catalog} {m : Model} (clear : (c.register m).1.violation = none) :
    ∃ a, m.analyze = .ok a ∧ (c.register m).1.entities = c.entities ++ [a] := by
  rw [register] at clear ⊢
  split at clear
  · next broken => rw [broken] at clear; cases clear
  · split at clear
    · cases clear
    · next fresh =>
      rw [if_neg fresh]
      split at clear
      · cases clear
      · next a done => exact ⟨a, done, rfl⟩

theorem registerAll_ok {c : Catalog} {models : List Model}
    (clear : (c.registerAll models).1.violation = none) :
    ∃ added, (c.registerAll models).1.entities = c.entities ++ added
      ∧ List.Forall₂ (fun m a => m.analyze = .ok a) models added := by
  induction models generalizing c with
  | nil => exact ⟨[], (List.append_nil _).symm, .nil⟩
  | cons m rest ih =>
    have later : ((c.register m).1.registerAll rest).1.violation = none := clear
    change ∃ added, ((c.register m).1.registerAll rest).1.entities = c.entities ++ added ∧ _
    cases broken : (c.register m).1.violation with
    | some violation =>
      rw [registerAll_violated broken, broken] at later
      cases later
    | none =>
      obtain ⟨a, done, first⟩ := register_ok broken
      obtain ⟨added, others, analyzed⟩ := ih later
      refine ⟨a :: added, ?_, .cons done analyzed⟩
      rw [others, first, List.append_assoc, List.singleton_append]

/-- What compiled entities are called, and that the tables of one database have names of their own. -/
theorem check_names {c : Catalog} {compiled : CompiledCatalog} (done : c.check = .ok compiled) :
    c.violation = none
      ∧ List.Forall₂ (fun a e => e.plan.tag = a.schema.tag ∧ e.plan.table = a.schema.table
        ∧ e.plan.columnNames = a.schema.fields.map (·.column)) c.entities compiled.entities
      ∧ compiled.plans.Pairwise fun p q => p.tag = q.tag → p.table ≠ q.table := by
  rw [check] at done
  split at done
  · cases done
  next clear =>
  obtain ⟨schemas, linked, done⟩ := bind_eq_ok done
  obtain ⟨_, unique, done⟩ := bind_eq_ok done
  obtain ⟨entities, parts, done⟩ := bind_eq_ok done
  cases done
  have linked := forall₂_of_mapM linked
  have each : List.Forall₂ (fun a e => e.plan.tag = a.schema.tag ∧ e.plan.table = a.schema.table
      ∧ e.plan.columnNames = a.schema.fields.map (·.column)) c.entities entities := by
    refine (forall₂_of_zip linked (forall₂_of_mapM parts)).imp ?_
    rintro a e ⟨_, schema, link, here⟩
    obtain ⟨⟨relations, rfl⟩, _⟩ := linkSchema_ok link
    dsimp only at here
    rw [compileEntity, MappingPlan.ofSchema?] at here
    split at here
    · cases here
    · next plan planned =>
      cases here
      obtain ⟨key, _, rfl⟩ := Option.map_eq_some_iff.mp planned
      refine ⟨rfl, rfl, ?_⟩
      rw [MappingPlan.columnNames, List.map_map]
      rfl
  -- Tables are compared before entities are compiled, and compiling leaves their names alone.
  have owners : schemas.map (fun s => (s.tag, s.table)) = entities.map fun e => (e.plan.tag, e.plan.table) := by
    have first : c.entities.map (fun a => (a.schema.tag, a.schema.table)) = schemas.map fun s => (s.tag, s.table) := by
      refine map_eq_of_forall₂ (linked.imp fun a s link => ?_)
      obtain ⟨⟨relations, rfl⟩, _⟩ := linkSchema_ok link
      rfl
    rw [← first]
    exact map_eq_of_forall₂ (each.imp fun a e same => by rw [same.1, same.2.1])
  refine ⟨clear, each, ?_⟩
  have apart := (checkTablesAfter_ok unique).1
  rw [← List.pairwise_map (f := fun s : EntitySchema => (s.tag, s.table))
    (R := fun a b => a.1 = b.1 → a.2 ≠ b.2), owners, List.pairwise_map] at apart
  exact List.pairwise_map.mpr apart

/-- A catalog that compiles has the names of its declarations.  Where these are names for the engine as
    well, two columns of one entity, and the tables of two entities of one database, are one for the
    statements of the plans exactly if their names differ in the case of letters; tables that are named
    by default never do. -/
theorem compile_sharing {models : List Model} {compiled : CompiledCatalog}
    (done : ((({} : Catalog).registerAll models).1.compile).1 = .ok compiled) :
    compiled.plans.map (fun p => (p.tag, p.table, p.columnNames)) =
        models.map (fun m => (m.context, m.tableName, m.fields.map (·.columnName)))
      ∧ (∀ p ∈ compiled.plans, p.Written → ∀ i j a b, i ≠ j → p.columnNames[i]? = some a →
        p.columnNames[j]? = some b → (ShareColumn p i j ↔ CaseVariants a b))
      ∧ compiled.plans.Pairwise (fun p q => p.Written → q.Written → p.tag = q.tag →
        (ShareTable p q ↔ CaseVariants p.table q.table)
          ∧ (ShareTable p q → ∀ db : Database, db.tableOfText? p.insert = db.tableOfText? q.select))
      ∧ ∀ m ∈ models, ∀ n ∈ models, m.table = none → n.table = none → ¬CaseVariants m.tableName n.tableName := by
  obtain ⟨clear, called, apart⟩ := check_names (compile_ok done)
  obtain ⟨added, entities, analyzed⟩ := registerAll_ok clear
  rw [entities] at called
  -- Table and columns go from the model to its schema and from there to its plan as they are.
  have names : compiled.plans.map (fun p => (p.tag, p.table, p.columnNames)) =
      models.map (fun m => (m.context, m.tableName, m.fields.map (·.columnName))) := by
    have declared : models.map (fun m => (m.context, m.tableName, m.fields.map (·.columnName))) =
        added.map (fun a => (a.schema.tag, a.schema.table, a.schema.fields.map (·.column))) := by
      refine map_eq_of_forall₂ (analyzed.imp fun m a done => ?_)
      obtain ⟨tag, table, columns, _⟩ := Model.analyze_names done
      rw [tag, table, columns]
    rw [declared, CompiledCatalog.plans, List.map_map]
    refine (map_eq_of_forall₂ (called.imp fun a e same => ?_)).symm
    obtain ⟨tag, table, columns⟩ := same
    rw [← tag, ← table, ← columns]
    rfl
  refine ⟨names, fun p member written i j a b different first second => ?_,
    apart.imp fun different written written' tagged => ?_, ?_⟩
  · have listed : (p.tag, p.table, p.columnNames) ∈
        models.map fun m => (m.context, m.tableName, m.fields.map (·.columnName)) :=
      names ▸ List.mem_map_of_mem member
    obtain ⟨m, declared, same⟩ := List.mem_map.mp listed
    have columns : m.fields.map (·.columnName) = p.columnNames := congrArg (·.2.2) same
    obtain ⟨k, here⟩ := List.getElem?_of_mem declared
    obtain ⟨entity, _, done⟩ := getElem?_of_forall₂ analyzed here
    have nodup : p.columnNames.Nodup := columns ▸ (Model.analyze_names done).2.2.2
    have other : a ≠ b := by
      rintro rfl
      exact different ((List.getElem?_inj (List.getElem?_eq_some_iff.mp first).1 nodup).mp (first.trans second.symm))
    exact (shareColumn_iff written first second).trans (caseVariants_iff other)
  · exact ⟨(shareTable_iff written written').trans (caseVariants_iff (different tagged)),
      fun share => share.always written written'⟩
  · -- Standard names of tables are folded already, and folded names are no variants of each other.
    intro m _ n _ first second
    have folded (m : Model) (unnamed : m.table = none) : foldWord m.tableName = m.tableName := by
      rw [Model.tableName, unnamed]
      exact Text.foldWord_lowercase _
    exact not_caseVariants (folded m first) (folded n second)

end Catalog

def Model.keyed (name table : String) : Model where
  qualifiedName := name
  keyType := .int64
  table := some table
  initial := some .empty
  fields := [
    { name := "id", semantic := .int64, primaryKey := true
      binding := some (.property .int64 "id") }]

theorem Catalog.twins_share : ∃ compiled,
    ((({} : Catalog).registerAll [.keyed "Alpha" "t", .keyed "Beta" "T"]).1.compile).1 = .ok compiled
      ∧ compiled.plans.map (·.table) = ["t", "T"] ∧ (∀ p ∈ compiled.plans, p.Written)
      ∧ compiled.plans.Pairwise ShareTable := by
  refine ⟨_, rfl, rfl, ?_, ?_⟩
  · intro p member
    rcases List.mem_pair.mp member with rfl | rfl <;> exact ⟨by decide, by decide, by decide⟩
  · have tables := (@compile_sharing [.keyed "Alpha" "t", .keyed "Beta" "T"] _ rfl).2.2.1
    have first := (List.pairwise_cons.mp tables).1 _ (List.mem_singleton_self _)
      ⟨by decide, by decide, by decide⟩ ⟨by decide, by decide, by decide⟩ rfl
    refine List.pairwise_pair.mpr ?_
    exact first.1.mpr ⟨by decide, by decide⟩

end EntityStore
