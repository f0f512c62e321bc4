import EntityStore.Proofs.Catalog.Acceptance

/-! # Coherence of compiled catalogs

What a compiled catalog says of one entity in several places is the same in all of them:

* `EntitySchema.MadeOf` — a schema and accessors, member by member what a declaration says.
* `EntitySchema.MadeOf.link` — it still is when the relations know their targets.
* `CompiledEntity.Coherent`, `Catalog.compile_coherent` — schema, plan and accessors of a compiled
  entity go together, and its relations know the schemas of their targets.
-/

namespace EntityStore

open EntityStore.Engine (bind_eq_ok mem_of_mapM)

/-! ## Lists in step -/

section
variable {α β γ : Type}

theorem forall₂_comp {R : α → β → Prop} {S : β → γ → Prop} {as : List α} {bs : List β} {cs : List γ}
    (first : List.Forall₂ R as bs) (second : List.Forall₂ S bs cs) :
    List.Forall₂ (fun a c => ∃ b, R a b ∧ S b c) as cs := by
  induction first generalizing cs with
  | nil => cases second; exact .nil
  | cons head _ ih =>
    cases second with
    | cons head' tail' => exact .cons ⟨_, head, head'⟩ (ih tail')

theorem find?_of_nodup [DecidableEq β] {name : α → β} {items : List α} {a : α}
    (apart : (items.map name).Nodup) (member : a ∈ items) :
    items.find? (name · = name a) = some a := by
  cases found : items.find? (name · = name a) with
  | none => simpa using List.find?_eq_none.mp found a member
  | some b =>
    have same : name b = name a := by simpa using List.find?_some found
    rw [List.inj_on_of_nodup_map apart (List.mem_of_find?_eq_some found) member same]

end

/-! ## The parts of an entity -/

namespace EntitySchema

structure KeyedBy (s : EntitySchema) (key : FieldSpec) : Prop where
  only : s.fields.filter (·.primaryKey) = [key]
  named : s.field? s.primaryKey = some key

structure Binds (s : EntitySchema) (columns : List Column) (spec : RelationSpec) (rel : Relation) :
    Prop where
  plan : rel.plan = .ofSpec spec
  link : ∃ (i : Nat) (field : FieldSpec) (column : Column), s.field? spec.linkField = some field ∧ s.fields[i]? = some field
    ∧ columns[i]? = some column ∧ rel.link = column.getter
    ∧ field.semantic = spec.linkType ∧ rel.plan.strategy = .select spec.cardinality field.semantic

/-- A schema with the accessors of its columns and the bindings of its relations, each in the place in
    which a declaration has its field or relation. -/
structure MadeOf (s : EntitySchema) (access : List Column) (bindings : List Relation) (m : Model) :
    Prop where
  name : s.qualifiedName = m.qualifiedName
  table : s.table = m.tableName
  tag : s.tag = m.context
  fields : List.Forall₂ (fun f spec => ∃ accessor mutator, spec = f.spec accessor mutator)
    m.fields s.fields
  columns : List.Forall₂ (fun f column => column.semantic = f.semantic
    ∧ m.FieldAccess f column.getter column.setter) m.fields access
  key : ∃ key, s.KeyedBy key
  relations : List.Forall₂ (fun r spec => spec.name = r.name ∧ spec.cardinality = r.cardinality
    ∧ spec.target = r.target ∧ spec.linkField = r.on) m.relations s.relations
  links : List.Forall₂ (s.Binds access) s.relations bindings

variable {s : EntitySchema}

theorem keyField?_of_only {key : FieldSpec} (only : s.fields.filter (·.primaryKey) = [key]) :
    s.keyField? = some key := by
  have first : s.fields.find? (·.primaryKey) = some key := by
    rw [← List.head?_filter, only]
    rfl
  rw [List.find?_eq_getElem?_findIdx] at first
  obtain ⟨bound, _⟩ := List.getElem?_eq_some_iff.mp first
  have place : s.fields.findIdx? (·.primaryKey) = some (s.fields.findIdx (·.primaryKey)) := by
    rw [List.findIdx?_eq_some_iff_findIdx_eq]
    exact ⟨bound, rfl⟩
  rw [keyField?, primaryKeyIndex, place]
  exact first

theorem KeyedBy.located {key : FieldSpec} (keyed : s.KeyedBy key) : s.keyField? = some key :=
  keyField?_of_only keyed.only

end EntitySchema

namespace Model

variable {m : Model}

theorem bindField_access {f : FieldDeclaration} {bound : FieldSpec × Column}
    (done : m.bindField m.accessorMatch f = .ok bound) :
    (∃ accessor mutator, bound.1 = f.spec accessor mutator)
      ∧ m.FieldAccess f bound.2.getter bound.2.setter := by
  rw [bindField] at done
  split at done
  · next explicit =>
    split at done
    · cases done
      exact ⟨⟨_, _, rfl⟩, .bound explicit⟩
    · cases done
  · next unbound =>
    split at done
    · next g s found found' =>
      obtain ⟨getter, reads, done⟩ := bind_eq_ok done
      obtain ⟨setter, writes, done⟩ := bind_eq_ok done
      cases done
      exact ⟨⟨_, _, rfl⟩, .assigned unbound found found' (columnGetter_eq_ok.mp reads).1
        (columnSetter_eq_ok.mp writes).1⟩
    · cases done
    · cases done

theorem bindRelation_spec {found : AccessorMatch} {columns : List (FieldSpec × Column)}
    {r : RelationDeclaration} {bound : RelationSpec × Relation}
    (done : m.bindRelation found columns r = .ok bound) :
    bound.1.name = r.name ∧ bound.1.cardinality = r.cardinality ∧ bound.1.target = r.target
      ∧ bound.1.linkField = r.on := by
  rw [bindRelation] at done
  split at done
  · cases done
  · obtain ⟨_, _, done⟩ := bind_eq_ok done
    obtain ⟨_, _, done⟩ := bind_eq_ok done
    cases done
    exact ⟨rfl, rfl, rfl, rfl⟩

theorem analyze_apart {a : AnalyzedEntity} (done : m.analyze = .ok a) :
    (m.fields.map (·.name)).Nodup := by
  have apart := (analyze_ok_iff.mp ⟨a, done⟩).names
  rw [memberNames, List.nodup_append] at apart
  exact apart.1

theorem analyze_made {a : AnalyzedEntity} (done : m.analyze = .ok a) :
    a.schema.MadeOf a.columns a.relations m := by
  have apart := analyze_apart done
  obtain ⟨columns, relations, initial, declared, fields, links, _, rfl⟩ := analyze_parts done
  have bound := forall₂_of_mapM fields
  have linked := forall₂_of_mapM links
  rw [checkDeclaration] at declared
  obtain ⟨_, _, declared⟩ := bind_eq_ok declared
  obtain ⟨_, _, declared⟩ := bind_eq_ok declared
  obtain ⟨_, _, declared⟩ := bind_eq_ok declared
  obtain ⟨_, _, declared⟩ := bind_eq_ok declared
  obtain ⟨_, keyed, _⟩ := bind_eq_ok declared
  have names : m.fields.map (·.name) = (columns.map (·.1)).map (·.name) := by
    rw [List.map_map]
    exact map_eq_of_forall₂ (bound.imp fun f pair binds => (bindField_ok binds).1.symm)
  refine ⟨rfl, rfl, rfl, ?_, ?_, ?_, ?_, ?_⟩
  · exact List.forall₂_map_right_iff.mpr (bound.imp fun f pair binds => (bindField_access binds).1)
  · refine List.forall₂_map_right_iff.mpr (bound.imp fun f pair binds => ?_)
    exact ⟨(bindField_ok binds).2.2.2.1, (bindField_access binds).2⟩
  · -- The only field with the flag keeps its place when each field gets its specification.
    obtain ⟨key, single, _⟩ := checkPrimaryKey_ok keyed
    have flags : List.Forall₂ (fun (f : FieldDeclaration) (spec : FieldSpec) => f.primaryKey = spec.primaryKey)
        m.fields (columns.map (·.1)) :=
      List.forall₂_map_right_iff.mpr (bound.imp fun f pair binds => (bindField_ok binds).2.2.1.symm)
    have flagged : List.Forall₂ _ (m.fields.filter (·.primaryKey))
        ((columns.map (·.1)).filter (·.primaryKey)) :=
      List.rel_filter (fun f spec same => by simp only [same]) flags
    rw [single] at flagged
    obtain ⟨spec, rest, _, none, only⟩ := List.forall₂_cons_left_iff.mp flagged
    cases none
    have member : spec ∈ columns.map (·.1) := (List.mem_filter.mp (only ▸ List.mem_singleton_self spec)).1
    have first : (columns.map (·.1)).find? (·.primaryKey) = some spec := by
      rw [← List.head?_filter, only]
      rfl
    refine ⟨spec, only, ?_⟩
    rw [EntitySchema.field?]
    dsimp only
    rw [first]
    exact find?_of_nodup (names ▸ apart) member
  · exact List.forall₂_map_right_iff.mpr (linked.imp fun r pair binds => bindRelation_spec binds)
  · -- The link of a relation is looked up among the columns that the fields have been bound to.
    rw [List.forall₂_map_left_iff, List.forall₂_map_right_iff, List.forall₂_same]
    intro pair member
    obtain ⟨r, _, binds⟩ := mem_of_mapM links pair member
    obtain ⟨_, _, _, on⟩ := bindRelation_spec binds
    obtain ⟨plan, _, _, _, column, located, type, link⟩ := bindRelation_ok binds
    obtain ⟨i, here⟩ := List.getElem?_of_mem (List.mem_of_find?_eq_some located)
    refine ⟨plan, i, column.1, column.2, ?_, by simp [here], by simp [here], link, type.symm, ?_⟩
    · rw [on, EntitySchema.field?, List.find?_map]
      exact congrArg (Option.map Prod.fst) located
    · rw [plan, ← type]
      rfl

end Model

/-! ## Targets -/

namespace Catalog

variable {c : Catalog}

theorem linkTarget_ok {owner : EntitySchema} {r linked : RelationSpec}
    (done : c.linkTarget owner r = .ok linked) :
    ∃ target key, c.find? r.target = some target ∧ target.schema.keyField? = some key
      ∧ linked = { r with targetTable := target.schema.table, targetPrimaryKey := key.column } := by
  rw [linkTarget] at done
  split at done
  · next found =>
    cases done
    obtain ⟨target, here, keyed⟩ := Option.bind_eq_some_iff.mp found
    obtain ⟨key, there, same⟩ := Option.map_eq_some_iff.mp keyed
    cases same
    exact ⟨target, _, here, there, rfl⟩
  · cases done

theorem linkSchema_relations {s linked : EntitySchema} (done : c.linkSchema s = .ok linked) :
    List.Forall₂ (fun r known => c.linkTarget s r = .ok known) s.relations linked.relations := by
  obtain ⟨relations, found, done⟩ := bind_eq_ok done
  cases done
  exact forall₂_of_mapM found

end Catalog

namespace EntitySchema

variable {c : Catalog} {s linked : EntitySchema}

theorem KeyedBy.link {key : FieldSpec} (keyed : s.KeyedBy key) (done : c.linkSchema s = .ok linked) :
    linked.KeyedBy key := by
  obtain ⟨⟨relations, rfl⟩, _⟩ := Catalog.linkSchema_ok done
  exact ⟨keyed.only, keyed.named⟩

/-- A schema is made of the same declaration when its relations know their targets. -/
theorem MadeOf.link {access : List Column} {bindings : List Relation} {m : Model}
    (made : s.MadeOf access bindings m) (done : c.linkSchema s = .ok linked) :
    linked.MadeOf access bindings m := by
  have each := Catalog.linkSchema_relations done
  obtain ⟨⟨relations, rfl⟩, _⟩ := Catalog.linkSchema_ok done
  refine ⟨made.name, made.table, made.tag, made.fields, made.columns,
    made.key.imp fun key keyed => keyed.link done, ?_, ?_⟩
  · refine (forall₂_comp made.relations each).imp ?_
    rintro r spec ⟨before, same, link⟩
    obtain ⟨_, _, _, _, rfl⟩ := Catalog.linkTarget_ok link
    exact same
  · refine (forall₂_comp each.flip made.links).imp ?_
    rintro spec rel ⟨before, link, binds⟩
    obtain ⟨_, _, _, _, rfl⟩ := Catalog.linkTarget_ok link
    exact ⟨binds.plan, binds.link⟩

end EntitySchema

/-! ## The whole -/

/-- The parts of a compiled entity go together: its schema and accessors are made of the declaration,
    its plan is that of the schema, its bindings have the plans of its relations, and these know the
    table and the key column of the entities that they lead to. -/
structure CompiledEntity.Coherent (e : CompiledEntity) (compiled : CompiledCatalog) (m : Model) :
    Prop where
  made : e.schema.MadeOf e.columns e.relations m
  plan : MappingPlan.ofSchema? e.schema = some e.plan
  key : ∃ key, e.schema.KeyedBy key ∧ e.schema.fields[e.plan.primaryKey]? = some key
    ∧ e.plan.keyColumn = key.column
  columns : e.plan.columns = e.schema.fields.map .ofField
  relations : e.plan.relations = e.schema.relations.map .ofSpec
  bindings : e.relations.map (·.plan) = e.plan.relations
  targets : ∀ spec ∈ e.schema.relations, ∃ target key, compiled.find? spec.target = some target
    ∧ target.schema.KeyedBy key ∧ spec.targetTable = target.schema.table
    ∧ spec.targetPrimaryKey = key.column

namespace Catalog

variable {c : Catalog}

def Compiles (c : Catalog) (a : AnalyzedEntity) (e : CompiledEntity) : Prop :=
  ∃ s, c.linkSchema a.schema = .ok s ∧ compileEntity a s = .ok e

theorem check_parts {compiled : CompiledCatalog} (done : c.check = .ok compiled) :
    List.Forall₂ c.Compiles c.entities compiled.entities := by
  rw [check] at done
  split at done
  · cases done
  obtain ⟨schemas, linked, done⟩ := bind_eq_ok done
  obtain ⟨_, _, done⟩ := bind_eq_ok done
  obtain ⟨entities, parts, done⟩ := bind_eq_ok done
  cases done
  refine (forall₂_of_zip (forall₂_of_mapM linked) (forall₂_of_mapM parts)).imp ?_
  rintro a e ⟨_, s, link, here⟩
  exact ⟨s, link, here⟩

theorem compileEntity_ok {a : AnalyzedEntity} {s : EntitySchema} {e : CompiledEntity}
    (done : compileEntity a s = .ok e) : MappingPlan.ofSchema? s = some e.plan
      ∧ e.schema = s ∧ e.columns = a.columns ∧ e.relations = a.relations := by
  rw [compileEntity] at done
  split at done
  · cases done
  · next plan planned =>
    cases done
    exact ⟨planned, rfl, rfl, rfl⟩

theorem compiled_target {compiled : CompiledCatalog}
    (parts : List.Forall₂ c.Compiles c.entities compiled.entities) {name : String}
    {target : AnalyzedEntity} (found : c.find? name = some target) :
    ∃ e, compiled.find? name = some e ∧ c.linkSchema target.schema = .ok e.schema := by
  have named (e : CompiledEntity) (a : AnalyzedEntity) (compiles : c.Compiles a e) :
      decide (e.schema.qualifiedName = name) = decide (a.schema.qualifiedName = name) := by
    obtain ⟨s, link, done⟩ := compiles
    obtain ⟨⟨_, same⟩, _⟩ := linkSchema_ok link
    rw [(compileEntity_ok done).2.1, same]
  obtain ⟨e, here, s, link, done⟩ := find?_of_forall₂ named parts.flip found
  exact ⟨e, here, (compileEntity_ok done).2.1 ▸ link⟩

theorem compiled_coherent {models : List Model} (held : c.Holds models) {compiled : CompiledCatalog}
    (parts : List.Forall₂ c.Compiles c.entities compiled.entities) {m : Model} {a : AnalyzedEntity}
    {e : CompiledEntity} (analyzed : m.analyze = .ok a) (compiles : c.Compiles a e) :
    e.Coherent compiled m := by
  obtain ⟨s, link, done⟩ := compiles
  obtain ⟨planned, rfl, columns, relations⟩ := compileEntity_ok done
  have made : e.schema.MadeOf e.columns e.relations m := by
    rw [columns, relations]
    exact (Model.analyze_made analyzed).link link
  obtain ⟨key, keyed⟩ := made.key
  -- The plan is the one of the schema, whose key is where the schema says.
  have same := planned
  rw [MappingPlan.ofSchema?, keyed.located, Option.map_some, Option.some.injEq] at same
  have bindings : e.relations.map (·.plan) = e.schema.relations.map .ofSpec :=
    (map_eq_of_forall₂ (made.links.imp fun spec rel binds => binds.plan.symm)).symm
  refine ⟨made, planned, ⟨key, keyed, ?_, ?_⟩, ?_, ?_, ?_, fun spec member => ?_⟩
  · rw [← same]
    exact keyed.located
  · rw [← same]
  · rw [← same]
  · rw [← same]
  · rw [bindings, ← same]
  · obtain ⟨i, here⟩ := List.getElem?_of_mem member
    obtain ⟨r, _, known⟩ := getElem?_of_forall₂_right (linkSchema_relations link) here
    obtain ⟨target, key, found, keyColumn, rfl⟩ := linkTarget_ok known
    obtain ⟨t, there, other⟩ := compiled_target parts found
    obtain ⟨j, place⟩ := List.getElem?_of_mem (List.mem_of_find?_eq_some found)
    obtain ⟨n, _, ok⟩ := getElem?_of_forall₂_right held.analyzed place
    obtain ⟨keyOf, keyedBy⟩ := (Model.analyze_made ok).key
    have only : keyOf = key := Option.some.inj (keyedBy.located.symm.trans keyColumn)
    refine ⟨t, key, there, only ▸ keyedBy.link other, ?_, rfl⟩
    obtain ⟨⟨_, same⟩, _⟩ := linkSchema_ok other
    rw [same]

/-- A catalog that compiles is coherent: its schemas and plans stand in the order of registration, the
    entity of a declaration has the schema and the plan that stand in its place, and its parts go
    together. -/
theorem compile_coherent {models : List Model} {compiled : CompiledCatalog}
    (done : ((({} : Catalog).registerAll models).1.compile).1 = .ok compiled) :
    compiled.schemas.map (·.qualifiedName) = models.map (·.qualifiedName)
      ∧ compiled.plans.map (·.entity) = models.map (·.qualifiedName)
      ∧ ∀ (i : Nat) (m : Model), models[i]? = some m → ∃ e,
        compiled.find? m.qualifiedName = some e
          ∧ compiled.schemas[i]? = some e.schema ∧ compiled.plans[i]? = some e.plan
          ∧ e.Coherent compiled m := by
  have checked := compile_ok done
  have parts := check_parts checked
  obtain ⟨clear, _⟩ := check_names checked
  obtain ⟨added, entities, analyzed⟩ := registerAll_ok clear
  have held : (({} : Catalog).registerAll models).1.Holds models := ⟨clear, entities ▸ analyzed⟩
  -- Each entity goes back to an analyzed one and that to its model, place by place.
  have coherent : List.Forall₂ (fun m e => e.Coherent compiled m) models compiled.entities := by
    refine (forall₂_comp held.analyzed parts).imp ?_
    rintro m e ⟨a, ok, compiles⟩
    exact compiled_coherent held parts ok compiles
  have names : compiled.entities.map (·.schema.qualifiedName) = models.map (·.qualifiedName) :=
    (map_eq_of_forall₂ (coherent.imp fun m e sound => sound.made.name.symm)).symm
  have apart : (compiled.entities.map (·.schema.qualifiedName)).Nodup := by
    rw [names, ← held.names]
    exact (Checked.registerAll (c := {}) ⟨nofun, .nil⟩ models).names
  refine ⟨?_, ?_, fun i m here => ?_⟩
  · rw [CompiledCatalog.schemas, List.map_map]
    exact names
  · rw [CompiledCatalog.plans, List.map_map]
    refine (map_eq_of_forall₂ (coherent.imp fun m e sound => ?_)).symm
    obtain ⟨_, _, same⟩ := Option.map_eq_some_iff.mp sound.plan
    rw [Function.comp_apply, ← same, sound.made.name]
  · obtain ⟨e, there, sound⟩ := getElem?_of_forall₂ coherent here
    have member : e ∈ compiled.entities := List.mem_of_getElem? there
    refine ⟨e, ?_, ?_, ?_, sound⟩
    · rw [← sound.made.name]
      exact find?_of_nodup apart member
    · rw [CompiledCatalog.schemas, List.getElem?_map, there]
      rfl
    · rw [CompiledCatalog.plans, List.getElem?_map, there]
      rfl

end Catalog

def Model.related (name table : String) (targets : List String) : Model :=
  { Model.keyed name table with
    relations := targets.map fun target =>
      { name := target, cardinality := .single, target := target, on := "id"
        binding := some (.property target .one target) } }

/-- An entity that is related to itself and to one that is registered after it. -/
theorem Catalog.ahead_coherent : ∃ compiled e,
    ((({} : Catalog).registerAll
      [.related "Alpha" "first" ["Alpha", "Beta"], .keyed "Beta" "second"]).1.compile).1 = .ok compiled
      ∧ compiled.find? "Alpha" = some e
      ∧ e.schema.relations.map (fun r => (r.targetTable, r.targetPrimaryKey)) =
        [("first", "id"), ("second", "id")]
      ∧ e.Coherent compiled (.related "Alpha" "first" ["Alpha", "Beta"]) := by
  refine ⟨_, _, rfl, rfl, rfl, ?_⟩
  obtain ⟨e, found, _, _, coherent⟩ := (@compile_coherent
    [.related "Alpha" "first" ["Alpha", "Beta"], .keyed "Beta" "second"] _ rfl).2.2 0 _ rfl
  cases found
  exact coherent

end EntityStore
