import Mathlib.Data.List.Forall2
import EntityStore.Catalog.Basic
import EntityStore.Proofs.Transaction.Change

/-! # What compilation ensures

The entities of a registry that has been built have passed every check, and their parts fit together:

* `ColumnPlan.Fits` — a planned column and the accessors for it.
* `CompiledEntity.Regular` — a compiled entity whose columns, key and relations fit.
* `CompiledCatalog.Regular`, `Catalog.Checked.check` — all entities of a compiled catalog are, and
  their relations lead to entities of it.
-/

namespace EntityStore

open EntityStore.Engine (bind_eq_ok mem_of_mapM)

/-- What fails in two steps fails in one of them. -/
theorem bind_eq_error {ε α β : Type} {e : ε} {x : Except ε α} {next : α → Except ε β} :
    (x >>= next) = .error e ↔ x = .error e ∨ ∃ a, x = .ok a ∧ next a = .error e := by
  cases x with
  | error e' =>
    change Except.error e' = _ ↔ _
    simp
  | ok a =>
    change next a = _ ↔ _
    simp

/-- A traversal that succeeds has succeeded for each item. -/
theorem forall₂_of_mapM {ε α β : Type} {f : α → Except ε β} {items : List α} {results : List β}
    (done : items.mapM f = .ok results) : List.Forall₂ (fun a b => f a = .ok b) items results := by
  induction items generalizing results with
  | nil => cases done; exact .nil
  | cons a rest ih =>
    rw [List.mapM_cons] at done
    obtain ⟨first, head, done⟩ := bind_eq_ok done
    obtain ⟨others, tail, done⟩ := bind_eq_ok done
    cases done
    exact .cons head (ih tail)

section
variable {α β : Type} {R : α → β → Prop} {as : List α} {bs : List β}

/-- What stands at a place on the left has its partner at that place on the right. -/
theorem getElem?_of_forall₂ (related : List.Forall₂ R as bs) {i : Nat} {a : α}
    (here : as[i]? = some a) : ∃ b, bs[i]? = some b ∧ R a b := by
  induction related generalizing i with
  | nil => cases here
  | cons first _ ih =>
    cases i with
    | zero => cases here; exact ⟨_, rfl, first⟩
    | succ i => exact ih here

/-- Where partners agree on what is looked for, the first ones found are partners. -/
theorem find?_of_forall₂ {f : α → Bool} {g : β → Bool} (agree : ∀ a b, R a b → f a = g b)
    (related : List.Forall₂ R as bs) {b : β} (found : bs.find? g = some b) :
    ∃ a, as.find? f = some a ∧ R a b := by
  induction related with
  | nil => cases found
  | @cons a' b' _ _ first _ ih =>
    rw [List.find?_cons] at found ⊢
    rw [agree a' b' first]
    split at found
    · cases found
      exact ⟨a', rfl, first⟩
    · exact ih found

theorem getElem?_of_forall₂_right (related : List.Forall₂ R as bs) {i : Nat} {b : β}
    (here : bs[i]? = some b) : ∃ a, as[i]? = some a ∧ R a b :=
  getElem?_of_forall₂ related.flip here

/-- Partners that agree on a part of them make lists that do. -/
theorem map_eq_of_forall₂ {γ : Type} {f : α → γ} {g : β → γ}
    (related : List.Forall₂ (fun a b => f a = g b) as bs) : as.map f = bs.map g := by
  induction related with
  | nil => rfl
  | cons first _ ih => rw [List.map_cons, List.map_cons, first, ih]

theorem forall₂_of_zip {γ : Type} {S : α × β → γ → Prop} {cs : List γ}
    (related : List.Forall₂ R as bs) (results : List.Forall₂ S (as.zip bs) cs) :
    List.Forall₂ (fun a c => a ∈ as ∧ ∃ b, R a b ∧ S (a, b) c) as cs := by
  induction related generalizing cs with
  | nil => cases results; exact .nil
  | @cons a b rest _ first _ ih =>
    cases results with
    | cons head tail =>
      refine .cons ⟨List.mem_cons_self .., b, first, head⟩ ((ih tail).imp ?_)
      rintro a c ⟨member, there⟩
      exact ⟨List.mem_cons_of_mem _ member, there⟩

end

/-- A column of a plan and the accessors of its field, all of one type. -/
structure ColumnPlan.Fits (c : ColumnPlan) (access : Column) : Prop where
  semantic : c.semantic = access.semantic
  affinity : c.affinity = access.semantic.affinity
  bind : c.bind = access.semantic.bindOp
  decode : c.decode = access.semantic.decodeOp
  getter : access.getter.type.semantic = access.semantic
  setter : access.setter.type.semantic = access.semantic

/-- A relation whose accessors and strategy fit its cardinality and its link. -/
structure Relation.Fits (rel : Relation) : Prop where
  strategy : rel.plan.strategy = .select rel.plan.cardinality rel.link.type.semantic
  link : rel.link.type.semantic.isLink = true
  getter : rel.getter.shape = rel.plan.cardinality.shape
  setter : rel.setter.shape = rel.plan.cardinality.shape

/-- A compiled entity whose parts fit together. -/
structure CompiledEntity.Regular (e : CompiledEntity) : Prop where
  columns : List.Forall₂ ColumnPlan.Fits e.plan.columns e.columns
  key : ∃ c access, e.plan.columns[e.plan.primaryKey]? = some c
    ∧ e.columns[e.plan.primaryKey]? = some access ∧ c.column = e.plan.keyColumn
    ∧ access.semantic = e.keyType.semantic
  flag : ∀ i c, e.plan.columns[i]? = some c → c.primaryKey = decide (i = e.plan.primaryKey)
  relations : ∀ rel ∈ e.relations, rel.Fits

namespace Model

variable {m : Model} {a : AnalyzedEntity}

theorem columnGetter_eq_ok {f : FieldDeclaration} {d : MethodDeclaration} {getter : ColumnGetter} :
    m.columnGetter f d = .ok getter ↔ d.body = .get getter ∧ getter.type.semantic = f.semantic := by
  rw [columnGetter]
  split
  · next found body =>
    split
    · next same =>
      rw [Except.ok.injEq, body, MethodBody.get.injEq]
      exact ⟨fun here => ⟨here, here ▸ same⟩, And.left⟩
    · next differs =>
      refine ⟨nofun, ?_⟩
      rintro ⟨here, same⟩
      rw [body] at here
      cases here
      exact absurd same differs
  · next other => exact ⟨nofun, fun here => absurd here.1 (other getter)⟩

theorem columnSetter_eq_ok {f : FieldDeclaration} {d : MethodDeclaration} {setter : ColumnSetter} :
    m.columnSetter f d = .ok setter ↔ d.body = .set setter ∧ setter.type.semantic = f.semantic := by
  rw [columnSetter]
  split
  · next found body =>
    split
    · next same =>
      rw [Except.ok.injEq, body, MethodBody.set.injEq]
      exact ⟨fun here => ⟨here, here ▸ same⟩, And.left⟩
    · next differs =>
      refine ⟨nofun, ?_⟩
      rintro ⟨here, same⟩
      rw [body] at here
      cases here
      exact absurd same differs
  · next other => exact ⟨nofun, fun here => absurd here.1 (other setter)⟩

theorem bindField_ok {found : AccessorMatch} {f : FieldDeclaration} {bound : FieldSpec × Column}
    (done : m.bindField found f = .ok bound) :
    bound.1.name = f.name ∧ bound.1.semantic = f.semantic ∧ bound.1.primaryKey = f.primaryKey ∧ bound.2.semantic = f.semantic
      ∧ bound.2.getter.type.semantic = f.semantic ∧ bound.2.setter.type.semantic = f.semantic := by
  rw [bindField] at done
  split at done
  · next binding _ =>
    split at done
    · next same =>
      cases done
      exact ⟨rfl, rfl, rfl, rfl, same, same⟩
    · cases done
  · split at done
    · next g s _ _ =>
      obtain ⟨getter, reads, done⟩ := bind_eq_ok done
      obtain ⟨setter, writes, done⟩ := bind_eq_ok done
      cases done
      exact ⟨rfl, rfl, rfl, rfl, (columnGetter_eq_ok.mp reads).2, (columnSetter_eq_ok.mp writes).2⟩
    · cases done
    · cases done

theorem bindRelation_ok {found : AccessorMatch} {columns : List (FieldSpec × Column)}
    {r : RelationDeclaration} {bound : RelationSpec × Relation}
    (done : m.bindRelation found columns r = .ok bound) :
    bound.2.plan = .ofSpec bound.1 ∧ bound.1.target = r.target
      ∧ bound.2.getter.shape = bound.1.cardinality.shape
      ∧ bound.2.setter.shape = bound.1.cardinality.shape
      ∧ ∃ column, columns.find? (·.1.name = r.on) = some column
        ∧ bound.1.linkType = column.1.semantic ∧ bound.2.link = column.2.getter := by
  rw [bindRelation] at done
  split at done
  · cases done
  · next link column located =>
    obtain ⟨⟨getter, accessor, setter, mutator⟩, _, done⟩ := bind_eq_ok done
    obtain ⟨_, checked, done⟩ := bind_eq_ok done
    cases done
    simp only [checkRelationAccessors] at checked
    split at checked
    · cases checked
    · next shape =>
      split at checked
      · cases checked
      · next shape' =>
        exact ⟨rfl, rfl, not_ne_iff.mp shape, not_ne_iff.mp shape', ⟨link, column⟩, located, rfl, rfl⟩

/-- Exactly one of the fields is the key, and it has the key type of the entity. -/
theorem checkPrimaryKey_ok (done : m.checkPrimaryKey = .ok ()) :
    ∃ key, m.fields.filter (·.primaryKey) = [key] ∧ key.semantic = m.keyType.semantic := by
  rw [checkPrimaryKey] at done
  split at done
  · cases done
  · next key single =>
    split at done
    · cases done
    · split at done
      · cases done
      · next same => exact ⟨key, single, not_ne_iff.mp same⟩
  · cases done

theorem checkLink_ok {r : RelationDeclaration} (done : m.checkLink r = .ok ()) :
    ∃ field, m.fields.find? (·.name = r.on) = some field ∧ field.semantic.isLink = true := by
  rw [checkLink] at done
  split at done
  · cases done
  · next field found =>
    split at done
    · next link => exact ⟨field, found, link⟩
    · cases done

theorem forM_ok {ε α : Type} {f : α → Except ε Unit} {items : List α} (done : items.forM f = .ok ()) :
    ∀ a ∈ items, f a = .ok () := by
  induction items with
  | nil => exact nofun
  | cons a rest ih =>
    obtain ⟨_, first, done⟩ := bind_eq_ok done
    intro b member
    rcases List.mem_cons.mp member with rfl | later
    · exact first
    · exact ih done b later

end Model

theorem unique_key {α : Type} {flag : α → Bool} {items : List α} {key : α}
    (single : items.filter flag = [key]) :
    ∃ i : Nat, items[i]? = some key ∧ ∀ (j : Nat) a, items[j]? = some a → flag a = decide (j = i) := by
  -- The induction follows the filter; the flag of an item decides whether it is the key.
  induction items with
  | nil => cases single
  | cons a rest ih =>
    rw [List.filter_cons] at single
    split at single
    · next here =>
      obtain ⟨rfl, none⟩ := List.cons.inj single
      refine ⟨0, rfl, fun j b there => ?_⟩
      cases j with
      | zero => cases there; simpa using here
      | succ j =>
        have absent := List.filter_eq_nil_iff.mp none b (List.mem_of_getElem? there)
        simpa using absent
    · next absent =>
      obtain ⟨i, located, others⟩ := ih single
      refine ⟨i + 1, located, fun j b there => ?_⟩
      cases j with
      | zero => cases there; simpa using absent
      | succ j => simpa using others j b there

structure AnalyzedEntity.Checked (a : AnalyzedEntity) : Prop where
  columns : List.Forall₂ (fun (f : FieldSpec) (access : Column) => access.semantic = f.semantic
    ∧ access.getter.type.semantic = f.semantic ∧ access.setter.type.semantic = f.semantic)
    a.schema.fields a.columns
  key : ∃ (i : Nat) (f : FieldSpec), a.schema.fields[i]? = some f ∧ f.semantic = a.keyType.semantic
    ∧ ∀ (j : Nat) (g : FieldSpec), a.schema.fields[j]? = some g → g.primaryKey = decide (j = i)
  relations : List.Forall₂ (fun spec rel => rel.plan = RelationPlan.ofSpec spec ∧ rel.Fits)
    a.schema.relations a.relations

theorem Model.analyze_parts {m : Model} {a : AnalyzedEntity} (done : m.analyze = .ok a) :
    ∃ columns relations initial, m.checkDeclaration = .ok ()
      ∧ m.fields.mapM (m.bindField m.accessorMatch) = .ok columns
      ∧ m.relations.mapM (m.bindRelation m.accessorMatch columns) = .ok relations
      ∧ m.initial = some initial
      ∧ a = {
          schema := {
            qualifiedName := m.qualifiedName
            table := m.tableName
            tag := m.context
            fields := columns.map (·.1)
            primaryKey := (((columns.map (·.1)).find? (·.primaryKey)).map (·.name)).getD ""
            relations := relations.map (·.1) }
          keyType := m.keyType
          initial := initial
          columns := columns.map (·.2)
          relations := relations.map (·.2) } := by
  rw [analyze] at done
  obtain ⟨_, declared, done⟩ := bind_eq_ok done
  dsimp only at done
  split at done
  · cases done
  split at done
  · cases done
  obtain ⟨columns, fields, done⟩ := bind_eq_ok done
  obtain ⟨relations, links, done⟩ := bind_eq_ok done
  split at done
  · cases done
  · next initial constructed =>
    cases done
    exact ⟨columns, relations, initial, declared, fields, links, constructed, rfl⟩

theorem Model.analyze_ok {m : Model} {a : AnalyzedEntity} (done : m.analyze = .ok a) :
    a.schema.qualifiedName = m.qualifiedName ∧ a.Checked := by
  obtain ⟨columns, relations, initial, declared, fields, links, _, rfl⟩ := analyze_parts done
  have bound := forall₂_of_mapM fields
  have linked := forall₂_of_mapM links
  -- Of the checks, those of the primary key and of the links are needed.
  rw [checkDeclaration] at declared
  obtain ⟨_, _, declared⟩ := bind_eq_ok declared
  obtain ⟨_, _, declared⟩ := bind_eq_ok declared
  obtain ⟨_, _, declared⟩ := bind_eq_ok declared
  obtain ⟨_, _, declared⟩ := bind_eq_ok declared
  obtain ⟨_, keyed, declared⟩ := bind_eq_ok declared
  obtain ⟨_, _, linkTypes⟩ := bind_eq_ok declared
  refine ⟨rfl, ?_, ?_, ?_⟩
  · rw [List.forall₂_map_left_iff, List.forall₂_map_right_iff, List.forall₂_same]
    intro pair member
    obtain ⟨f, _, binds⟩ := mem_of_mapM fields pair member
    obtain ⟨_, type, _, access, getter, setter⟩ := bindField_ok binds
    exact ⟨access.trans type.symm, getter.trans type.symm, setter.trans type.symm⟩
  · obtain ⟨key, single, type⟩ := checkPrimaryKey_ok keyed
    obtain ⟨i, located, others⟩ := unique_key single
    obtain ⟨pair, here, binds⟩ := getElem?_of_forall₂ bound located
    refine ⟨i, pair.1, by simp [here], (bindField_ok binds).2.1.trans type, fun j g there => ?_⟩
    rw [List.getElem?_map, Option.map_eq_some_iff] at there
    obtain ⟨other, there, rfl⟩ := there
    obtain ⟨f, declared, binds⟩ := getElem?_of_forall₂_right bound there
    rw [(bindField_ok binds).2.2.1]
    exact others j f declared
  · rw [List.forall₂_map_left_iff, List.forall₂_map_right_iff, List.forall₂_same]
    intro pair member
    obtain ⟨r, declared, binds⟩ := mem_of_mapM links pair member
    obtain ⟨plan, _, getter, setter, column, located, type, link⟩ := bindRelation_ok binds
    have named (f : FieldDeclaration) (pair : FieldSpec × Column)
        (binds : m.bindField m.accessorMatch f = .ok pair) :
        decide (f.name = r.on) = decide (pair.1.name = r.on) := by rw [(bindField_ok binds).1]
    obtain ⟨f, first, field⟩ := find?_of_forall₂ named bound located
    have ⟨_, specified, _, _, reads, _⟩ := bindField_ok field
    have linked : pair.2.link.type.semantic = f.semantic := by rw [link, reads]
    obtain ⟨other, found, isLink⟩ := checkLink_ok (forM_ok linkTypes r declared)
    rw [first, Option.some.injEq] at found
    refine ⟨plan, ?_, ?_, ?_, ?_⟩
    · rw [plan, linked, ← specified, ← type]
      rfl
    · rw [linked, found]
      exact isLink
    · rw [plan]; exact getter
    · rw [plan]; exact setter

/-! ## Catalogs -/

/-- A catalog whose entities have all passed the checks, under names of their own. -/
structure Catalog.Checked (c : Catalog) : Prop where
  entities : ∀ a ∈ c.entities, a.Checked
  names : (c.entities.map (·.schema.qualifiedName)).Nodup

theorem Catalog.Checked.register {c : Catalog} (checked : c.Checked) (m : Model) :
    (c.register m).1.Checked := by
  rw [Catalog.register]
  split
  · exact checked
  · split
    · exact ⟨checked.entities, checked.names⟩
    · next fresh =>
        -- A name that is registered again has been turned away, so the new one is apart from the others.
      split
      · exact ⟨checked.entities, checked.names⟩
      · next a analyzed =>
        obtain ⟨name, sound⟩ := Model.analyze_ok analyzed
        refine ⟨fun b member => ?_, ?_⟩
        · rcases List.mem_append.mp member with old | new
          · exact checked.entities b old
          · rw [List.mem_singleton.mp new]
            exact sound
        · dsimp only
          rw [List.map_append, List.nodup_append]
          refine ⟨checked.names, by simp, fun other listed last here => ?_⟩
          obtain ⟨b, member, rfl⟩ := List.mem_map.mp listed
          rw [List.map_singleton, List.mem_singleton, name] at here
          rw [here]
          intro same
          exact fresh (List.any_eq_true.mpr ⟨b, member, decide_eq_true same⟩)

theorem Catalog.Checked.registerAll {c : Catalog} (checked : c.Checked) (models : List Model) :
    (c.registerAll models).1.Checked := by
  induction models generalizing c with
  | nil => exact checked
  | cons m rest ih => exact ih (checked.register m)

/-- Knowing the targets of its relations changes nothing else of a schema, and they are there. -/
theorem Catalog.linkSchema_ok {c : Catalog} {s linked : EntitySchema}
    (done : c.linkSchema s = .ok linked) :
    (∃ relations, linked = { s with relations := relations })
      ∧ ∀ r ∈ s.relations, ∃ target ∈ c.entities, target.schema.qualifiedName = r.target := by
  rw [linkSchema] at done
  obtain ⟨relations, found, done⟩ := bind_eq_ok done
  cases done
  refine ⟨⟨relations, rfl⟩, fun r member => ?_⟩
  obtain ⟨i, here⟩ := List.getElem?_of_mem member
  obtain ⟨known, _, links⟩ := getElem?_of_forall₂ (forall₂_of_mapM found) here
  rw [linkTarget] at links
  split at links
  · next located =>
    obtain ⟨t, first, _⟩ := Option.bind_eq_some_iff.mp located
    exact ⟨t, List.mem_of_find?_eq_some first, by simpa using List.find?_some first⟩
  · cases links

theorem AnalyzedEntity.Checked.compile {a : AnalyzedEntity} (checked : a.Checked)
    {relations : List RelationSpec} {e : CompiledEntity}
    (done : Catalog.compileEntity a { a.schema with relations := relations } = .ok e) :
    e.Regular ∧ e.schema.qualifiedName = a.schema.qualifiedName ∧ e.relations = a.relations
      ∧ e.plan.table = e.schema.table ∧ e.plan.tag = e.schema.tag := by
  obtain ⟨i, key, here, type, flags⟩ := checked.key
  have flag : key.primaryKey = true := by rw [flags i key here, decide_eq_true_eq]
  obtain ⟨bound, same⟩ := List.getElem?_eq_some_iff.mp here
  -- The compiler looks for the first field with the flag, and no other field has it.
  have place : a.schema.fields.findIdx? (·.primaryKey) = some i := by
    rw [List.findIdx?_eq_some_iff_getElem]
    refine ⟨bound, by rw [same]; exact flag, fun j before => ?_⟩
    rw [flags j _ (List.getElem?_eq_getElem (Nat.lt_trans before bound))]
    simp [Nat.ne_of_lt before]
  have index (relations : List RelationSpec) :
      ({ a.schema with relations := relations } : EntitySchema).primaryKeyIndex = i := by
    rw [EntitySchema.primaryKeyIndex, place]
    rfl
  rw [Catalog.compileEntity, MappingPlan.ofSchema?, EntitySchema.keyField?, index] at done
  rw [here] at done
  cases done
  refine ⟨⟨?_, ?_, fun j c there => ?_, fun rel member => ?_⟩, rfl, rfl, rfl, rfl⟩
  · refine List.forall₂_map_left_iff.mpr (checked.columns.imp ?_)
    rintro f access ⟨semantic, getter, setter⟩
    exact ⟨semantic.symm, by rw [semantic]; rfl, by rw [semantic]; rfl, by rw [semantic]; rfl,
      getter.trans semantic.symm, setter.trans semantic.symm⟩
  · obtain ⟨access, there, semantic, _⟩ := getElem?_of_forall₂ checked.columns here
    refine ⟨.ofField key, access, ?_, there, rfl, semantic.trans type⟩
    change (a.schema.fields.map ColumnPlan.ofField)[i]? = _
    rw [List.getElem?_map, here]
    rfl
  · change (a.schema.fields.map ColumnPlan.ofField)[j]? = some c at there
    rw [List.getElem?_map, Option.map_eq_some_iff] at there
    obtain ⟨f, there, rfl⟩ := there
    exact flags j f there
  · obtain ⟨k, there⟩ := List.getElem?_of_mem member
    obtain ⟨_, _, _, fits⟩ := getElem?_of_forall₂_right checked.relations there
    exact fits

/-- What the entities of a compiled catalog are: those of the catalog in their order, each with parts
    that fit, and each relation of them leads to one of them. -/
structure CompiledCatalog.Regular (c : CompiledCatalog) : Prop where
  entities : ∀ e ∈ c.entities, e.Regular
  names : (c.entities.map (·.schema.qualifiedName)).Nodup
  targets : ∀ e ∈ c.entities, ∀ rel ∈ e.relations,
    ∃ target ∈ c.entities, target.schema.qualifiedName = rel.plan.target

theorem Catalog.Checked.check {c : Catalog} (checked : c.Checked) {compiled : CompiledCatalog}
    (done : c.check = .ok compiled) : compiled.Regular := by
  rw [Catalog.check] at done
  split at done
  · cases done
  obtain ⟨schemas, linked, done⟩ := bind_eq_ok done
  obtain ⟨_, _, done⟩ := bind_eq_ok done
  obtain ⟨entities, compiled, done⟩ := bind_eq_ok done
  cases done
  -- Each compiled entity comes from a registered one, in the same place.
  have each : List.Forall₂ (fun a e => e.Regular ∧ a.schema.qualifiedName = e.schema.qualifiedName
      ∧ ∀ rel ∈ e.relations, ∃ target ∈ c.entities, target.schema.qualifiedName = rel.plan.target)
      c.entities entities := by
    refine (forall₂_of_zip (forall₂_of_mapM linked) (forall₂_of_mapM compiled)).imp ?_
    rintro a e ⟨registered, schema, link, here⟩
    obtain ⟨⟨relations, rfl⟩, targets⟩ := linkSchema_ok link
    have sound := checked.entities a registered
    obtain ⟨regular, name, same, _⟩ := sound.compile here
    refine ⟨regular, name.symm, fun rel member => ?_⟩
    rw [same] at member
    obtain ⟨k, there⟩ := List.getElem?_of_mem member
    obtain ⟨spec, specified, plan, _⟩ := getElem?_of_forall₂_right sound.relations there
    rw [plan]
    exact targets spec (List.mem_of_getElem? specified)
  have names : entities.map (·.schema.qualifiedName) = c.entities.map (·.schema.qualifiedName) :=
    (map_eq_of_forall₂ (each.imp fun _ _ known => known.2.1)).symm
  refine ⟨fun e member => ?_, names ▸ checked.names, fun e member rel listed => ?_⟩
  · obtain ⟨i, here⟩ := List.getElem?_of_mem member
    obtain ⟨_, _, regular, _⟩ := getElem?_of_forall₂_right each here
    exact regular
  · obtain ⟨i, here⟩ := List.getElem?_of_mem member
    obtain ⟨_, _, _, _, targets⟩ := getElem?_of_forall₂_right each here
    obtain ⟨target, known, name⟩ := targets rel listed
    have named : target.schema.qualifiedName ∈ entities.map (·.schema.qualifiedName) :=
      names ▸ List.mem_map_of_mem known
    obtain ⟨other, among, same⟩ := List.mem_map.mp named
    exact ⟨other, among, same.trans name⟩

theorem Catalog.compile_ok {c : Catalog} {compiled : CompiledCatalog}
    (done : c.compile.1 = .ok compiled) : c.check = .ok compiled := by
  rw [compile] at done
  dsimp only at done
  split at done
  · cases done
  · next checked => cases done; exact checked

theorem Catalog.regular_of_compile {models : List Model} {compiled : CompiledCatalog}
    (done : ((({} : Catalog).registerAll models).1.compile).1 = .ok compiled) : compiled.Regular :=
  have empty : ({} : Catalog).Checked := ⟨fun _ member => absurd member List.not_mem_nil, .nil⟩
  (empty.registerAll models).check (compile_ok done)

end EntityStore
