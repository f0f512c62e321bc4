import EntityStore.Proofs.Catalog.Analysis

/-! # What a catalog accepts

The rules across declarations, and the verdict on a whole sequence of registrations:

* `Catalog.Accepts` — registrations that keep every rule.
* `Catalog.Refuses` — the violation that is reported of others: of the earliest registration that
  fails, else of the first relation without a target, else of the first table with an owner.
* `Catalog.compile_verdict` — compilation succeeds for the former and fails as said for the latter.
-/

namespace EntityStore

open EntityStore.Engine (bind_eq_ok)

namespace Catalog

def Registered (models : List Model) (name : String) : Prop := ∃ m ∈ models, m.qualifiedName = name

/-- Well-formed declarations of types of their own. -/
structure Registers (models : List Model) : Prop where
  names : (models.map (·.qualifiedName)).Nodup
  each : ∀ m ∈ models, m.WellFormed

def Dangles (models : List Model) (r : RelationDeclaration) : Prop := ¬Registered models r.target

def place (m : Model) : String × String := (m.context, m.tableName)

/-- Registrations that keep every rule. -/
structure Accepts (models : List Model) : Prop extends Registers models where
  targets : ∀ m ∈ models, ∀ r ∈ m.relations, Registered models r.target
  tables : (models.map place).Nodup

/-- What is reported of registrations that break a rule.  What comes after the earliest registration
    that fails does not matter. -/
inductive Refuses (models : List Model) : Violation → Prop
  | repeated {before m after} (split : models = before ++ m :: after) (sound : Registers before)
    (again : Registered before m.qualifiedName) : Refuses models (.duplicateEntity m.qualifiedName)
  | broken {before m after v} (split : models = before ++ m :: after) (sound : Registers before)
    (fresh : ¬Registered before m.qualifiedName) (reports : m.Reports v) : Refuses models v
  | target {m r} (sound : Registers models)
    (owner : First (fun m => ∃ r ∈ m.relations, Dangles models r) models m)
    (link : First (Dangles models) m.relations r) :
    Refuses models (.unresolvedRelationTarget m.qualifiedName r.name r.target)
  | table {before first second after} (sound : Registers models)
    (targets : ∀ m ∈ models, ∀ r ∈ m.relations, Registered models r.target)
    (split : models = before ++ second :: after) (apart : (before.map place).Nodup)
    (owner : first ∈ before) (shared : place first = place second) :
    Refuses models (.duplicateTable second.tableName second.context first.qualifiedName
      second.qualifiedName)

/-! ## Every sequence is one or the other -/

theorem registers_or_refuses (models : List Model) : Registers models ∨ ∃ before m after v,
    models = before ++ m :: after ∧ Registers before
      ∧ (Registered before m.qualifiedName ∧ v = .duplicateEntity m.qualifiedName
        ∨ ¬Registered before m.qualifiedName ∧ m.Reports v) := by
  -- From the end, since a declaration is checked against the ones before it.
  induction models using List.reverseRecOn with
  | nil => exact .inl ⟨.nil, nofun⟩
  | append_singleton models m ih =>
    rcases ih with sound | ⟨before, other, after, v, rfl, sound, refused⟩
    · by_cases again : Registered models m.qualifiedName
      · exact .inr ⟨models, m, [], _, rfl, sound, .inl ⟨again, rfl⟩⟩
      · by_cases formed : m.WellFormed
        · refine .inl ⟨?_, fun n member => ?_⟩
          · rw [List.map_append, List.nodup_append]
            refine ⟨sound.names, by simp, fun name listed other here same => ?_⟩
            obtain ⟨n, member, rfl⟩ := List.mem_map.mp listed
            rw [List.map_singleton, List.mem_singleton] at here
            exact again ⟨n, member, same.trans here⟩
          · cases List.mem_append.mp member with
            | inl before => exact sound.each n before
            | inr last => rw [List.mem_singleton.mp last]; exact formed
        · obtain ⟨v, reports⟩ : ∃ v, m.Reports v := by
            rw [Model.exists_reports_iff]
            rw [Model.wellFormed_iff] at formed
            push Not at formed
            exact formed
          exact .inr ⟨models, m, [], v, rfl, sound, .inr ⟨again, reports⟩⟩
    · exact .inr ⟨before, other, after ++ [m], v, by simp, sound, refused⟩

theorem accepts_or_refuses (models : List Model) : Accepts models ∨ ∃ v, Refuses models v := by
  -- In the order of the checks: the models one after the other, the targets of relations, the tables.
  rcases registers_or_refuses models with sound | ⟨before, m, after, v, split, sound, refused⟩
  · by_cases dangling : ∃ m ∈ models, ∃ r ∈ m.relations, Dangles models r
    · obtain ⟨m, member, dangles⟩ := dangling
      obtain ⟨owner, first⟩ := First.exists_of_mem
        (p := fun m : Model => ∃ r ∈ m.relations, Dangles models r) member dangles
      obtain ⟨r, declared, dangles⟩ := first.holds
      obtain ⟨link, last⟩ := First.exists_of_mem declared dangles
      exact .inr ⟨_, .target sound first last⟩
    · have targets : ∀ m ∈ models, ∀ r ∈ m.relations, Registered models r.target := by
        intro m member r declared
        by_contra dangles
        exact dangling ⟨m, member, r, declared, dangles⟩
      by_cases tables : (models.map place).Nodup
      · exact .inl ⟨sound, targets, tables⟩
      · rw [nodup_iff_not_firstAgain] at tables
        push Not at tables
        obtain ⟨shared, places, later, split, again, apart⟩ := tables
        obtain ⟨before, rest, rfl, rfl, others⟩ := List.map_eq_append_iff.mp split
        obtain ⟨second, after, rfl, rfl, _⟩ := List.map_eq_cons_iff.mp others
        obtain ⟨first, owner, same⟩ := List.mem_map.mp again
        exact .inr ⟨_, .table sound targets rfl apart owner same⟩
  · rcases refused with ⟨again, rfl⟩ | ⟨fresh, reports⟩
    · exact .inr ⟨_, .repeated split sound again⟩
    · exact .inr ⟨v, .broken split sound fresh reports⟩

/-! ## Registration -/

theorem registerAll_append (c : Catalog) (before after : List Model) :
    (c.registerAll (before ++ after)).1 = ((c.registerAll before).1.registerAll after).1 := by
  induction before generalizing c with
  | nil => rfl
  | cons m rest ih => exact ih (c.register m).1

/-- The entities of a catalog are those of some declarations, in their order, and no rule has been
    broken. -/
structure Holds (c : Catalog) (models : List Model) : Prop where
  clear : c.violation = none
  analyzed : List.Forall₂ (fun m a => m.analyze = .ok a) models c.entities

namespace Holds

variable {c : Catalog} {models : List Model}

theorem names (held : c.Holds models) :
    c.entities.map (·.schema.qualifiedName) = models.map (·.qualifiedName) :=
  (map_eq_of_forall₂ (held.analyzed.imp fun _ _ done => (Model.analyze_ok done).1.symm)).symm

theorem registered_iff (held : c.Holds models) (name : String) :
    Registered models name ↔ ∃ a ∈ c.entities, a.schema.qualifiedName = name := by
  rw [Registered, ← List.mem_map, ← List.mem_map, held.names]

theorem any_iff (held : c.Holds models) (m : Model) :
    c.entities.any (·.schema.qualifiedName = m.qualifiedName) = true ↔
      Registered models m.qualifiedName := by
  rw [held.registered_iff, List.any_eq_true]
  simp only [decide_eq_true_eq]

/-- A well-formed declaration of another type is added. -/
theorem register (held : c.Holds models) {m : Model} (fresh : ¬Registered models m.qualifiedName)
    (formed : m.WellFormed) : (c.register m).1.Holds (models ++ [m]) := by
  obtain ⟨a, done⟩ := Model.analyze_ok_iff.mpr formed
  rw [Catalog.register, held.clear]
  dsimp only
  rw [if_neg (mt (held.any_iff m).mp fresh), done]
  exact ⟨rfl, List.rel_append held.analyzed (.cons done .nil)⟩

theorem registerAll (sound : Registers models) : ((({} : Catalog).registerAll models).1).Holds models := by
  induction models using List.reverseRecOn with
  | nil => exact ⟨rfl, .nil⟩
  | append_singleton models m ih =>
    have apart := sound.names
    rw [List.map_append, List.nodup_append] at apart
    rw [registerAll_append]
    refine (ih ⟨apart.1, fun n member => sound.each n (by simp [member])⟩).register ?_
      (sound.each m (by simp))
    rintro ⟨n, member, same⟩
    exact apart.2.2 _ (List.mem_map_of_mem member) _ (by simp) same

theorem refused (held : c.Holds models) {m : Model} {v : Violation}
    (refused : Registered models m.qualifiedName ∧ v = .duplicateEntity m.qualifiedName
      ∨ ¬Registered models m.qualifiedName ∧ m.Reports v) :
    (c.register m).1.violation = some v := by
  rw [Catalog.register, held.clear]
  dsimp only
  rcases refused with ⟨again, rfl⟩ | ⟨fresh, reports⟩
  · rw [if_pos ((held.any_iff m).mpr again)]
  · rw [if_neg (mt (held.any_iff m).mp fresh), Model.analyze_error_iff.mpr reports]

end Holds

/-- The violation of the earliest registration that fails stays. -/
theorem registerAll_refused {before after : List Model} {m : Model} {v : Violation}
    (sound : Registers before) (refused : Registered before m.qualifiedName ∧ v = .duplicateEntity m.qualifiedName
      ∨ ¬Registered before m.qualifiedName ∧ m.Reports v) :
    (({} : Catalog).registerAll (before ++ m :: after)).1.violation = some v := by
  have violated := (Holds.registerAll sound).refused refused
  rw [registerAll_append]
  change ((((({} : Catalog).registerAll before).1.register m).1.registerAll after).1).violation = some v
  rw [registerAll_violated violated]
  exact violated

/-! ## Targets -/

theorem analyze_declared {m : Model} {a : AnalyzedEntity} (done : m.analyze = .ok a) :
    (a.schema.qualifiedName = m.qualifiedName ∧ a.schema.tag = m.context ∧ a.schema.table = m.tableName)
      ∧ List.Forall₂ (fun (r : RelationDeclaration) (spec : RelationSpec) =>
        r.name = spec.name ∧ r.target = spec.target) m.relations a.schema.relations := by
  refine ⟨⟨(Model.analyze_ok done).1, (Model.analyze_names done).1, (Model.analyze_names done).2.1⟩, ?_⟩
  obtain ⟨columns, relations, initial, _, _, links, _, rfl⟩ := Model.analyze_parts done
  refine List.forall₂_map_right_iff.mpr ((forall₂_of_mapM links).imp fun r pair binds => ?_)
  rw [Model.bindRelation] at binds
  split at binds
  · cases binds
  · obtain ⟨⟨getter, accessor, setter, mutator⟩, _, binds⟩ := bind_eq_ok binds
    obtain ⟨_, _, binds⟩ := bind_eq_ok binds
    cases binds
    exact ⟨rfl, rfl⟩

theorem keyField_of_checked {a : AnalyzedEntity} (checked : a.Checked) :
    ∃ key, a.schema.keyField? = some key := by
  obtain ⟨i, f, here, _⟩ := checked.key
  obtain ⟨bound, _⟩ := List.getElem?_eq_some_iff.mp here
  rw [EntitySchema.keyField?, EntitySchema.primaryKeyIndex]
  cases place : a.schema.fields.findIdx? (·.primaryKey) with
  | none => exact ⟨_, List.getElem?_eq_getElem (Nat.zero_lt_of_lt bound)⟩
  | some j =>
    obtain ⟨below, _⟩ := List.findIdx?_eq_some_iff_getElem.mp place
    exact ⟨_, List.getElem?_eq_getElem below⟩

section
variable {c : Catalog} {models : List Model} (held : c.Holds models)
include held

theorem linkTarget_error {owner : EntitySchema} {r : RelationSpec} {v : Violation} :
    c.linkTarget owner r = .error v ↔
      ¬Registered models r.target ∧ v = .unresolvedRelationTarget owner.qualifiedName r.name r.target := by
  rw [held.registered_iff, linkTarget, find?]
  cases found : c.entities.find? (·.schema.qualifiedName = r.target) with
  | none =>
    have absent : ¬∃ a ∈ c.entities, a.schema.qualifiedName = r.target := by
      rintro ⟨a, member, same⟩
      exact List.find?_eq_none.mp found a member (decide_eq_true same)
    simp [absent, eq_comm]
  | some a =>
    have member := List.mem_of_find?_eq_some found
    have named : a.schema.qualifiedName = r.target := by simpa using List.find?_some found
    obtain ⟨i, here⟩ := List.getElem?_of_mem member
    obtain ⟨m, _, done⟩ := getElem?_of_forall₂_right held.analyzed here
    obtain ⟨key, keyed⟩ := keyField_of_checked (Model.analyze_ok done).2
    have registered : ∃ a ∈ c.entities, a.schema.qualifiedName = r.target := ⟨a, member, named⟩
    simp [keyed, registered]

theorem linkSchema_error {s : EntitySchema} {v : Violation} : c.linkSchema s = .error v ↔
    ∃ r, First (fun r : RelationSpec => ¬Registered models r.target) s.relations r
      ∧ v = .unresolvedRelationTarget s.qualifiedName r.name r.target := by
  have fails : (fun r => ∃ w, c.linkTarget s r = .error w) =
      fun r : RelationSpec => ¬Registered models r.target := by
    ext r
    simp [linkTarget_error held]
  rw [linkSchema, bind_eq_error, mapM_eq_error, fails]
  simp only [linkTarget_error held]
  constructor
  · rintro (⟨r, first, _, same⟩ | ⟨_, _, done⟩)
    · exact ⟨r, first, same⟩
    · cases done
  · rintro ⟨r, first, same⟩
    exact .inl ⟨r, first, first.holds, same⟩

/-- The schemas are linked unless a relation dangles, and the first one that does is reported. -/
theorem linkSchemas_error {v : Violation} :
    (c.entities.mapM fun e => c.linkSchema e.schema) = .error v ↔
      ∃ m r, First (fun m : Model => ∃ r ∈ m.relations, Dangles models r) models m
        ∧ First (Dangles models) m.relations r
        ∧ v = .unresolvedRelationTarget m.qualifiedName r.name r.target := by
  -- What is first among the declarations is first among what the catalog has made of them.
  have agree (m : Model) (a : AnalyzedEntity) (done : m.analyze = .ok a) :
      (∃ r ∈ m.relations, Dangles models r) ↔ ∃ w, c.linkSchema a.schema = .error w := by
    obtain ⟨⟨name, _⟩, relations⟩ := analyze_declared done
    simp only [linkSchema_error held]
    constructor
    · rintro ⟨r, declared, dangles⟩
      obtain ⟨first, found⟩ := First.exists_of_mem (p := Dangles models) declared dangles
      obtain ⟨spec, found, _⟩ := found.partner
        (q := fun r : RelationSpec => ¬Registered models r.target) relations
        fun r spec same => by rw [Dangles, same.2]
      exact ⟨_, spec, found, rfl⟩
    · rintro ⟨_, spec, found, _⟩
      obtain ⟨r, found, _⟩ := found.partner (q := Dangles models) relations.flip
        fun spec r same => by rw [Dangles, same.2]
      exact ⟨r, found.mem, found.holds⟩
  rw [mapM_eq_error]
  constructor
  · rintro ⟨a, first, failed⟩
    obtain ⟨m, first, done⟩ := first.partner held.analyzed.flip fun a m done => (agree m a done).symm
    obtain ⟨⟨name, _⟩, relations⟩ := analyze_declared done
    obtain ⟨spec, found, rfl⟩ := (linkSchema_error held).mp failed
    obtain ⟨r, found, same⟩ := found.partner (q := Dangles models) relations.flip
      fun spec r same => by rw [Dangles, same.2]
    exact ⟨m, r, first, found, by rw [name, same.1, same.2]⟩
  · rintro ⟨m, r, first, found, rfl⟩
    obtain ⟨a, first, done⟩ := first.partner held.analyzed agree
    obtain ⟨⟨name, _⟩, relations⟩ := analyze_declared done
    obtain ⟨spec, found, same⟩ := found.partner
      (q := fun r : RelationSpec => ¬Registered models r.target) relations
      fun r spec same => by rw [Dangles, same.2]
    exact ⟨a, first, (linkSchema_error held).mpr ⟨spec, found, by rw [name, same.1, same.2]⟩⟩

end

/-! ## Tables -/

def schemaPlace (s : EntitySchema) : String × String := (s.tag, s.table)

/-- Schemas on places of their own are walked through, and the rest is walked after them. -/
theorem checkTablesAfter_append {seen before rest : List EntitySchema}
    (apart : ((before.reverse ++ seen).map schemaPlace).Nodup) :
    checkTablesAfter seen (before ++ rest) = checkTablesAfter (before.reverse ++ seen) rest := by
  induction before generalizing seen with
  | nil => rfl
  | cons s before ih =>
    rw [List.reverse_cons, List.append_assoc, List.singleton_append] at apart ⊢
    have unowned : tableOwner? seen s = none := by
      rw [List.map_append, List.map_cons] at apart
      have alone := (List.nodup_cons.mp (List.nodup_append.mp apart).2.1).1
      refine List.find?_eq_none.mpr fun t here same => alone (List.mem_map.mpr ⟨t, here, ?_⟩)
      obtain ⟨tag, table⟩ := of_decide_eq_true same
      rw [schemaPlace, schemaPlace, tag, table]
    rw [← ih apart]
    change checkTablesAfter seen (s :: (before ++ rest)) = _
    rw [checkTablesAfter, unowned]

theorem checkUniqueTables_append {before : List EntitySchema} (apart : (before.map schemaPlace).Nodup)
    (rest : List EntitySchema) :
    checkUniqueTables (before ++ rest) = checkTablesAfter before.reverse rest := by
  have fresh : ((before.reverse ++ []).map schemaPlace).Nodup := by
    rw [List.append_nil, List.map_reverse]
    exact List.nodup_reverse.mpr apart
  rw [checkUniqueTables, checkTablesAfter_append fresh, List.append_nil]

theorem checkUniqueTables_ok {schemas : List EntitySchema} (apart : (schemas.map schemaPlace).Nodup) :
    checkUniqueTables schemas = .ok () := by
  have walked := checkUniqueTables_append apart []
  rw [List.append_nil] at walked
  exact walked

theorem checkUniqueTables_error {before after : List EntitySchema} {first second : EntitySchema}
    (apart : (before.map schemaPlace).Nodup) (owner : first ∈ before)
    (shared : schemaPlace first = schemaPlace second) :
    checkUniqueTables (before ++ second :: after) =
      .error (.duplicateTable second.table second.tag first.qualifiedName second.qualifiedName) := by
  rw [checkUniqueTables_append apart, checkTablesAfter]
  have same (s : EntitySchema) : (s.tag = second.tag ∧ s.table = second.table) ↔
      schemaPlace s = schemaPlace second := by rw [schemaPlace, schemaPlace, Prod.mk.injEq]
  cases found : tableOwner? before.reverse second with
  | none =>
    have absent := List.find?_eq_none.mp found first (List.mem_reverse.mpr owner)
    rw [decide_eq_true_eq, same] at absent
    exact absurd shared absent
  | some other =>
    have member : other ∈ before := List.mem_reverse.mp (List.mem_of_find?_eq_some found)
    have owns := List.find?_some
      (p := fun t : EntitySchema => decide (t.tag = second.tag ∧ t.table = second.table)) found
    have placed := (same other).mp (of_decide_eq_true owns)
    rw [List.inj_on_of_nodup_map apart member owner (placed.trans shared.symm)]

/-! ## The verdict -/

section
variable {c : Catalog} {models : List Model} (held : c.Holds models)
include held

theorem linkSchemas_ok (targets : ∀ m ∈ models, ∀ r ∈ m.relations, Registered models r.target) :
    ∃ schemas, (c.entities.mapM fun e => c.linkSchema e.schema) = .ok schemas
      ∧ List.Forall₂ (fun m s => m.qualifiedName = s.qualifiedName ∧ place m = schemaPlace s)
        models schemas := by
  cases linked : c.entities.mapM fun e => c.linkSchema e.schema with
  | error v =>
    obtain ⟨m, r, first, link, _⟩ := (linkSchemas_error held).mp linked
    exact absurd (targets m first.mem r link.mem) link.holds
  | ok schemas =>
    refine ⟨schemas, rfl, ?_⟩
    have zipped := List.forall₂_iff_get.mp held.analyzed
    have links := List.forall₂_iff_get.mp (forall₂_of_mapM linked)
    refine List.forall₂_iff_get.mpr ⟨zipped.1.trans links.1, fun i here there => ?_⟩
    have between : i < c.entities.length := zipped.1 ▸ here
    obtain ⟨⟨name, tag, table⟩, _⟩ := analyze_declared (zipped.2 i here between)
    obtain ⟨⟨relations, same⟩, _⟩ := linkSchema_ok (links.2 i between there)
    rw [same]
    exact ⟨name.symm, by rw [place, schemaPlace, tag, table]⟩

theorem compileEntities_ok {schemas : List EntitySchema}
    (linked : (c.entities.mapM fun e => c.linkSchema e.schema) = .ok schemas) :
    ∃ entities, ((c.entities.zip schemas).mapM fun (e, s) => compileEntity e s) = .ok entities := by
  cases compiled : (c.entities.zip schemas).mapM fun (e, s) => compileEntity e s with
  | ok entities => exact ⟨entities, rfl⟩
  | error v =>
    obtain ⟨⟨a, s⟩, first, failed⟩ := mapM_eq_error.mp compiled
    have link := (List.forall₂_iff_zip.mp (forall₂_of_mapM linked)).2 first.mem
    obtain ⟨⟨relations, rfl⟩, _⟩ := linkSchema_ok link
    obtain ⟨i, here⟩ := List.getElem?_of_mem (List.of_mem_zip first.mem).1
    obtain ⟨m, _, done⟩ := getElem?_of_forall₂_right held.analyzed here
    obtain ⟨key, keyed⟩ := keyField_of_checked (Model.analyze_ok done).2
    have keyed : ({ a.schema with relations := relations } : EntitySchema).keyField? = some key := keyed
    dsimp only at failed
    rw [compileEntity, MappingPlan.ofSchema?, keyed] at failed
    cases failed

end

theorem check_of_accepts {models : List Model} (accepted : Accepts models) :
    ∃ compiled, (({} : Catalog).registerAll models).1.check = .ok compiled := by
  have held := Holds.registerAll accepted.toRegisters
  obtain ⟨schemas, linked, placed⟩ := linkSchemas_ok held accepted.targets
  obtain ⟨entities, compiled⟩ := compileEntities_ok held linked
  have apart : (schemas.map schemaPlace).Nodup := by
    rw [← map_eq_of_forall₂ (placed.imp fun _ _ same => same.2)]
    exact accepted.tables
  refine ⟨⟨entities⟩, ?_⟩
  rw [check, held.clear, linked]
  dsimp only [bind, Except.bind]
  rw [checkUniqueTables_ok apart, compiled]
  rfl

theorem check_of_refuses {models : List Model} {v : Violation} (refused : Refuses models v) :
    (({} : Catalog).registerAll models).1.check = .error v := by
  cases refused with
  | repeated split sound again =>
    rw [check, split, registerAll_refused sound (.inl ⟨again, rfl⟩)]
  | broken split sound fresh reports =>
    rw [check, split, registerAll_refused sound (.inr ⟨fresh, reports⟩)]
  | target sound owner link =>
    have held := Holds.registerAll sound
    rw [check, held.clear]
    exact bind_eq_error.mpr (.inl ((linkSchemas_error held).mpr ⟨_, _, owner, link, rfl⟩))
  | @table before first second after sound targets split apart owner shared =>
    have held := Holds.registerAll sound
    obtain ⟨schemas, linked, placed⟩ := linkSchemas_ok held targets
    rw [check, held.clear]
    refine bind_eq_error.mpr (.inr ⟨schemas, linked, bind_eq_error.mpr (.inl ?_)⟩)
    have called : schemas.map (fun s => (s.qualifiedName, schemaPlace s)) =
        models.map fun m => (m.qualifiedName, place m) :=
      (map_eq_of_forall₂ (placed.imp fun m s same => by rw [same.1, same.2])).symm
    rw [split, List.map_append, List.map_cons] at called
    -- The linked schemas are cut in two where the declarations are.
    obtain ⟨linkedBefore, rest, rfl, early, others⟩ := List.map_eq_append_iff.mp called
    obtain ⟨linkedSecond, linkedAfter, rfl, here, _⟩ := List.map_eq_cons_iff.mp others
    obtain ⟨linkedFirst, member, there⟩ : ∃ s ∈ linkedBefore,
        (s.qualifiedName, schemaPlace s) = (first.qualifiedName, place first) := by
      rw [← List.mem_map, early]
      exact List.mem_map_of_mem owner
    have places : linkedBefore.map schemaPlace = before.map place := by
      have seconds := congrArg (List.map Prod.snd) early
      simpa [Function.comp_def] using seconds
    simp only [Prod.mk.injEq] at here there
    obtain ⟨tag, table⟩ := Prod.mk.inj here.2
    rw [checkUniqueTables_error (places ▸ apart) member (there.2.trans (shared.trans here.2.symm)),
      there.1, here.1, tag, table]

/-- Compilation succeeds exactly for registrations that keep every rule, and else it fails with the
    violation that is reported of them. -/
theorem compile_verdict (models : List Model) :
    ((∃ compiled, ((({} : Catalog).registerAll models).1.compile).1 = .ok compiled) ↔ Accepts models)
      ∧ ∀ failure, ((({} : Catalog).registerAll models).1.compile).1 = .error failure ↔
        ∃ v, Refuses models v ∧ failure = v.toFailure := by
  have accepts (accepted : Accepts models) :
      ∃ compiled, ((({} : Catalog).registerAll models).1.compile).1 = .ok compiled := by
    obtain ⟨compiled, done⟩ := check_of_accepts accepted
    exact ⟨compiled, by rw [compile, done]⟩
  have refuses (v : Violation) (refused : Refuses models v) :
      ((({} : Catalog).registerAll models).1.compile).1 = .error v.toFailure := by
    rw [compile, check_of_refuses refused]
  -- A catalog is accepted or refused, so each direction that is left follows from the other outcome.
  refine ⟨⟨?_, accepts⟩, fun failure => ⟨fun failed => ?_, ?_⟩⟩
  · rintro ⟨compiled, done⟩
    rcases accepts_or_refuses models with accepted | ⟨v, refused⟩
    · exact accepted
    · rw [refuses v refused] at done
      cases done
  · rcases accepts_or_refuses models with accepted | ⟨v, refused⟩
    · obtain ⟨compiled, done⟩ := accepts accepted
      rw [done] at failed
      cases failed
    · rw [refuses v refused] at failed
      cases failed
      exact ⟨v, refused, rfl⟩
  · rintro ⟨v, refused, rfl⟩
    exact refuses v refused

end Catalog

end EntityStore
