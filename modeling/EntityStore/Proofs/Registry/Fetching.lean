import Mathlib.Data.List.Perm.Lattice
import EntityStore.Proofs.Catalog.Resolution
import EntityStore.Proofs.Mapper.Tally
import EntityStore.Proofs.Registry.Following

/-! # Many keys and single keys

What is fetched for a list of keys is what is fetched for each of them by itself:

* `MappingPlan.perm_rowsOf`, `Mapper.perm_underKeys` — the rows of keys are the rows of each key.
* `Registry.gets_agrees` — so are the records that a mapper fetches, with no more statements than
  are needed.
* `Registry.keys_alike` — the name of a key column that is no identifier.
-/

namespace EntityStore

open EntityStore.Engine (Row)
open EntityStore.Sql (Datum)
open Session (Yields)

/-! ## Rows of keys -/

/-- Items of two kinds that exclude each other. -/
theorem filter_or_perm {α : Type} {p q : α → Bool} {items : List α}
    (apart : ∀ a ∈ items, p a = true → q a = false) :
    (items.filter fun a => p a || q a).Perm (items.filter p ++ items.filter q) := by
  have first : (items.filter fun a => p a || q a).filter p = items.filter p := by
    rw [List.filter_filter]
    exact List.filter_congr fun a _ => by cases p a <;> rfl
  have second : ((items.filter fun a => p a || q a).filter fun a => !p a) = items.filter q := by
    rw [List.filter_filter]
    refine List.filter_congr fun a member => ?_
    cases isFirst : p a with
    | true => rw [apart a member isFirst]; rfl
    | false => simp
  rw [← first, ← second]
  exact (List.filter_append_perm p _).symm

/-- The rows of different keys are the rows of each of them. -/
theorem MappingPlan.perm_rowsOf (p : MappingPlan) (rows : List Row) {keys : List Int64}
    (once : keys.Nodup) : (p.rowsOf keys rows).Perm (keys.flatMap fun key => p.rowsOf [key] rows) := by
  induction keys with
  | nil => simp [rowsOf]
  | cons key rest ih =>
    obtain ⟨fresh, once⟩ := List.nodup_cons.mp once
    have split : (p.rowsOf (key :: rest) rows).Perm (p.rowsOf [key] rows ++ p.rowsOf rest rows) := by
      have apart : ∀ row ∈ rows, ([key].any fun k => (p.keyAt row).isNumber k) = true →
          (rest.any fun k => (p.keyAt row).isNumber k) = false := by
        intro row _ here
        have number : (p.keyAt row).isNumber key = true := by simpa using here
        refine List.any_eq_false.mpr fun other listed => ?_
        rw [Datum.isNumber_unique number fun same => fresh (same ▸ listed)]
        exact Bool.false_ne_true
      have perm := filter_or_perm apart
      simpa [rowsOf] using perm
    rw [List.flatMap_cons]
    exact split.trans ((ih once).append_left _)

namespace Mapper

variable {m : Mapper} {rows : List Row}

theorem underKey_eq (decodes : m.Decodes rows) (key : Int64) :
    m.underKey rows key = (m.underKey rows key).head?.toList := by
  have one := length_underKey decodes key
  rcases found : m.underKey rows key with _ | ⟨record, rest⟩
  · rfl
  · rw [found] at one
    have none : rest = [] := List.length_eq_zero_iff.mp (by simpa using one)
    rw [none]
    rfl

theorem perm_underKeys (decodes : m.Decodes rows) (keys : List Int64) :
    (m.underKeys rows keys).Perm (keys.eraseDups.filterMap fun key => (m.underKey rows key).head?) := by
  have each (piece : List Int64) (member : piece ∈ chunks maxKeysPerQuery (distinct keys)) :
      ((m.plan.rowsOf piece rows).map m.recordAt).Perm (piece.flatMap (m.underKey rows)) := by
    have once : piece.Nodup := by
      have all := nodup_distinct keys
      rw [← flatten_chunks maxKeysPerQuery (distinct keys)] at all
      exact (List.nodup_flatten.mp all).1 piece member
    have perm := (m.plan.perm_rowsOf rows once).map m.recordAt
    rwa [List.map_flatMap] at perm
  calc (m.underKeys rows keys).Perm
        ((chunks maxKeysPerQuery (distinct keys)).flatMap fun piece => piece.flatMap (m.underKey rows)) :=
        List.Perm.flatMap_left _ each
    _ = (distinct keys).flatMap (m.underKey rows) := by
        conv => rhs; rw [← flatten_chunks maxKeysPerQuery (distinct keys), ← List.flatMap_id,
          List.flatMap_assoc]
        rfl
    _ = _ := by
        rw [← distinct_eq_eraseDups, List.filterMap_eq_flatMap_toList]
        exact List.flatMap_congr fun key _ => underKey_eq decodes key

end Mapper

/-! ## Fetching -/

namespace Registry

variable {r : Registry} {m : Mapper} {site : Setting} {rows : Nat → List Row} {w : World}

section
variable (sound : r.Sound site.home) (member : m ∈ r.mappers) (decodes : m.Decodes (rows m.index))
include sound member decodes

theorem yields_pieces {pieces : List (List Int64)} (some_key : ∀ piece ∈ pieces, piece ≠ []) :
    Yields (r.Holds site rows)
      (pieces.mapM fun piece => m.load (m.plan.gets piece.length) (piece.map .integer))
      (pieces.map fun piece => (m.plan.rowsOf piece (rows m.index)).map m.recordAt)
      (r.Holds site rows) :=
  yields_kept sound member fun _ _ _ => Mapper.yields_pieces (sound.accepted member) decodes.fits
    (fun _ listed => decodes.recordOf listed) some_key

/-- In a world where nothing is in the way, all pieces are found, with one statement each. -/
theorem outcome_gets (holds : r.Holds site rows w) (present : m.PresentIn w.registries)
    (keys : List Int64) : ∃ v, (m.gets keys).outcome w = (.ok (m.underKeys (rows m.index) keys), v)
      ∧ r.Holds site rows v
      ∧ (m.stateIn v.registries).queries =
        (m.stateIn w.registries).queries + (chunks maxKeysPerQuery (distinct keys)).length := by
  have binds : Yields (r.Holds site rows) m.contextId (site.home m.plan.tag) (r.Holds site rows) :=
    yields_kept sound member fun _ _ _ => Mapper.yields_contextId
  obtain ⟨v, done, kept⟩ := yields_gets sound member decodes keys w holds
  refine ⟨v, done, kept, ?_⟩
  -- No statement fails, so they are counted one by one.
  obtain ⟨u, bound, there⟩ := binds w holds
  obtain ⟨result, x, y, asked, _, same, counts⟩ := Mapper.gets_of_contextId bound keys
  obtain ⟨_, found, _⟩ := yields_pieces sound member decodes (fun _ => chunks_ne_nil) u there
  rw [found] at asked
  cases asked
  rw [done] at same
  obtain ⟨_, rfl⟩ := Prod.mk.inj same
  exact (counts _ ⟨present, rfl⟩ rfl).queries

end

/-- A list of keys fetches what its keys fetch one by one, each once, with one statement for each 999
    of them: for every registry that has been built, if its names are identifiers that the engine
    accepts and, within a context, keeps apart, and for every contents of a table whose rows are all
    read as records.  No keys take no statement; and in every world, whatever its statements come to,
    the keys are asked for in such pieces, and all that the pieces have come to is fetched, or nothing
    at all if one of them fails. -/
theorem gets_agrees {config : StoreConfig} {shared : Option Nat} {models : List Model}
    {before after : World} (built : (Session.build config shared models).outcome before = (.ok r, after))
    (spelled : ∀ e ∈ r.catalog.entities, e.plan.Spelled)
    (apart : ∀ m ∈ r.mappers, ∀ other ∈ r.mappers, other ≠ m →
      site.home other.plan.tag = site.home m.plan.tag → m.plan.Apart other.plan)
    (member : m ∈ r.mappers) (holds : r.Holds site rows w) (present : m.PresentIn w.registries)
    (decodes : m.Decodes (rows m.index)) :
    (∃ one : Int64 → Option Record,
      (∀ key, ∃ v, (m.get key).outcome w = (.ok (one key), v) ∧ r.Holds site rows v)
      ∧ ∀ keys, ∃ found v, (m.gets keys).outcome w = (.ok found, v) ∧ r.Holds site rows v
        ∧ found.Perm (keys.eraseDups.filterMap one)
        ∧ (m.stateIn v.registries).queries =
          (m.stateIn w.registries).queries + (keys.eraseDups.length + 998) / 999)
    ∧ (∀ u, (m.gets []).outcome u = (.ok [], u))
    ∧ ∀ keys u, ∃ pieces found v, pieces.flatten = keys.eraseDups
      ∧ pieces.length = (keys.eraseDups.length + 998) / 999
      ∧ (∀ piece ∈ pieces, 0 < piece.length ∧ piece.length ≤ 999)
      ∧ m.Fetches pieces u found ∧ (m.gets keys).outcome u = (.ok (found.getD []), v) := by
  have sound : r.Sound site.home := ⟨(Session.build_ok built).1, spelled, apart⟩
  -- The pieces have 999 keys each, but for the last one.
  have count (keys : List Int64) : (chunks maxKeysPerQuery (distinct keys)).length =
      (keys.eraseDups.length + 998) / 999 := by
    rw [← distinct_eq_eraseDups, length_chunks (by decide)]
    rfl
  refine ⟨⟨fun key => (m.underKey (rows m.index) key).head?, fun key => ?_, fun keys => ?_⟩, fun _ => rfl,
    fun keys u => ?_⟩
  · exact yields_get sound member decodes key w holds
  · obtain ⟨v, done, kept, counted⟩ := outcome_gets sound member decodes holds present keys
    rw [count] at counted
    exact ⟨_, v, done, kept, Mapper.perm_underKeys decodes keys, counted⟩
  · obtain ⟨found, v, fetches, done⟩ := m.gets_fetches keys u
    refine ⟨_, found, v, ?_, count keys, fun piece => length_of_mem_chunks (by decide), fetches, done⟩
    rw [flatten_chunks, distinct_eq_eraseDups]

/-- Two steps are fetched, each once, with one statement. -/
theorem gets_circle : (Session.build (.inMemory "default") none
      [.step "id" (.property .int64 "id") .empty]).outcome {} = (.ok steps, stepsWorld)
    ∧ steps.Holds ⟨fun _ => 0, fun _ => true, stepsWorld.unopened.places⟩ circleRows circleWorld
    ∧ stepMapper.PresentIn circleWorld.registries
    ∧ ∃ found v, (stepMapper.gets [2, 1, 2]).outcome circleWorld = (.ok found, v) ∧ found.length = 2
      ∧ (stepMapper.stateIn v.registries).queries =
        (stepMapper.stateIn circleWorld.registries).queries + 1 := by
  -- Whether the world knows the mapper, and whether there are the two steps, is computed.
  have computed : (stepMapper.registry.id < circleWorld.registries.length
        ∧ stepMapper.index <
          (circleWorld.registries.getD stepMapper.registry.id default).mappers.length)
      ∧ ((stepMapper.get 1).outcome circleWorld).1.toOption.map Option.isSome = some true
      ∧ ((stepMapper.get 2).outcome circleWorld).1.toOption.map Option.isSome = some true := by
    decide +kernel
  obtain ⟨⟨registry, index⟩, hasFirst, hasSecond⟩ := computed
  have present : stepMapper.PresentIn circleWorld.registries := ⟨registry, index⟩
  have decodes : stepMapper.Decodes (circleRows stepMapper.index) :=
    (Mapper.Holding.empty.puts (sound_steps.entity stepMapper_mem) circle).decodes
  obtain ⟨⟨one, single, many⟩, _⟩ := gets_agrees build_steps sound_steps.spelled sound_steps.apart
    stepMapper_mem holds_circle present decodes
  obtain ⟨found, v, done, _, perm, counted⟩ := many [2, 1, 2]
  have alone (key : Int64)
      (there : ((stepMapper.get key).outcome circleWorld).1.toOption.map Option.isSome = some true) :
      ∃ record, one key = some record := by
    obtain ⟨u, got, _⟩ := single key
    rw [got] at there
    exact Option.isSome_iff_exists.mp (Option.some.inj there)
  obtain ⟨first, isFirst⟩ := alone 1 hasFirst
  obtain ⟨second, isSecond⟩ := alone 2 hasSecond
  have once : [2, 1, 2].eraseDups = [(2 : Int64), 1] := by
    rw [← distinct_eq_eraseDups]
    decide +kernel
  have single_piece : ([(2 : Int64), 1].length + 998) / 999 = 1 := by decide
  rw [once] at perm counted
  rw [single_piece] at counted
  refine ⟨build_steps, holds_circle, present, found, v, done, ?_, counted⟩
  rw [perm.length_eq]
  simp [isFirst, isSecond]

/-! ## Other tables -/

/-- The links of what is fetched for each of the keys alone and of what is fetched for all of them, from
    a table that has been made by the given statements. -/
def fetched (column statements : String) (keys : List Int64) :
    Session (List (Option (Option FieldValue)) × List (Option FieldValue)) := do
  let r ← Session.build (.inMemory "default") none [.step column (.property .int64 "id") .empty]
  match r.mapper? "Step" with
  | none => return ([], [])
  | some m =>
    let id ← m.contextId
    Session.withConnection id fun _ => Session.executeBatch id statements
    return ((← keys.mapM m.get).map fun found => found.map (·.value? "link"),
      (← m.gets keys).map (·.value? "link"))

/-- Where the name of the key column is an expression, a list of keys may fetch nothing though each of
    them fetches a row. -/
theorem keys_alike :
    ((fetched "not id"
        "create table step(id integer primary key,\"not id\" integer,link integer);insert into step values(5,5,1),(6,6,2)"
        [5, 6]).outcome {}).1.toOption = some ([some (some (.int64 2)), some (some (.int64 1))], []) := by
  decide +kernel

end Registry

end EntityStore
