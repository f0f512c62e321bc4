import EntityStore.Proofs.Registry.Writing

/-! # Records saved with what they hold

A record that is saved with the records that it holds, level by level and through any mappers, is found
afterwards, if none of those is another record under its key:

* `Registry.held` — the records that are saved with a record.
* `Registry.Has` — a world where a mapper has a record.
* `Registry.yields_saveRelated` — saving what records hold loses none that is not replaced.
-/

namespace EntityStore

open EntityStore.Engine (Row)
open Session (Yields)

namespace Registry

/-- The records that are saved with a record of a mapper, so many levels deep, each with its mapper. -/
def held (r : Registry) : Nat → Mapper → Record → List (Mapper × Record)
  | 0, _, _ => []
  | depth + 1, m, record => m.entity.relations.flatMap fun rel =>
      match r.mapper? rel.plan.target with
      | none => []
      | some target => (rel.getter.targets record).flatMap fun t =>
          (target, t) :: r.held depth target t

def Has (r : Registry) (site : Setting) (m : Mapper) (record : Record) (w : World) : Prop :=
  ∃ rows, r.Holds site rows w ∧ m.plan.Fits (rows m.index)
    ∧ m.plan.rowsOf [m.entity.keyOf record] (rows m.index) = [m.entity.image record]

variable {r : Registry} {site : Setting} {m : Mapper} {record : Record}

/-- A record of some mapper that is not another one under the key of the given record. -/
def Spares (m : Mapper) (record : Record) (other : Mapper × Record) : Prop :=
  other.1 = m → m.entity.keyOf other.2 = m.entity.keyOf record →
    m.entity.image other.2 = m.entity.image record

theorem held_of_descend {depth : Nat} {holder : Mapper} {records : List Record}
    {other : Mapper × Record} (written : other ∈ r.descend depth holder records) :
    ∃ t ∈ records, other ∈ r.held depth holder t := by
  induction depth generalizing holder records with
  | zero => cases written
  | succ depth ih =>
    obtain ⟨rel, listed, target, found, deeper⟩ := mem_descend_succ.mp written
    -- It is one of the records of a relation, or is held by one of those.
    have reached : ∃ t ∈ records.flatMap rel.getter.targets,
        other ∈ (target, t) :: r.held depth target t := by
      rcases List.mem_append.mp deeper with batch | further
      · obtain ⟨t, related, rfl⟩ := List.mem_map.mp batch
        exact ⟨t, related, List.mem_cons_self ..⟩
      · obtain ⟨t, related, held⟩ := ih further
        exact ⟨t, related, List.mem_cons_of_mem _ held⟩
    obtain ⟨t, related, within⟩ := reached
    obtain ⟨from_, among, held⟩ := List.mem_flatMap.mp related
    refine ⟨from_, among, List.mem_flatMap.mpr ⟨rel, listed, ?_⟩⟩
    rw [found]
    exact List.mem_flatMap.mpr ⟨t, held, within⟩

/-- Saving what records of a mapper hold loses no record, level by level. -/
theorem yields_saveRelated (sound : r.Sound site.home) (member : m ∈ r.mappers) (depth : Nat) :
    ∀ holder ∈ r.mappers, ∀ records : List Record,
      (∀ t ∈ records, ∀ other ∈ r.held depth holder t, Spares m record other) →
        Yields (r.Has site m record) (holder.saveRelated (r.stores depth) records) ()
          (r.Has site m record) := by
  rintro holder known records spares w ⟨rows, holds, fits, found⟩
  obtain ⟨v, done, after⟩ := yields_descend sound depth holder known records rows w holds
  have members : ∀ t ∈ r.descend depth holder records, t.1 ∈ r.mappers :=
    fun t listed => written_mappers known (List.mem_append_right _ listed)
  refine ⟨v, done, _, after, fits_stored sound.regular members member fits, ?_⟩
  rw [rowsOf_stored sound.regular members member]
  -- The last record under the key is stored as the given one.
  split
  · next last under =>
    obtain ⟨other, listed, mapper, key, rfl⟩ := lastUnder_some under
    obtain ⟨t, among, held⟩ := held_of_descend listed
    rw [spares t among other held (mapper_unique member (members other listed) mapper) key]
  · exact found

def quotedFound : Session (Bool × Option (Option FieldValue)) := do
  let r ← Session.build (.inMemory "default") none [quotedNote]
  match r.mapper? "Note" with
  | none => return (false, none)
  | some m =>
    let saved ← m.saveWithRelated (.mk [("id", .int64 1), ("text", .text "a")] [])
    return (saved, (← m.get 1).map (·.value? "text"))

end Registry

end EntityStore
