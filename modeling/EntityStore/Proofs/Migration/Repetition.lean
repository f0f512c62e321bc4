import EntityStore.Proofs.Migration.Expansion

/-! # Migrations again

Whether a second migration with the same plan has anything left to do:

* `MappingPlan.Settled` — a migration finds nothing to do.
* `MappingPlan.Agrees` — what the names of a database must be for that to be so after a migration.
* `Session.yields_migrate_settled` — while nothing is in its way, a migration that finds nothing to do
  succeeds and changes nothing.
* `Session.migrate_again` — what a migration reports, and what is left to a second one.
-/

namespace EntityStore

open EntityStore.Engine (Database Handle Lock Program Index Outcome)
open EntityStore.Sql (Datum sameName)

namespace MappingPlan

variable (p : MappingPlan)

/-- A migration finds nothing to do. -/
structure Settled (db : Database) : Prop where
  table : db.hasTable p.table = true
  columns : ∀ c ∈ p.columns, Text.lowercase c.column ∈ p.liveIn db
  indexes : ∀ c ∈ p.indexedColumns, db.hasIndex (c.indexName p.table) = true

/-- The names of a plan, where they are taken, are taken letter by letter, and no two of its indexes
    that are missing have names that differ in the case of letters only. -/
structure Agrees (db : Database) : Prop where
  table : (db.holder? p.table).isSome = true → db.hasTable p.table = true
  indexes : ∀ c ∈ p.indexedColumns, db.hasIndex (c.indexName p.table) = false →
    db.index? (c.indexName p.table) = none ∧ ∀ d ∈ p.indexedColumns,
      sameName (d.indexName p.table) (c.indexName p.table) = true →
        d.indexName p.table = c.indexName p.table

end MappingPlan

/-! ## Nothing to do -/

/-- One step does nothing, or it counts what it does. -/
theorem Brings.counts {present : Database → Prop} {R : Database → Database → Prop}
    {note : MigrationReport → MigrationReport} {s t : Migrating} (brings : Brings present R note s t)
    (notes : Notes note) :
    (present s.2 ∧ t = s) ∨ (¬ present s.2 ∧ t.1.ddlCount = s.1.ddlCount + 1) := by
  rcases brings with here | ⟨absent, next, _, rfl⟩
  · exact .inl here
  · exact .inr ⟨absent, notes.ddlCount _⟩

/-- Where everything is present nothing is done, and nothing is counted only where everything is
    present. -/
theorem Folds.idle {α : Type} {P : α → Database → Prop} {R : α → Migrating → Migrating → Prop}
    {items : List α} {s t : Migrating}
    (counts : ∀ a s t, R a s t → (P a s.2 ∧ t = s) ∨ (¬ P a s.2 ∧ t.1.ddlCount = s.1.ddlCount + 1))
    (folds : Folds R items s t) :
    s.1.ddlCount ≤ t.1.ddlCount ∧ (t.1.ddlCount = s.1.ddlCount ↔ ∀ a ∈ items, P a s.2)
      ∧ ((∀ a ∈ items, P a s.2) → t = s) := by
  induction folds with
  | nil s => exact ⟨Nat.le_refl _, iff_of_true rfl nofun, fun _ => rfl⟩
  | @cons a rest s t u here later ih =>
    obtain ⟨more, idle, same⟩ := ih
    rw [List.forall_mem_cons]
    rcases counts a s t here with ⟨present, rfl⟩ | ⟨absent, counted⟩
    · exact ⟨more, idle.trans (iff_and_self.mpr fun _ => present), fun all => same all.2⟩
    · exact ⟨by omega, iff_of_false (by omega) fun all => absent all.1, fun all => absurd all.1 absent⟩

namespace MappingPlan

variable {p : MappingPlan} {c : ColumnPlan} {db next : Database} {report : MigrationReport}

theorem Migrates.isNoop_iff (migrates : p.Migrates db report next) :
    (report.isNoop = true ↔ p.Settled db) ∧ (report.isNoop = true → next = db) := by
  obtain ⟨t, brings, folds⟩ := migrates
  obtain ⟨more, idle, same⟩ := folds.idle
    (P := fun c db => db.hasIndex (c.indexName p.table) = true)
    fun c s t brings => Brings.counts brings (notes_index p c)
  rw [MigrationReport.isNoop, decide_eq_true_eq]
  -- The count only grows, so it is zero in the end only if no step has added to it.
  rcases brings with ⟨has, columns⟩ | ⟨lacks, mid, _, rfl⟩
  · obtain ⟨_, idleColumns, sameColumns⟩ := columns.idle
      (P := fun c _ => Text.lowercase c.column ∈ p.liveIn db)
      fun c s t brings => Brings.counts brings (notes_column c)
    have settled : report.ddlCount = 0 ↔ p.Settled db := by
      constructor
      · intro noop
        have none_before : t.1.ddlCount = 0 := by dsimp only at more; omega
        have present := idleColumns.mp none_before
        have equal := sameColumns present
        refine ⟨has, present, fun c member => ?_⟩
        have indexes := idle.mp (noop.trans none_before.symm) c member
        rw [equal] at indexes
        exact indexes
      · rintro ⟨_, present, indexes⟩
        have equal := sameColumns present
        rw [equal] at same
        have last := same indexes
        rw [Prod.mk.injEq] at last
        rw [last.1]
    refine ⟨settled, fun noop => ?_⟩
    obtain ⟨_, present, indexes⟩ := settled.mp noop
    have equal := sameColumns present
    rw [equal] at same
    exact (Prod.mk.inj (same indexes)).2
  · have counted : report.ddlCount ≠ 0 := by dsimp only at more; omega
    refine ⟨iff_of_false counted fun settled => ?_, fun noop => absurd noop counted⟩
    rw [settled.table] at lacks
    cases lacks

theorem liveIn_expands (expands : db.Expands next) (apart : next.Apart) {t : Engine.Table}
    (found : db.table? p.table = some t) {name : String} (live : name ∈ p.liveIn db) :
    name ∈ p.liveIn next := by
  obtain ⟨u, there, more⟩ := expands.table? apart found
  rw [liveIn, Database.columnNames, found] at live
  rw [liveIn, Database.columnNames, there]
  exact List.map_subset _ (List.map_subset _ more.visible.subset) live

theorem Holds.live {c : ColumnPlan} (holds : p.Holds c db) : Text.lowercase c.column ∈ p.liveIn db := by
  obtain ⟨t, found, column, member, name⟩ := holds
  rw [liveIn, Database.columnNames, found]
  exact List.mem_map_of_mem (List.mem_map.mpr ⟨column, member, name⟩)

theorem holder?_isSome_of_hasTable (apart : db.Apart) (has : db.hasTable p.table = true) :
    ∃ t, db.table? p.table = some t := by
  obtain ⟨t, member, same⟩ := List.any_eq_true.mp has
  have name : t.name = p.table := of_decide_eq_true same
  exact ⟨t, apart.table? member (name ▸ sameName_refl _)⟩

section
variable {base : Database} (added : p.Added base next)
include added

theorem Added.free (settled : ∀ c ∈ p.indexedColumns, next.hasIndex (c.indexName p.table) = true)
    (indexed : c ∈ p.indexedColumns) (missing : base.hasIndex (c.indexName p.table) = false) :
    base.index? (c.indexName p.table) = none ∧ ∀ d ∈ p.indexedColumns,
      sameName (d.indexName p.table) (c.indexName p.table) = true →
        d.indexName p.table = c.indexName p.table := by
  obtain ⟨_, added, split, _, fresh, different⟩ := added
  obtain ⟨x, listed, name⟩ := hasIndex_iff.mp (settled c indexed)
  have new : x ∈ added := by
    rw [split] at listed
    refine (List.mem_append.mp listed).resolve_left fun old => ?_
    rw [hasIndex_iff.mpr ⟨x, old, name⟩] at missing
    cases missing
  have free := fresh x new
  rw [name] at free
  refine ⟨free, fun d other similar => ?_⟩
  obtain ⟨y, there, named⟩ := hasIndex_iff.mp (settled d other)
  rw [split] at there
  rcases List.mem_append.mp there with old | young
  · have apart := index?_none_iff.mp free y old
    rw [named, similar] at apart
    cases apart
  · -- Two indexes that the migration has added have names that the engine tells apart.
    by_contra unequal
    have distinct : x ≠ y := fun equal => unequal (by rw [← named, ← equal, name])
    have symmetric : Std.Symm fun a b : Index => sameName a.name b.name = false :=
      ⟨fun a b apart => by rw [sameName_comm]; exact apart⟩
    have apart := different.forall new young distinct
    rw [name, named, sameName_comm, similar] at apart
    cases apart

/-- A name that is taken in the end, and was free at the start, is taken by the index of that very name. -/
theorem Added.hasIndex (taken : next.index? (c.indexName p.table) ≠ none)
    (free : base.index? (c.indexName p.table) = none)
    (unique : ∀ d ∈ p.indexedColumns, sameName (d.indexName p.table) (c.indexName p.table) = true →
      d.indexName p.table = c.indexName p.table) :
    next.hasIndex (c.indexName p.table) = true := by
  obtain ⟨_, added, split, names, _, _⟩ := added
  obtain ⟨x, found⟩ := Option.ne_none_iff_exists'.mp taken
  have listed := List.mem_of_find?_eq_some found
  have similar : sameName x.name (c.indexName p.table) = true := by simpa using List.find?_some found
  rw [split] at listed
  rcases List.mem_append.mp listed with old | new
  · have apart := index?_none_iff.mp free x old
    rw [similar] at apart
    cases apart
  · obtain ⟨d, known, name, _⟩ := names x new
    rw [name] at similar
    refine hasIndex_iff.mpr ⟨x, split ▸ List.mem_append_right _ new, ?_⟩
    rw [name, unique d known similar]

end

/-- A second migration finds nothing to do if and only if the names that the first one has found
    taken agree with those of the plan. -/
theorem Migrates.settled_iff (migrates : p.Migrates db report next) (apart : db.Apart) :
    p.Settled next ↔ p.Agrees db := by
  obtain ⟨t, brings, folds⟩ := migrates
  obtain ⟨between, grown, columns⟩ := brings.columns apart
  obtain ⟨added, apart', expands, all⟩ := addsIndexes between folds
  have same := brings.indexes
  dsimp only at added apart' expands all
  -- Indexes come after the columns, which leave the indexes of the database alone.
  have before (name : String) : t.2.hasIndex name = db.hasIndex name ∧ t.2.index? name = db.index? name := by
    rw [Database.hasIndex, Database.hasIndex, Database.index?, Database.index?, same]
    exact ⟨rfl, rfl⟩
  constructor
  · intro settled
    refine ⟨fun taken => ?_, fun c member missing => ?_⟩
    · rcases brings with ⟨has, _⟩ | ⟨lacks, mid, ⟨free, _⟩ | ⟨_, rfl⟩, rfl⟩
      · exact has
      · rw [free] at taken
        cases taken
      · have has := settled.table
        rw [Database.hasTable, added.tables] at has
        exact has
    · rw [← (before _).2]
      exact added.free settled.indexes member ((before _).1.trans missing)
  · intro agrees
    have has : t.2.hasTable p.table = true := by
      rcases brings with ⟨has, _⟩ | ⟨lacks, mid, ⟨_, u, founds, rfl⟩ | ⟨taken, _⟩, rfl⟩
      · exact grown.hasTable has
      · exact List.any_eq_true.mpr
          ⟨u, List.mem_append_right _ (List.mem_singleton_self _), by simp [founds.name]⟩
      · rw [agrees.table taken] at lacks
        cases lacks
    refine ⟨expands.hasTable has, fun c member => ?_, fun c member => ?_⟩
    · rcases columns c member with ⟨taken, live⟩ | holds
      · have there := agrees.table taken
        obtain ⟨u, found⟩ := holder?_isSome_of_hasTable apart there
        exact liveIn_expands (grown.trans expands) apart' found (live there)
      · exact (holds.expands expands apart').live
    · cases missing : db.hasIndex (c.indexName p.table) with
      | true => exact (grown.trans expands).hasIndex missing
      | false =>
        obtain ⟨free, unique⟩ := agrees.indexes c member missing
        exact added.hasIndex (all c member) ((before _).2.trans free) unique

end MappingPlan

/-! ## Nobody in the way -/

/-- What stands in the way of a context does not depend on the context. -/
theorem filterMap_modify {α β : Type} {i k : Nat} {g : α × Nat → Option β} (items : List α)
    (f : α → α) (skips : ∀ a, g (a, k + i) = none) :
    ((items.modify i f).zipIdx k).filterMap g = (items.zipIdx k).filterMap g := by
  induction items generalizing i k with
  | nil => rw [List.modify_nil]
  | cons a rest ih =>
    cases i with
    | zero =>
      have none_here (a : α) : g (a, k) = none := skips a
      simp only [List.modify_zero_cons, List.zipIdx_cons, List.filterMap_cons, none_here]
    | succ i =>
      have later := ih (i := i) (k := k + 1) fun a => by rw [Nat.add_right_comm]; exact skips a
      simp only [List.modify_succ_cons, List.zipIdx_cons, List.filterMap_cons, later]

theorem World.othersOn_putHandle (w : World) (id : Nat) (c : Connection) (h : Handle)
    (path : List String) : (w.putHandle id c h).othersOn id path = w.othersOn id path := by
  simp only [World.othersOn, World.putHandle]
  rw [filterMap_modify]
  intro a
  simp

def Engine.Handle.content (h : Handle) :
    Database × Option (Bool × Option Database × List (String × Option Database) × Bool) :=
  (h.image, h.transaction.map fun t => (t.begun, t.changed, t.savepoints, t.writing))

namespace Engine.Handle

variable {g h : Handle} {others : List Lock}

theorem content_cases (same : g.content = h.content) : g.image = h.image
    ∧ ((h.transaction = none ∧ g.transaction = none)
      ∨ ∃ t u, h.transaction = some t ∧ g.transaction = some u ∧ u.begun = t.begun
        ∧ u.changed = t.changed ∧ u.savepoints = t.savepoints ∧ u.writing = t.writing) := by
  obtain ⟨image, transaction⟩ := Prod.mk.inj same
  refine ⟨image, ?_⟩
  cases first : h.transaction with
  | none =>
    cases second : g.transaction with
    | none => exact .inl ⟨rfl, rfl⟩
    | some u => simp [first, second] at transaction
  | some t =>
    cases second : g.transaction with
    | none => simp [first, second] at transaction
    | some u =>
      simp only [first, second, Option.map_some, Option.some.injEq, Prod.mk.injEq] at transaction
      exact .inr ⟨t, u, rfl, rfl, transaction⟩

theorem current_content (same : g.content = h.content) : g.current = h.current := by
  obtain ⟨image, ⟨first, second⟩ | ⟨t, u, first, second, _, changed, _⟩⟩ := content_cases same
  · simp only [Handle.current, image, first, second]
  · simp only [Handle.current, image, first, second, Option.bind_some, changed]

theorem savepoint_content (same : g.content = h.content) (name : String) :
    (g.savepoint name).content = (h.savepoint name).content := by
  obtain ⟨image, ⟨first, second⟩ | ⟨t, u, first, second, begun, changed, points, writing⟩⟩ := content_cases same
  · simp only [Handle.savepoint, content, image, first, second]
  · simp only [Handle.savepoint, content, image, first, second, begun, changed, points, writing]
    rfl

/-- A query that may read changes at most the lock. -/
theorem run_query {p : Program} {parameters : List Datum} {outcome : Outcome} (asks : p.writes = false)
    (may : Engine.mayRead others = true) (ran : p.run parameters h.current = .ok outcome) :
    ∃ next, h.run others p parameters = (.ok outcome, next) ∧ next.content = h.content := by
  cases opened : h.transaction with
  | none =>
    have same : h.current = h.image := by simp only [Handle.current, opened]; rfl
    rw [same] at ran
    simp [Handle.run, opened, runAlone, asks, may, ran]
  | some t => simp [Handle.run, opened, runWithin, asks, may, ran, Except.mapError, content]

/-- A savepoint that nothing has followed but queries can be given up. -/
theorem release_savepoint {name : String} (same : g.content = (h.savepoint name).content) :
    ∃ next, g.release others name = (.ok (), next) ∧ next.content = h.content := by
  obtain ⟨image, ⟨_, marked⟩ | ⟨t, u, first, marked, begun, changed, points, writing⟩⟩ := content_cases same
  · cases opened : h.transaction <;> simp [Handle.savepoint, opened] at *
  · -- The savepoint is the innermost one, and releasing it leaves what has been around it.
    cases opened : h.transaction with
    | none =>
      simp only [Handle.savepoint, opened, Option.some.injEq] at first image
      subst first
      refine ⟨⟨g.image, none⟩, ?_, by simp [content, image, opened]⟩
      simp only at begun changed points writing
      -- What has only read can always be committed.
      simp [Handle.release, marked, points, savepointsFrom_cons, begun, commitChanges, changed, writing]
    | some v =>
      simp only [Handle.savepoint, opened, Option.some.injEq] at first image
      subst first
      simp only at begun changed points writing
      have inner : ¬ (v.savepoints.isEmpty && !u.begun) = true := by
        rw [begun]
        rcases v.rooted with begun | nonempty
        · simp [begun]
        · simp [nonempty]
      simp only [Handle.release, marked, points, savepointsFrom_cons]
      rw [dif_neg inner]
      exact ⟨_, rfl, by simp [content, image, opened, begun, changed, writing]⟩

end Engine.Handle

/-- A context whose connection sees the database of a handle, while nothing stands in the way of reading
    it: neither the locks of others nor faults of the engine. -/
structure World.Watches (id : Nat) (h : Handle) (w : World) : Prop where
  connection : ∃ c g, (w.context id).connection = some c ∧ w.handle? c = some g
    ∧ g.content = h.content ∧ Engine.mayRead (w.others id c) = true
  faults : ∀ n, w.statements ≤ n → w.faults.within n = none

theorem World.Watches.seen {id : Nat} {h : Handle} {w : World} (watches : w.Watches id h) :
    w.seen id = some h.current := by
  obtain ⟨c, g, opened, found, same, _⟩ := watches.connection
  rw [World.seen, World.handleOf, opened, Option.bind_some, found, Option.map_some,
    Handle.current_content same]

namespace Session

open World (Watches)

variable {α β : Type} {id : Nat} {h next : Handle}

theorem yields_onHandle_watches {step : List Lock → Handle → Except Refusal α × Handle} {a : α}
    (steps : ∀ others g, Engine.mayRead others = true → g.content = h.content →
      (step others g).1 = .ok a ∧ (step others g).2.content = next.content) :
    Yields (Watches id h) (onHandle id step) a (Watches id next) := by
  rintro w ⟨⟨c, g, opened, found, same, may⟩, faults⟩
  obtain ⟨succeeds, after⟩ := steps _ g may same
  have done := outcome_onHandle opened found step
  rw [succeeds] at done
  refine ⟨_, done, ?_, faults⟩
  obtain ⟨d, context, file, there⟩ := World.context_putHandle opened (step (w.others id c) g).2
  refine ⟨d, _, by rw [context], there, after, ?_⟩
  have others : (w.putHandle id c (step (w.others id c) g).2).others id d = w.others id c := by
    simp only [World.others, file]
    cases c.file? with
    | none => rfl
    | some path => exact World.othersOn_putHandle ..
  rw [others]
  exact may

theorem yields_nextFault_watches :
    Yields (Watches id h) (nextFault id Faults.inside) none (Watches id h) := by
  rintro w ⟨connection, faults⟩
  have counted := outcome_nextFault id Faults.inside w
  rw [Faults.inside, faults w.statements (Nat.le_refl _)] at counted
  exact ⟨_, counted, connection, fun n later => faults n (Nat.le_of_succ_le later)⟩

theorem yields_countStatement_watches : Yields (Watches id h) (countStatement id) () (Watches id h) := by
  refine .bind yields_nextFault_watches ?_
  exact .pure _

theorem yields_query_watches {p : Program} {parameters : List Datum} {outcome : Outcome}
    (asks : p.writes = false) (ran : p.run parameters h.current = .ok outcome) :
    Yields (Watches id h) (execute id p parameters) outcome (Watches id h) := by
  refine .bind yields_countStatement_watches (yields_onHandle_watches fun others g may same => ?_)
  obtain ⟨next, done, content⟩ :
      ∃ next, g.run others p parameters = (.ok outcome, next) ∧ next.content = g.content :=
    Handle.run_query asks may (Handle.current_content same ▸ ran)
  rw [done]
  exact ⟨rfl, content.trans same⟩

theorem mayFail_content {g : Handle} (same : g.content = h.content) (s : Sql.Statement) :
    mayFail g s = mayFail h s := by
  cases s with
  | release name =>
    obtain ⟨_, ⟨first, second⟩ | ⟨t, u, first, second, begun, _, points, writing⟩⟩ :=
      Handle.content_cases same
    · simp only [mayFail, first, second]
    · simp only [mayFail, first, second, begun, points, writing]
  | _ => rfl

theorem yields_control_watches {s : Sql.Statement} (inside : Faults.about s = Faults.inside)
    (steps : ∀ others (g : Handle), g.content = h.content →
      (g.control others s).1 = .ok () ∧ (g.control others s).2.content = next.content) :
    Yields (Watches id h) (control id s) () (Watches id next) := by
  have looks : Yields (Watches id h) (onHandle id fun _ g => (.ok (mayFail g s), g)) (mayFail h s)
      (Watches id h) :=
    yields_onHandle_watches fun _ g _ same => ⟨congrArg Except.ok (mayFail_content same s), same⟩
  have unrefused : Yields (Watches id h) (controlFault id s) none (Watches id h) := by
    refine .bind looks ?_
    cases mayFail h s with
    | true => exact inside ▸ yields_nextFault_watches
    | false => exact .pure none
  exact .bind unrefused (yields_onHandle_watches fun others g _ same => steps others g same)

theorem yields_report_watches (e : Event) :
    Yields (Watches id h) (report e) () (Watches id h) :=
  .change fun _ watches => ⟨watches.connection, watches.faults⟩

variable {p : MappingPlan}

theorem yields_finds_watches (test : Database → Bool) :
    Yields (Watches id h) (finds id test) (test h.current) (Watches id h) := by
  have asked : Yields (Watches id h) (execute id (textQuery fun db => if test db then ["1"] else []) [])
      { database := h.current
        rows := (if test h.current then ["1"] else []).map fun s => [Datum.ofString s] }
      (Watches id h) := yields_query_watches rfl rfl
  have answer : (!((if test h.current then ["1"] else []).map fun s => [Datum.ofString s]).isEmpty) =
      test h.current := by cases test h.current <;> rfl
  refine .bind asked ?_
  dsimp only
  rw [answer]
  exact .pure _

theorem yields_liveColumns_watches :
    Yields (Watches id h) (liveColumns id p.table) (p.liveIn h.current) (Watches id h) := by
  have asked : Yields (Watches id h) (execute id (textQuery fun db => db.columnNames p.table) [])
      { database := h.current
        rows := (h.current.columnNames p.table).map fun s => [Datum.ofString s] }
      (Watches id h) := yields_query_watches rfl rfl
  refine .bind asked ?_
  dsimp only
  rw [Datum.readText_rows]
  exact .pure _

/-- A run that changes nothing at each item changes nothing. -/
theorem Yields.foldlM_same {P : World → Prop} {step : β → α → Session β} {items : List α} {b : β}
    (each : ∀ a ∈ items, Yields P (step b a) b P) : Yields P (items.foldlM step b) b P := by
  induction items with
  | nil => exact .pure b
  | cons a rest ih =>
    rw [List.foldlM_cons]
    exact .bind (each a (List.mem_cons_self ..)) (ih fun a member => each a (List.mem_cons_of_mem _ member))

theorem yields_migrateWithin_settled (settled : p.Settled h.current) :
    Yields (Watches id h) (migrateWithin id p) { table := p.table } (Watches id h) := by
  have table : Yields (Watches id h) (migrateTable id p) { table := p.table } (Watches id h) := by
    have found : Yields (Watches id h) (finds id (·.hasTable p.table)) true (Watches id h) :=
      settled.table ▸ yields_finds_watches (·.hasTable p.table)
    refine .bind found (.bind yields_liveColumns_watches (.foldlM_same fun c member => ?_))
    rw [addColumn, if_pos (List.contains_iff_mem.mpr (settled.columns c member))]
    exact .pure _
  refine .bind table (.bind (.foldlM_same fun c member => ?_) (.bind (yields_report_watches _) (.pure _)))
  have found : Yields (Watches id h) (finds id (·.hasIndex (c.indexName p.table))) true (Watches id h) :=
    settled.indexes c member ▸ yields_finds_watches (·.hasIndex (c.indexName p.table))
  exact .bind found (.pure _)

/-- A migration that finds nothing to do, while nothing is in its way. -/
theorem yields_migrate_settled (settled : p.Settled h.current) :
    Yields (Watches id h) (migrate id p) { table := p.table } (Watches id h) := by
  have marks : Yields (Watches id h) (control id (.savepoint migrationPoint)) ()
      (Watches id (h.savepoint migrationPoint)) :=
    yields_control_watches rfl fun _ _ same => ⟨rfl, Handle.savepoint_content same migrationPoint⟩
  have settled : p.Settled (h.savepoint migrationPoint).current := by
    rw [Handle.savepoint_current]
    exact settled
  refine .bind marks (.bind (.attempt (yields_migrateWithin_settled settled)) ?_)
  refine .bind (yields_control_watches rfl fun others g same => ?_) (.pure _)
  obtain ⟨next, released, content⟩ : ∃ next, g.release others migrationPoint = (.ok (), next)
      ∧ next.content = h.content := Handle.release_savepoint same
  rw [show g.control others (.release migrationPoint) = g.release others migrationPoint from rfl, released]
  exact ⟨rfl, content⟩

/-! ## A second migration -/

/-- What a migration reports is what it has done: so many definitions, each of which has counted the
    version up, and the table is created if none of exactly its name was there.  A second migration
    with the same plan does nothing if and only if the names that the first one has found taken agree
    with those of the plan; then, while nothing is in its way, it succeeds. -/
theorem migrate_again (id : Nat) {p : MappingPlan} (named : p.Named) {w v : World} {db : Database}
    {report : MigrationReport} (seen : w.seen id = some db) (apart : db.Apart)
    (done : (migrate id p).outcome w = (.ok report, v))
    (room : db.version.toInt + report.ddlCount < 2 ^ 31) :
    ∃ next, v.seen id = some next
      ∧ report.ddlCount = report.created.toNat
          + (report.addedColumns.length + report.createdIndexes.length)
      ∧ next.version.toInt = db.version.toInt + report.ddlCount
      ∧ report.created = !db.hasTable p.table
      ∧ (p.Agrees db → report.created = true → db.holder? p.table = none)
      ∧ (∀ u again x, u.seen id = some next → (migrate id p).outcome u = (.ok again, x) →
        (again.isNoop = true ↔ p.Agrees db) ∧ (again.isNoop = true → x.seen id = some next))
      ∧ (p.Agrees db → ∀ u h, u.Watches id h → h.current = next →
        ∃ again x, (migrate id p).outcome u = (.ok again, x) ∧ again.isNoop = true
          ∧ x.seen id = some next) := by
  obtain ⟨next, after, migrates⟩ := makes_migrate named w db report v seen done
  obtain ⟨_, _, created, counts, version⟩ := migrates.spec apart
  have settled := migrates.settled_iff apart
  refine ⟨next, after, counts, version room, created, fun agrees new => ?_, ?_, ?_⟩
  · rw [created, Bool.not_eq_true'] at new
    by_contra taken
    rw [agrees.table (Option.isSome_iff_ne_none.mpr taken)] at new
    cases new
  · intro u again x sees second
    obtain ⟨last, final, migratesAgain⟩ := makes_migrate named u next again x sees second
    obtain ⟨noop, same⟩ := migratesAgain.isNoop_iff
    exact ⟨noop.trans settled, fun idle => same idle ▸ final⟩
  · -- On a settled database the migration does nothing, so it also succeeds.
    rintro agrees u h watches rfl
    obtain ⟨x, second, watches⟩ := yields_migrate_settled (settled.mpr agrees) u watches
    exact ⟨_, x, second, rfl, watches.seen⟩

def openWorld : World where
  contexts := [{ config := {}, connection := some { backing := .memory {} } }]

theorem migrate_again_notes : ∃ report v next, notesPlan.Named ∧ openWorld.seen 0 = some {}
    ∧ Database.Apart {} ∧ (migrate 0 notesPlan).outcome openWorld = (.ok report, v)
    ∧ report.ddlCount = 1 ∧ v.seen 0 = some next ∧ notesPlan.Agrees {}
    ∧ ∀ u again x, u.seen 0 = some next → (migrate 0 notesPlan).outcome u = (.ok again, x) →
      again.isNoop = true := by
  have named : notesPlan.Named := ⟨by decide, by decide⟩
  have agrees : notesPlan.Agrees {} := ⟨by decide, by decide⟩
  have counts : ((migrate 0 notesPlan).outcome openWorld).1.toOption.map (·.ddlCount) = some 1 := by
    decide +kernel
  rcases done : (migrate 0 notesPlan).outcome openWorld with ⟨result, v⟩
  rw [done] at counts
  cases result with
  | error failure => cases counts
  | ok report =>
    have one : report.ddlCount = 1 := Option.some.inj counts
    obtain ⟨next, after, _, _, _, _, again, _⟩ :=
      migrate_again 0 named (rfl : openWorld.seen 0 = some {}) .nil done (by rw [one]; decide)
    exact ⟨report, v, next, named, rfl, .nil, rfl, one, after, agrees,
      fun u report x sees second => (again u report x sees second).1.mpr agrees⟩

end Session

end EntityStore
