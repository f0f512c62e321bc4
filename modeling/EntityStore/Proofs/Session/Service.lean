import EntityStore.Proofs.Mapper.Block
import EntityStore.Proofs.Session.Composition
import EntityStore.Proofs.Update.Course

/-! # What an application calls

The calls of an application are composed of steps, remarks and brackets:

* `RelatedStore.Composed`, `Registry.composed_stores` — the stores of relations, by induction on the depth.
* `Mapper.Operation.composed` — the reads and writes of mappers.
* `Session.Service`, `Session.Service.composed` — all calls but those that make contexts, and but write
  transactions.
* `Session.build_eq`, `Session.buildRegistry_eq` — how a registry is built.
* `Session.update_eq` — what a write transaction is between its brackets.
-/

namespace EntityStore

open Session (Composed Brackets)

variable {α : Type}

namespace Mapper

variable (m : Mapper)

/-! ## Tables -/

theorem composed_state : Composed m.state := .look (fun _ => .pure _) fun _ => rfl

theorem composed_modifyState (f : MapperState → MapperState) : Composed (m.modifyState f) :=
  .changes (fun _ => rfl) (fun _ => rfl) fun _ => rfl

theorem composed_contextId : Composed m.contextId := by
  refine .bind m.composed_state fun state => ?_
  split
  · exact .pure _
  · refine .bind (.annotate _ (.look (fun w => ?_) fun _ => rfl)) fun _ =>
      .bind (m.composed_modifyState _) fun _ => .pure _
    split
    · exact .pure _
    · exact .throw _

theorem composed_markMigrated (id generation : Nat) : Composed (m.markMigrated id generation) := by
  refine .bind .isAutocommit fun idle => ?_
  split
  · exact m.composed_modifyState _
  · exact .pure _

theorem composed_prepare : Composed m.prepare :=
  .bind m.composed_contextId fun _ => .annotate _ <| .withConnection fun _ =>
    .bind (.migrate _) fun _ => .bind (m.composed_markMigrated _ _) fun _ => .pure _

theorem composed_reset : Composed m.reset := by
  refine .bind m.composed_state fun state => ?_
  cases state.bound with
  | some id => exact .bind .flushStatements fun _ => m.composed_modifyState _
  | none => exact m.composed_modifyState _

theorem composed_withTable {op : Nat → Session α} (each : ∀ id, Composed (op id)) :
    Composed (m.withTable op) := by
  refine .bind m.composed_contextId fun id => .withConnection fun generation =>
    .bind m.composed_state fun state => ?_
  split
  · exact .bind (.migrate _) fun _ => .bind (m.composed_markMigrated _ _) fun _ => each id
  · exact each id

/-! ## Reads -/

theorem composed_load (text : String) (parameters : List StoredValue) :
    Composed (m.load text parameters) :=
  .bind (m.composed_withTable fun _ => .bind (m.composed_modifyState _) fun _ =>
    .bind (.prepareCached _) fun _ => .rows _ _) fun _ =>
      .bind (.mapM (fun _ => .ofExcept _) _) fun _ => .bind (.mapM (fun _ => .ofExcept _) _) fun _ =>
        .bind (.remark rfl) fun _ => .pure _

theorem composed_aggregate (text : String) (parameters : List StoredValue) :
    Composed (m.aggregate text parameters) :=
  m.composed_withTable fun _ => .bind (m.composed_modifyState _) fun _ =>
    .bind (.prepareCached _) fun _ => .bind (.runWith _ _) fun _ => .pure _

theorem composed_read {op : String} {standard : α} {block : Session α} (composed : Composed block) :
    Composed (m.read op standard block) := by
  refine .bind (.attempt m.composed_contextId) fun result => ?_
  cases result with
  | ok id =>
    refine .bind (.attempt (.annotate _ composed)) fun result => ?_
    cases result with
    | ok value => exact .pure _
    | error failure =>
      exact .context (fun _ => .bind (.remark rfl) fun _ => .pure _) fun _ => rfl
  | error failure => exact .bind (.remark rfl) fun _ => .pure _

theorem composed_get (key : Int64) : Composed (m.get key) :=
  m.composed_read (.bind (m.composed_load _ _) fun _ => .pure _)

theorem composed_gets (keys : List Int64) : Composed (m.gets keys) := by
  rw [gets]
  split
  · exact .pure _
  · exact m.composed_read (.bind (.mapM (fun _ => m.composed_load _ _) _) fun _ => .pure _)

theorem composed_getsListed (text : String) : Composed (m.getsListed text) := by
  refine .bind (.bind (.mapM (fun item => ?_) _) fun _ => .pure _) fun keys => m.composed_gets keys
  rw [readItem]
  split
  · exact .pure _
  · exact .bind (.remark rfl) fun _ => .pure _

theorem composed_loads (op text : String) (parameters : List StoredValue) :
    Composed (m.read op [] (m.load text parameters)) := m.composed_read (m.composed_load _ _)

theorem composed_aggregates (op text : String) (parameters : List StoredValue) :
    Composed (m.read op [] (m.aggregate text parameters)) := m.composed_read (m.composed_aggregate _ _)

theorem composed_first (op text : String) (parameters : List StoredValue) :
    Composed (m.read op 0 do return first (← m.aggregate text parameters)) :=
  m.composed_read (.bind (m.composed_aggregate _ _) fun _ => .pure _)

/-! ## Writes -/

def writeBrackets (op : String) (α : Type) : Brackets op α where
  start := m.writeEvent (Event.started op)
  finish _ := m.writeEvent (Event.finished op)
  fail failure := m.writeEvent (Event.failed op failure)
  note := m.note op
  starts := ⟨rfl, rfl⟩
  finishes _ := ⟨rfl, rfl⟩
  fails _ := ⟨rfl, rfl⟩

theorem write_eq (op : String) (block : Nat → Session α) :
    m.write op block = (m.writeBrackets op α).around (m.withTable block) := rfl

theorem composed_write (op : String) {block : Nat → Session α} (each : ∀ id, Composed (block id)) :
    Composed (m.write op block) := by
  rw [write_eq]
  exact .brackets _ (m.composed_withTable each)

theorem composed_bound (row : Record) : Composed (m.bound row) := .bind (.ofExcept _) fun _ => .pure _

theorem composed_save (row : Record) : Composed (m.save row) :=
  m.composed_write _ fun _ => .bind (m.composed_bound row) fun _ => .bind (.prepareCached _) fun _ =>
    .bind (.runWith _ _) fun _ => .bind (m.composed_modifyState _) fun _ => .pure _

theorem composed_saveAll (rows : List Record) : Composed (m.saveAll rows) := by
  rw [saveAll]
  split
  · exact .pure _
  · refine m.composed_write _ fun _ => .bind (.prepareCached _) fun _ =>
      .bind (.forIn (fun row => ?_) rows) fun _ => .pure _
    exact .bind (m.composed_bound row) fun _ => .bind (.runWith _ _) fun _ =>
      .bind (m.composed_modifyState _) fun _ => .pure _

theorem composed_deleteKey (id : Nat) (key : Int64) : Composed (m.deleteKey id key) :=
  .bind (.prepareCached _) fun _ => .bind (.runWith _ _) fun _ =>
    .bind (m.composed_modifyState _) fun _ => .pure _

theorem composed_changeRows (op text : String) (parameters : List StoredValue) :
    Composed (m.changeRows op text parameters) :=
  m.composed_write _ fun _ => .bind (.change _ _) fun _ =>
    .bind (m.composed_modifyState _) fun _ => .pure _

end Mapper

/-! ## Relations -/

/-- A store of related records whose operations are composed. -/
structure RelatedStore.Composed (store : RelatedStore Session) : Prop where
  fetchByKeys : ∀ keys, Session.Composed (store.fetchByKeys keys)
  fetchByText : ∀ text, Session.Composed (store.fetchByText text)
  saveRelated : ∀ rows, Session.Composed (store.saveRelated rows)

def Stores.Composed (stores : Stores) : Prop :=
  ∀ known, stores = some known → ∀ target store, known target = some store → store.Composed

namespace Relation

variable {rel : Relation} {known : String → Option (RelatedStore Session)}
  (composed : ∀ target store, known target = some store → store.Composed)
include composed

/-- What follows the lookup of a store only has to be composed for those that there are. -/
theorem composed_storeIn {next : RelatedStore Session → Session α}
    (rest : ∀ store, store.Composed → Composed (next store)) :
    Composed (rel.storeIn known >>= next) := by
  rw [storeIn]
  cases found : known rel.plan.target with
  | none => exact Composed.throw _
  | some store =>
    rw [pure_bind]
    exact rest store (composed _ _ found)

theorem composed_resolve (rows : List Record) : Composed (rel.resolve known rows) := by
  rw [resolve]
  split
  · exact .pure _
  · refine composed_storeIn composed fun store fetches => ?_
    split
    · refine .mapM (fun row => ?_) _
      rw [resolveText]
      split
      · exact .pure _
      · exact .bind (fetches.fetchByText _) fun _ => .pure _
    · rw [resolveBatched]
      split
      · exact .pure _
      · exact .bind (fetches.fetchByKeys _) fun _ => .pure _

theorem composed_save (rows : List Record) : Composed (rel.save known rows) := by
  rw [save]
  split
  · exact .pure _
  · exact composed_storeIn composed fun store saves => .bind (saves.saveRelated _) fun _ => .pure _

end Relation

namespace Mapper

variable (m : Mapper)

theorem composed_requireRegistry : Composed m.requireRegistry := by
  refine .bind (.look (fun w => .pure _) fun _ => rfl) fun alive => ?_
  split
  · exact .pure _
  · exact .throw _

variable {stores : EntityStore.Stores} (composed : stores.Composed)
include composed

theorem composed_attachRelated (rows : List Record) : Composed (m.attachRelated stores rows) := by
  cases stores with
  | none => exact .pure _
  | some known =>
    rw [attachRelated]
    split
    · exact .pure _
    · exact .bind m.composed_requireRegistry fun _ =>
        .foldlM (fun _ _ => Relation.composed_resolve (composed known rfl) _) _ _

theorem composed_saveRelated (rows : List Record) : Composed (m.saveRelated stores rows) := by
  cases stores with
  | none => exact .pure _
  | some known =>
    rw [saveRelated]
    split
    · exact .pure _
    · exact .bind m.composed_requireRegistry fun _ =>
        .forM (fun _ => Relation.composed_save (composed known rfl) _) _

theorem composed_resolved (rows : List Record) : Composed (m.resolved stores rows) := by
  refine .bind (.attempt (m.composed_attachRelated composed rows)) fun result => ?_
  cases result with
  | ok rows => exact .pure _
  | error failure => exact .bind (.remark rfl) fun _ => .pure _

theorem composed_store : (m.store stores).Composed where
  fetchByKeys keys := .bind (m.composed_gets keys) fun _ => m.composed_resolved composed _
  fetchByText text := .bind (m.composed_getsListed text) fun _ => m.composed_resolved composed _
  saveRelated rows := by
    refine .bind (m.composed_saveAll rows) fun saved => ?_
    cases saved with
    | true => exact .bind (m.composed_saveRelated composed rows) fun _ => .pure _
    | false => exact .pure _

end Mapper

theorem Registry.composed_stores (r : Registry) (depth : Nat) : (r.stores depth).Composed := by
  -- A store saves and resolves by means of the stores of the depth below.
  induction depth with
  | zero => exact nofun
  | succ depth ih =>
    rintro _ ⟨⟩ target store found
    obtain ⟨m, _, rfl⟩ := Option.map_eq_some_iff.mp found
    exact m.composed_store ih

namespace Mapper

variable (m : Mapper)

theorem stores_composed : m.stores.Composed := m.registry.composed_stores m.maxRefDepth

theorem composed_wrapRelation (rows : List Record) (name : String) :
    Composed (m.wrapRelation rows name) := by
  rw [wrapRelation]
  split
  · exact .throw _
  · split
    · exact .pure _
    · next known found =>
      split
      · exact .pure _
      · exact .bind m.composed_requireRegistry fun _ =>
          Relation.composed_resolve (m.stores_composed known found) _

theorem composed_getWithRelated (key : Int64) : Composed (m.getWithRelated key) := by
  refine .bind (m.composed_get key) fun found => ?_
  cases found with
  | none => exact .pure _
  | some row => exact .bind (m.composed_resolved m.stores_composed _) fun _ => .pure _

theorem composed_saved {saves : Session Bool} (saving : Composed saves) (rows : List Record) :
    Composed (do
      if ← saves then
        m.saveRelated m.stores rows
        return true
      else return false : Session Bool) := by
  refine .bind saving fun saved => ?_
  cases saved with
  | true => exact .bind (m.composed_saveRelated m.stores_composed rows) fun _ => .pure _
  | false => exact .pure _

variable {m}

theorem Operation.composed {op : Session α} (operation : m.Operation op) : Composed op := by
  -- The induction is for `withRelated`, whose read is an operation itself.
  induction operation with
  | prepare => exact m.composed_prepare
  | get key => exact m.composed_get key
  | gets keys => exact m.composed_gets keys
  | getsListed text => exact m.composed_getsListed text
  | select => exact m.composed_loads ..
  | selectOrdered order => exact m.composed_loads ..
  | selectLimit order limit offset => exact m.composed_loads ..
  | selectWhere predicate parameters => exact m.composed_loads ..
  | selectWhereOrdered predicate order parameters => exact m.composed_loads ..
  | selectWhereLimit predicate order parameters limit offset => exact m.composed_loads ..
  | count => exact m.composed_first ..
  | countGrouped group => exact m.composed_aggregates ..
  | countWhere predicate parameters => exact m.composed_first ..
  | countWhereGrouped predicate group parameters => exact m.composed_aggregates ..
  | sumWhere field predicate parameters => exact m.composed_first ..
  | sumWhereGrouped field predicate group parameters => exact m.composed_aggregates ..
  | save row => exact m.composed_save row
  | saveAll rows => exact m.composed_saveAll rows
  | delete row => exact m.composed_write _ fun _ => m.composed_deleteKey _ _
  | deleteBy key => exact m.composed_write _ fun _ => m.composed_deleteKey _ _
  | deleteWhere predicate parameters => exact m.composed_changeRows ..
  | updateWhere assignments predicate parameters => exact m.composed_changeRows ..
  | wrap rows => exact m.composed_attachRelated m.stores_composed rows
  | wrapRelation rows name => exact m.composed_wrapRelation rows name
  | withRelated _ ih => exact .bind ih fun _ => m.composed_resolved m.stores_composed _
  | getWithRelated key => exact m.composed_getWithRelated key
  | saveWithRelated row => exact m.composed_saved (m.composed_save row) _
  | saveAllWithRelated rows => exact m.composed_saved (m.composed_saveAll rows) _

end Mapper

/-! ## Registries -/

namespace Registry

variable (r : Registry)

/-- What is reported when all tables are brought up to date. -/
def prepareBrackets : Brackets Log.prepareOp (List MigrationReport) where
  start := Session.registryEvent (Event.started Log.prepareOp) [("entities", toString r.size)]
  finish reports :=
    let count := reports.foldl (fun n report => n + report.ddlCount) 0
    Session.registryEvent (Event.finished Log.prepareOp) [("ddl_count", toString count)]
  fail failure := Session.registryEvent (Event.failed Log.prepareOp failure) []
  note failure := failure
  starts := ⟨rfl, rfl⟩
  finishes _ := ⟨rfl, rfl⟩
  fails _ := ⟨rfl, rfl⟩

theorem prepareAll_eq : r.prepareAll = r.prepareBrackets.around (r.mappers.mapM Mapper.prepare) := by
  rw [prepareAll, Brackets.around]
  congr 1
  funext _
  congr 1
  funext result
  cases result
  · rfl
  · rfl

theorem composed_prepareAll : Composed r.prepareAll := by
  rw [prepareAll_eq]
  exact .brackets r.prepareBrackets (.mapM Mapper.composed_prepare _)

theorem composed_reset : Composed r.reset :=
  .bind (.forM Mapper.composed_reset _) fun _ => .remark rfl

theorem composed_close : Composed r.close :=
  .bind r.composed_reset fun _ => .look (fun _ => .forM (fun _ => .closeContext) _) fun _ => rfl

theorem composed_stats : Composed r.stats :=
  .mapM (fun m => .bind m.composed_state fun _ => .pure _) _

theorem composed_tags : Composed r.tags := .look (fun _ => .pure _) fun _ => rfl

theorem composed_lookup (name : String) : Composed (r.lookup name) := by
  rw [lookup]
  split
  · exact .pure _
  · exact .throw _

theorem composed_context (tag : String) : Composed (r.context tag) := by
  refine .look (fun w => ?_) fun _ => rfl
  split
  · exact .pure _
  · exact .throw _

theorem composed_drop : Composed r.drop := .changes (fun _ => rfl) (fun _ => rfl) fun _ => rfl

theorem composed_debug : Composed r.debug := .bind r.composed_tags fun _ => .pure _

end Registry

namespace Session

/-- The calls of an application to its mappers, registries and contexts, and what others do to its files. -/
inductive Service : {α : Type} → Session α → Prop
  | operation {α : Type} {m : Mapper} {op : Session α} (operation : m.Operation op) : Service op
  | reset (m : Mapper) : Service m.reset
  | state (m : Mapper) : Service m.state
  | debug (m : Mapper) : Service m.debug
  | contextOf (m : Mapper) : Service m.contextId
  | prepareAll (r : Registry) : Service r.prepareAll
  | resetAll (r : Registry) : Service r.reset
  | closeAll (r : Registry) : Service r.close
  | statsAll (r : Registry) : Service r.stats
  | tags (r : Registry) : Service r.tags
  | lookup (r : Registry) (name : String) : Service (r.lookup name)
  | context (r : Registry) (tag : String) : Service (r.context tag)
  | drop (r : Registry) : Service r.drop
  | registryDebug (r : Registry) : Service r.debug
  | openContext (id : Nat) : Service (openContext id)
  | closeContext (id : Nat) : Service (closeContext id)
  | reopen (id : Nat) : Service (reopen id)
  | openNamed (id : Nat) (name : String) : Service (openNamed id name)
  | setUser (id : Nat) (user : String) : Service (setUser id user)
  | flushStatements (id : Nat) : Service (flushStatements id)
  | isOpen (id : Nat) : Service (isOpen id)
  | databasePath (id : Nat) : Service (databasePath id)
  | databaseExists (id : Nat) : Service (databaseExists id)
  | deleteFile (id : Nat) : Service (deleteFile id)
  | userVersion (id : Nat) : Service (userVersion id)
  | bumpVersion (id : Nat) : Service (withConnection id fun _ => bumpVersion id)
  | tableExists (id : Nat) (table : String) : Service (withConnection id fun _ => tableExists id table)
  | liveColumns (id : Nat) (table : String) : Service (withConnection id fun _ => liveColumns id table)
  | batch (id : Nat) (text : String) : Service (withConnection id fun _ => executeBatch id text)
  | change (id : Nat) (text : String) (parameters : List StoredValue) :
      Service (withConnection id fun _ => change id text parameters)
  | rows (id : Nat) (text : String) (parameters : List StoredValue) :
      Service (withConnection id fun _ => do rows id (← prepareOne id text) parameters)
  | retain (groups : List Nat) : Service (retainGroups groups)
  | holdFile (id : Nat) : Service (holdFile id)
  | releaseFiles : Service releaseFiles

theorem composed_retainGroups (groups : List Nat) : Composed (retainGroups groups) := by
  refine .look (fun w => .changes (fun v => ?_) (fun _ => rfl) fun v => ?_) fun _ => rfl
  · simp only [World.concealed, List.zipIdx_map, List.map_map]
    congr 1
    apply List.map_congr_left
    rintro ⟨c, i⟩ _
    simp only [Function.comp_apply, Prod.map, id_eq]
    split <;> rfl
  · simp only [World.configs, List.map_map]
    rw [← List.zipIdx_map_fst 0 v.contexts, List.map_map, List.zipIdx_map_fst]
    apply List.map_congr_left
    rintro ⟨c, i⟩ _
    simp only [Function.comp_apply]
    split <;> rfl

theorem Service.composed {op : Session α} (service : Service op) : Composed op := by
  cases service with
  | operation operation => exact operation.composed
  | reset m => exact m.composed_reset
  | state m => exact m.composed_state
  | debug m => exact .bind m.composed_state fun _ => .pure _
  | contextOf m => exact m.composed_contextId
  | prepareAll r => exact r.composed_prepareAll
  | resetAll r => exact r.composed_reset
  | closeAll r => exact r.composed_close
  | statsAll r => exact r.composed_stats
  | tags r => exact r.composed_tags
  | lookup r name => exact r.composed_lookup name
  | context r tag => exact r.composed_context tag
  | drop r => exact r.composed_drop
  | registryDebug r => exact r.composed_debug
  | openContext id => exact .openContext
  | closeContext id => exact .closeContext
  | reopen id => exact .reopen
  | openNamed id name => exact .openNamed name
  | setUser id user => exact .setUser user
  | flushStatements id => exact .flushStatements
  | isOpen id => exact .isOpen
  | databasePath id => exact .resolvePath
  | databaseExists id => exact .databaseExists
  | deleteFile id => exact .deleteFile
  | userVersion id => exact .withConnection fun _ => .versionOn
  | bumpVersion id => exact .withConnection fun _ => .bumpVersion
  | tableExists id table => exact .withConnection fun _ => .finds _
  | liveColumns id table => exact .withConnection fun _ => .liveColumns table
  | batch id text => exact .withConnection fun _ => .executeBatch text
  | change id text parameters => exact .withConnection fun _ => .change text parameters
  | rows id text parameters =>
    exact .withConnection fun _ => .bind (.prepareOne _ _) fun _ => .rows _ _
  | retain groups => exact composed_retainGroups groups
  | holdFile id => exact .holdFile
  | releaseFiles => exact .releaseFiles

/-! ## Building -/

def compile (catalog : Catalog) : Session CompiledCatalog := do
  reportAll catalog.compile.2
  ofExcept catalog.compile.1

def chooseGroup (config : StoreConfig) : Option Nat → Session Nat
  | some group => return group
  | none => openGroup config

def install (maxRefDepth group : Nat) (compiled : CompiledCatalog) : Session Registry := do
  let id := (← get).registries.length
  let mappers := compiled.entities.map fun _ => ({} : MapperState)
  modify fun w => { w with registries := w.registries ++ [{ mappers := mappers }] }
  return { id := id, group := group, catalog := compiled, maxRefDepth := maxRefDepth }

theorem buildRegistry_eq (config : StoreConfig) (shared : Option Nat) (catalog : Catalog) :
    buildRegistry config shared catalog = (do
      let group ← chooseGroup config shared
      let compiled ← compile catalog
      install config.maxRefDepth group compiled) := by
  simp only [compile, bind_assoc]
  cases shared <;> rfl

def buildBrackets (count : Nat) : Brackets Log.buildOp Registry where
  start := registryEvent (Event.started Log.buildOp) [("entities", toString count)]
  finish registry := registryEvent (Event.finished Log.buildOp)
    [("entities", toString registry.catalog.entities.length)]
  fail failure := registryEvent (Event.failed Log.buildOp failure) []
  note failure := failure
  starts := ⟨rfl, rfl⟩
  finishes _ := ⟨rfl, rfl⟩
  fails _ := ⟨rfl, rfl⟩

theorem build_eq (config : StoreConfig) (shared : Option Nat) (models : List Model) :
    build config shared models = (do
      reportAll (({} : Catalog).registerAll models).2
      (buildBrackets models.length).around
        (buildRegistry config shared (({} : Catalog).registerAll models).1)) := by
  rw [build, Brackets.around]
  rcases ({} : Catalog).registerAll models with ⟨catalog, events⟩
  dsimp only
  congr 1
  funext _
  congr 1
  funext _
  congr 1
  funext result
  cases result <;> rfl

theorem composed_install (maxRefDepth group : Nat) (compiled : CompiledCatalog) :
    Composed (install maxRefDepth group compiled) :=
  .look (fun _ => .bind (.changes (fun _ => rfl) (fun _ => rfl) fun _ => rfl) fun _ => .pure _)
    fun _ => rfl

/-! ## Write transactions -/

theorem composed_beginWrite (id : Nat) : Composed (beginWrite id) :=
  .withConnection fun _ => .bind (.annotate _ (.control _)) fun _ => .pure _

theorem composed_controlOn (id generation : Nat) (s : Sql.Statement) (op : String) :
    Composed (controlOn id generation s op) := by
  refine .context (fun c => ?_) fun _ => rfl
  split
  · exact .annotate _ (.control _)
  · exact .throw _

theorem composed_undo (id generation : Nat) : Composed (undo id generation) := by
  refine .context (fun c => .bind (.attempt (composed_controlOn ..)) fun result => ?_) fun _ => rfl
  cases result with
  | ok _ => exact .remark rfl
  | error failure => exact .remark rfl

/-- What write transactions report at their start and at their end. -/
def updateBrackets (tag : String) (request : RequestId) (α : Type) : Brackets Log.updateOp α where
  start := updateEvent tag (Event.started Log.updateOp)
  finish _ := updateEvent tag (Event.finished Log.updateOp)
  fail failure := updateEvent tag (Event.failed Log.updateOp failure)
  note failure := { failure with tag := some tag, requestId := some request }
  starts := ⟨rfl, rfl⟩
  finishes _ := ⟨rfl, rfl⟩
  fails _ := ⟨rfl, rfl⟩

/-- A write transaction is its last attempt between its brackets. -/
theorem update_eq (id : Nat) (block : Session α) : update id block = (do
    let c ← context id
    let request ← newRequestId
    (updateBrackets c.tag request α).around (lastAttempt id block)) := by
  funext w
  have around : ((updateBrackets (w.context id).tag ⟨BitVec.ofNat 128 w.requests⟩ α).around
      (lastAttempt id block)).outcome { w with requests := w.requests + 1 } = _ :=
    Brackets.outcome_around ..
  refine (outcome_update id block w).trans (Eq.trans ?_ around.symm)
  have entered : { w with
      requests := w.requests + 1
      log := (updateBrackets (w.context id).tag ⟨BitVec.ofNat 128 w.requests⟩ α).start :: w.log } =
      w.requested id := rfl
  rw [entered]
  rcases (lastAttempt id block).outcome (w.requested id) with ⟨result, v⟩
  cases result <;> rfl

end Session

end EntityStore
