import EntityStore.Proofs.Session.Episode
import EntityStore.Proofs.Session.Service

/-! # Logs of sessions are well bracketed

Whatever an application does, the log tells which operations have run inside which others, and which of
them have succeeded:

* `World.Records` — what a world has reported since another one tells the episodes.
* `Session.known_of_contention` — only contexts that there are meet lock contention.
* `Session.Plays` — the episodes of a session, read off its operations and their results.
* `Session.Plays.records` — the log tells them, by induction on the session.
* `Session.Playable` — there are episodes of every session.
* `Session.Activity.bracketed` — the log of an application tells what has happened, and nothing else.
-/

namespace EntityStore

/-! ## What is recorded -/

namespace World

/-- What the log of a world has more than that of another tells the episodes, and all contexts are still
    there. -/
def Records (w v : World) (episodes : List Episode) : Prop :=
  w.configs <+: v.configs
    ∧ ∃ events, v.log = events.reverse ++ w.log ∧ Log.Tells episodes events

variable {u v w x : World} {first second inside : List Episode}

theorem Records.quiet (configs : w.configs <+: v.configs) (log : v.log = w.log) : Records w v [] :=
  ⟨configs, [], log, .nothing⟩

theorem Records.trans (before : Records u v first) (after : Records v w second) :
    Records u w (first ++ second) := by
  obtain ⟨kept, events, log, told⟩ := before
  obtain ⟨stays, more, longer, tells⟩ := after
  refine ⟨kept.trans stays, events ++ more, ?_, told.append tells⟩
  rw [longer, log, List.reverse_append, List.append_assoc]

theorem Records.once {op : String} {succeeded : Bool} {start close : Event}
    (records : Records u v inside) (starts : start.Reports op .start) (entered : u.log = start :: w.log)
    (same : u.configs = w.configs) (closes : close.Reports op (.closing succeeded))
    (left : x.log = close :: v.log) (still : x.configs = v.configs) :
    Records w x [.once op inside succeeded] := by
  obtain ⟨kept, within, log, told⟩ := records
  refine ⟨same ▸ still ▸ kept, _, ?_, .once starts told closes .nothing⟩
  rw [left, log, entered]
  simp

/-- A write transaction that starts with the log of `u`, is run once more with that of `y`, and ends with
    the log of `z`. -/
theorem Records.rerun {tag : String} {succeeded : Bool} {start again close : Event} {y z : World}
    (records : Records u v first) (more : Records y z second)
    (starts : start.Reports Log.updateOp .start) (own : start.tag = some tag)
    (entered : u.log = start :: w.log) (same : u.configs = w.configs)
    (retries : again.Reports Log.updateOp .retry) (known : again.tag = some tag)
    (resumed : y.log = again :: v.log) (stays : y.configs = v.configs)
    (closes : close.Reports Log.updateOp (.closing succeeded)) (left : x.log = close :: z.log)
    (still : x.configs = z.configs) : Records w x [.rerun tag first second succeeded] := by
  obtain ⟨kept, before, log, told⟩ := records
  obtain ⟨lasting, between, longer, retold⟩ := more
  refine ⟨(same ▸ kept).trans (still ▸ stays ▸ lasting), _, ?_,
    .rerun starts own told retries known retold closes .nothing⟩
  rw [left, longer, resumed, log, entered]
  simp

theorem config_context (w : World) (id : Nat) : (w.context id).config = w.configs[id]?.getD {} := by
  rw [context, configs, List.getD_eq_getElem?_getD, List.getElem?_map]
  cases w.contexts[id]? <;> rfl

theorem tag_of_configs (kept : w.configs <+: v.configs) {id : Nat} (known : id < w.contexts.length) :
    (v.context id).tag = (w.context id).tag := by
  have here : id < w.configs.length := by rw [configs, List.length_map]; exact known
  rw [Context.tag, Context.tag, config_context, config_context, List.getElem?_eq_getElem here,
    List.prefix_iff_getElem?.mp kept id here]

end World

namespace Session

variable {α β : Type} {id : Nat} {v w : World}

/-! ## Second runs -/

def rerun (id : Nat) (block : Session α) : Session α := do
  forceClose id
  openContext id
  runOnce id block

theorem outcome_retry (block : Session α) (w : World) : (retry id block).outcome w =
    (rerun id block).outcome { w with log := retryEvent (w.context id).config :: w.log } := by
  rw [retry, outcome_bind_ok (outcome_context id w), outcome_bind_ok (outcome_report _ w)]
  rfl

theorem openContext_absent (beyond : w.contexts.length ≤ id) :
    ∃ e : Event, (openContext id).outcome w = (.ok (), { w with log := e :: w.log }) := by
  have absent : w.contexts.getD id default = default := World.context_beyond beyond
  have still (f : Context → Context) : (modifyContext id f).outcome w = (.ok (), w) := by
    rw [outcome_modifyContext, List.modify_eq_self beyond]
  have connected : (connect id).outcome w = (.ok { backing := .memory {} }, w) := by
    rw [connect, outcome_bind_ok (outcome_context id w), absent]
    rfl
  have configured : (configure id).outcome w = (.ok (), w) := by
    rw [configure, outcome_bind_ok (outcome_context id w), absent]
    rfl
  rw [openContext, outcome_bind_ok (outcome_context id w), absent]
  change ∃ e : Event, outcome (connect id >>= _) w = _
  rw [outcome_bind_ok connected, outcome_bind_ok (still _), outcome_bind_ok configured,
    outcome_bind_ok (still _), outcome_bind_ok (outcome_context id w)]
  exact ⟨_, outcome_report _ w⟩

theorem known_of_contention {block : Session α} {failure : Failure}
    (failed : (runOnce id block).outcome w = (.error failure, v))
    (contention : failure.isLockContention = true) : id < w.contexts.length := by
  refine Nat.lt_of_not_le fun beyond => ?_
  -- What is opened is not kept anywhere, so that the transaction finds no connection to begin on.
  obtain ⟨e, opened⟩ := openContext_absent beyond
  let u : World := { w with log := e :: w.log }
  let refusal := closedConnection (default : Context).tag "with_connection"
  have absent : u.contexts.getD id default = default := World.context_beyond beyond
  have unconnected : (connection id).outcome u = (.error refusal, u) := by
    rw [connection, outcome_bind_ok (outcome_context id u), absent]
    rfl
  have refused : (control id (.begin .immediate)).outcome u = (.error refusal, u) := by
    rw [control, controlFault]
    exact outcome_bind_error (outcome_bind_error (outcome_bind_error unconnected _) _) _
  have begins : (beginWrite id).outcome w = (.error { refusal with op := some "begin" }, u) := by
    rw [beginWrite, withConnection, outcome_bind_ok opened, outcome_bind_ok (outcome_context id u)]
    apply outcome_bind_error
    rw [outcome_annotate, refused]
    rfl
  rw [runOnce, outcome_bind_ok (outcome_context id w), outcome_bind_error begins] at failed
  have raised := Except.error.inj (congrArg Prod.fst failed)
  rw [← raised] at contention
  cases contention

/-! ## The episodes of a session -/

/-- What happens during a session that starts in a world.  An operation has succeeded if it returns a
    result.  What stands around others are the writes of mappers, and the preparation and the building of
    registries. -/
inductive Plays : {α : Type} → Session α → World → List Episode → Prop
  /-- Outside of all brackets there are remarks only. -/
  | aside {α : Type} {op : Session α} {w : World} (events : List Event)
      (plain : ∀ e ∈ events, e.phase = none) (log : (op.outcome w).2.log = events.reverse ++ w.log)
      (kept : w.configs <+: (op.outcome w).2.configs) : Plays op w []
  | bind {α β : Type} {op : Session α} {next : α → Session β} {w v : World} {a : α}
      {first second : List Episode} (ran : op.outcome w = (.ok a, v)) (before : Plays op w first)
      (after : Plays (next a) v second) : Plays (op >>= next) w (first ++ second)
  | broken {α β : Type} {op : Session α} {next : α → Session β} {w v : World} {failure : Failure}
      {first : List Episode} (ran : op.outcome w = (.error failure, v)) (before : Plays op w first) :
      Plays (op >>= next) w first
  | tried {α : Type} {op : Session α} {handler : Failure → Session α} {w v : World} {a : α}
      {first : List Episode} (ran : op.outcome w = (.ok a, v)) (before : Plays op w first) :
      Plays (MonadExcept.tryCatch op handler) w first
  | caught {α : Type} {op : Session α} {handler : Failure → Session α} {w v : World} {failure : Failure}
      {first second : List Episode} (ran : op.outcome w = (.error failure, v)) (before : Plays op w first)
      (after : Plays (handler failure) v second) :
      Plays (MonadExcept.tryCatch op handler) w (first ++ second)
  | compile (catalog : Catalog) (w : World) :
      Plays (compile catalog) w [.once Log.compileOp [] catalog.compile.1.isOk]
  | around {α : Type} {op : String} (b : Brackets op α) {inner : Session α} {w : World}
      {inside : List Episode} (plays : Plays inner { w with log := b.start :: w.log } inside) :
      Plays (b.around inner) w [.once op inside ((b.around inner).outcome w).1.isOk]
  | update {α : Type} {id : Nat} {block : Session α} {w : World} {inside : List Episode}
      (alone : ∀ failure v, (runOnce id block).outcome (w.requested id) = (.error failure, v) →
        failure.isLockContention = false)
      (plays : Plays (runOnce id block) (w.requested id) inside) :
      Plays (update id block) w [.once Log.updateOp inside ((update id block).outcome w).1.isOk]
  | rerun {α : Type} {id : Nat} {block : Session α} {w v : World} {failure : Failure}
      {first second : List Episode}
      (failed : (runOnce id block).outcome (w.requested id) = (.error failure, v))
      (contention : failure.isLockContention = true)
      (before : Plays (runOnce id block) (w.requested id) first)
      (after : Plays (Session.rerun id block)
        { v with log := retryEvent (v.context id).config :: v.log } second) :
      Plays (update id block) w
        [.rerun (w.context id).tag first second ((update id block).outcome w).1.isOk]

theorem Brackets.closes {op : String} (b : Brackets op α) (result : Except Failure α) :
    (b.close result).Reports op (.closing (result.mapError b.note).isOk) := by
  cases result with
  | ok a => exact b.finishes a
  | error failure => exact b.fails _

/-- The end of a write transaction is that of its last attempt. -/
theorem outcome_update_around (id : Nat) (block : Session α) (w : World) :
    ∃ b : Brackets Log.updateOp α,
      (w.requested id).log = b.start :: w.log ∧ b.start.tag = some (w.context id).tag
        ∧ (update id block).outcome w =
          (((lastAttempt id block).outcome (w.requested id)).1.mapError b.note,
            { ((lastAttempt id block).outcome (w.requested id)).2 with
              log := b.close ((lastAttempt id block).outcome (w.requested id)).1 ::
                ((lastAttempt id block).outcome (w.requested id)).2.log }) := by
  refine ⟨updateBrackets (w.context id).tag ⟨BitVec.ofNat 128 w.requests⟩ α, rfl, rfl, ?_⟩
  rw [update_eq, outcome_bind_ok (outcome_context id w), outcome_bind_ok (outcome_newRequestId w)]
  exact Brackets.outcome_around ..

theorem compile_events (catalog : Catalog) : ∃ start close : Event,
    catalog.compile.2 = [start, close] ∧ start.Reports Log.compileOp .start
      ∧ close.Reports Log.compileOp (.closing catalog.compile.1.isOk) := by
  rw [Catalog.compile]
  cases catalog.check with
  | error violation => exact ⟨_, _, rfl, ⟨rfl, rfl⟩, rfl, rfl⟩
  | ok compiled => exact ⟨_, _, rfl, ⟨rfl, rfl⟩, rfl, rfl⟩

theorem outcome_ofExcept (result : Except Failure α) (w : World) :
    (ofExcept result).outcome w = (result, w) := by cases result <;> rfl

/-- The log of a session tells what happens during it. -/
theorem Plays.records {op : Session α} {episodes : List Episode} (plays : Plays op w episodes) :
    World.Records w (op.outcome w).2 episodes := by
  -- That contexts are only added is carried along for the tags of retries.
  induction plays with
  | aside _ plain log kept => exact ⟨kept, _, log, .remarks plain⟩
  | bind ran _ _ before after =>
    rw [outcome_bind_ok ran]
    rw [ran] at before
    exact before.trans after
  | broken ran _ before =>
    rw [outcome_bind_error ran]
    rw [ran] at before
    exact before
  | tried ran _ before =>
    rw [outcome_tryCatch, ran]
    rw [ran] at before
    exact before
  | caught ran _ _ before after =>
    rw [outcome_tryCatch, ran]
    rw [ran] at before
    exact before.trans after
  | compile catalog w =>
    obtain ⟨start, close, events, starts, closes⟩ := compile_events catalog
    have reported : (reportAll catalog.compile.2).outcome w =
        (.ok (), { w with log := close :: start :: w.log }) := by
      rw [events]
      rfl
    rw [Session.compile, outcome_bind_ok reported, outcome_ofExcept]
    have nothing : World.Records { w with log := start :: w.log } { w with log := start :: w.log } [] :=
      .quiet List.prefix_rfl rfl
    exact nothing.once starts rfl rfl closes rfl rfl
  | around b _ inside =>
    rw [b.outcome_around]
    exact inside.once b.starts rfl rfl (b.closes _) rfl rfl
  | @update _ id block w _ alone _ inside =>
    obtain ⟨b, entered, _, ended⟩ := outcome_update_around id block w
    have last := lastAttempt_first (Prod.eta _).symm fun failure failed =>
      alone failure _ (Prod.ext failed rfl)
    rw [last] at ended
    rw [ended]
    exact inside.once b.starts entered rfl (b.closes _) rfl rfl
  | @rerun _ id block w v _ _ _ failed contention _ _ before after =>
    obtain ⟨b, entered, own, ended⟩ := outcome_update_around id block w
    rw [lastAttempt_second failed contention, outcome_retry] at ended
    -- The retry names the tag that the context has after the first run, which is the one it had before.
    rw [failed] at before
    change World.Records _ v _ at before
    have known : (retryEvent (v.context id).config).tag = some (w.context id).tag :=
      congrArg some (World.tag_of_configs before.1 (known_of_contention failed contention))
    rw [ended]
    exact before.rerun after b.starts own entered rfl ⟨rfl, rfl⟩ known rfl rfl (b.closes _) rfl rfl

/-! ## Every session has episodes -/

def Playable (op : Session α) : Prop := ∀ w, ∃ episodes, Plays op w episodes

namespace Playable

variable {op block : Session α}

theorem quiet (log : ∀ w, (op.outcome w).2.log = w.log)
    (kept : ∀ w, w.configs <+: (op.outcome w).2.configs) : Playable op :=
  fun w => ⟨[], .aside [] (by simp) (log w) (kept w)⟩

theorem pure (a : α) : Playable (Pure.pure a) := .quiet (fun _ => rfl) fun _ => List.prefix_rfl

theorem throw (failure : Failure) : Playable (MonadExcept.throw failure : Session α) :=
  .quiet (fun _ => rfl) fun _ => List.prefix_rfl

theorem context (id : Nat) : Playable (context id) := .quiet (fun _ => rfl) fun _ => List.prefix_rfl

theorem reportAll {events : List Event} (plain : ∀ e ∈ events, e.phase = none) :
    Playable (reportAll events) := fun _ => ⟨[], .aside events plain rfl List.prefix_rfl⟩

theorem bind {next : α → Session β} (first : Playable op) (rest : ∀ a, Playable (next a)) :
    Playable (op >>= next) := by
  intro w
  obtain ⟨before, plays⟩ := first w
  rcases ran : op.outcome w with ⟨result, v⟩
  cases result with
  | ok a =>
    obtain ⟨after, goes⟩ := rest a v
    exact ⟨before ++ after, .bind ran plays goes⟩
  | error failure => exact ⟨before, .broken ran plays⟩

theorem tryCatch {handler : Failure → Session α} (first : Playable op)
    (handled : ∀ failure, Playable (handler failure)) : Playable (MonadExcept.tryCatch op handler) := by
  intro w
  obtain ⟨before, plays⟩ := first w
  rcases ran : op.outcome w with ⟨result, v⟩
  cases result with
  | ok a => exact ⟨before, .tried ran plays⟩
  | error failure =>
    obtain ⟨after, goes⟩ := handled failure v
    exact ⟨before ++ after, .caught ran plays goes⟩

theorem look {next : World → Session α} (rest : ∀ w, Playable (next w)) :
    Playable (MonadState.get >>= next) :=
  bind (.quiet (fun _ => rfl) fun _ => List.prefix_rfl) rest

theorem attempt (playable : Playable op) : Playable (attempt op) := by
  refine .tryCatch ?_ fun _ => .pure _
  rw [← bind_pure_comp]
  exact playable.bind fun _ => .pure _

theorem around {name : String} (b : Brackets name α) (playable : Playable op) :
    Playable (b.around op) := by
  intro w
  obtain ⟨inside, plays⟩ := playable { w with log := b.start :: w.log }
  exact ⟨_, .around b plays⟩

theorem mapM {f : β → Session α} (each : ∀ b, Playable (f b)) (items : List β) :
    Playable (items.mapM f) := by
  induction items with
  | nil => exact .pure []
  | cons b rest ih =>
    rw [List.mapM_cons]
    exact (each b).bind fun _ => ih.bind fun _ => .pure _

end Playable

theorem Composed.playable {op : Session α} (composed : Composed op) : Playable op := by
  induction composed with
  | pure a => exact .pure a
  | throw failure => exact .throw failure
  | step quiet _ => exact .quiet (fun w => (quiet w).1) fun w => (quiet w).2 ▸ List.prefix_rfl
  | @remark e plain => exact fun w => ⟨[], .aside [e] (by simpa using plain) rfl List.prefix_rfl⟩
  | look _ _ rest => exact .look rest
  | bind _ _ first rest => exact first.bind rest
  | tryCatch _ _ first handled => exact first.tryCatch handled
  | brackets b _ inner => exact inner.around b

/-! ### Contexts and registries -/

theorem playable_addContext (config : ContextConfig) : Playable (addContext config) := by
  refine .quiet (fun _ => rfl) fun w => ?_
  change w.contexts.map _ <+: (w.contexts ++ [Context.ofConfig config]).map _
  rw [List.map_append]
  exact List.prefix_append ..

theorem playable_openGroup (config : StoreConfig) : Playable (openGroup config) := by
  refine .bind (Composed.ofExcept _).playable fun _ =>
    .bind (.mapM (fun config => .bind (playable_addContext config) fun _ => .pure _) _) fun _ => ?_
  exact .look fun _ => .bind (.quiet (fun _ => rfl) fun _ => List.prefix_rfl) fun _ => .pure _

theorem playable_insertContext (group : Nat) (config : ContextConfig) :
    Playable (insertContext group config) := by
  refine .look fun w => ?_
  dsimp only
  split
  · exact .throw _
  · exact .bind (playable_addContext config) fun _ =>
      .bind (.quiet (fun _ => rfl) fun _ => List.prefix_rfl) fun _ => .pure _

theorem register_plain (catalog : Catalog) (m : Model) :
    ∀ e ∈ (catalog.register m).2, e.phase = none := by
  rw [Catalog.register]
  split
  · simp
  · split
    · simp
    · split
      · simp
      · simp [Catalog.registeredEvent, Event.remark]

theorem registerAll_plain (catalog : Catalog) (models : List Model) :
    ∀ e ∈ (catalog.registerAll models).2, e.phase = none := by
  induction models generalizing catalog with
  | nil => simp [Catalog.registerAll]
  | cons m rest ih =>
    intro e member
    exact (List.mem_append.mp member).elim (register_plain catalog m e) (ih _ e)

theorem playable_build (config : StoreConfig) (shared : Option Nat) (models : List Model) :
    Playable (build config shared models) := by
  rw [build_eq, buildRegistry_eq]
  have group : Playable (chooseGroup config shared) := by
    cases shared with
    | some group => exact .pure group
    | none => exact playable_openGroup config
  exact .bind (.reportAll (registerAll_plain _ models)) fun _ => .around _ <| group.bind fun _ =>
    .bind (fun w => ⟨_, .compile _ w⟩) fun _ => (composed_install ..).playable

/-! ### Write transactions -/

theorem Playable.runOnce {block : Session α} (playable : Playable block) (id : Nat) :
    Playable (runOnce id block) := by
  refine .bind (.context id) fun c => .bind (composed_beginWrite id).playable fun generation =>
    .bind (Composed.playable (.remark rfl)) fun _ => .bind (.attempt (playable.bind fun _ =>
      .bind (composed_controlOn ..).playable fun _ => .pure _)) fun result => ?_
  cases result with
  | ok value => exact .bind (Composed.playable (.remark rfl)) fun _ => .pure _
  | error failure => exact .bind (composed_undo ..).playable fun _ => .throw _

theorem Playable.update {block : Session α} (playable : Playable block) (id : Nat) :
    Playable (update id block) := by
  intro w
  obtain ⟨first, before⟩ := playable.runOnce id (w.requested id)
  by_cases again : ∃ failure v, (Session.runOnce id block).outcome (w.requested id) = (.error failure, v)
      ∧ failure.isLockContention = true
  · obtain ⟨failure, v, failed, contention⟩ := again
    have resumed : Playable (Session.rerun id block) :=
      .bind Composed.forceClose.playable fun _ => .bind Composed.openContext.playable fun _ =>
        playable.runOnce id
    obtain ⟨second, after⟩ := resumed { v with log := retryEvent (v.context id).config :: v.log }
    exact ⟨_, .rerun failed contention before after⟩
  · refine ⟨_, .update (fun failure v failed => ?_) before⟩
    exact Bool.eq_false_iff.mpr fun contention => again ⟨failure, v, failed, contention⟩

theorem Playable.readOr {name : String} {standard : α} {block : Session α} (playable : Playable block) :
    Playable (readOr id name standard block) := by
  refine .bind playable.attempt fun result => ?_
  cases result with
  | ok value => exact .pure value
  | error failure =>
    exact .bind (.context id) fun _ => .bind (Composed.playable (.remark rfl)) fun _ => .pure _

/-! ## Sessions -/

/-- What an application does: it calls, goes on with what it gets, makes registries and contexts, and
    nests all of it in reads and write transactions. -/
inductive Activity : {α : Type} → Session α → Prop
  | pure {α : Type} (a : α) : Activity (Pure.pure a)
  | throw {α : Type} (failure : Failure) : Activity (MonadExcept.throw failure : Session α)
  | service {α : Type} {op : Session α} (service : Service op) : Activity op
  | compile (catalog : Catalog) : Activity (compile catalog)
  | build (config : StoreConfig) (shared : Option Nat) (models : List Model) :
      Activity (build config shared models)
  | insertContext (group : Nat) (config : ContextConfig) : Activity (insertContext group config)
  | bind {α β : Type} {op : Session α} {next : α → Session β} (first : Activity op)
      (rest : ∀ a, Activity (next a)) : Activity (op >>= next)
  | attempt {α : Type} {op : Session α} (activity : Activity op) : Activity (Session.attempt op)
  | choose {α : Type} {next : World → Session α} (rest : ∀ w, Activity (next w)) :
      Activity (MonadState.get >>= next)
  | query {α : Type} (id : Nat) (op : String) (standard : α) {block : Session α}
      (activity : Activity block) : Activity (readOr id op standard block)
  | update {α : Type} (id : Nat) {block : Session α} (activity : Activity block) :
      Activity (Session.update id block)

theorem Activity.playable {run : Session α} (activity : Activity run) : Playable run := by
  induction activity with
  | pure a => exact .pure a
  | throw failure => exact .throw failure
  | service service => exact service.composed.playable
  | compile catalog => exact fun w => ⟨_, .compile catalog w⟩
  | build config shared models => exact playable_build config shared models
  | insertContext group config => exact playable_insertContext group config
  | bind _ _ first rest => exact first.bind rest
  | attempt _ playable => exact playable.attempt
  | choose _ rest => exact .look rest
  | query id op standard _ playable => exact playable.readOr
  | update id _ playable => exact playable.update id

/-- The log of a session is well bracketed.  It tells the episodes of the session, each with its end, its
    result and what has happened inside, and no others. -/
theorem Activity.bracketed {run : Session α} (activity : Activity run) (w : World) :
    ∃ events episodes, (run.outcome w).2.log = events.reverse ++ w.log ∧ Log.Balanced events
      ∧ Log.Tells episodes events ∧ ∀ others, Plays run w others ↔ others = episodes := by
  obtain ⟨episodes, plays⟩ := activity.playable w
  obtain ⟨_, events, log, told⟩ := plays.records
  refine ⟨events, episodes, log, told.balanced, told, fun others => ⟨fun playing => ?_, ?_⟩⟩
  · obtain ⟨_, same, logged, tells⟩ := playing.records
    rw [logged, List.append_left_inj, List.reverse_inj] at log
    exact tells.unique (log ▸ told)
  · rintro rfl
    exact plays

/-- A write transaction meets somebody else who holds the file, and fails for the second time.  The next one
    prepares the tables. -/
def hindered : Session Unit := do
  let r ← build { contexts := [{ storage := .directory "d", name := some "x" }] } none []
  let id ← r.context "default"
  holdFile id
  let _ ← Session.attempt (update id (return ()))
  releaseFiles
  update id do
    let _ ← r.prepareAll

theorem activity_hindered : Activity hindered :=
  .bind (.build ..) fun r => .bind (.service (.context r "default")) fun id =>
    .bind (.service (.holdFile id)) fun _ => .bind (.attempt (.update id (.pure ()))) fun _ =>
      .bind (.service .releaseFiles) fun _ => .update id <|
        .bind (.service (.prepareAll r)) fun _ => .pure ()

theorem hindered_bracketed :
    ((hindered.outcome {}).2.log.reverse.filterMap fun e => e.phase.map fun p => (e.op.getD "", p)) =
      [("registry_build", .start), ("catalog_compile", .start), ("catalog_compile", .finish),
        ("registry_build", .finish), ("update", .start), ("update", .retry), ("update", .fail),
        ("update", .start), ("registry_prepare", .start), ("registry_prepare", .finish),
        ("update", .finish)]
    ∧ Log.Balanced (hindered.outcome {}).2.log.reverse
    ∧ ∃ episodes, Log.Tells episodes (hindered.outcome {}).2.log.reverse
      ∧ ∀ others, Plays hindered {} others ↔ others = episodes := by
  obtain ⟨events, episodes, log, balanced, told, plays⟩ := activity_hindered.bracketed {}
  have reported : (hindered.outcome {}).2.log.reverse = events := by
    rw [log, List.append_nil, List.reverse_reverse]
  refine ⟨by decide +kernel, ?_, episodes, ?_, plays⟩
  · rw [reported]
    exact balanced
  · rw [reported]
    exact told

end Session

end EntityStore
