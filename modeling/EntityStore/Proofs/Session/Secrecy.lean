import EntityStore.Proofs.Session.Service
import EntityStore.Proofs.Update.Course

/-! # Secrets are not observed

Two runs of an application whose configurations differ in the texts of secrets cannot be told apart, as far
as the engine takes each of them for a key.  It takes every secret without the character of number zero; one
with that character ends the text of the key early (see `Sql.readQuoted`), and is not meant here:

* `Session.Agrees` — two operations that do the same in worlds that differ in texts of secrets.
* `Session.Composed.agrees` — composed operations agree with themselves.
* `Session.Twins` — the same session with other secrets.
* `Session.Twins.indistinguishable` — results, failures, reports and the texts of diagnostics.
-/

namespace EntityStore

/-! ## Texts of diagnostics -/

theorem ContextConfig.debug_concealed (c : ContextConfig) : c.concealed.debug = c.debug := by
  have shown : c.concealed.secret.map Secret.shown = c.secret.map Secret.shown := by
    rw [concealed, Option.map_map]
    rfl
  rw [debug, debug, shown]
  rfl

theorem StoreConfig.debug_concealed (c : StoreConfig) : c.concealed.debug = c.debug := by
  have shown : c.concealed.contexts.map ContextConfig.debug = c.contexts.map ContextConfig.debug := by
    rw [concealed, List.map_map]
    exact List.map_congr_left fun config _ => config.debug_concealed
  rw [debug, debug, shown]
  rfl

theorem Context.debug_concealed (c : Context) : c.concealed.debug = c.debug := rfl

theorem StoreConfig.validate_concealed (c : StoreConfig) : c.concealed.validate = c.validate := by
  have repeated (seen : List String) (configs : List ContextConfig) :
      repeatedTag? seen (configs.map ContextConfig.concealed) = repeatedTag? seen configs := by
    induction configs generalizing seen with
    | nil => rfl
    | cons config rest ih =>
      rw [List.map_cons, repeatedTag?, repeatedTag?, ih]
      rfl
  rw [validate, validate, concealed, repeated]

/-! ## What does not depend on secrets -/

theorem ContextConfig.tag_congr {c c' : ContextConfig} (alike : c.concealed = c'.concealed) :
    c.tag = c'.tag := by
  change c.concealed.tag = c'.concealed.tag
  rw [alike]

theorem Context.tag_congr {c c' : Context} (alike : c.concealed = c'.concealed) : c.tag = c'.tag := by
  change c.concealed.tag = c'.concealed.tag
  rw [alike]

theorem Session.retryEvent_congr {c c' : Context} (alike : c.concealed = c'.concealed) :
    retryEvent c.config = retryEvent c'.config := by
  change retryEvent c.concealed.config = retryEvent c'.concealed.config
  rw [alike]

namespace Session

variable {α β : Type} {op op' block block' : Session α}

/-! ## Agreement -/

/-- Two operations that do the same in worlds that differ in texts of secrets. -/
def Agrees (op op' : Session α) : Prop :=
  ∀ w w' : World, w.concealed = w'.concealed →
    (op.outcome w).1 = (op'.outcome w').1 ∧ (op.outcome w).2.concealed = (op'.outcome w').2.concealed

namespace Agrees

theorem pure (a : α) : Agrees (Pure.pure a) (Pure.pure a) := fun _ _ alike => ⟨rfl, alike⟩

theorem throw (failure : Failure) :
    Agrees (MonadExcept.throw failure : Session α) (MonadExcept.throw failure) :=
  fun _ _ alike => ⟨rfl, alike⟩

theorem blind (blind : Blind op) : Agrees op op := by
  intro w w' alike
  have first := blind w
  have second := blind w'
  rw [alike, second, Prod.mk.injEq] at first
  exact ⟨first.1.symm, first.2.symm⟩

theorem look {next next' : World → Session α}
    (rest : ∀ w w', w.concealed = w'.concealed → Agrees (next w) (next' w')) :
    Agrees (MonadState.get >>= next) (MonadState.get >>= next') :=
  fun w w' alike => rest w w' alike w w' alike

theorem bind {next next' : α → Session β} (first : Agrees op op')
    (rest : ∀ a, Agrees (next a) (next' a)) : Agrees (op >>= next) (op' >>= next') := by
  intro w w' alike
  have agrees := first w w' alike
  rw [outcome_bind, outcome_bind]
  rcases ran : op.outcome w with ⟨result, v⟩
  rcases ran' : op'.outcome w' with ⟨result', v'⟩
  rw [ran, ran'] at agrees
  obtain ⟨rfl, alike⟩ : result = result' ∧ v.concealed = v'.concealed := agrees
  cases result with
  | ok a => exact rest a v v' alike
  | error failure => exact ⟨rfl, alike⟩

theorem tryCatch {handler handler' : Failure → Session α} (first : Agrees op op')
    (handled : ∀ failure, Agrees (handler failure) (handler' failure)) :
    Agrees (MonadExcept.tryCatch op handler) (MonadExcept.tryCatch op' handler') := by
  intro w w' alike
  have agrees := first w w' alike
  rw [outcome_tryCatch, outcome_tryCatch]
  rcases ran : op.outcome w with ⟨result, v⟩
  rcases ran' : op'.outcome w' with ⟨result', v'⟩
  rw [ran, ran'] at agrees
  obtain ⟨rfl, alike⟩ : result = result' ∧ v.concealed = v'.concealed := agrees
  cases result with
  | ok a => exact ⟨rfl, alike⟩
  | error failure => exact handled failure v v' alike

theorem attempt (agrees : Agrees op op') : Agrees (attempt op) (attempt op') := by
  intro w w' alike
  rw [outcome_attempt, outcome_attempt]
  have agrees := agrees w w' alike
  exact ⟨congrArg Except.ok agrees.1, agrees.2⟩

theorem mapM {f f' : β → Session α} {items items' : List β}
    (each : List.Forall₂ (fun a a' => Agrees (f a) (f' a')) items items') :
    Agrees (items.mapM f) (items'.mapM f') := by
  induction each with
  | nil => exact .pure []
  | cons first _ ih =>
    rw [List.mapM_cons, List.mapM_cons]
    exact first.bind fun _ => ih.bind fun _ => .pure _

theorem context {id : Nat} {next next' : Context → Session α}
    (rest : ∀ c c', c.concealed = c'.concealed → Agrees (next c) (next' c')) :
    Agrees (context id >>= next) (Session.context id >>= next') := by
  rw [Session.context, bind_assoc, bind_assoc]
  simp only [pure_bind]
  refine .look fun w w' alike => rest _ _ ?_
  rw [← World.getD_concealed, alike, World.getD_concealed]

theorem report (e : Event) : Agrees (report e) (Session.report e) := by
  apply blind
  apply blind_modify
  intro w
  rfl

theorem around {name : String} (b : Brackets name α) (agrees : Agrees op op') :
    Agrees (b.around op) (b.around op') := by
  refine .bind (.report _) fun _ => .bind agrees.attempt fun result => ?_
  cases result with
  | ok value => exact .bind (.report _) fun _ => .pure _
  | error failure => exact .bind (.report _) fun _ => .throw _

end Agrees

theorem Composed.agrees (composed : Composed op) : Agrees op op := by
  induction composed with
  | pure a => exact .pure a
  | throw failure => exact .throw failure
  | step _ blind => exact .blind blind
  | remark _ => exact .report _
  | look _ blind rest =>
    -- Both go on as in the world without secrets, which is the same one.
    refine .look fun w w' alike => ?_
    rw [← blind w, alike, blind w']
    exact rest w'
  | bind _ _ first rest => exact .bind first rest
  | tryCatch _ _ first handled => exact .tryCatch first handled
  | brackets b _ agrees => exact .around b agrees

/-! ## Contexts and registries -/

theorem agrees_addContext {config config' : ContextConfig} (alike : config.concealed = config'.concealed) :
    Agrees (addContext config) (addContext config') := by
  intro w w' same
  have contexts : w.contexts.map Context.concealed = w'.contexts.map Context.concealed :=
    congrArg World.contexts same
  have length : w.contexts.length = w'.contexts.length := by simpa using congrArg List.length contexts
  have added : (Context.ofConfig config).concealed = (Context.ofConfig config').concealed := by
    change Context.ofConfig config.concealed = Context.ofConfig config'.concealed
    rw [alike]
  refine ⟨congrArg Except.ok length, ?_⟩
  change ({ w with contexts := w.contexts ++ [Context.ofConfig config] } : World).concealed =
    ({ w' with contexts := w'.contexts ++ [Context.ofConfig config'] } : World).concealed
  simp only [World.concealed, List.map_append, List.map_cons, List.map_nil, added, World.mk.injEq] at same ⊢
  simp only [same, and_true]

theorem agrees_openGroup {config config' : StoreConfig} (alike : config.concealed = config'.concealed) :
    Agrees (openGroup config) (openGroup config') := by
  have valid : config.validate = config'.validate := by
    rw [← config.validate_concealed, alike, config'.validate_concealed]
  have contexts : config.contexts.map ContextConfig.concealed =
      config'.contexts.map ContextConfig.concealed := congrArg StoreConfig.contexts alike
  rw [openGroup, openGroup, valid]
  refine .bind (Composed.ofExcept _).agrees fun _ => .bind (.mapM ?_) fun entries => ?_
  · have alike : List.Forall₂ (fun c c' => ContextConfig.concealed c = ContextConfig.concealed c')
        config.contexts config'.contexts := by
      have listed : List.Forall₂ Eq (config.contexts.map ContextConfig.concealed)
          (config'.contexts.map ContextConfig.concealed) := List.forall₂_eq_eq_eq ▸ contexts
      exact List.forall₂_map_right_iff.mp (List.forall₂_map_left_iff.mp listed)
    refine alike.imp fun c c' same => ?_
    have tag := ContextConfig.tag_congr same
    rw [tag]
    exact .bind (agrees_addContext same) fun _ => .pure _
  · exact Composed.agrees (.look (fun _ =>
      .bind (.changes (fun _ => rfl) (fun _ => rfl) fun _ => rfl) fun _ => .pure _) fun _ => rfl)

theorem Agrees.reportAll (events : List Event) : Agrees (reportAll events) (Session.reportAll events) := by
  apply blind
  apply blind_modify
  intro w
  rfl

theorem agrees_build {config config' : StoreConfig} (alike : config.concealed = config'.concealed)
    (shared : Option Nat) (models : List Model) :
    Agrees (build config shared models) (build config' shared models) := by
  have depth : config.maxRefDepth = config'.maxRefDepth := by
    change config.concealed.maxRefDepth = config'.concealed.maxRefDepth
    rw [alike]
  have group : Agrees (chooseGroup config shared) (chooseGroup config' shared) := by
    cases shared with
    | some group => exact .pure group
    | none => exact agrees_openGroup alike
  rw [build_eq, build_eq, buildRegistry_eq, buildRegistry_eq, depth]
  refine .bind (.reportAll _) fun _ => .around _ (.bind group fun _ => .bind ?_ fun _ => ?_)
  · exact .bind (.reportAll _) fun _ => (Composed.ofExcept _).agrees
  · exact (composed_install ..).agrees

theorem agrees_insertContext (group : Nat) {config config' : ContextConfig}
    (alike : config.concealed = config'.concealed) :
    Agrees (insertContext group config) (insertContext group config') := by
  have tag := ContextConfig.tag_congr alike
  rw [insertContext, insertContext, tag]
  refine .look fun w w' same => ?_
  have groups : w.groups = w'.groups := by
    change w.concealed.groups = w'.concealed.groups
    rw [same]
  rw [groups]
  dsimp only
  split
  · exact .throw _
  · exact .bind (agrees_addContext alike) fun _ =>
      Composed.agrees (.bind (.changes (fun _ => rfl) (fun _ => rfl) fun _ => rfl) fun _ => .pure _)

/-! ## Write transactions -/

theorem agrees_runOnce (id : Nat) (agrees : Agrees block block') :
    Agrees (runOnce id block) (runOnce id block') := by
  refine .context fun c c' alike => ?_
  have tag := Context.tag_congr alike
  rw [tag]
  refine .bind (composed_beginWrite id).agrees fun generation => .bind (.report _) fun _ =>
    .bind (.attempt (.bind agrees fun value => .bind (composed_controlOn ..).agrees fun _ => .pure value))
      fun result => ?_
  cases result with
  | ok value => exact .bind (.report _) fun _ => .pure _
  | error failure => exact .bind (composed_undo ..).agrees fun _ => .throw _

theorem agrees_renew (id : Nat) : Agrees (renew id) (renew id) := by
  refine .context fun c c' alike => ?_
  rw [retryEvent_congr alike]
  exact .bind (.report _) fun _ => Composed.agrees (.bind .forceClose fun _ => .openContext)

theorem agrees_update (id : Nat) (agrees : Agrees block block') :
    Agrees (update id block) (update id block') := by
  have request : Agrees newRequestId newRequestId := Composed.agrees (.look (fun _ =>
    .bind (.changes (fun _ => rfl) (fun _ => rfl) fun _ => rfl) fun _ => .pure _) fun _ => rfl)
  rw [update_eq, update_eq]
  refine .context fun c c' alike => .bind request fun request => ?_
  have tag := Context.tag_congr alike
  rw [tag]
  refine .around _ (.tryCatch (agrees_runOnce id agrees) fun failure => ?_)
  split
  · rw [retry_eq, retry_eq]
    exact .bind (agrees_renew id) fun _ => agrees_runOnce id agrees
  · exact .throw _

/-! ## Sessions -/

/-- The same session of an application with secrets of the same contexts that have other texts.  What the
    application goes on with depends on results and on the world, but not on secrets. -/
inductive Twins : {α : Type} → Session α → Session α → Prop
  | pure {α : Type} (a : α) : Twins (Pure.pure a) (Pure.pure a)
  | throw {α : Type} (failure : Failure) :
      Twins (MonadExcept.throw failure : Session α) (MonadExcept.throw failure)
  | service {α : Type} {op : Session α} (service : Service op) : Twins op op
  | build {config config' : StoreConfig} (alike : config.concealed = config'.concealed)
      (shared : Option Nat) (models : List Model) :
      Twins (build config shared models) (build config' shared models)
  | insertContext (group : Nat) {config config' : ContextConfig}
      (alike : config.concealed = config'.concealed) :
      Twins (insertContext group config) (insertContext group config')
  | bind {α β : Type} {op op' : Session α} {next next' : α → Session β} (first : Twins op op')
      (rest : ∀ a, Twins (next a) (next' a)) : Twins (op >>= next) (op' >>= next')
  | attempt {α : Type} {op op' : Session α} (twins : Twins op op') :
      Twins (Session.attempt op) (Session.attempt op')
  | choose {α : Type} {next next' : World → Session α}
      (rest : ∀ w w' : World, w.concealed = w'.concealed → Twins (next w) (next' w')) :
      Twins (MonadState.get >>= next) (MonadState.get >>= next')
  | query {α : Type} (id : Nat) (op : String) (standard : α) {block block' : Session α}
      (twins : Twins block block') : Twins (readOr id op standard block) (readOr id op standard block')
  | update {α : Type} (id : Nat) {block block' : Session α} (twins : Twins block block') :
      Twins (Session.update id block) (Session.update id block')

theorem agrees_readOr (id : Nat) (name : String) (standard : α) (agrees : Agrees block block') :
    Agrees (readOr id name standard block) (readOr id name standard block') := by
  refine .bind agrees.attempt fun result => ?_
  cases result with
  | ok value => exact .pure value
  | error failure =>
    refine .context fun c c' alike => ?_
    have tag := Context.tag_congr alike
    rw [tag]
    exact .bind (.report _) fun _ => .pure _

theorem Twins.agrees {run run' : Session α} (twins : Twins run run') : Agrees run run' := by
  induction twins with
  | pure a => exact .pure a
  | throw failure => exact .throw failure
  | service service => exact service.composed.agrees
  | build alike shared models => exact agrees_build alike shared models
  | insertContext group alike => exact agrees_insertContext group alike
  | bind _ _ first rest => exact .bind first rest
  | attempt _ agrees => exact agrees.attempt
  | choose _ rest => exact .look rest
  | query id op standard _ agrees => exact agrees_readOr id op standard agrees
  | update id _ agrees => exact agrees_update id agrees

end Session

/-- Two worlds that look the same, in all that has been reported and in all that diagnostics show. -/
structure World.Resembles (w w' : World) : Prop where
  log : w.log = w'.log
  contexts : ∀ id, (w.contexts.getD id default).debug = (w'.contexts.getD id default).debug
  configs : ∀ id, (w.contexts.getD id default).config.debug = (w'.contexts.getD id default).config.debug
  registries : ∀ r : Registry, (r.debug.outcome w).1 = (r.debug.outcome w').1
  /-- In all else, too, they only differ in texts of secrets. -/
  concealed : w.concealed = w'.concealed

theorem World.Resembles.of_concealed {w w' : World} (alike : w.concealed = w'.concealed) :
    w.Resembles w' where
  log := by
    change w.concealed.log = w'.concealed.log
    rw [alike]
  contexts id := by
    rw [← Context.debug_concealed, ← getD_concealed, alike, getD_concealed, Context.debug_concealed]
  configs id := by
    have same : (w.contexts.getD id default).concealed = (w'.contexts.getD id default).concealed := by
      rw [← getD_concealed, alike, getD_concealed]
    have config : (w.contexts.getD id default).config.concealed =
        (w'.contexts.getD id default).config.concealed := congrArg Context.config same
    rw [← ContextConfig.debug_concealed, config, ContextConfig.debug_concealed]
  registries r := (r.composed_debug.agrees w w' alike).1
  concealed := alike

namespace Session

variable {α : Type}

/-- Two runs of a session with other secrets, none with the character of number zero, come to the same
    results and failures, report the same and show the same. -/
theorem Twins.indistinguishable {run run' : Session α} (twins : Twins run run') {w w' : World}
    (alike : w.concealed = w'.concealed) :
    (run.outcome w).1 = (run'.outcome w').1
      ∧ (run.outcome w).2.Resembles (run'.outcome w').2
      ∧ ∀ config config' : StoreConfig, config.concealed = config'.concealed →
        config.debug = config'.debug := by
  obtain ⟨result, after⟩ := twins.agrees w w' alike
  refine ⟨result, .of_concealed after, fun config config' same => ?_⟩
  rw [← config.debug_concealed, same, config'.debug_concealed]

def keyed (secret : String) : StoreConfig :=
  { contexts := [{ storage := .directory "d", name := some "x", secret := some ⟨secret⟩ }] }

theorem keyed_alike (secret other : String) : (keyed secret).concealed = (keyed other).concealed := rfl

def unlocking (secret : String) : Session Bool := do
  let r ← build (keyed secret) none []
  let id ← r.context "default"
  openContext id
  isOpen id

theorem twins_unlocking (secret other : String) : Twins (unlocking secret) (unlocking other) :=
  .bind (.build (keyed_alike secret other) none []) fun r => .bind (.service (.context r "default")) fun id =>
    .bind (.service (.openContext id)) fun _ => .service (.isOpen id)

theorem unlocking_indistinguishable :
    ((unlocking "mouse").outcome {}).2.contexts.map (·.config.secret) = [some ⟨"mouse"⟩]
    ∧ ((unlocking "it's").outcome {}).2.contexts.map (·.config.secret) = [some ⟨"it's"⟩]
    ∧ ((unlocking "mouse").outcome {}).1.toOption = some true
    ∧ ((unlocking "it's").outcome {}).1.toOption = some true
    ∧ ((unlocking "mouse").outcome {}).2.Resembles ((unlocking "it's").outcome {}).2
    ∧ (keyed "mouse").debug = (keyed "it's").debug := by
  obtain ⟨result, resembles, shown⟩ :=
    (twins_unlocking "mouse" "it's").indistinguishable (rfl : ({} : World).concealed = _)
  have opened : ((unlocking "mouse").outcome {}).1.toOption = some true := by decide +kernel
  exact ⟨by decide +kernel, by decide +kernel, opened, result ▸ opened, resembles,
    shown _ _ (keyed_alike ..)⟩

end Session

end EntityStore
