import EntityStore.Proofs.Mapper.Block

/-! # What no mapper touches

A property of worlds that survives the single steps that mappers take, on whatever contexts, survives
all of their operations:

* `Session.Endures` — the steps: those of the engine, opening a context, and what mappers remember.
* `Session.Endures.bears`, `Session.Endures.operation` — the operations.
* `World.Works`, `World.Steps` — the single steps, and the worlds on the way of an operation.
-/

namespace EntityStore

open Session (Keeps Carries Withstands modifyKept openContext withConnection)

variable {P : World → Prop} {α : Type}

/-- A property of worlds that the steps of mappers leave true, whichever contexts they lead to. -/
structure Session.Endures (P : World → Prop) : Prop where
  withstands : ∀ id, Withstands (fun _ _ => True) P id
  kept : ∀ id f, Keeps P (modifyKept id f)
  opens : ∀ id, Keeps P (openContext id)
  remembers : ∀ (m : Mapper) f, Keeps P (m.modifyState f)

theorem Session.keeps_contextOf (group : Nat) (tag : String) : Keeps P (Session.contextOf group tag) := by
  refine .bind .get fun w => ?_
  split
  · exact .pure _
  · exact .throw _

namespace Session.Endures

variable (endures : Endures P) {m : Mapper}
include endures

theorem carries (id : Nat) : Carries P (fun _ => True) id :=
  (endures.withstands id).carries (endures.kept id) (fun _ _ _ _ _ _ _ _ => trivial)
    fun p parameters _ h => p.allowedAt_true h parameters

/-! ## The way to a table -/

theorem contextId (m : Mapper) : Keeps P m.contextId := by
  refine .bind (.bind .get fun _ => .pure _) fun state => ?_
  cases state.bound with
  | some id => exact .pure id
  | none =>
    exact .bind (.annotate _ (Session.keeps_contextOf _ _)) fun id =>
      .bind (endures.remembers m _) fun _ => .pure id

theorem withConnection {op : Nat → Session α} (id : Nat)
    (kept : ∀ generation, Keeps P (op generation)) : Keeps P (Session.withConnection id op) :=
  .bind (endures.opens id) fun _ => .bind (fun _ holds => holds) fun _ => kept _

theorem markMigrated (m : Mapper) (id generation : Nat) : Keeps P (m.markMigrated id generation) := by
  refine .bind (.bind Session.keeps_connection fun _ => .pure _) fun idle => ?_
  cases idle with
  | true => exact endures.remembers m _
  | false => exact .pure _

theorem withTable {op : Nat → Session α} (kept : ∀ id, Keeps P (op id)) : Keeps P (m.withTable op) := by
  refine .bind (endures.contextId m) fun id => endures.withConnection id fun generation =>
    .bind (.bind .get fun _ => .pure _) fun state => ?_
  split
  · exact .bind (endures.withstands id).migrate fun _ =>
      .bind (endures.markMigrated m id generation) fun _ => kept id
  · exact kept id

/-! ## Operations -/

theorem prepare (m : Mapper) : Keeps P m.prepare :=
  .bind (endures.contextId m) fun id => .annotate _ <| endures.withConnection id fun generation =>
    .bind (endures.withstands id).migrate fun report =>
      .bind (endures.markMigrated m id generation) fun _ => .pure report

theorem reset (m : Mapper) : Keeps P m.reset := by
  refine .bind (.bind .get fun _ => .pure _) fun state => ?_
  cases state.bound with
  | some id => exact .bind (endures.kept id _) fun _ => endures.remembers m _
  | none => exact endures.remembers m _

theorem bears (m : Mapper) : m.Bears P where
  reports := (endures.withstands 0).report
  context := endures.contextId m
  queries query := endures.withTable fun id => (endures.carries id).query (endures.remembers m _) query
  prepare := endures.prepare m
  writes write := endures.withTable fun id =>
    (endures.carries id).write_of (endures.remembers m _) (fun _ _ _ _ _ _ _ => trivial) write

theorem operation {op : Session α} (operation : m.Operation op) : Keeps P op :=
  have closed : Mapper.Closed fun _ => True := fun _ _ _ _ _ _ => trivial
  operation.keeps closed (fun m _ => endures.bears m) trivial

end Session.Endures

/-! ## The steps -/

/-- One step: the engine does something behind a connection, or counts and reports it, a context is
    opened, or something is remembered. -/
inductive World.Works (w : World) : World → Prop
  | engine {id : Nat} {c : Connection} {h : Engine.Handle} (next : Engine.Handle)
      (opened : (w.context id).connection = some c) (found : w.handle? c = some h) :
      Works w (w.putHandle id c next)
  | aside {v : World} (disk : v.disk = w.disk) (contexts : v.contexts = w.contexts)
      (bindings : v.bindings = w.bindings) : Works w v
  | keeps (id : Nat) (f : List String → List String) : Works w ((modifyKept id f).outcome w).2
  | opens (id : Nat) : Works w ((openContext id).outcome w).2
  | remembers (m : Mapper) (f : MapperState → MapperState) : Works w ((m.modifyState f).outcome w).2

theorem Session.Endures.of_works (works : ∀ {w v : World}, w.Works v → P w → P v) : Endures P where
  withstands _ :=
    { same := fun _ => trivial
      aside := fun holds disk contexts bindings => works (.aside disk contexts bindings) holds
      step := fun opened found _ holds => works (.engine _ opened found) holds }
  kept id f _ holds := works (.keeps id f) holds
  opens id _ holds := works (.opens id) holds
  remembers m f _ holds := works (.remembers m f) holds

/-- Steps one after the other, and the worlds that they lead to. -/
inductive World.Steps : World → List World → World → Prop
  | done (w : World) : Steps w [] w
  | step {w u v : World} {rest : List World} (works : w.Works u) (later : Steps u rest v) :
      Steps w (u :: rest) v

theorem World.Steps.then {u v w : World} {steps : List World} (before : Steps w steps u)
    (works : u.Works v) : Steps w (steps ++ [v]) v := by
  induction before with
  | done => exact .step works (.done v)
  | step first _ ih => exact .step first (ih works)

/-- What mappers do is done in such steps. -/
theorem Session.Endures.steps (w : World) : Endures fun v => ∃ steps, w.Steps steps v :=
  .of_works fun works ⟨_, before⟩ => ⟨_, before.then works⟩

end EntityStore
