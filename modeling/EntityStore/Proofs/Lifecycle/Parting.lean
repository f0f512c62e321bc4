import EntityStore.Proofs.Lifecycle.Keeping
import EntityStore.Proofs.Mapper.Block

/-! # Blocks that part with their connection

A block may close the connection that it works on, and go on with another one:

* `Session.Lifecycle`, `Session.LooseBlock` — blocks that may do so.
* `Session.ComesTo` — the way of such a block to a call that parts with the connection, and what
  it does afterwards.
* `World.Around` — what holds whichever connection mappers work on.
* `World.Released` — a world that is left by a call that parts with the connection.
-/

namespace EntityStore

open EntityStore.Engine (Database Handle Program)
open World (Alike Inside Step)

variable {among : Mapper → Prop} {id : Nat} {u v w x y : World} {α β : Type}

/-! ## Blocks -/

namespace Session

/-- The calls that open and close a context. -/
inductive Lifecycle (id : Nat) : Session Unit → Prop
  | close : Lifecycle id (closeContext id)
  | reopen : Lifecycle id (reopen id)
  | openNamed (name : String) : Lifecycle id (openNamed id name)
  | setUser (user : String) : Lifecycle id (setUser id user)

/-- Such a call parts with the connection.  Turning to a user does so only if it is another one. -/
inductive Parts (id : Nat) (w : World) : Session Unit → Prop
  | close : Parts id w (closeContext id)
  | reopen : Parts id w (reopen id)
  | openNamed (name : String) : Parts id w (openNamed id name)
  | setUser {user : String} (new : (w.context id).userId ≠ some user) : Parts id w (setUser id user)

/-- What is made of operations of mappers, and of calls that open and close their context. -/
inductive LooseBlock (among : Mapper → Prop) (id : Nat) : {α : Type} → Session α → Prop
  | block {α : Type} {op : Session α} (made : Block among op) : LooseBlock among id op
  | call {op : Session Unit} (lifecycle : Lifecycle id op) : LooseBlock among id op
  | bind {α β : Type} {op : Session α} {next : α → Session β} (first : LooseBlock among id op)
      (rest : ∀ a, LooseBlock among id (next a)) : LooseBlock among id (op >>= next)
  | attempt {α : Type} {op : Session α} (block : LooseBlock among id op) :
      LooseBlock among id (Session.attempt op)
  | choose {α : Type} {next : World → Session α} (rest : ∀ w, LooseBlock among id (next w)) :
      LooseBlock among id (MonadState.get >>= next)

/-- From a world, a block comes to a call that parts with the connection, in another world.  What is
    left to be done then depends on how the call ends. -/
inductive ComesTo (among : Mapper → Prop) (id : Nat) : {α : Type} → Session α → World →
    Session Unit → World → (Except Failure Unit → Session α) → Prop
  | here {call : Session Unit} {x : World} (parts : Parts id x call) :
      ComesTo among id call x call x ofExcept
  | first {α β : Type} {op : Session α} {next : α → Session β} {y x : World} {call : Session Unit}
      {rest : Except Failure Unit → Session α} (comes : ComesTo among id op y call x rest)
      (later : ∀ a, LooseBlock among id (next a)) :
      ComesTo among id (op >>= next) y call x fun result => rest result >>= next
  | later {α β : Type} {op : Session α} {next : α → Session β} {a : α} {y u x : World}
      {call : Session Unit} {rest : Except Failure Unit → Session β}
      (block : LooseBlock among id op) (done : op.outcome y = (.ok a, u))
      (comes : ComesTo among id (next a) u call x rest) :
      ComesTo among id (op >>= next) y call x rest
  | attempt {α : Type} {op : Session α} {y x : World} {call : Session Unit}
      {rest : Except Failure Unit → Session α} (comes : ComesTo among id op y call x rest) :
      ComesTo among id (Session.attempt op) y call x fun result => Session.attempt (rest result)
  | choose {α : Type} {next : World → Session α} {y x : World} {call : Session Unit}
      {rest : Except Failure Unit → Session α} (comes : ComesTo among id (next y) y call x rest) :
      ComesTo among id (MonadState.get >>= next) y call x rest

namespace ComesTo

variable {block : Session α} {call : Session Unit} {rest : Except Failure Unit → Session α}

theorem parts (comes : ComesTo among id block y call x rest) : Parts id x call := by
  induction comes with
  | here parts => exact parts
  | first _ _ ih => exact ih
  | later _ _ _ ih => exact ih
  | attempt _ ih => exact ih
  | choose _ ih => exact ih

theorem outcome (comes : ComesTo among id block y call x rest) :
    block.outcome y = (Session.attempt call >>= rest).outcome x := by
  induction comes with
  | @here call x _ =>
    rw [outcome_bind_ok (outcome_attempt call x)]
    rcases call.outcome x with ⟨result, v⟩
    cases result <;> rfl
  | @first _ _ op next _ x call rest _ _ ih =>
    rw [outcome_bind, ih, outcome_bind_ok (outcome_attempt call x), outcome_bind_ok (outcome_attempt call x),
      outcome_bind]
  | later _ done _ ih => rw [outcome_bind_ok done, ih]
  | @attempt _ op _ x call rest _ ih =>
    rw [outcome_attempt, ih, outcome_bind_ok (outcome_attempt call x), outcome_bind_ok (outcome_attempt call x),
      outcome_attempt]
  | choose _ ih => exact ih

theorem rest_loose (comes : ComesTo among id block y call x rest) (result : Except Failure Unit) :
    LooseBlock among id (rest result) := by
  induction comes with
  | here _ =>
    cases result with
    | ok _ => exact .block (.pure _)
    | error failure => exact .block (.throw failure)
  | first _ later ih => exact .bind ih later
  | later _ _ _ ih => exact ih
  | attempt _ ih => exact .attempt ih
  | choose _ ih => exact ih

end ComesTo

end Session

/-! ## Whichever connection there is -/

/-- A property of the generation of a connection, and of whether it is there, that closing and opening
    contexts keep. -/
structure Persists (S : Nat → Bool → Prop) : Prop where
  closes : ∀ generation there, S generation there → S generation false
  opens : ∀ generation, S generation false → S (generation + 1) true

theorem Persists.true : Persists fun _ _ => True := ⟨fun _ _ _ => trivial, fun _ _ => trivial⟩

def Gone (generation : Nat) : Nat → Bool → Prop :=
  fun later there => generation < later ∨ generation ≤ later ∧ there = false

theorem Persists.gone (generation : Nat) : Persists (Gone generation) where
  closes later there gone := by
    rcases gone with after | ⟨same, _⟩
    · exact .inl after
    · exact .inr ⟨same, rfl⟩
  opens later gone := by
    rcases gone with after | ⟨same, _⟩
    · exact .inl (Nat.lt_succ_of_lt after)
    · exact .inl (Nat.lt_succ_of_le same)

structure World.Around (among : Mapper → Prop) (id : Nat) (S : Nat → Bool → Prop) (w : World) :
    Prop where
  on : AllOn among id w.bindings
  phase : S (w.context id).generation (w.context id).connection.isSome

theorem World.isSome_fileOf (w : World) (id : Nat) :
    (w.context id).connection.isSome = (w.fileOf id).isSome := by
  rw [World.fileOf, Option.isSome_map]

namespace World.Around

variable {S : Nat → Bool → Prop}

theorem step (around : Around among id S w) (step : Step id w v) : Around among id S v where
  on := step.bindings ▸ around.on
  phase := by
    rw [step.generation, isSome_fileOf, step.file, ← isSome_fileOf]
    exact around.phase

theorem alike (around : Around among id S w) (alike : Alike w v) : Around among id S v where
  on := alike.bindings ▸ around.on
  phase := by rw [alike.context]; exact around.phase

theorem withstands : Session.Withstands (fun _ _ => True) (Around among id S) id :=
  .of_steps fun _ _ step around => around.step step

theorem settings (around : Around among id S w) {f : Context → Context}
    (generation : ∀ c, (f c).generation = c.generation)
    (connection : ∀ c, (f c).connection = c.connection) : Around among id S (w.changed id f) where
  on := around.on
  phase := by
    rcases w.context_changed_cases id f with changed | ⟨same, _⟩
    · rw [changed, generation, connection]
      exact around.phase
    · rw [same]
      exact around.phase

variable (persists : Persists S)
include persists

theorem opens : Session.Keeps (Around among id S) (Session.openContext id) := by
  intro w around
  cases closed : (w.context id).connection with
  | some c =>
    rw [Session.openContext_open closed]
    exact around
  | none =>
    have phase := around.phase
    rw [closed] at phase
    rcases Session.openContext_cases closed with ⟨failure, v, failed, alike⟩ | ⟨c, v, opened, _, alike⟩
    · rw [failed]
      exact around.alike alike
    · rw [opened]
      -- A context that is listed has its connection now; one that is not has changed nothing.
      have reconnected : Around among id S (w.reconnected id c) := by
        refine ⟨around.on, ?_⟩
        rcases w.context_changed_cases id fun context =>
          { context with connection := some c, generation := context.generation + 1 }
          with changed | ⟨same, _⟩
        · rw [World.reconnected, changed]
          exact persists.opens _ phase
        · rw [World.reconnected, same, closed]
          exact phase
      exact reconnected.alike alike

theorem closes : Session.Keeps (Around among id S) (Session.forceClose id) := by
  intro w around
  have closed : Around among id S (w.changed id fun c => { c with connection := none }) := by
    refine ⟨around.on, ?_⟩
    rcases w.context_changed_cases id fun c => { c with connection := none } with changed | ⟨same, empty⟩
    · rw [changed]
      exact persists.closes _ _ around.phase
    · rw [same]
      exact around.phase
  exact closed

theorem governs : Session.Governs (Around among id S) id where
  reports := withstands.report
  opens := opens persists
  closes := closes persists
  controls _ := withstands.control fun _ _ _ => trivial

theorem lifecycle {call : Session Unit} (lifecycle : Session.Lifecycle id call) :
    Session.Keeps (Around among id S) call := by
  have settings {f : Context → Context} (generation : ∀ c, (f c).generation = c.generation)
      (connection : ∀ c, (f c).connection = c.connection) :
      Session.Keeps (Around among id S) (Session.modifyContext id f) :=
    fun _ around => around.settings generation connection
  cases lifecycle with
  | close => exact (governs persists).closeContext
  | reopen => exact (governs persists).reopen (settings (fun _ => rfl) fun _ => rfl)
  | openNamed name => exact (governs persists).openNamed (settings (fun _ => rfl) fun _ => rfl)
  | setUser user => exact (governs persists).setUser (settings (fun _ => rfl) fun _ => rfl)

theorem bears {m : Mapper} (member : among m) (named : m.plan.Named) :
    m.Bears (Around among id S) := by
  have reaches : m.Reaches (Around among id S) id := {
    on := fun _ around => around.on m member
    remembers := fun _ stays _ around => ⟨Mapper.allOn_modifyState stays around.on, around.phase⟩
    opens := opens persists
    migrates := withstands.migrate }
  have carries : Session.Carries (Around among id S) (fun _ => True) id :=
    withstands.carries (fun f _ around => around.step (Session.step_modifyKept id f _).1)
      (fun _ _ _ _ _ _ _ _ => trivial) fun p parameters _ h => p.allowedAt_true h parameters
  exact reaches.bears withstands.report carries named

theorem loose (closed : Mapper.Closed among) (named : ∀ m, among m → m.plan.Named) {op : Session α}
    (made : Session.LooseBlock among id op) : Session.Keeps (Around among id S) op := by
  induction made with
  | block made => exact made.keeps closed fun m member => bears persists member (named m member)
  | call call => exact lifecycle persists call
  | bind _ _ first rest => exact .bind first rest
  | attempt _ block => exact block.attempt
  | choose _ rest => exact .bind .get rest

end World.Around

/-! ## The end of a connection -/

/-- A world that another one leads to when the connection of a context is closed, and perhaps a new one
    is opened. -/
structure World.Released (id : Nat) (w v : World) : Prop where
  gone : Gone (w.context id).generation (v.context id).generation (v.context id).connection.isSome
  stored : ∀ path, v.stored path = w.stored path
  bindings : v.bindings = w.bindings
  idle : v.transactionOf id = none

namespace World.Released

theorem trans (first : Released id u v) (second : Released id v w) : Released id u w where
  gone := by
    rcases second.gone with after | ⟨same, closed⟩
    · rcases first.gone with before | ⟨before, _⟩
      · exact .inl (Nat.lt_trans before after)
      · exact .inl (Nat.lt_of_le_of_lt before after)
    · rcases first.gone with before | ⟨before, _⟩
      · exact .inl (Nat.lt_of_lt_of_le before same)
      · exact .inr ⟨Nat.le_trans before same, closed⟩
  stored path := (second.stored path).trans (first.stored path)
  bindings := second.bindings.trans first.bindings
  idle := second.idle

theorem settings (closed : (w.context id).connection = none) {f : Context → Context}
    (generation : ∀ c, (f c).generation = c.generation)
    (connection : ∀ c, (f c).connection = c.connection) :
    Released id w (w.changed id f) ∧ ((w.changed id f).context id).connection = none := by
  have same : ((w.changed id f).context id).generation = (w.context id).generation
      ∧ ((w.changed id f).context id).connection = none := by
    rcases w.context_changed_cases id f with changed | ⟨same, _⟩
    · rw [changed, generation, connection]
      exact ⟨rfl, closed⟩
    · rw [same]
      exact ⟨rfl, closed⟩
  refine ⟨⟨.inr ⟨Nat.le_of_eq same.1.symm, by rw [same.2]; rfl⟩, fun _ => rfl, rfl, ?_⟩, same.2⟩
  rw [transactionOf, same.2]
  rfl

end World.Released

namespace Session

open World (Around Released)

theorem closeContext_released (id : Nat) (w : World) :
    ∃ v, (closeContext id).outcome w = (.ok (), v) ∧ Released id w v ∧ (v.context id).connection = none := by
  rw [closeContext, outcome_bind_ok (outcome_context id w)]
  change ∃ v, (if (w.context id).connection.isSome then _ else _ : Session Unit).outcome w = _ ∧ _
  cases opened : (w.context id).connection with
  | none =>
    refine ⟨w, rfl, ⟨.inr ⟨Nat.le_refl _, by rw [opened]; rfl⟩, fun _ => rfl, rfl, ?_⟩, opened⟩
    rw [World.transactionOf, opened]
    rfl
  | some c =>
    have changed := World.context_changed (World.lt_of_connection opened) fun c => { c with connection := none }
    refine ⟨_, rfl, ⟨.inr ⟨?_, ?_⟩, fun _ => rfl, rfl, ?_⟩, ?_⟩
    · exact Nat.le_of_eq (congrArg Context.generation changed).symm
    · exact congrArg (fun c => c.connection.isSome) changed
    · exact congrArg (fun c => c.connection.bind (·.transaction)) changed
    · exact congrArg Context.connection changed

theorem openContext_released (closed : (w.context id).connection = none) :
    Released id w ((openContext id).outcome w).2 := by
  rcases openContext_cases closed with ⟨failure, v, failed, alike⟩ | ⟨c, v, opened, opens, alike⟩
  · rw [failed]
    refine ⟨.inr ⟨by rw [alike.context], by rw [alike.context, closed]; rfl⟩, alike.stored, alike.bindings, ?_⟩
    rw [World.transactionOf, alike.context, closed]
    rfl
  · rw [opened]
    have phase : Gone (w.context id).generation (v.context id).generation (v.context id).connection.isSome
        ∧ v.transactionOf id = none := by
      rw [World.transactionOf, alike.context]
      rcases w.context_changed_cases id fun context =>
        { context with connection := some c, generation := context.generation + 1 }
        with changed | ⟨same, _⟩
      · rw [World.reconnected, changed]
        exact ⟨.inl (Nat.lt_succ_self _), opens.idle⟩
      · rw [World.reconnected, same, closed]
        exact ⟨.inr ⟨Nat.le_refl _, rfl⟩, rfl⟩
    exact ⟨phase.1, alike.stored, alike.bindings, phase.2⟩

theorem Parts.released {call : Session Unit} (parts : Parts id w call) : Released id w (call.outcome w).2 := by
  obtain ⟨u, done, released, closed⟩ := closeContext_released id w
  -- Under another name, a new connection is one of another database.
  have exchange {f : Context → Context} (generation : ∀ c, (f c).generation = c.generation)
      (connection : ∀ c, (f c).connection = c.connection) :
      Released id w ((do
        closeContext id
        modifyContext id f
        openContext id : Session Unit).outcome w).2 := by
    obtain ⟨changed, none⟩ := Released.settings closed generation connection
    rw [outcome_bind_ok done, outcome_bind_ok (outcome_modifyContext id f u)]
    exact (released.trans changed).trans (openContext_released none)
  cases parts with
  | close => rw [done]; exact released
  | reopen => exact exchange (fun _ => rfl) fun _ => rfl
  | openNamed name => exact exchange (fun _ => rfl) fun _ => rfl
  | @setUser user new =>
    have settings := (Released.settings closed (f := fun c => { c with userId := some user })
      (fun _ => rfl) fun _ => rfl).1
    rw [Session.setUser, outcome_bind_ok (outcome_context id w)]
    change Released id w ((if (w.context id).userId ≠ some user then _ else _ : Session Unit).outcome w).2
    rw [if_pos new, outcome_bind_ok done]
    exact released.trans settings

/-- A call parts with the connection, or it does nothing. -/
theorem Lifecycle.parts {call : Session Unit} (lifecycle : Lifecycle id call) (w : World) :
    Parts id w call ∨ call.outcome w = (.ok (), w) := by
  cases lifecycle with
  | close => exact .inl .close
  | reopen => exact .inl .reopen
  | openNamed name => exact .inl (.openNamed name)
  | setUser user =>
    by_cases new : (w.context id).userId ≠ some user
    · exact .inl (.setUser new)
    · refine .inr ?_
      rw [Session.setUser, outcome_bind_ok (outcome_context id w)]
      change (if (w.context id).userId ≠ some user then _ else _ : Session Unit).outcome w = _
      rw [if_neg new]
      rfl

end Session

end EntityStore
