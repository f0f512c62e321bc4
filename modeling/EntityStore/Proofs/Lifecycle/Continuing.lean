import EntityStore.Proofs.Lifecycle.Parting
import EntityStore.Proofs.Mapper.Enduring

/-! # The connection of a context from call to call

* `World.Settled` — an open context is on the file that its settings stand for.
* `World.Onward` — a connection stays, or it is closed, or there is a new one on the file of the
  settings; `World.Continues` — and the settings are the same.
* `World.Continues.of_works`, `World.Continues.governs` — the steps of mappers and the calls of contexts
  lead on in this way.
* `World.Opening`, `World.Deleting` — what a call comes to that opens a context, or deletes its file.
-/

namespace EntityStore

open World (Alike Step)
open Session (Keeps)

variable {id j : Nat} {u v w : World}

/-! ## Directories -/

theorem Disk.create_directories {d e : Disk} {path : List String} (created : d.create path = some e) :
    e.directories = d.directories := by
  simp only [create] at created
  split at created
  · cases created
  · split at created <;> cases created <;> rfl

def Session.enter (id : Nat) (c : Connection) : Session Unit := do
  modifyContext id fun context => { context with connection := some c }
  configure id
  modifyContext id fun context => { context with generation := context.generation + 1 }
  let context ← context id
  let opened := Event.remark .debug "context opened" [("generation", toString context.generation)]
  report { opened with tag := some context.tag }

theorem Session.openContext_eq (id : Nat) : openContext id = (do
    if (← context id).connection.isNone then enter id (← connect id)) := rfl

def World.HasDirectory (path : List String) (w : World) : Prop := w.disk.isDirectory path = true

namespace World.HasDirectory

variable {path : List String}

theorem congr (has : HasDirectory path w) (same : v.disk.directories = w.disk.directories) :
    HasDirectory path v := by
  rw [HasDirectory, Disk.isDirectory, same]
  exact has

theorem directories_putHandle (w : World) (id : Nat) (c : Connection) (h : Engine.Handle) :
    (w.putHandle id c h).disk.directories = w.disk.directories := by
  rw [putHandle]
  cases c.backing <;> rfl

theorem withstands : Session.Withstands (fun _ _ => True) (HasDirectory path) id where
  same _ := trivial
  aside has disk _ _ := has.congr (congrArg Disk.directories disk)
  step _ _ _ has := has.congr (directories_putHandle ..)

theorem resolvePath (id : Nat) : Keeps (HasDirectory path) (Session.resolvePath id) := by
  intro w has
  cases storage : (w.context id).config.storage with
  | memory =>
    rw [Session.outcome_resolvePath_memory storage]
    exact has
  | directory directory =>
    rw [Session.outcome_resolvePath_eq storage]
    cases made : w.disk.createDirectories (pathParts directory) with
    | error _ => exact has
    | ok disk => exact (Disk.createDirectories_ok made).directories path has

theorem connectFile (text : String) : Keeps (HasDirectory path) (Session.connectFile text) := by
  intro w has
  rw [Session.connectFile, Session.outcome_bind_ok (Session.outcome_get w)]
  cases created : w.disk.create (pathParts text) with
  | none => exact has
  | some disk => exact congr (w := w) has (Disk.create_directories created)

theorem connect : Keeps (HasDirectory path) (Session.connect id) := by
  refine .bind (fun _ has => has) fun c => ?_
  split
  · exact .pure _
  · exact .bind (resolvePath id) connectFile

theorem enter (id : Nat) (c : Connection) : Keeps (HasDirectory path) (Session.enter id c) := by
  have changes (f : Context → Context) : Keeps (HasDirectory path) (Session.modifyContext id f) :=
    fun _ has => has
  have configures : Keeps (HasDirectory path) (Session.configure id) := by
    refine .bind (fun _ has => has) fun c => ?_
    split
    · exact .pure _
    · exact .tryCatch (withstands.executeKey (fun _ _ _ => trivial) _) fun _ =>
        .bind (changes _) fun _ => .throw _
  exact .bind (changes _) fun _ => .bind configures fun _ => .bind (changes _) fun _ =>
    .bind (fun _ has => has) fun _ => .change fun _ has => has

theorem openContext (id : Nat) : Keeps (HasDirectory path) (Session.openContext id) := by
  rw [Session.openContext_eq]
  refine .bind (fun _ has => has) fun c => ?_
  split
  · exact .bind connect (enter id)
  · exact .pure _

theorem of_connect {directory : String} {c : Connection}
    (storage : (w.context id).config.storage = .directory directory)
    (done : (Session.connect id).outcome w = (.ok c, v)) : HasDirectory (pathParts directory) v := by
  rw [Session.connect, Session.outcome_bind_ok (Session.outcome_context id w)] at done
  have same := storage
  rw [World.context] at same
  simp only [same] at done
  obtain ⟨text, u, resolved, done⟩ := Session.outcome_bind_inv done
  rw [Session.outcome_resolvePath_eq storage] at resolved
  cases made : w.disk.createDirectories (pathParts directory) with
  | error _ => rw [made] at resolved; cases resolved
  | ok disk =>
    rw [made] at resolved
    obtain ⟨_, rfl⟩ := Prod.mk.inj resolved
    have kept := connectFile text { w with disk := disk } (Disk.createDirectories_ok made).there
    rwa [done] at kept

theorem of_openContext {directory : String} (closed : (w.context id).connection = none)
    (storage : (w.context id).config.storage = .directory directory)
    (done : (Session.openContext id).outcome w = (.ok (), v)) : HasDirectory (pathParts directory) v := by
  rw [Session.openContext_eq, Session.outcome_bind_ok (Session.outcome_context id w)] at done
  change (if (w.context id).connection.isNone then _ else _ : Session Unit).outcome w = _ at done
  simp only [closed, Option.isNone_none, ↓reduceIte] at done
  obtain ⟨c, u, connected, done⟩ := Session.outcome_bind_inv done
  have kept := enter id c u (of_connect storage connected)
  rwa [done] at kept

end World.HasDirectory

/-! ## How a connection goes on -/

namespace World

/-- An open context is on the file that its settings stand for, and the directory of that is there. -/
structure Settled (id : Nat) (w : World) : Prop where
  place : ∀ file, w.fileOf id = some file → file = (w.context id).place?
  directory : ∀ path, (w.context id).config.storage = .directory path → (w.fileOf id).isSome = true →
    (w.context id).place?.isSome = true ∧ w.HasDirectory (pathParts path)

theorem Settled.of_closed (closed : w.fileOf id = none) : w.Settled id where
  place _ own := by
    rw [closed] at own
    cases own
  directory _ _ opened := by
    rw [closed] at opened
    cases opened

inductive Goes (id : Nat) (w v : World) : Prop
  | stays (settings : (v.context id).settings = (w.context id).settings)
      (generation : (v.context id).generation = (w.context id).generation)
      (file : v.fileOf id = w.fileOf id)
  | closes (generation : (w.context id).generation ≤ (v.context id).generation)
      (closed : v.fileOf id = none)
  | opens (generation : (w.context id).generation < (v.context id).generation)
      (settled : v.Settled id)

/-- A world that another may lead to.  No context and no directory is lost. -/
structure Onward (id : Nat) (w v : World) : Prop where
  length : v.contexts.length = w.contexts.length
  directories : ∀ path, w.HasDirectory path → v.HasDirectory path
  goes : Goes id w v

namespace Onward

theorem refl (id : Nat) (w : World) : Onward id w w := ⟨rfl, fun _ has => has, .stays rfl rfl rfl⟩

/-- A context with the same connection and the same settings is as settled as it was. -/
theorem settled_congr (settled : w.Settled id)
    (settings : (v.context id).settings = (w.context id).settings) (file : v.fileOf id = w.fileOf id)
    (directories : ∀ path, w.HasDirectory path → v.HasDirectory path) : v.Settled id where
  place found own := by
    rw [Context.place?_congr settings]
    exact settled.place found (file ▸ own)
  directory path storage opened := by
    have config : (v.context id).config = (w.context id).config := congrArg Prod.fst settings
    rw [Context.place?_congr settings]
    exact (settled.directory path (config ▸ storage) (file ▸ opened)).imp_right (directories _)

theorem settled (onward : Onward id w v) (settled : w.Settled id) : v.Settled id := by
  cases onward.goes with
  | stays settings _ file => exact settled_congr settled settings file onward.directories
  | closes _ closed => exact .of_closed closed
  | opens _ settled => exact settled

theorem generation_le (onward : Onward id w v) :
    (w.context id).generation ≤ (v.context id).generation := by
  cases onward.goes with
  | stays _ same _ => exact same.ge
  | closes least _ => exact least
  | opens less _ => exact less.le

theorem trans (first : Onward id u v) (second : Onward id v w) : Onward id u w where
  length := second.length.trans first.length
  directories path has := second.directories path (first.directories path has)
  goes := by
    cases first.goes with
    | stays settings generation file =>
      cases second.goes with
      | stays settings' generation' file' =>
        exact .stays (settings'.trans settings) (generation'.trans generation) (file'.trans file)
      | closes later closed => exact .closes (generation ▸ later) closed
      | opens later settled => exact .opens (generation ▸ later) settled
    | closes generation closed =>
      cases second.goes with
      | stays _ same file => exact .closes (same ▸ generation) (file.trans closed)
      | closes later closed => exact .closes (generation.trans later) closed
      | opens later settled => exact .opens (generation.trans_lt later) settled
    | opens generation settled =>
      -- A new connection that stays is still on the file of the settings.
      cases second.goes with
      | stays settings same file =>
        exact .opens (same ▸ generation) (settled_congr settled settings file second.directories)
      | closes later closed => exact .closes (generation.le.trans later) closed
      | opens later settled => exact .opens (generation.trans later) settled

end Onward

/-- A world that another may lead to, with the same settings. -/
structure Continues (id : Nat) (w v : World) : Prop extends Onward id w v where
  settings : (v.context id).settings = (w.context id).settings

namespace Continues

theorem refl (id : Nat) (w : World) : Continues id w w := ⟨.refl id w, rfl⟩

theorem trans (first : Continues id u v) (second : Continues id v w) : Continues id u w :=
  ⟨first.toOnward.trans second.toOnward, second.settings.trans first.settings⟩

theorem stays (length : v.contexts.length = w.contexts.length)
    (directories : ∀ path, w.HasDirectory path → v.HasDirectory path)
    (settings : (v.context id).settings = (w.context id).settings)
    (generation : (v.context id).generation = (w.context id).generation)
    (file : v.fileOf id = w.fileOf id) : Continues id w v :=
  ⟨⟨length, directories, .stays settings generation file⟩, settings⟩

theorem aside (length : v.contexts.length = w.contexts.length)
    (directories : ∀ path, w.HasDirectory path → v.HasDirectory path)
    (same : v.context id = w.context id) : Continues id w v :=
  .stays length directories (by rw [same]) (by rw [same]) (by rw [fileOf, same, fileOf])

theorem of_step (length : v.contexts.length = w.contexts.length)
    (directories : v.disk.directories = w.disk.directories) (step : Step j w v)
    (others : ∀ other, other ≠ j → v.context other = w.context other) : Continues id w v := by
  have kept (path : List String) (has : w.HasDirectory path) : v.HasDirectory path :=
    has.congr directories
  by_cases same : id = j
  · subst same
    exact .stays length kept step.settings step.generation step.file
  · exact .aside length kept (others id same)

theorem changed (w : World) (j : Nat) {f : Context → Context}
    (own : id = j → Continues id w (w.changed j f)) : Continues id w (w.changed j f) := by
  by_cases same : id = j
  · exact own same
  · exact .aside (List.length_modify ..) (fun _ has => has) (context_changed_of_ne same w f)

/-! ### Steps and calls -/

variable {base : World}

theorem openContext (id j : Nat) (w : World) :
    Continues id w ((Session.openContext j).outcome w).2 := by
  have directories (path : List String) (has : w.HasDirectory path) := HasDirectory.openContext j w has
  cases closed : (w.context j).connection with
  | some c =>
    rw [Session.openContext_open closed]
    exact .refl id w
  | none =>
    rcases Session.openContext_cases closed with
      ⟨failure, v, failed, alike⟩ | ⟨c, v, opened, opens, alike⟩
    · rw [failed] at directories ⊢
      exact .aside (congrArg List.length alike.contexts) directories (alike.context id)
    · rw [opened] at directories ⊢
      have length : v.contexts.length = w.contexts.length := by
        rw [alike.contexts]
        exact List.length_modify ..
      by_cases same : id = j
      · subst same
        -- A context that is not there is not opened, although that does not fail.
        rcases w.context_changed_cases id fun context =>
          { context with connection := some c, generation := context.generation + 1 }
          with changed | ⟨same, _⟩
        · have now := (alike.context id).trans changed
          have settings : (v.context id).settings = (w.context id).settings := by rw [now]; rfl
          have counted : (w.context id).generation < (v.context id).generation := by
            rw [now]
            exact Nat.lt_succ_self _
          refine ⟨⟨length, directories, .opens counted ⟨fun file own => ?_, fun path storage _ => ?_⟩⟩,
            settings⟩
          · rw [fileOf, now] at own
            cases own
            rw [Context.place?_congr settings]
            exact opens.place
          · have config : (v.context id).config = (w.context id).config := congrArg Prod.fst settings
            rw [Context.place?_congr settings]
            rw [config] at storage
            exact ⟨opens.place_isSome storage, .of_openContext closed storage opened⟩
        · exact .aside length directories ((alike.context id).trans same)
      · exact .aside length directories ((alike.context id).trans (context_changed_of_ne same w _))

theorem forceClose (id j : Nat) (w : World) : Continues id w ((Session.forceClose j).outcome w).2 := by
  refine .changed w j fun same => ?_
  subst same
  rcases w.context_changed_cases id fun c => { c with connection := none } with changed | ⟨same, _⟩
  · refine ⟨⟨List.length_modify .., fun _ has => has, .closes (by rw [changed]) ?_⟩, by rw [changed]; rfl⟩
    rw [fileOf, changed]
    rfl
  · exact .aside (List.length_modify ..) (fun _ has => has) same

/-- In every step of mappers connections stay, or contexts are opened. -/
theorem of_works (id : Nat) (works : w.Works v) : Continues id w v := by
  cases works with
  | engine next opened _ =>
    exact .of_step (List.length_modify ..) (HasDirectory.directories_putHandle ..)
      (.putHandle opened next) fun _ different => context_changed_of_ne different w _
  | aside disk contexts _ =>
    exact .aside (congrArg List.length contexts)
      (fun _ has => has.congr (congrArg Disk.directories disk)) (by rw [context, contexts, context])
  | keeps j f =>
    exact .of_step (List.length_modify ..) rfl (Session.step_modifyKept j f w).1
      fun _ different => context_changed_of_ne different w _
  | opens j => exact openContext id j w
  | remembers m f => exact .aside rfl (fun _ has => has) rfl

theorem endures (id : Nat) (base : World) : Session.Endures (Continues id base) :=
  .of_works fun works continues => continues.trans (of_works id works)

theorem governs (id j : Nat) (base : World) : Session.Governs (Continues id base) j where
  reports := ((endures id base).withstands j).report
  opens := (endures id base).opens j
  closes w continues := continues.trans (forceClose id j w)
  controls _ := ((endures id base).withstands j).control fun _ _ _ => trivial

theorem resolvePath (j : Nat) : Keeps (Continues id base) (Session.resolvePath j) := by
  intro w continues
  refine continues.trans ?_
  have directories (path : List String) (has : w.HasDirectory path) := HasDirectory.resolvePath j w has
  cases storage : (w.context j).config.storage with
  | memory =>
    rw [Session.outcome_resolvePath_memory storage]
    exact .refl id w
  | directory directory =>
    obtain ⟨result, disk, resolved, _⟩ := Session.outcome_resolvePath storage
    rw [resolved] at directories ⊢
    exact .aside rfl directories rfl

theorem databaseExists (j : Nat) : Keeps (Continues id base) (Session.databaseExists j) := by
  refine .bind (fun _ continues => continues) fun c => ?_
  split
  · exact .bind (fun _ continues => continues) fun _ => .pure _
  · refine .bind (resolvePath j).attempt fun result => ?_
    cases result with
    | ok path => exact .bind .get fun _ => .pure _
    | error _ => exact .pure _

end Continues

/-! ## Opening -/

/-- What an attempt to open a new connection comes to.  The generation counts the connections. -/
inductive Opening (id : Nat) (w v : World) : Except Failure Unit → Prop
  | opened (opened : (v.context id).connection.isSome = true)
      (generation : (v.context id).generation = (w.context id).generation + 1) : Opening id w v (.ok ())
  | refused (failure : Failure) (closed : (v.context id).connection = none)
      (generation : (v.context id).generation = (w.context id).generation) :
      Opening id w v (.error failure)

theorem Opening.of_closed (listed : id < w.contexts.length) (closed : (w.context id).connection = none) :
    Opening id w ((Session.openContext id).outcome w).2 ((Session.openContext id).outcome w).1 := by
  rcases Session.openContext_cases closed with
    ⟨failure, v, failed, alike⟩ | ⟨c, v, opened, _, alike⟩
  · rw [failed]
    exact .refused failure (by rw [alike.context, closed]) (by rw [alike.context])
  · rw [opened]
    have now := (alike.context id).trans (context_changed listed _)
    exact .opened (by rw [now]; rfl) (by rw [now])

theorem parting (listed : id < w.contexts.length) {f : Context → Context}
    (connection : ∀ c, (f c).connection = c.connection)
    (generation : ∀ c, (f c).generation = c.generation) :
    ∃ v, (do Session.closeContext id; Session.modifyContext id f : Session Unit).outcome w = (.ok (), v)
      ∧ Onward id w v ∧ v.context id = f { w.context id with connection := none } := by
  obtain ⟨u, done, contexts, disk⟩ := Session.outcome_closeContext id w
  have there : id < u.contexts.length := by
    rw [contexts, changed, List.length_modify]
    exact listed
  have closed : u.context id = { w.context id with connection := none } := by
    rw [World.context, contexts]
    exact context_changed listed _
  have now : (u.changed id f).context id = f { w.context id with connection := none } := by
    rw [context_changed there, closed]
  refine ⟨_, (Session.outcome_bind_ok done _).trans (Session.outcome_modifyContext id f u),
    ⟨?_, fun _ has => has.congr (congrArg Disk.directories disk), .closes ?_ ?_⟩, now⟩
  · rw [List.length_modify, contexts, changed, List.length_modify]
  · exact Nat.le_of_eq ((congrArg Context.generation now).trans (generation _)).symm
  · exact congrArg (·.map Connection.file?) ((congrArg Context.connection now).trans (connection _))

/-- A context is closed and opened again, under another name or its own. -/
theorem exchange (listed : id < w.contexts.length) (name : Option String) :
    ∃ result v, (do
      Session.closeContext id
      Session.modifyContext id fun c => { c with nameOverride := name }
      Session.openContext id : Session Unit).outcome w = (result, v)
    ∧ Onward id w v
    ∧ (v.context id).settings = ((w.context id).config, name, (w.context id).userId)
    ∧ Opening id w v result := by
  obtain ⟨u, parted, onward, now⟩ := parting (f := fun c => { c with nameOverride := name }) listed
    (fun _ => rfl) fun _ => rfl
  have closed : (u.context id).connection = none := by rw [now]
  have after := Continues.openContext id id u
  -- The old connection is gone when the new one is opened, so this is an opening like any other.
  have opening := Opening.of_closed (onward.length ▸ listed) closed
  rcases ran : (Session.openContext id).outcome u with ⟨result, v⟩
  rw [ran] at after opening
  refine ⟨result, v, ?_, onward.trans after.toOnward, after.settings.trans (by rw [now]; rfl), ?_⟩
  · refine Eq.trans ?_ ((Session.outcome_bind_ok parted fun _ => Session.openContext id).trans ran)
    rw [bind_assoc]
  · -- To close a context does not count.
    have same : (u.context id).generation = (w.context id).generation := by rw [now]
    cases opening with
    | opened opened generation => exact .opened opened (same ▸ generation)
    | refused failure closed generation => exact .refused failure closed (generation.trans same)

theorem outcome_setUser (listed : id < w.contexts.length) (user : String) :
    ∃ v, (Session.setUser id user).outcome w = (.ok (), v) ∧ Onward id w v
      ∧ (v.context id).settings = ((w.context id).config, (w.context id).nameOverride, some user) := by
  rw [Session.setUser, Session.outcome_bind_ok (Session.outcome_context id w)]
  change ∃ v, (if (w.context id).userId ≠ some user then _ else _ : Session Unit).outcome w = _ ∧ _
  split
  · obtain ⟨v, parted, onward, now⟩ := parting (f := fun c => { c with userId := some user }) listed
      (fun _ => rfl) fun _ => rfl
    exact ⟨v, parted, onward, by rw [now]; rfl⟩
  · next same => exact ⟨w, rfl, .refl id w, by rw [← not_not.mp same]; rfl⟩

end World

/-! ## Deleting files -/

def Session.removeAt (c : Context) (path : String) : Session Bool := do
  if !(← pathExists path) then return false
  if (← get).disk.isDirectory (pathParts path) then
    throw (fileFailure "delete_file" "Is a directory (os error 21)")
  modify fun w => { w with disk := w.disk.remove (pathParts path) }
  report { Event.remark .info "database deleted" [("path", path)] with tag := some c.tag }
  return true

theorem Session.deleteFile_eq (id : Nat) : deleteFile id = (do
    closeContext id
    let c ← context id
    if c.config.storage = .memory then return false
    removeAt c (← resolvePath id)) := rfl

namespace World

/-- What it comes to when the file of a path is deleted. -/
inductive Removing (path : List String) (w v : World) : Except Failure Bool → Prop
  | removed (there : (w.disk.file? path).isSome = true)
      (gone : ∀ other, v.disk.file? other = if other = path then none else w.disk.file? other) :
      Removing path w v (.ok true)
  | absent (nothing : w.disk.file? path = none) (files : v.disk.files = w.disk.files) :
      Removing path w v (.ok false)
  | hindered {failure : Failure} (directory : v.HasDirectory path) (files : v.disk.files = w.disk.files) :
      Removing path w v (.error failure)

theorem removeAt_cases (id : Nat) (c : Context) (text : String) (w : World) :
    ∃ result v, (Session.removeAt c text).outcome w = (result, v) ∧ Continues id w v
      ∧ v.contexts = w.contexts ∧ Removing (pathParts text) w v result := by
  have asked : (Session.pathExists text).outcome w =
      (.ok ((w.disk.file? (pathParts text)).isSome || w.disk.isDirectory (pathParts text)), w) := rfl
  rw [Session.removeAt, Session.outcome_bind_ok asked]
  cases there : (w.disk.file? (pathParts text)).isSome || w.disk.isDirectory (pathParts text) with
  | false =>
    have nothing := (Bool.or_eq_false_iff.mp there).1
    exact ⟨_, w, rfl, .refl id w, rfl,
      .absent (Option.not_isSome_iff_eq_none.mp (by simp [nothing])) rfl⟩
  | true =>
    -- There is something, but it may be a directory.
    change ∃ result v, Session.outcome (do
      if w.disk.isDirectory (pathParts text) then throw _
      _) _ = (result, v) ∧ _
    cases folder : w.disk.isDirectory (pathParts text) with
    | true => exact ⟨_, w, rfl, .refl id w, rfl, .hindered folder rfl⟩
    | false =>
      rw [folder, Bool.or_false] at there
      exact ⟨_, _, rfl, .aside rfl (fun _ has => has) rfl, rfl,
        .removed there fun _ => Disk.file?_remove ..⟩

/-- What it comes to when the file of a context is deleted. -/
inductive Deleting (id : Nat) (w v : World) : Except Failure Bool → Prop
  | deleted {path : List String} (place : (w.context id).place? = some path)
      (there : (w.disk.file? path).isSome = true)
      (gone : ∀ other, v.disk.file? other = if other = path then none else w.disk.file? other) :
      Deleting id w v (.ok true)
  | absent (nothing : ∀ path, (w.context id).place? = some path → w.disk.file? path = none)
      (files : v.disk.files = w.disk.files) : Deleting id w v (.ok false)
  /-- The directory cannot be made, or the path is one of a directory. -/
  | hindered {failure : Failure} (directories : ∀ directory path,
      (w.context id).config.storage = .directory directory → (w.context id).place? = some path →
        w.HasDirectory (pathParts directory) → v.HasDirectory path)
      (files : v.disk.files = w.disk.files) : Deleting id w v (.error failure)

theorem Removing.deleting {path : List String} {result : Except Failure Bool}
    (removing : Removing path u v result) (files : u.disk.files = w.disk.files)
    (place : (w.context id).place? = some path) : Deleting id w v result := by
  have same (other : List String) : u.disk.file? other = w.disk.file? other := by
    rw [Disk.file?, files, Disk.file?]
  cases removing with
  | removed there gone => exact .deleted place (same path ▸ there) fun other => same other ▸ gone other
  | absent nothing kept =>
    refine .absent (fun other found => ?_) (kept.trans files)
    rw [place] at found
    cases found
    exact same path ▸ nothing
  | hindered directory kept =>
    refine .hindered (fun _ other _ found _ => ?_) (kept.trans files)
    rw [place] at found
    cases found
    exact directory

theorem deleteFile_cases (id : Nat) (w : World) :
    ∃ result v, (Session.deleteFile id).outcome w = (result, v) ∧ Continues id w v
      ∧ (v.context id).connection = none ∧ Deleting id w v result := by
  obtain ⟨u, done, contexts, disk⟩ := Session.outcome_closeContext id w
  obtain ⟨_, parted, _, closed⟩ := Session.closeContext_released id w
  have continues := (Continues.governs id id w).closeContext w (.refl id w)
  rw [done] at parted continues
  cases parted
  have place := Context.place?_congr continues.settings
  have config : (u.context id).config = (w.context id).config := congrArg Prod.fst continues.settings
  rw [Session.deleteFile_eq, Session.outcome_bind_ok done,
    Session.outcome_bind_ok (Session.outcome_context id u)]
  change ∃ result v,
    (if (u.context id).config.storage = .memory then _ else _ : Session Bool).outcome u = _ ∧ _
  cases storage : (u.context id).config.storage with
  | memory =>
    refine ⟨_, u, rfl, continues, closed, .absent (fun path found => ?_) (congrArg Disk.files disk)⟩
    rw [← place, Context.place?, storage] at found
    cases found
  | directory directory =>
    simp only [reduceCtorEq, ↓reduceIte]
    have resolved := Session.outcome_resolvePath_eq storage
    cases made : u.disk.createDirectories (pathParts directory) with
    | error reason =>
      rw [made] at resolved
      refine ⟨_, u, Session.outcome_bind_error resolved _, continues, closed,
        .hindered (fun _ _ same _ has => ?_) (congrArg Disk.files disk)⟩
      -- A directory that is there could have been made.
      rw [← config, storage] at same
      cases same
      obtain ⟨_, fine⟩ := Disk.createDirectories_of_isDirectory has
      rw [← disk, made] at fine
      cases fine
    | ok there =>
      rw [made] at resolved
      have made := Disk.createDirectories_ok made
      have files : there.files = w.disk.files := made.files.trans (congrArg Disk.files disk)
      have on : Continues id w { u with disk := there } := continues.trans (.aside rfl made.directories rfl)
      cases named : (u.context id).requireName with
      | error failure =>
        rw [named] at resolved
        refine ⟨_, _, Session.outcome_bind_error resolved _, on, closed,
          .hindered (fun _ _ _ found _ => ?_) files⟩
        rw [← place, Context.place?, storage, named] at found
        cases found
      | ok name =>
        rw [named] at resolved
        obtain ⟨result, v, removed, after, same, removing⟩ := removeAt_cases id (u.context id)
          (joinPath directory (name ++ ".db")) { u with disk := there }
        refine ⟨result, v, (Session.outcome_bind_ok resolved _).trans removed, on.trans after, ?_,
          removing.deleting files (by rw [← place, Context.place?, storage, named])⟩
        rw [context, same]
        exact closed

end World

end EntityStore
