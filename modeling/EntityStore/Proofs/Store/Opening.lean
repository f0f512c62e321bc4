import EntityStore.Proofs.Store.Statement

/-! # Contexts that open and close

A context that is opened finds the database that it has left, and one that is closed leaves it:

* `Session.yields_openContext` — a context on its first use, or when it is open already.
* `Session.yields_closeContext` — a context with a file.
-/

namespace EntityStore

open EntityStore.Engine (Database Handle)

variable {s : Scene} {w : World} {id : Nat} {h : Handle}

/-! ## Files -/

namespace Disk

def made (d : Disk) (path : List String) : Disk :=
  { d with directories :=
    d.directories ++ (outerPaths path).filter fun around => !d.directories.contains around }

variable {d : Disk} {path directory : List String}

theorem createDirectories_clear (outer : ∀ around ∈ outerPaths directory, d.file? around = none) :
    d.createDirectories directory = .ok (d.made directory) := by
  have own : d.file? directory = none := outer directory
    (List.mem_map.mpr ⟨directory.length, by simp, List.take_length⟩)
  have any : (outerPaths directory).any (fun around => (d.file? around).isSome) = false := by
    rw [List.any_eq_false]
    intro around member
    simp [outer around member]
  simp only [createDirectories, own, any]
  exact ite_self _

theorem mem_made (around : List String) :
    around ∈ (d.made directory).directories ↔ around ∈ d.directories ∨ around ∈ outerPaths directory := by
  rw [made, List.mem_append, List.mem_filter]
  by_cases old : around ∈ d.directories <;> simp [old]

theorem create_made (named : path ≠ []) (file : path ∉ (d.made directory).directories)
    (inside : path.dropLast = [] ∨ path.dropLast ∈ (d.made directory).directories) :
    (d.made directory).create path = match d.file? path with
      | some _ => some (d.made directory)
      | none => some ((d.made directory).write path (.database {})) := by
  have free : (d.made directory).isDirectory path = false := by
    simp [isDirectory, named, file]
  have parent : (d.made directory).isDirectory path.dropLast = true := by
    rcases inside with root | there
    · simp [isDirectory, root]
    · simp [isDirectory, there]
  rw [create, free, parent]
  rfl

end Disk

/-! ## Connections -/

namespace Session

theorem outcome_resolvePath_reachable {directory name : String}
    (storage : (w.context id).config.storage = .directory directory)
    (named : (w.context id).requireName = .ok name)
    (outer : ∀ around ∈ outerPaths (pathParts directory), w.disk.file? around = none) :
    (resolvePath id).outcome w =
      (.ok (joinPath directory (name ++ ".db")),
        { w with disk := w.disk.made (pathParts directory) }) := by
  rw [resolvePath, outcome_bind_ok (outcome_context id w)]
  rw [World.context] at storage named
  simp only [storage]
  rw [outcome_bind_ok (outcome_get w), Disk.createDirectories_clear outer]
  dsimp only
  rw [outcome_bind_ok (outcome_modify _ w), named]
  rfl

theorem outcome_connectFile_made {directory : List String} {path : String} {db : Database}
    (named : pathParts path ≠ []) (file : pathParts path ∉ (w.disk.made directory).directories)
    (inside : (pathParts path).dropLast = []
      ∨ (pathParts path).dropLast ∈ (w.disk.made directory).directories)
    (stored : w.stored (pathParts path) = some db) :
    ∃ disk, (connectFile path).outcome { w with disk := w.disk.made directory } =
        (.ok { backing := .file (pathParts path) }, { w with disk := disk })
      ∧ disk.file? (pathParts path) = some (.database db)
      ∧ (∀ other, other ≠ pathParts path → disk.file? other = w.disk.file? other)
      ∧ disk.directories = (w.disk.made directory).directories := by
  rw [connectFile, outcome_bind_ok (outcome_get _)]
  dsimp only
  rw [Disk.create_made named file inside]
  rw [World.stored] at stored
  -- No file stands for an empty database, and then an empty file is what is created.
  cases there : w.disk.file? (pathParts path) with
  | some content =>
    rw [there] at stored
    cases content with
    | foreign => cases stored
    | database image =>
      cases stored
      exact ⟨_, rfl, there, fun _ _ => rfl, rfl⟩
  | none =>
    rw [there] at stored
    cases stored
    refine ⟨_, rfl, ?_, fun other apart => ?_, rfl⟩
    · rw [Disk.file?_write, if_pos rfl]
    · rw [Disk.file?_write, if_neg apart]
      rfl

/-- A new connection to the database that a closed context has left. -/
theorem outcome_connect_shows (shows : w.Shows s) (here : s.handles id = some h)
    (closed : (w.context id).connection = none) :
    ∃ c disk, (connect id).outcome w = (.ok c, { w with disk := disk })
      ∧ c.file? = s.places id ∧ World.handle? { w with disk := disk } c = some h
      ∧ (∀ path, s.places id ≠ some path → disk.file? path = w.disk.file? path)
      ∧ (∀ path ∈ disk.directories, path ∈ w.disk.directories
        ∨ ∃ directory, (w.context id).config.storage = .directory directory
          ∧ path ∈ outerPaths (pathParts directory))
      ∧ ∀ path ∈ w.disk.directories, path ∈ disk.directories := by
  have site := shows.site here
  have standing := site.standing
  rw [World.standing, closed] at standing
  dsimp only at standing
  rw [connect, outcome_bind_ok (outcome_context id w), show w.contexts.getD id default = w.context id from rfl]
  cases storage : (w.context id).config.storage with
  | memory =>
    rw [storage] at standing
    have place := site.located
    rw [Context.place?, storage] at place
    exact ⟨_, w.disk, rfl, place, standing, fun _ _ => rfl, fun _ => .inl, fun _ listed => listed⟩
  | directory directory =>
    rw [storage] at standing
    obtain ⟨path, own, reachable⟩ := site.reachable directory storage
    have located := site.located
    rw [own, Context.place?, storage] at located
    cases named : (w.context id).requireName with
    | error failure => rw [named] at located; cases located
    | ok name =>
      rw [named, Option.some.injEq] at located
      subst located
      obtain ⟨db, stored, rfl⟩ : ∃ db, w.stored _ = some db ∧ ⟨db, none⟩ = h := by
        rw [site.located, own, Option.bind_some, Option.map_eq_some_iff] at standing
        exact standing
      -- The directory is made, and no directory is in the way of the file.
      have file : pathParts (joinPath directory (name ++ ".db"))
          ∉ (w.disk.made (pathParts directory)).directories := by
        rw [Disk.mem_made, not_or]
        exact ⟨reachable.file, shows.clear here here own storage⟩
      obtain ⟨disk, connected, there, others, directories⟩ := outcome_connectFile_made reachable.named file
        (by rw [Disk.mem_made]; exact reachable.inside) stored
      dsimp only
      rw [outcome_bind_ok (outcome_resolvePath_reachable storage named reachable.outer), connected]
      refine ⟨_, disk, rfl, own.symm, ?_, fun other apart => others other fun same => ?_,
        fun around listed => ?_, fun around listed => ?_⟩
      · simp only [World.handle?, there]
      · exact apart (by rw [own, same])
      · rw [directories, Disk.mem_made] at listed
        exact listed.imp_right fun outer => ⟨directory, rfl, outer⟩
      · rw [directories, Disk.mem_made]
        exact .inl listed

/-! ## Opening -/

/-- The statement that gives the engine a secret changes nothing. -/
theorem yields_configure {db : Database} (here : s.handles id = some ⟨db, none⟩)
    (opened : (s.lives id).2 = true) :
    Yields (World.Shows s) (configure id) () (World.Shows s) := by
  refine .context fun c => .imp (fun _ both => both.1) ?_ fun _ after => after
  cases c.config.secret with
  | none => exact .pure ()
  | some secret =>
    have given : Yields (World.Shows s) (executeBatch id (keyStatement secret)) ()
        (World.Shows (s.put id ⟨db, none⟩)) :=
      yields_executeBatch here opened (prepareText_key db secret false) rfl rfl rfl
    rw [Scene.put_same here] at given
    exact .tryCatch given

/-- A connection counts when it is set up. -/
theorem yields_generation (here : s.handles id = some h) :
    Yields (World.Shows s) (modifyContext id fun c => { c with generation := c.generation + 1 }) ()
      (World.Shows { s with
        lives := Function.update s.lives id ((s.lives id).1 + 1, (s.lives id).2) }) := by
  intro w shows
  let count (c : Context) : Context := { c with generation := c.generation + 1 }
  have site := shows.site here
  have standing : (w.changed id count).standing id = some h := by
    have before := site.standing
    rw [World.standing] at before ⊢
    rw [World.context_changed site.bound count]
    exact before
  have settings : ∀ c, (count c).settings = c.settings := fun _ => rfl
  have shown := shows.changed here settings standing site.file
  have handles : Function.update s.handles id (some h) = s.handles := by
    rw [← here, Function.update_eq_self]
  rw [handles] at shown
  have lives := shows.lives id
  exact ⟨_, rfl, lives ▸ shown⟩

/-- A database that no connection is open to has no transaction. -/
theorem alone_of_closed (shows : w.Shows s) (here : s.handles id = some h)
    (closed : (w.context id).connection = none) : ∃ db, h = ⟨db, none⟩ := by
  have standing := (shows.site here).standing
  rw [World.standing, closed] at standing
  dsimp only at standing
  cases storage : (w.context id).config.storage with
  | memory =>
    rw [storage] at standing
    exact ⟨_, (Option.some.inj standing).symm⟩
  | directory directory =>
    rw [storage] at standing
    obtain ⟨db, _, same⟩ := Option.map_eq_some_iff.mp standing
    exact ⟨db, same.symm⟩

/-- The world with a new connection of a context, which is not counted yet. -/
theorem shows_connecting (shows : w.Shows s) (here : s.handles id = some h)
    (closed : (w.context id).connection = none) :
    ∃ c disk, (connect id).outcome w = (.ok c, { w with disk := disk })
      ∧ (World.changed { w with disk := disk } id fun context =>
          { context with connection := some c }).Shows
        { s with lives := Function.update s.lives id ((s.lives id).1, true) } := by
  obtain ⟨c, disk, connected, file, found, files, grown, kept⟩ := outcome_connect_shows shows here closed
  refine ⟨c, disk, connected, ?_⟩
  let connect (context : Context) : Context := { context with connection := some c }
  change (World.changed { w with disk := disk } id connect).Shows _
  generalize made : World.changed { w with disk := disk } id connect = u
  have context : u.context id = connect (w.context id) :=
    made ▸ World.context_changed (w := { w with disk := disk }) (shows.site here).bound connect
  -- Nothing but the connection of this context and its own file has changed.
  have turned : World.Turn id (s.places id) w u := by
    subst made
    refine ⟨rfl, rfl, List.length_modify .., fun j apart => ?_, by rw [context]; rfl, files, grown, kept⟩
    simp [World.context, World.changed, List.getD_eq_getElem?_getD, Ne.symm apart]
  have standing : u.standing id = some h := by
    rw [World.standing, context]
    subst made
    exact found
  have life : ((u.context id).generation, (u.context id).connection.isSome) = ((s.lives id).1, true) := by
    rw [context, ← shows.lives id]
    rfl
  have registries : u.registries = w.registries := by rw [← made]; rfl
  have groups : u.groups = w.groups := by rw [← made]; rfl
  have shown := shows.turn here turned standing (fun d open_ => by
    rw [context] at open_
    cases open_
    exact file) (registries ▸ shows.registries) groups life
  have handles : Function.update s.handles id (some h) = s.handles := by
    rw [← here, Function.update_eq_self]
  rwa [handles] at shown

theorem yields_openContext (here : s.handles id = some h) :
    Yields (World.Shows s) (openContext id) () (World.Shows (s.opened id)) := by
  intro w shows
  have lives := shows.lives id
  rw [openContext, outcome_bind_ok (outcome_context id w)]
  change ∃ v, ((if (w.context id).connection.isNone then _ else _ : Session Unit)).outcome w = _ ∧ _
  cases closed : (w.context id).connection with
  | some c =>
    have opened : (s.lives id).2 = true := by rw [← lives, closed]; rfl
    have same : s.opened id = s := by rw [Scene.opened, if_pos opened, Function.update_eq_self]
    rw [same]
    exact ⟨w, rfl, shows⟩
  | none =>
    obtain ⟨db, rfl⟩ := alone_of_closed shows here closed
    obtain ⟨c, disk, connected, opening⟩ := shows_connecting shows here closed
    let connecting : Scene := { s with lives := Function.update s.lives id ((s.lives id).1, true) }
    have opened : (connecting.lives id).2 = true := by simp [connecting]
    -- The generation goes up once the connection is configured.
    have counted : { connecting with
        lives := Function.update connecting.lives id
          ((connecting.lives id).1 + 1, (connecting.lives id).2) } = s.opened id := by
      have unopened : (s.lives id).2 = false := by rw [← lives, closed]; rfl
      simp [connecting, Scene.opened, unopened]
    have rest : Yields (World.Shows connecting) (do
        configure id
        modifyContext id fun c => { c with generation := c.generation + 1 }
        let c ← Session.context id
        let opened := Event.remark .debug "context opened" [("generation", toString c.generation)]
        report { opened with tag := some c.tag }) () (World.Shows (s.opened id)) := by
      refine .bind (yields_configure here opened) (.bind (yields_generation here) ?_)
      rw [counted]
      exact .context fun c => .imp (fun _ both => both.1) (yields_report _) fun _ after => after
    obtain ⟨v, done, shown⟩ := rest _ opening
    refine ⟨v, ?_, shown⟩
    rw [Option.isNone_none, if_pos rfl, outcome_bind_ok connected,
      outcome_bind_ok (outcome_modifyContext ..)]
    exact done

/-! ## Closing -/

/-- What a context finds in its file when its connection has gone is what the connection has shown. -/
theorem standing_disconnected {db : Database} {path : List String} {c : Connection} (shows : w.Shows s)
    (here : s.handles id = some ⟨db, none⟩) (kept : s.places id = some path)
    (opened : (w.context id).connection = some c) :
    (w.changed id fun context => { context with connection := none }).standing id = some ⟨db, none⟩ := by
  have site := shows.site here
  obtain ⟨directory, storage⟩ : ∃ directory, (w.context id).config.storage = .directory directory := by
    have located := site.located
    rw [kept, Context.place?] at located
    cases storage : (w.context id).config.storage with
    | memory => rw [storage] at located; cases located
    | directory directory => exact ⟨directory, rfl⟩
  have file := site.file c opened
  have found := site.standing
  rw [World.standing, opened] at found
  have backing : c.backing = .file path := by
    cases kind : c.backing <;> simp_all [Connection.file?]
  have stored : w.stored path = some db := World.handle?_image found backing
  let close (context : Context) : Context := { context with connection := none }
  have storage : (close (w.context id)).config.storage = .directory directory := storage
  have place : (close (w.context id)).place? = some path := site.located.trans kept
  -- The context would open the file again that its connection has been on.
  rw [World.standing, World.context_changed site.bound close]
  simp only [storage, place]
  change ((some path).bind w.stored).map _ = _
  rw [Option.bind_some, stored]
  rfl

/-- A context with a file leaves its database there. -/
theorem yields_closeContext {db : Database} {path : List String}
    (here : s.handles id = some ⟨db, none⟩) (kept : s.places id = some path) :
    Yields (World.Shows s) (closeContext id) () (World.Shows (s.closed id)) := by
  intro w shows
  have lives := shows.lives id
  rw [closeContext, outcome_bind_ok (outcome_context id w)]
  change ∃ v, ((if (w.context id).connection.isSome then _ else _ : Session Unit)).outcome w = _ ∧ _
  cases opened : (w.context id).connection with
  | none =>
    have closed : (s.lives id).2 = false := by rw [← lives, opened]; rfl
    have same : s.closed id = s := by
      rw [Scene.closed, ← closed]
      simp
    rw [same]
    exact ⟨w, rfl, shows⟩
  | some c =>
    let close (context : Context) : Context := { context with connection := none }
    -- No transaction is open, so nothing is lost with the connection.
    have standing := standing_disconnected shows here kept opened
    have settings : ∀ context, (close context).settings = context.settings := fun _ => rfl
    have shown := shows.changed here settings standing fun _ connected => by cases connected
    have handles : Function.update s.handles id (some ⟨db, none⟩) = s.handles := by
      rw [← here, Function.update_eq_self]
    rw [handles] at shown
    have life : ((close (w.context id)).generation, (close (w.context id)).connection.isSome) =
        ((s.lives id).1, false) := by rw [← lives]; rfl
    rw [life] at shown
    rw [Option.isSome_some, if_pos rfl, outcome_bind_ok (outcome_modifyContext ..)]
    exact yields_report _ _ shown

end Session

end EntityStore
