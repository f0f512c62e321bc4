import EntityStore.Engine.Transaction

/-! # Disks

Directories and the files in them:

* `pathParts`, `joinPath` — paths as texts and as lists of names.
* `Disk`, `Content` — what is on a disk.
* `Disk.createDirectories`, `Disk.create`, `Disk.remove` — what changes it.
-/

namespace EntityStore

open EntityStore.Engine (Database)

/-! ## Paths -/

/-- Names without those that lead nowhere, and without those that lead back. -/
def normalize (names : List String) : List String :=
  (names.foldl (fun path name =>
    if name.isEmpty || name = "." then path
    else if name = ".." then path.tail
    else name :: path) []).reverse

def pathParts (path : String) : List String := normalize (Text.splitAt '/' path)

/-- Whether the engine reads a path as a URI, which may lead to another file than the path. -/
def isUri (path : String) : Bool := "file:".toList.isPrefixOf path.toList

def outerPaths (path : List String) : List (List String) :=
  (List.range (path.length + 1)).map path.take

/-- The path of a file in a directory; a file with a path from the root keeps it. -/
def joinPath (directory file : String) : String :=
  if "/".toList.isPrefixOf file.toList || directory.isEmpty then file
  else if directory.toList.getLast? = some '/' then directory ++ file
  else directory ++ "/" ++ file

/-! ## Contents -/

/-- What a file holds. -/
inductive Content where
  | database (image : Database)
  /-- Something that is no database. -/
  | foreign

/-- The directories and files of a disk, by the names along their paths. -/
structure Disk where
  directories : List (List String) := []
  files : List (List String × Content) := []

namespace Disk

def file? (d : Disk) (path : List String) : Option Content := d.files.lookup path

def isDirectory (d : Disk) (path : List String) : Bool :=
  path.isEmpty || d.directories.contains path

def write (d : Disk) (path : List String) (content : Content) : Disk :=
  { d with files := (path, content) :: d.files.filter fun f => f.1 ≠ path }

def remove (d : Disk) (path : List String) : Disk :=
  { d with files := d.files.filter fun f => f.1 ≠ path }

/-- The disk with a directory and all those around it, or why there can be none.  A directory that is
    there already will do. -/
def createDirectories (d : Disk) (path : List String) : Except String Disk :=
  let made := { d with directories := d.directories ++
    (outerPaths path).filter fun outer => !d.directories.contains outer }
  if d.isDirectory path then .ok made
  else if (d.file? path).isSome then .error "File exists (os error 17)"
  else if (outerPaths path).any fun outer => (d.file? outer).isSome then
    .error "Not a directory (os error 20)"
  else .ok made

/-- The disk with a database in a file: the one that is there, or a new one.  Nothing if there is no
    place for the file. -/
def create (d : Disk) (path : List String) : Option Disk :=
  if d.isDirectory path || !d.isDirectory path.dropLast then none
  else
    match d.file? path with
    | some _ => some d
    | none => some (d.write path (.database {}))

end Disk

end EntityStore
