import EmulatorScout.FileSystem.AtomicWrite
import EmulatorScout.FileSystem.View

/-!
# Building and inspecting trees

Operations that set a file system up and look at it as a whole: files and links with the directories
above them made on the way, removal of a node with everything below it, and the list of all nodes
below a directory.
-/

set_option autoImplicit false

namespace EmulatorScout

namespace FileSystem

/-- Makes a directory and the missing directories above it. -/
def makeDirectories (files : FileSystem) (current : Location) (path : Path) : Attempt :=
  AtomicWrite.ensureDirectories current (Progress.start files) path
    (path.bytes.length :: path.above)

/-- Writes a file and makes the missing directories above it. -/
def placeFile (files : FileSystem) (current : Location) (path : Path) (content : Bytes) : Attempt :=
  (AtomicWrite.ensureParents current files path).perform current (.writeFile path content)

/-- Makes a link. The last name has to be free. -/
def makeLink (files : FileSystem) (current : Location) (path target : Path) :
    Except FileError FileSystem :=
  match files.locateLast current path with
  | .error error => .error error
  | .ok (_, .fixed) => .error .alreadyExists
  | .ok (directory, .name name slashed) =>
    if maxName < name.length then .error .nameTooLong
    else
      match files.node? (name :: directory) with
      | some _ => .error .alreadyExists
      | none =>
        if slashed then .error .notFound
        else .ok (files.insert (name :: directory) (.link target))

/-- Makes a link and the missing directories above it. -/
def placeLink (files : FileSystem) (current : Location) (path target : Path) :
    Except FileError FileSystem :=
  let parents := AtomicWrite.ensureParents current files path
  match parents.failure? with
  | some error => .error error
  | none => parents.files.makeLink current path target

/-- The nodes below a directory, each with the names that lead to it from there. -/
def below (files : FileSystem) (directory : Location) : List (List Name × Node) :=
  (files.branch directory).held.nodes

/-- The text of a node below a directory: its names with slashes between them, and a mark at the end
that tells directories and links from files. -/
def treeLine (entry : List Name × Node) : String :=
  Bytes.shown (List.intercalate [slash] entry.1) ++
    match entry.2 with
    | .directory => "/"
    | .link _ => "@"
    | .file _ => ""

/-- The tree below a directory, one text for each node, in order. -/
def treeLines (files : FileSystem) (directory : Location) : List String :=
  ((files.below directory).map treeLine).mergeSort fun p q => p ≤ q

end FileSystem

/-! ## Changes under a process -/

namespace View

/-- The location that a path names with its last name, if it ends in one. -/
def named? (view : View) (path : Path) : Option Location :=
  match view.files.locateLast view.current path with
  | .ok (directory, .name name _) => some (name :: directory)
  | _ => none

/-- Removes the node that a path names, and everything below it. A process that is in there stays in
its directory. -/
def remove (view : View) (path : Path) : Except FileError View :=
  match view.files.locateLast view.current path with
  | .error error => .error error
  | .ok (_, .fixed) => .error .busy
  | .ok (directory, .name name _) =>
    match view.files.node? (name :: directory) with
    | none => .error .notFound
    | some _ =>
      .ok { view with
        files := view.files.eraseTree (name :: directory)
        current := afterRemoval (name :: directory) view.current }

/-- Gives the node that a path names another name. A process that is in there moves along. -/
def rename (view : View) (source target : Path) : Except FileError View :=
  (view.files.rename view.current source target).map fun files =>
    match view.named? source, view.named? target with
    | some source, some target =>
      { view with
        files := files
        current := if source = target then view.current else afterMove source target view.current }
    | _, _ => { view with files := files }

end View

end EmulatorScout
