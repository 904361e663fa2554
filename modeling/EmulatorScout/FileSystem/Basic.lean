import EmulatorScout.FileSystem.Entries

/-!
# File systems

A file system is a finite map from locations to nodes. A location is the list of names that leads
from the root to a node, innermost name first, so the directory that holds a node is the tail of the
node's location and the root is the empty list. The root is a directory in every file system.

A directory that is removed while a process is in it loses its name and not its place: the process
stays at a nameless location, from which two dots still lead up. No path leads there from elsewhere.

Every location has a node of its own, and a file has its content there and nowhere else. So there are
no hard links, by which one file would stand at several locations and be changed at all of them at once.
Nor are there permissions, owners or times of change: what fails, fails for what stands at a location.

The map is kept as the entries of the root. `node?` is the view of it through which `insert` and
`erase` are described: what they do to one location, and that they leave every other one alone
(`node?_insert`, `node?_erase`). A directory lists exactly the names of the nodes in it (`mem_names`).
The order of the entries shows only in the order of that list.
-/

set_option autoImplicit false

namespace EmulatorScout

/-- A place in the tree: the names that lead to it, innermost first. -/
abbrev Location := List Name

/-- Whether a location has lost its name. -/
def isNameless (location : Location) : Bool := location.head? = some []

/-- Where a process at `current` is after what stood at `removed` has gone. -/
def afterRemoval (removed current : Location) : Location :=
  if removed.isSuffixOf current then [] :: current.tail else current

/-- Where a process at `current` is after what stood at `source` has come to `target`. -/
def afterMove (source target current : Location) : Location :=
  if source.isSuffixOf current then current.take (current.length - source.length) ++ target
  else afterRemoval target current

/-- A file system. -/
structure FileSystem where
  /-- What the root holds. -/
  entries : Entries
  /-- No name is kept twice in one directory. -/
  distinct : entries.Distinct

namespace FileSystem

/-- The file system that holds nothing but its root. -/
def empty : FileSystem := ⟨.none, trivial⟩

instance : Inhabited FileSystem := ⟨empty⟩

/-- The root with all that it holds. -/
def root (files : FileSystem) : Branch := ⟨some .directory, files.entries⟩

/-- What stands at a location. -/
def branch (files : FileSystem) (location : Location) : Branch := files.root.reach location.reverse

/-- The node at a location. -/
def node? (files : FileSystem) (location : Location) : Option Node := (files.branch location).node?

/-- The names in the directory at a location. -/
def names (files : FileSystem) (directory : Location) : List Name :=
  (files.branch directory).held.names

theorem distinct_root (files : FileSystem) : files.root.held.Distinct := files.distinct

theorem distinct_branch (files : FileSystem) (location : Location) :
    (files.branch location).held.Distinct :=
  Branch.distinct_reach files.distinct_root _

/-- The file system with the node at a location set or taken away. -/
def setNode (files : FileSystem) (location : Location) (node? : Option Node) : FileSystem :=
  let root := files.root.alter (Branch.setNode node?) location.reverse
  ⟨root.held, Branch.distinct_alter (Branch.distinct_setNode node?) files.distinct_root _⟩

/-- The file system with something put at a location, in place of all that stood there. -/
def graft (files : FileSystem) (location : Location) (placed : Branch)
    (distinct : placed.held.Distinct) : FileSystem :=
  let root := files.root.alter (fun _ => placed) location.reverse
  ⟨root.held, Branch.distinct_alter (fun _ _ => distinct) files.distinct_root _⟩

/-- The file system with a node put at a location, in place of the node there. -/
def insert (files : FileSystem) (location : Location) (node : Node) : FileSystem :=
  files.setNode location (some node)

/-- The file system without the node at a location. -/
def erase (files : FileSystem) (location : Location) : FileSystem := files.setNode location none

/-- The file system without a node and everything below it. -/
def eraseTree (files : FileSystem) (location : Location) : FileSystem :=
  files.graft location .free Branch.distinct_free

/-- The file system with a node and everything below it at another location. -/
def moveTree (files : FileSystem) (source target : Location) : FileSystem :=
  (files.eraseTree source).graft target (files.branch source) (files.distinct_branch source)

/-! ## The view of the operations -/

@[simp] theorem node?_nil (files : FileSystem) : files.node? [] = some .directory := rfl

theorem branch_append (files : FileSystem) (below location : Location) :
    files.branch (below ++ location) = (files.branch location).reach below.reverse := by
  rw [branch, List.reverse_append, Branch.reach_append, branch]

theorem branch_cons (files : FileSystem) (name : Name) (directory : Location) :
    files.branch (name :: directory) = (files.branch directory).held.find name :=
  files.branch_append [name] directory

/-- What the root holds decides what stands at every other location. -/
theorem branch_eq_reach {files : FileSystem} {root : Branch} (held : files.entries = root.held)
    {location : Location} (below : location ≠ []) :
    files.branch location = root.reach location.reverse :=
  Branch.reach_congr held (List.reverse_ne_nil_iff.2 below)

/-- Setting the node at one location other than the root keeps the others. -/
theorem node?_setNode (files : FileSystem) (changed location : Location) (node? : Option Node) :
    (files.setNode changed node?).node? location
      = if location = changed ∧ location ≠ [] then node? else files.node? location := by
  by_cases hroot : location = []
  · simp [hroot]
  · rw [FileSystem.node?, branch_eq_reach rfl hroot, Branch.node?_reach_alter]
    simp [hroot, FileSystem.node?, branch]

/-- Erasing empties one location other than the root and keeps the others. -/
theorem node?_erase (files : FileSystem) (removed location : Location) :
    (files.erase removed).node? location
      = if location = removed ∧ location ≠ [] then none else files.node? location :=
  files.node?_setNode removed location none

/-- Inserting sets one location other than the root and keeps the others. -/
theorem node?_insert (files : FileSystem) (added location : Location) (node : Node) :
    (files.insert added node).node? location
      = if location = added ∧ location ≠ [] then some node else files.node? location :=
  files.node?_setNode added location (some node)

/-! ## The names in a directory -/

/-- A directory lists the names of the nodes in it. -/
theorem mem_names {files : FileSystem} {directory : Location} {name : Name} :
    name ∈ files.names directory ↔ (files.node? (name :: directory)).isSome := by
  rw [names, Entries.mem_names (files.distinct_branch directory), node?, branch_cons]

end FileSystem

end EmulatorScout
