import EmulatorScout.FileSystem.Operations

/-!
# A file system as a process sees it

A process sees paths from its current directory, and it sees the names in a directory in an order
that the host chooses. The order is no property of the file system, so it is a part of the view: any
rearrangement of the names may come.
-/

set_option autoImplicit false

namespace EmulatorScout

/-- The orders in which a host lists its directories. -/
structure ListingOrder where
  /-- The names in the directory at a location, as the host lists them. -/
  arrange : Location → List Name → List Name
  /-- Listing neither loses nor invents a name. -/
  perm : ∀ location names, (arrange location names).Perm names

/-- The order in which the names are stored. -/
def ListingOrder.stored : ListingOrder := ⟨fun _ names => names, fun _ _ => .refl _⟩

/-- A file system as a process sees it. -/
structure View where
  /-- The file system. -/
  files : FileSystem
  /-- The current directory. -/
  current : Location
  /-- The order of listings. -/
  order : ListingOrder

namespace View

/-- The names in the directory at a location, in the order of the host. -/
def list (view : View) (directory : Location) : List Name :=
  view.order.arrange directory (view.files.names directory)

/-- A listing holds the names in the directory, whatever order the host chooses. -/
theorem mem_list {view : View} {directory : Location} {name : Name} :
    name ∈ view.list directory ↔ name ∈ view.files.names directory :=
  (view.order.perm directory (view.files.names directory)).mem_iff

def directory? (view : View) (path : Path) : Option Location :=
  view.files.directory? view.current path

def isDirectory (view : View) (path : Path) : Bool := view.files.isDirectory view.current path

def pathExists (view : View) (path : Path) : Bool := view.files.pathExists view.current path

def content (view : View) (path : Path) : Except FileError Bytes :=
  view.files.content view.current path

end View

end EmulatorScout
