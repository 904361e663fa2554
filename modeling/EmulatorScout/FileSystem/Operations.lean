import EmulatorScout.FileSystem.Walk

/-!
# File operations

What can be asked of a file system and what can be done to it. A question never changes anything.
A change either happens as a whole or fails and changes nothing; `Change.perform` gives the file
system after it. Paths are seen from a current directory.
-/

set_option autoImplicit false

namespace EmulatorScout.FileSystem

/-! ## Questions -/

/-- Whether there is a directory at a location. A nameless location is that of a directory. -/
def isDirectoryAt (files : FileSystem) (location : Location) : Bool :=
  isNameless location ||
    match files.node? location with
    | some .directory => true
    | _ => false

/-- The location of the directory that a path leads to. -/
def directory? (files : FileSystem) (current : Location) (path : Path) : Option Location :=
  match files.locate .find current path with
  | .ok location => if files.isDirectoryAt location then some location else none
  | .error _ => none

def isDirectory (files : FileSystem) (current : Location) (path : Path) : Bool :=
  (files.directory? current path).isSome

/-- Whether a path leads to anything. -/
def pathExists (files : FileSystem) (current : Location) (path : Path) : Bool :=
  (files.locate .find current path).isOk

/-- The content of the file that a path leads to. -/
def content (files : FileSystem) (current : Location) (path : Path) : Except FileError Bytes :=
  match files.locate .find current path with
  | .error error => .error error
  | .ok location =>
    if files.isDirectoryAt location then .error .isADirectory
    else
      match files.node? location with
      | some (.file content) => .ok content
      | _ => .error .notFound

/-! ## Changes -/

/-- Makes a directory. The last name has to be free; a link there is not followed. -/
def makeDirectory (files : FileSystem) (current : Location) (path : Path) :
    Except FileError FileSystem :=
  match files.locateLast current path with
  | .error error => .error error
  | .ok (_, .fixed) => .error .alreadyExists
  | .ok (directory, .name name _) =>
    if maxName < name.length then .error .nameTooLong
    else
      match files.node? (name :: directory) with
      | some _ => .error .alreadyExists
      | none => .ok (files.insert (name :: directory) .directory)

/-- Writes a file, in place of its content if it exists. Links are followed to their end. -/
def writeFile (files : FileSystem) (current : Location) (path : Path) (content : Bytes) :
    Except FileError FileSystem :=
  match files.locate .create current path with
  | .error error => .error error
  | .ok location =>
    if files.isDirectoryAt location then .error .isADirectory
    else .ok (files.insert location (.file content))

/-- Moves the node at one location to another, if what stands there may be replaced by it: a file or
link replaces anything but a directory, and a directory replaces an empty directory only. -/
def move (files : FileSystem) (source target : Location) (node : Node) :
    Except FileError FileSystem :=
  if source = target then .ok files
  else
    match node, files.node? target with
    | .directory, none => .ok (files.moveTree source target)
    | .directory, some .directory =>
      if files.names target = [] then .ok (files.moveTree source target) else .error .notEmpty
    | .directory, some _ => .error .notADirectory
    | _, some .directory => .error .isADirectory
    | _, _ => .ok ((files.erase source).insert target node)

/-- Gives the node that a path names another name. Neither last name is followed if it is a link. -/
def rename (files : FileSystem) (current : Location) (source target : Path) :
    Except FileError FileSystem :=
  match files.locateLast current source, files.locateLast current target with
  | .error error, _ => .error error
  | _, .error error => .error error
  | .ok (fromDirectory, .name fromName fromSlash), .ok (toDirectory, .name toName toSlash) =>
    if maxName < fromName.length then .error .nameTooLong
    else
      match files.node? (fromName :: fromDirectory) with
      | none => .error .notFound
      | some node =>
        if maxName < toName.length then .error .nameTooLong
        else if node ≠ .directory ∧ (fromSlash || toSlash) then .error .notADirectory
        else if (fromName :: fromDirectory).isSuffixOf toDirectory then .error .intoItself
        else if (toName :: toDirectory).isSuffixOf fromDirectory then .error .notEmpty
        else files.move (fromName :: fromDirectory) (toName :: toDirectory) node
  | _, _ => .error .busy

/-- A change to the file system. -/
inductive Change where
  /-- A directory is made. -/
  | makeDirectory (path : Path)
  /-- A file gets a content. -/
  | writeFile (path : Path) (content : Bytes)
  /-- A node gets another name. -/
  | rename (source target : Path)
  deriving DecidableEq, Repr

/-- The file system after a change. -/
def Change.perform (current : Location) (files : FileSystem) :
    Change → Except FileError FileSystem
  | .makeDirectory path => files.makeDirectory current path
  | .writeFile path content => files.writeFile current path content
  | .rename source target => files.rename current source target

end EmulatorScout.FileSystem
