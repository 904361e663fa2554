import EmulatorScout.FileSystem.Error
import EmulatorScout.FileSystem.Trail

/-!
# Walking along a path

How a path leads to a location. A walk goes through the names of the path one at a time. Empty
stretches and single dots stay where they are, two dots go one level up, and every other name is
looked up; a nameless directory holds no name and takes none. A link is replaced by its own text,
followed by the names that were still to come; at most `maxLinks` links are replaced in one walk,
which also bounds the recursion.

A walk carries the trail of the place where it is, so that each of its steps looks at one directory
only. What a step does is said of the location alone by `walkNames_cons`.

A walk has a purpose. One that looks for something fails at a name that does not exist. One that
creates a file may end at a free name of an existing directory.

Some operations concern the last name of a path itself and not what it leads to. For these
`locateLast` walks to the directory and leaves the last name alone.
-/

set_option autoImplicit false

namespace EmulatorScout

/-- How many links one walk may follow. -/
def maxLinks : Nat := 40

/-- The greatest length of a name. -/
def maxName : Nat := 255

/-- The greatest length of the text of a path. -/
def maxPath : Nat := 4095

/-- What a walk is for. -/
inductive Purpose where
  /-- To reach something that exists. -/
  | find
  /-- To reach a file, which may still have to be created. -/
  | create
  deriving DecidableEq, Repr

/-- Where the walk along a path begins, seen from the given directory. -/
def Path.start (path : Path) (current : Location) : Location :=
  if path.isAbsolute then [] else current

namespace FileSystem

/-- The trail to where the walk along a path begins, seen from the directory at the end of a
trail. -/
def startTrail (files : FileSystem) (path : Path) (trail : Trail) : Trail :=
  if path.isAbsolute then files.trail [] else trail

@[simp] theorem startTrail_trail (files : FileSystem) (path : Path) (current : Location) :
    files.startTrail path (files.trail current) = files.trail (path.start current) := by
  unfold startTrail Path.start
  split <;> rfl

/-- Walks through names until a link comes, which is handed to `follow` together with the names
after it. -/
def walkNames (files : FileSystem) (purpose : Purpose)
    (follow : Trail → List Name → Except FileError Location) :
    Trail → List Name → Except FileError Location
  | trail, [] => .ok trail.location
  | trail, segment :: rest =>
    if segment = [] ∨ segment = dotName then walkNames files purpose follow trail rest
    else if segment = dotDotName then walkNames files purpose follow trail.up rest
    else if purpose = .create ∧ rest ≠ [] ∧ rest.all (· = []) then .error .isADirectory
    else if isNameless trail.location then .error .notFound
    else if maxName < segment.length then .error .nameTooLong
    else
      match trail.node? segment with
      | none =>
        if purpose = .create ∧ rest = [] then .ok (segment :: trail.location)
        else .error .notFound
      | some .directory => walkNames files purpose follow (trail.down segment) rest
      | some (.file _) =>
        if rest = [] then .ok (segment :: trail.location) else .error .notADirectory
      | some (.link target) => follow (files.startTrail target trail) (target.segments ++ rest)

@[simp] theorem walkNames_nil (files : FileSystem) (purpose : Purpose)
    (follow : Trail → List Name → Except FileError Location) (current : Location) :
    walkNames files purpose follow (files.trail current) [] = .ok current := by
  rw [walkNames, location_trail]

/-- What one step of a walk does, said of locations and the nodes at them. -/
theorem walkNames_cons (files : FileSystem) (purpose : Purpose)
    (follow : Trail → List Name → Except FileError Location) (current : Location) (segment : Name)
    (rest : List Name) :
    walkNames files purpose follow (files.trail current) (segment :: rest) =
      if segment = [] ∨ segment = dotName then
        walkNames files purpose follow (files.trail current) rest
      else if segment = dotDotName then
        walkNames files purpose follow (files.trail current.tail) rest
      else if purpose = .create ∧ rest ≠ [] ∧ rest.all (· = []) then .error .isADirectory
      else if isNameless current then .error .notFound
      else if maxName < segment.length then .error .nameTooLong
      else
        match files.node? (segment :: current) with
        | none =>
          if purpose = .create ∧ rest = [] then .ok (segment :: current) else .error .notFound
        | some .directory => walkNames files purpose follow (files.trail (segment :: current)) rest
        | some (.file _) =>
          if rest = [] then .ok (segment :: current) else .error .notADirectory
        | some (.link target) =>
          follow (files.trail (target.start current)) (target.segments ++ rest) := by
  rw [walkNames]
  simp only [up_trail, down_trail, location_trail, node?_trail, startTrail_trail]

/-- Walks through names and follows at most the given number of links. -/
def walk (files : FileSystem) (purpose : Purpose) :
    Nat → Trail → List Name → Except FileError Location
  | 0 => walkNames files purpose fun _ _ => .error .tooManyLinks
  | links + 1 => walkNames files purpose (walk files purpose links)

/-- The failure of a path whose text no operation accepts. -/
def textError? (path : Path) : Option FileError :=
  if path.bytes = [] then some .notFound
  else if path.bytes.contains 0 then some .zeroByte
  else if maxPath < path.bytes.length then some .nameTooLong
  else none

/-- The location that a path leads to, seen from the directory `current`. -/
def locate (files : FileSystem) (purpose : Purpose) (current : Location) (path : Path) :
    Except FileError Location :=
  match textError? path with
  | some error => .error error
  | none => walk files purpose maxLinks (files.trail (path.start current)) path.segments

/-- What the text of a path ends in. -/
inductive LastName where
  /-- A name, and whether a slash follows it. -/
  | name (name : Name) (slashed : Bool)
  /-- A dot, two dots or the root. -/
  | fixed
  deriving DecidableEq, Repr

/-- The directory in which the last name of a path stands, and that name. No name stands in a nameless
directory. -/
def locateLast (files : FileSystem) (current : Location) (path : Path) :
    Except FileError (Location × LastName) :=
  match textError? path with
  | some error => .error error
  | none =>
    match path.segments.reverse.dropWhile (· = []) with
    | [] => .ok ([], .fixed)
    | last :: above =>
      match
        walk files .find maxLinks (files.trail (path.start current)) (above.reverse ++ [[]])
      with
      | .error error => .error error
      | .ok directory =>
        if last = dotName ∨ last = dotDotName then .ok (directory, .fixed)
        else if isNameless directory then .error .notFound
        else .ok (directory, .name last (path.bytes.getLast? = some slash))

end FileSystem

end EmulatorScout
