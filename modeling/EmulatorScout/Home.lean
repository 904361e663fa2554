import EmulatorScout.Path

/-!
# Places below the home directory

Where the program keeps its own files, and how a path that begins with a tilde is read. Both depend
on the home directory, which may be unknown.
-/

set_option autoImplicit false

namespace EmulatorScout.Home

/-- The name of the program's directory. -/
def directoryName : Path := Path.ofString "aemu"

/-- The directory for the program's data. -/
def dataDirectory : Option String → Path
  | some home => ((Path.ofString home).join (Path.ofString ".local/share")).join directoryName
  | none => (Path.ofString "/tmp").join directoryName

/-- The directory for files that outlive a run. -/
def stateDirectory (home? : Option String) : Path :=
  (dataDirectory home?).join (Path.ofString "state")

/-- A file in the state directory. -/
def stateFile (home? : Option String) (name : String) : Path :=
  (stateDirectory home?).join (Path.ofString name)

/-- The file with the stored configuration. -/
def configFile (home? : Option String) : Path := stateFile home? "cli-config.json"

/-- The file for an export made at the given time, in milliseconds. -/
def exportFile (home? : Option String) (stem : String) (time : Int) : Path :=
  stateFile home? (stem ++ "-" ++ toString time ++ ".json")

/-- What follows the tilde and its slash in a text that stands for a place in the home directory. -/
def afterTilde? : List Char → Option (List Char)
  | ['~'] => some []
  | '~' :: '/' :: rest => some rest
  | _ => none

/-- The path that a text stands for: a tilde at its start is the home directory, if that is known.
What follows the tilde is joined as a path, so an absolute rest stands for itself. -/
def expand (home? : Option String) (text : String) : Path :=
  match afterTilde? text.toList, home? with
  | some rest, some home => (Path.ofString home).join (Path.ofString (String.ofList rest))
  | _, _ => Path.ofString text

/-- The entries of a list of directories separated by colons. Empty entries do not count, blank ones
do. -/
def splitList (list : String) : List String :=
  ((list.toList.splitOn ':').filter (· ≠ [])).map String.ofList

end EmulatorScout.Home
