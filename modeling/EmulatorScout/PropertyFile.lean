import EmulatorScout.Properties
import EmulatorScout.Text.Blank
import EmulatorScout.Text.Utf8

/-!
# Property files

A running emulator leaves a flat file of lines `key=value`. There are no sections, comments or
quotes. A line ends at a line feed, at a carriage return, or at both in a row. White space at the
ends of a line does not count; white space around the separator does. A line without a separator
says nothing, and of several lines with one key the last counts.
-/

set_option autoImplicit false

namespace EmulatorScout.PropertyFile

/-- Whether a character ends a line. -/
def isLineEnd (c : Char) : Bool := c = '\n' || c = '\r'

/-- The lines of a text. A line feed after a carriage return yields an empty line, which says
nothing. -/
def lines (text : List Char) : List (List Char) := text.splitOnP isLineEnd

/-- The pair that a line states: the key is what stands before its first separator. -/
def pair? (line : List Char) : Option (String × String) :=
  match (Text.trim line).dropWhile (· ≠ '=') with
  | _ :: value => some (String.ofList ((Text.trim line).takeWhile (· ≠ '=')), String.ofList value)
  | [] => none

/-- The pairs that a text states, in the order of its lines. -/
def statements (text : List Char) : List (String × String) := (lines text).filterMap pair?

/-- The properties that a text states. -/
def parse (text : String) : Properties := Properties.ofList (statements text.toList)

/-- The properties that a file with the given content states. Damaged bytes are read as replacement
characters, so they spoil nothing but the text they stand in. -/
def read (content : Bytes) : Properties := parse content.shown

end EmulatorScout.PropertyFile
