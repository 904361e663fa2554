import EmulatorScout.Text.Blank
import EmulatorScout.Text.Numeral

/-!
# Parts of patterns

A pattern is a regular expression. What its characters mean depends on two modes that the pattern
itself can change: whether white space and comments stand between its parts, and whether it is about
characters or about single bytes. This module reads the parts that have the same form inside and
outside of brackets: characters, and what a backslash begins.

Patterns are only recognised here. Those that could match what is no text in UTF-8 count as faulty, and
so do those with word boundaries of characters, which cannot be found one byte at a time.
-/

set_option autoImplicit false

namespace EmulatorScout.Text.Pattern

/-! ## Modes -/

/-- How the characters of a pattern are meant. -/
structure Mode where
  /-- White space and comments between the parts do not count. -/
  spaced : Bool
  /-- Classes and boundaries are about characters, and not about bytes. -/
  unicode : Bool
  deriving DecidableEq, Repr

/-- The mode at the start of a pattern. -/
def Mode.standard : Mode := ⟨false, true⟩

/-- The text after white space and comments, where a comment reaches from a number sign to the end of
its line. The first argument says whether the text begins inside a comment. -/
def passBlanks : Bool → List Char → List Char
  | _, [] => []
  | true, c :: text => passBlanks (c ≠ '\n') text
  | false, c :: text =>
    if isBlank c then passBlanks false text
    else if c = '#' then passBlanks true text else c :: text

/-- The text after what does not count. -/
def Mode.pass (mode : Mode) (text : List Char) : List Char :=
  if mode.spaced then passBlanks false text else text

/-- The character that decides whether a dash before the text makes a range. It is the first one that
is no white space; the sign of a comment is passed over, but not the comment. -/
def Mode.peek? (mode : Mode) (text : List Char) : Option Char :=
  let next? (rest : List Char) := (rest.dropWhile isBlank).head?
  if mode.spaced then
    match text.dropWhile isBlank with
    | '#' :: rest => (next? rest).or text.head?
    | rest => rest.head?.or text.head?
  else text.head?

/-! ## Depth -/

/-- How many patterns may be nested in each other. -/
def maxDepth : Nat := 250

/-- The depth of parts that are put together: several parts make one more level. -/
def joined : List Nat → Nat
  | [] => 0
  | [depth] => depth
  | depths => 1 + depths.foldl max 0

/-! ## Parts -/

/-- A part of a pattern that has no parts itself. -/
inductive Atom where
  /-- A character that stands for itself. -/
  | letter (c : Char)
  /-- A class of characters. -/
  | set
  /-- A place between characters. -/
  | place
  deriving DecidableEq, Repr

/-- Reads a number of digits of base 16 that follow a value, and passes over what does not count
before each and after the last. -/
def readHex (mode : Mode) : Nat → Nat → List Char → Option (Nat × List Char)
  | 0, value, text => some (value, mode.pass text)
  | digits + 1, value, text =>
    match mode.pass text with
    | [] => none
    | c :: rest =>
      match Numeral.hexValue? c with
      | some digit => readHex mode digits (16 * value + digit) rest
      | none => none

/-- Reads a character given by its code in so many digits. A code of two digits is that of a byte if
the pattern is about bytes, and a byte above ASCII is no text. -/
def readCode (mode : Mode) (digits : Nat) (text : List Char) : Option (Atom × List Char) :=
  match readHex mode digits 0 text with
  | none => none
  | some (code, rest) =>
    if ¬mode.unicode ∧ digits = 2 ∧ 0x7F < code then none
    else if code.isValidChar then some (.letter (Char.ofNat code), rest) else none

/-- The letters of the general categories with one letter. -/
def categories : List Char := ['c', 'l', 'm', 'n', 'p', 's', 'z']

/-- Reads a class of characters given by the letter of its general category. -/
def readCategory (mode : Mode) (text : List Char) : Option (Atom × List Char) :=
  match mode.pass text with
  | [] => none
  | c :: rest =>
    if mode.unicode ∧ categories.contains c.toLower then some (.set, mode.pass rest) else none

/-- The control character that a letter after a backslash stands for. -/
def control? (c : Char) : Option Char :=
  if c = 'a' then some '\x07'
  else if c = 't' then some '\t'
  else if c = 'n' then some '\n'
  else if c = 'v' then some '\x0b'
  else if c = 'f' then some '\x0c'
  else if c = 'r' then some '\r'
  else none

/-- Whether a character stands for itself after a backslash: those of ASCII that are neither letters
nor digits, but for the two that mark the ends of words. -/
def standsForItself (c : Char) : Bool :=
  c.toNat < 0x80 && !c.isAlphanum && c ≠ '<' && c ≠ '>'

/-- Reads a part from what stands after its backslash. -/
def readEscape (mode : Mode) : List Char → Option (Atom × List Char)
  | [] => none
  | c :: rest =>
    if c = 'x' then readCode mode 2 rest
    else if c = 'u' then readCode mode 4 rest
    else if c = 'U' then readCode mode 8 rest
    else if c = 'p' || c = 'P' then readCategory mode rest
    else if ['d', 's', 'w'].contains c then some (.set, rest)
    else if ['D', 'S', 'W'].contains c then if mode.unicode then some (.set, rest) else none
    else if ['A', 'z'].contains c then some (.place, rest)
    else if ['b', 'B', '<', '>'].contains c then if mode.unicode then none else some (.place, rest)
    else if standsForItself c then some (.letter c, rest)
    else (control? c).map fun control => (.letter control, rest)

end EmulatorScout.Text.Pattern
