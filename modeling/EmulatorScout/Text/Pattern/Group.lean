import EmulatorScout.Text.Alphanumeric
import EmulatorScout.Text.Pattern.Basic

/-!
# Heads of groups

After an opening parenthesis stands nothing, a name for the group, or flags. Flags change the mode for
the group, or without a colon for the rest of the group that they stand in.
-/

set_option autoImplicit false

namespace EmulatorScout.Text.Pattern

/-- What an opening parenthesis begins. -/
inductive GroupHead where
  /-- A group, with its mode and its name. -/
  | group (mode : Mode) (name? : Option (List Char))
  /-- A change of the mode. -/
  | change (mode : Mode)
  deriving DecidableEq, Repr

/-! ## Names -/

def beginsName (c : Char) : Bool := c = '_' || isAlphabetic c

/-- Whether a character may stand in the name of a group after its first one. -/
def continuesName (c : Char) : Bool := ['_', '.', '[', ']'].contains c || isAlphanumeric c

def isName : List Char → Bool
  | [] => false
  | c :: rest => beginsName c && rest.all continuesName

/-- Reads the name of a group and the angle bracket after it. -/
def readName (mode : Mode) (text : List Char) : Option (GroupHead × List Char) :=
  let name := text.takeWhile (· ≠ '>')
  match text.dropWhile (· ≠ '>') with
  | [] => none
  | _ :: rest => if isName name then some (.group mode (some name), rest) else none

/-! ## Flags -/

/-- The flags, with the sign that takes back the ones after it. -/
def flags : List Char := ['i', 'm', 's', 'U', 'u', 'R', 'x', '-']

/-- Whether a text is a list of flags: none of them twice, and something after the sign. -/
def areFlags (text : List Char) : Bool :=
  text.all flags.contains && text.eraseDups = text && text.getLast? ≠ some '-'

/-- The state of a flag after a list of flags. -/
def switched (text : List Char) (flag : Char) (before : Bool) : Bool :=
  if text.contains flag then (text.takeWhile (· ≠ '-')).contains flag else before

/-- The mode after a list of flags. -/
def Mode.switch (mode : Mode) (text : List Char) : Mode :=
  ⟨switched text 'x' mode.spaced, switched text 'u' mode.unicode⟩

/-- Reads flags and the sign after them. -/
def readFlags (mode : Mode) (text : List Char) : Option (GroupHead × List Char) :=
  let isEnd (c : Char) : Bool := c = ':' || c = ')'
  let flags := text.takeWhile fun c => !isEnd c
  if areFlags flags then
    match text.dropWhile fun c => !isEnd c with
    | ':' :: rest => some (.group (mode.switch flags) none, rest)
    | ')' :: rest => if flags = [] then none else some (.change (mode.switch flags), rest)
    | _ => none
  else none

/-! ## Heads -/

/-- Reads what stands after an opening parenthesis up to the first part of the group. -/
def readHead (mode : Mode) (text : List Char) : Option (GroupHead × List Char) :=
  match mode.pass text with
  | '?' :: 'P' :: '<' :: rest => readName mode rest
  | '?' :: '<' :: rest => readName mode rest
  | '?' :: rest => readFlags mode rest
  | rest => some (.group mode none, rest)

end EmulatorScout.Text.Pattern
