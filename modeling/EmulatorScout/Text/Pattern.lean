import EmulatorScout.Text.Pattern.Bracket
import EmulatorScout.Text.Pattern.Group

/-!
# Patterns

`isPattern` recognises regular expressions. A pattern is made of characters, classes, places, groups,
repetitions and alternatives, nested up to `maxDepth` levels.

The patterns of this module hold no pair of braces, because of where they stand: the text of a pattern
ends before a closing brace. An opening brace that does not stand for itself begins something that
never ends, and so it is a fault.
-/

set_option autoImplicit false

namespace EmulatorScout.Text.Pattern

/-! ## The state of reading -/

/-- A part that has been read. -/
structure Item where
  /-- How deep it is nested. -/
  depth : Nat
  /-- Whether it can be repeated. A change of the mode cannot. -/
  repeatable : Bool
  deriving DecidableEq, Repr

/-- What has been read of a group. -/
structure Group where
  /-- The depths of the alternatives before the current one. -/
  branches : List Nat
  /-- The parts of the current alternative, the last one first. -/
  items : List Item
  deriving DecidableEq, Repr

namespace Group

/-- The start of a group. -/
def start : Group := ⟨[], []⟩

def add (group : Group) (depth : Nat) : Group :=
  { group with items := ⟨depth, true⟩ :: group.items }

def addChange (group : Group) : Group := { group with items := ⟨0, false⟩ :: group.items }

def branchDepth (group : Group) : Nat := joined (group.items.map Item.depth)

/-- The end of an alternative. -/
def branch (group : Group) : Group := ⟨group.branchDepth :: group.branches, []⟩

def depth (group : Group) : Nat := joined (group.branchDepth :: group.branches)

/-- The group with its last part repeated. -/
def repeatLast? (group : Group) : Option Group :=
  match group.items with
  | ⟨depth, true⟩ :: items => some { group with items := ⟨depth + 1, true⟩ :: items }
  | _ => none

end Group

/-- What has been read of a pattern. -/
structure Reader where
  /-- The mode at this point. -/
  mode : Mode
  /-- The innermost group. -/
  group : Group
  /-- The groups around it, the innermost first, each with its mode. -/
  outer : List (Group × Mode)
  /-- The names of groups. -/
  names : List (List Char)
  deriving DecidableEq, Repr

namespace Reader

/-- The start of a pattern. -/
def start : Reader := ⟨.standard, .start, [], []⟩

def add (reader : Reader) (depth : Nat) : Reader := { reader with group := reader.group.add depth }

/-! ## Steps -/

/-- Opens a group or changes the mode, from what stands after an opening parenthesis. Two groups must
not have one name. -/
def openGroup (reader : Reader) (text : List Char) : Option (Reader × List Char) :=
  match readHead reader.mode text with
  | none => none
  | some (.change mode, rest) =>
    some ({ reader with mode := mode, group := reader.group.addChange }, rest)
  | some (.group mode name?, rest) =>
    if name?.any reader.names.contains then none
    else
      some (⟨mode, .start, (reader.group, reader.mode) :: reader.outer,
        name?.toList ++ reader.names⟩, rest)

/-- Closes a group. -/
def closeGroup? (reader : Reader) : Option Reader :=
  match reader.outer with
  | [] => none
  | (group, mode) :: outer => some ⟨mode, group.add (reader.group.depth + 1), outer, reader.names⟩

/-- Repeats the last part. A question mark that follows at once belongs to the repetition. -/
def repeatLast (reader : Reader) (text : List Char) : Option (Reader × List Char) :=
  reader.group.repeatLast?.map fun group =>
    ({ reader with group := group }, if text.head? = some '?' then text.tail else text)

/-- Takes in a character and as much of the text after it as belongs to it. -/
def step (reader : Reader) (c : Char) (text : List Char) : Option (Reader × List Char) :=
  if c = '(' then reader.openGroup text
  else if c = ')' then reader.closeGroup?.map (·, text)
  else if c = '|' then some ({ reader with group := reader.group.branch }, text)
  else if c = '[' then
    (readClass reader.mode text).map fun (depth, rest) => (reader.add depth, rest)
  else if ['?', '*', '+'].contains c then reader.repeatLast text
  else if c = '{' then none
  else if c = '\\' then
    (readEscape reader.mode text).map fun (_, rest) => (reader.add 0, rest)
  else if c = '.' && !reader.mode.unicode then none
  else some (reader.add 0, text)

def isComplete (reader : Reader) : Bool :=
  reader.outer = [] && reader.group.depth ≤ maxDepth

/-- Whether the reader reaches the end of a text without a fault. The fuel bounds the number of
steps. -/
def accepts : Nat → Reader → List Char → Bool
  | 0, _, _ => false
  | fuel + 1, reader, text =>
    match reader.mode.pass text with
    | [] => reader.isComplete
    | c :: rest =>
      match reader.step c rest with
      | none => false
      | some (reader, rest) => accepts fuel reader rest

end Reader

/-- Whether a text is a pattern. Every step takes a character, so the steps do not outnumber the
characters. -/
def isPattern (text : List Char) : Bool := Reader.accepts (text.length + 1) Reader.start text

end EmulatorScout.Text.Pattern
