import EmulatorScout.Text.Pattern.Basic

/-!
# Classes in brackets

A class in brackets holds characters, ranges and other classes, and operators may combine what stands
before and after them. A dash or a closing bracket at the start stands for itself. A class of bytes may
not be a complement, since that holds bytes above ASCII.
-/

set_option autoImplicit false

namespace EmulatorScout.Text.Pattern

/-! ## Items -/

/-- Reads one end of a range, or a class, inside of brackets. -/
def readItem (mode : Mode) (text : List Char) : Option (Atom × List Char) :=
  let item? :=
    match text with
    | [] => none
    | '\\' :: rest => readEscape mode rest
    | c :: rest => some (.letter c, rest)
  item?.filter fun item =>
    match item.1 with
    | .letter c => mode.unicode || c.toNat < 0x80
    | .set => true
    | .place => false

/-- The text after a range or a single item. -/
def afterRange? (mode : Mode) (text : List Char) : Option (List Char) :=
  match readItem mode text with
  | none => none
  | some (first, rest) =>
    match mode.pass rest with
    | [] => none
    | '-' :: rest =>
      if mode.peek? rest = some ']' ∨ mode.peek? rest = some '-' then some ('-' :: rest)
      else
        match first, readItem mode (mode.pass rest) with
        | .letter low, some (.letter high, rest) => if low ≤ high then some rest else none
        | _, _ => none
    | rest => some rest

/-- The names of the classes of ASCII. -/
def asciiClasses : List String :=
  ["alnum", "alpha", "ascii", "blank", "cntrl", "digit", "graph", "lower", "print", "punct", "space",
    "upper", "word", "xdigit"]

/-- Reads a class that is given by its name between colons, from what stands after its opening
bracket. The answer says whether it is a complement. -/
def readNamed? : List Char → Option (Bool × List Char)
  | ':' :: text =>
    let complement := text.head? = some '^'
    let text := if complement then text.tail else text
    match text.dropWhile (· ≠ ':') with
    | ':' :: ']' :: rest =>
      if asciiClasses.contains (String.ofList (text.takeWhile (· ≠ ':'))) then
        some (complement, rest)
      else none
    | _ => none
  | _ => none

/-! ## Brackets -/

/-- What has been read of a class in brackets. -/
structure Bracket where
  /-- Whether nothing but dashes has come. -/
  fresh : Bool
  /-- The depth of what stands before the last operator, if there is one. -/
  left? : Option Nat
  /-- The depths of the items after it. -/
  items : List Nat
  deriving DecidableEq, Repr

namespace Bracket

def start : Bracket := ⟨true, none, []⟩

def addDash (bracket : Bracket) : Bracket := { bracket with items := 0 :: bracket.items }

def add (bracket : Bracket) (depth : Nat) : Bracket :=
  { bracket with fresh := false, items := depth :: bracket.items }

def depth (bracket : Bracket) : Nat :=
  match bracket.left? with
  | none => joined bracket.items
  | some left => 1 + max left (joined bracket.items)

/-- An operator after what has been read. -/
def operate (bracket : Bracket) : Bracket := ⟨false, some bracket.depth, []⟩

end Bracket

/-- The operators: intersection, difference, and symmetric difference. Each is written twice. -/
def operators : List Char := ['&', '-', '~']

/-- The text after an opening bracket and the sign of a complement. -/
def opened? (mode : Mode) (text : List Char) : Option (List Char) :=
  match mode.pass text with
  | '^' :: rest => if mode.unicode then some rest else none
  | rest => some rest

/-- Reads on in a class in brackets that stands in the given outer ones, and answers the depth of the
outermost and the text after it. The fuel bounds the number of items. -/
def readBrackets (mode : Mode) :
    Nat → Bracket → List Bracket → List Char → Option (Nat × List Char)
  | 0, _, _, _ => none
  | fuel + 1, bracket, outer, text =>
    match mode.pass text with
    | [] => none
    | c :: rest =>
      if bracket.fresh && c = '-' then readBrackets mode fuel bracket.addDash outer rest
      else if bracket.fresh && bracket.items = [] && c = ']' then
        readBrackets mode fuel (bracket.add 0) outer rest
      else if c = '[' then
        match readNamed? rest with
        | some (complement, rest) =>
          if complement && !mode.unicode then none
          else readBrackets mode fuel (bracket.add 0) outer rest
        | none =>
          match opened? mode rest with
          | none => none
          | some rest =>
            readBrackets mode fuel .start ({ bracket with fresh := false } :: outer) rest
      else if c = ']' then
        match outer with
        | [] => some (bracket.depth + 1, rest)
        | parent :: outer => readBrackets mode fuel (parent.add (bracket.depth + 1)) outer rest
      else if operators.contains c && rest.head? = some c then
        readBrackets mode fuel bracket.operate outer rest.tail
      else
        match afterRange? mode (c :: rest) with
        | none => none
        | some rest => readBrackets mode fuel (bracket.add 0) outer rest

/-- Reads a class in brackets from what stands after its opening bracket, and answers its depth and
the text after it. -/
def readClass (mode : Mode) (text : List Char) : Option (Nat × List Char) :=
  match opened? mode text with
  | none => none
  | some rest => readBrackets mode (rest.length + 1) .start [] rest

end EmulatorScout.Text.Pattern
