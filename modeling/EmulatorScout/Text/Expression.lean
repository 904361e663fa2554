import EmulatorScout.Text.DecimalDigit

/-!
# Regular expressions

An expression is matched against a text from one place in it to another. `^` matches at the start of
the text and `$` at its end, and neither takes a character; a line end is a character like any other.
`\d` takes one decimal digit of any script. A backslash before a character with a meaning of its own
takes that meaning away, so that it stands for itself like all the others. `+` repeats what stands
before it, once at least. Parentheses catch what is taken between them, and are numbered from one in
the order in which they open.

These are the parts of the language that are known here; a text with any other is not read
(`Expression.ofText?`). A search begins at every place of the text, at the first one first, and prefers
more repetitions to fewer (`Expression.search?`).
-/

set_option autoImplicit false

namespace EmulatorScout.Text

/-- A set of characters. -/
inductive CharSet where
  /-- One character. -/
  | only (c : Char)
  /-- The decimal digits of all scripts. -/
  | decimalDigits
  deriving DecidableEq, Repr

/-- Whether a character is in a set. -/
def CharSet.holds : CharSet → Char → Bool
  | only c, d => c = d
  | decimalDigits, d => isDecimalDigit d

/-- A regular expression. -/
inductive Expression where
  /-- What matches everywhere and takes nothing. -/
  | empty
  /-- The start of the text. -/
  | textStart
  /-- The end of the text. -/
  | textEnd
  /-- One character of a set. -/
  | one (set : CharSet)
  /-- One expression after the other. -/
  | followedBy (first second : Expression)
  /-- An expression once or more often. -/
  | repeated (part : Expression)
  /-- An expression in parentheses, with their number. -/
  | group (number : Nat) (part : Expression)
  deriving DecidableEq, Repr

namespace Expression

/-! ## Searching -/

/-- A place in a text, with what was caught on the way there. -/
@[ext]
structure Spot where
  /-- The characters before the place, the nearest one first. -/
  before : List Char
  /-- The characters after it. -/
  after : List Char
  /-- What the groups have caught, the latest first. -/
  caught : List (Nat × List Char)
  deriving DecidableEq, Repr

/-- The place with the characters caught that were taken since another place. -/
def Spot.catching (spot : Spot) (number : Nat) (opened : Spot) : Spot :=
  { spot with
    caught := (number, (spot.before.take (spot.before.length - opened.before.length)).reverse)
      :: spot.caught }

/-- Where one step or more lead, more steps first. After a step that takes no character there is no
other one, so there are no more steps than characters and one; the number is that of the characters. -/
def onceOrMore (steps : Spot → List Spot) : Nat → Spot → List Spot
  | 0, spot => steps spot
  | bound + 1, spot =>
    (steps spot).flatMap fun next =>
      (if next.after.length < spot.after.length then onceOrMore steps bound next else []) ++ [next]

/-- The places to which an expression matches from a place, in the order of preference. -/
def ways : Expression → Spot → List Spot
  | empty, spot => [spot]
  | textStart, spot => if spot.before = [] then [spot] else []
  | textEnd, spot => if spot.after = [] then [spot] else []
  | one set, spot =>
    match spot.after with
    | [] => []
    | c :: rest => if set.holds c then [⟨c :: spot.before, rest, spot.caught⟩] else []
  | followedBy first second, spot => (first.ways spot).flatMap second.ways
  | repeated part, spot => onceOrMore part.ways spot.after.length spot
  | group number part, spot => (part.ways spot).map fun next => next.catching number spot

/-- The places of a text, from the one after the given characters on. -/
def places (before : List Char) : List Char → List Spot
  | [] => [⟨before, [], []⟩]
  | c :: rest => ⟨before, c :: rest, []⟩ :: places (c :: before) rest

/-- The end of the first match in a text. -/
def search? (expression : Expression) (text : List Char) : Option Spot :=
  ((places [] text).flatMap expression.ways).head?

/-- What the group with a number caught in the first match in a text. -/
def caught? (expression : Expression) (number : Nat) (text : String) : Option String :=
  (expression.search? text.toList).bind fun spot =>
    (spot.caught.lookup number).map String.ofList

/-! ## Reading -/

/-- A part of the text of an expression. -/
inductive Token where
  /-- An expression. -/
  | part (expression : Expression)
  /-- The sign for repetition. -/
  | plus
  /-- A parenthesis that opens. -/
  | opening
  /-- A parenthesis that closes. -/
  | closing

/-- The characters with a meaning of their own. -/
def marks : List Char :=
  ['\\', '^', '$', '.', '|', '?', '*', '+', '(', ')', '[', ']', '{', '}']

/-- What a character means without a backslash before it. -/
def plain? (c : Char) : Option Token :=
  match c with
  | '^' => some (.part textStart)
  | '$' => some (.part textEnd)
  | '+' => some .plus
  | '(' => some .opening
  | ')' => some .closing
  | _ => if c ∈ marks then none else some (.part (one (.only c)))

/-- What a character means with a backslash before it. -/
def escaped? (c : Char) : Option Token :=
  if c = 'd' then some (.part (one .decimalDigits))
  else if c ∈ marks then some (.part (one (.only c))) else none

/-- The parts of a text. -/
def tokens? : List Char → Option (List Token)
  | [] => some []
  | '\\' :: c :: rest => (escaped? c).bind fun token => (tokens? rest).map (token :: ·)
  | c :: rest => (plain? c).bind fun token => (tokens? rest).map (token :: ·)

/-- The expression that parts make up. The arguments before the parts are the parentheses that are open,
each with its number and what stands before it, the number of the next one, and what was read since the
last one. -/
def ofTokens? : List (Nat × Expression) → Nat → Expression → List Token → Option Expression
  | [], _, done, [] => some done
  | _ :: _, _, _, [] => none
  | opened, next, done, .part expression :: rest =>
    ofTokens? opened next (done.followedBy expression) rest
  | opened, next, .followedBy first last, .plus :: rest =>
    ofTokens? opened next (first.followedBy last.repeated) rest
  | _, _, _, .plus :: _ => none
  | opened, next, done, .opening :: rest => ofTokens? ((next, done) :: opened) (next + 1) empty rest
  | (number, before) :: opened, next, done, .closing :: rest =>
    ofTokens? opened next (before.followedBy (group number done)) rest
  | [], _, _, .closing :: _ => none

/-- The expression that a text spells. -/
def ofText? (text : String) : Option Expression :=
  (tokens? text.toList).bind (ofTokens? [] 1 empty)

end Expression

end EmulatorScout.Text
