import EmulatorScout.CommandLine.Notice
import EmulatorScout.Text.Alphanumeric
import EmulatorScout.Text.Blank
import EmulatorScout.Text.Cut
import EmulatorScout.Text.Numeral
import EmulatorScout.Text.Pattern

/-!
# Directives about notices

A directive says which notices it concerns and up to which verbosity those are shown:

* `warn` concerns all notices;
* `source=warn` concerns the notices whose source begins with the given text;
* `source[{field}]=warn` concerns those among them that have the field, and without `source` all
  notices that have it.

A verbosity that is left out is the greatest. A directive about the spans of a program or the values
of fields is of no use, since notices stand in no span and their one field is a text.

The marks of a directive are looked for in its text without the white space at its ends. The parts
between them are then taken from the text as it was given, at the same distances in bytes from its
beginning. White space in front of a directive thus shifts all its parts, and a part that after this
begins or ends within a character is torn.
-/

set_option autoImplicit false

namespace EmulatorScout.CommandLine

/-- Reads a verbosity: a number from 0 to 5, or a word in which case does not matter. -/
def Verbosity.read? (text : List Char) : Option Verbosity :=
  match Text.Numeral.unsigned? text with
  | some number => all[number]?
  | none => all.find? fun verbosity => text.map Char.toLower = verbosity.word.toList

/-- What a user says about some notices. -/
structure Directive where
  /-- What their sources begin with. Without it, all sources are meant. -/
  source? : Option String
  /-- The field that they have, if one is asked for. -/
  field? : Option String
  /-- The greatest verbosity of those that are shown. -/
  verbosity : Verbosity
  deriving DecidableEq, Repr

namespace Directive

/-! ## Reading -/

/-- Why a text gives no directive. -/
inductive Fault where
  /-- It cannot be read, or what it says is of no use for notices. -/
  | useless
  /-- One of its parts begins or ends within a character. -/
  | torn
  deriving DecidableEq, Repr

/-- The part of a text between two distances in bytes. -/
def part (text : List Char) (start stop : Nat) : Except Fault (List Char) :=
  match Text.Cut.piece? text start stop with
  | some part => .ok part
  | none => .error .torn

/-- Reads the verbosity at the end of a text, after an equals sign. -/
def readVerbosity (text : List Char) (start : Nat) : Except Fault Verbosity :=
  match Text.Cut.after? text start with
  | none => .error .torn
  | some [] => .ok .trace
  | some value =>
    match Verbosity.read? value with
    | some verbosity => .ok verbosity
    | none => .error .useless

/-- Reads what stands after a closing bracket: nothing, or an equals sign and a verbosity. -/
def readEnding (text : List Char) (start : Nat) : List Char → Except Fault Verbosity
  | [] => .ok .trace
  | '=' :: _ => readVerbosity text (start + 1)
  | _ => .error .useless

/-- Whether a text is the value of a field: a number or a pattern. -/
def isValue (text : List Char) : Bool := Text.Numeral.isNumber text || Text.Pattern.isPattern text

/-- The value in the text of a field: what stands after the first equals sign, up to the next. -/
def value? (field : List Char) : Option (List Char) :=
  match field.dropWhile (· ≠ '=') with
  | [] => none
  | _ :: rest => some (rest.takeWhile (· ≠ '='))

/-- Whether the text of a field can be read: it is not empty, and the value is one. -/
def isField (field : List Char) : Bool := field ≠ [] && (value? field).all isValue

/-- Reads a directive from its opening brace on, where `span` is what stands before the brace in the
bracket. -/
def readField (text : List Char) (source? : Option String) (span : List Char) (start : Nat)
    (inside : List Char) : Except Fault Directive :=
  let stop := start + Text.Cut.width (inside.takeWhile (· ≠ '}'))
  match inside.dropWhile (· ≠ '}') with
  | [] => .error .useless
  | _ :: rest => do
    let field ← part text start stop
    match isField field, rest with
    | true, ']' :: rest =>
      let verbosity ← readEnding text (stop + 2) rest
      if span = [] ∧ value? field = none then
        return ⟨source?, some (String.ofList field), verbosity⟩
      else throw .useless
    | _, _ => throw .useless

/-- Reads a directive from its opening bracket on. -/
def readBracket (text : List Char) (source? : Option String) (start : Nat) (inside : List Char) :
    Except Fault Directive :=
  let isEnd (c : Char) : Bool := c = ']' || c = '{'
  let stop := start + Text.Cut.width (inside.takeWhile fun c => !isEnd c)
  match inside.dropWhile fun c => !isEnd c with
  | [] => .error .useless
  | mark :: rest => do
    let span ← part text start stop
    if mark = '{' then readField text source? span (stop + 1) rest
    else
      discard (readEnding text (stop + 1) rest)
      throw .useless

/-- The directive that a text without equals sign and bracket is. A word that is no verbosity is a
source, all of which is shown. -/
def ofWord (word : List Char) : Directive :=
  match Verbosity.read? word with
  | some verbosity => ⟨none, none, verbosity⟩
  | none => ⟨some (String.ofList word), none, .trace⟩

/-- Whether a character ends the first part of a directive. -/
def isMark (c : Char) : Bool := c = '=' || c = '['

/-- Whether the first part of a directive may begin with a character. -/
def canBegin (c : Char) : Bool := Text.isAlphanumeric c || ['-', ':', '_'].contains c

/-- Reads a directive. -/
def read (text : List Char) : Except Fault Directive :=
  let shape := Text.trim text
  let first := shape.takeWhile fun c => !isMark c
  let stop := Text.Cut.width first
  match first, shape.dropWhile fun c => !isMark c with
  | [], '[' :: inside => readBracket text none 1 inside
  | [], _ => .error .useless
  | c :: _, [] => if canBegin c then .ok (ofWord text) else .error .useless
  | c :: _, mark :: rest =>
    if canBegin c then do
      let source ← part text 0 stop
      if mark = '[' then readBracket text (some (String.ofList source)) (stop + 1) rest
      else
        let verbosity ← readVerbosity text (stop + 1)
        return ⟨some (String.ofList source), none, verbosity⟩
    else .error .useless

/-! ## Meaning -/

/-- The directive that comes after those of the user. -/
def standard : Directive := ⟨none, none, .info⟩

/-- Whether a directive concerns a notice. -/
def concerns (directive : Directive) (notice : Notice) : Bool :=
  directive.source?.all (fun source => source.toList.isPrefixOf notice.source.toList) &&
    directive.field?.all (· = Notice.fieldName)

/-- How specific a directive is: the length of the source counts first, and the field after it. -/
def specificity (directive : Directive) : Nat :=
  2 * (directive.source?.map fun source => source.length + 1).getD 0 +
    if directive.field?.isSome then 1 else 0

/-- The more specific one of two directives, and the second if they are equally specific. -/
def moreSpecific (first second : Directive) : Directive :=
  if first.specificity ≤ second.specificity then second else first

end Directive

end EmulatorScout.CommandLine
