import EmulatorScout.Json.Literal

/-!
# JSON texts as trees

Reading of a JSON text into a tree that keeps string literals and numbers as they are written. The
reader checks the form of the whole text, at any depth of nesting, and leaves it to the user of the
tree to decode the strings that matter. White space may stand between any two tokens: spaces, tabs,
line feeds and carriage returns, and nothing else.

The reader descends into brackets with a bound on its depth that the length of the text provides.
-/

set_option autoImplicit false

namespace EmulatorScout.Json

/-- A JSON text as a tree. -/
inductive Written where
  /-- The null value. -/
  | null
  /-- A truth value. -/
  | truth (value : Bool)
  /-- A number, as written. -/
  | number (digits : List Char)
  /-- A string, as written between its quotation marks. -/
  | string (literal : List Char)
  /-- An array. -/
  | array (items : List Written)
  /-- An object, its names as written. -/
  | object (members : List (List Char × Written))
  deriving Inhabited

namespace Written

/-- Whether a character may stand between tokens. -/
def isSpace (c : Char) : Bool := c = ' ' || c = '\n' || c = '\t' || c = '\r'

/-- The text from its next token on. -/
def skipSpace (text : List Char) : List Char := text.dropWhile isSpace

/-! ## Numbers -/

/-- Whether a character is a digit of a number. -/
def isDigit (c : Char) : Bool := '0' ≤ c && c ≤ '9'

/-- One or more digits, and what follows them. -/
def scanDigits (text : List Char) : Option (List Char × List Char) :=
  match text.takeWhile isDigit with
  | [] => none
  | digits => some (digits, text.dropWhile isDigit)

/-- The digits before the point: no zero may stand before another digit. -/
def scanWhole : List Char → Option (List Char × List Char)
  | '0' :: rest =>
    match rest with
    | c :: _ => if isDigit c then none else some (['0'], rest)
    | [] => some (['0'], rest)
  | text => scanDigits text

/-- The point and the digits after it, if a point follows. -/
def scanFraction : List Char → Option (List Char × List Char)
  | '.' :: rest => (scanDigits rest).map fun found => ('.' :: found.1, found.2)
  | text => some ([], text)

/-- The sign of an exponent, if one follows. -/
def scanSign : List Char → List Char × List Char
  | '+' :: rest => (['+'], rest)
  | '-' :: rest => (['-'], rest)
  | text => ([], text)

/-- The exponent, if one follows. -/
def scanExponent : List Char → Option (List Char × List Char)
  | c :: rest =>
    if c = 'e' || c = 'E' then
      (scanDigits (scanSign rest).2).map fun found => (c :: (scanSign rest).1 ++ found.1, found.2)
    else some ([], c :: rest)
  | [] => some ([], [])

/-- A number without its sign, and what follows it. -/
def scanMagnitude (text : List Char) : Option (List Char × List Char) :=
  (scanWhole text).bind fun whole =>
    (scanFraction whole.2).bind fun fraction =>
      (scanExponent fraction.2).map fun exponent =>
        (whole.1 ++ fraction.1 ++ exponent.1, exponent.2)

/-- A number, and what follows it. -/
def scanNumber : List Char → Option (List Char × List Char)
  | '-' :: rest => (scanMagnitude rest).map fun found => ('-' :: found.1, found.2)
  | text => scanMagnitude text

/-! ## Values -/

/-- The name of a member with the colon after it, and what follows. -/
def scanName (text : List Char) : Option (List Char × List Char) :=
  match skipSpace text with
  | '"' :: rest =>
    (Literal.scan rest).bind fun found =>
      match skipSpace found.2 with
      | ':' :: rest => some (found.1, rest)
      | _ => none
  | _ => none

mutual

/-- The value at the start of a text, and what follows it. The number bounds the depth. -/
def scanValue : Nat → List Char → Option (Written × List Char)
  | 0, _ => none
  | depth + 1, text =>
    match skipSpace text with
    | 'n' :: 'u' :: 'l' :: 'l' :: rest => some (.null, rest)
    | 't' :: 'r' :: 'u' :: 'e' :: rest => some (.truth true, rest)
    | 'f' :: 'a' :: 'l' :: 's' :: 'e' :: rest => some (.truth false, rest)
    | '"' :: rest => (Literal.scan rest).map fun found => (.string found.1, found.2)
    | '[' :: rest =>
      match skipSpace rest with
      | ']' :: rest => some (.array [], rest)
      | rest =>
        (scanValue depth rest).bind fun item =>
          (scanItems depth item.2).map fun items => (.array (item.1 :: items.1), items.2)
    | '{' :: rest =>
      match skipSpace rest with
      | '}' :: rest => some (.object [], rest)
      | rest =>
        (scanName rest).bind fun name =>
          (scanValue depth name.2).bind fun value =>
            (scanMembers depth value.2).map fun members =>
              (.object ((name.1, value.1) :: members.1), members.2)
    | rest => (scanNumber rest).map fun found => (.number found.1, found.2)

/-- The items after the first one with their commas, up to the closing bracket. -/
def scanItems : Nat → List Char → Option (List Written × List Char)
  | 0, _ => none
  | depth + 1, text =>
    match skipSpace text with
    | ']' :: rest => some ([], rest)
    | ',' :: rest =>
      (scanValue depth rest).bind fun item =>
        (scanItems depth item.2).map fun items => (item.1 :: items.1, items.2)
    | _ => none

/-- The members after the first one with their commas, up to the closing brace. -/
def scanMembers : Nat → List Char → Option (List (List Char × Written) × List Char)
  | 0, _ => none
  | depth + 1, text =>
    match skipSpace text with
    | '}' :: rest => some ([], rest)
    | ',' :: rest =>
      (scanName rest).bind fun name =>
        (scanValue depth name.2).bind fun value =>
          (scanMembers depth value.2).map fun members =>
            ((name.1, value.1) :: members.1, members.2)
    | _ => none

end

/-- The tree of a text that is one JSON value with nothing but white space around it. -/
def read? (text : List Char) : Option Written :=
  (scanValue (text.length + 1) text).bind fun found =>
    if skipSpace found.2 = [] then some found.1 else none

end Written

end EmulatorScout.Json
