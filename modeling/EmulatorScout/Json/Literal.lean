import EmulatorScout.Text.Numeral

/-!
# String literals of JSON

What stands between the quotation marks of a JSON string. `encode` writes a text with the shortest
escapes. `scan` finds the end of a literal and checks its form without decoding it, and `decode`
gives the text that a scanned literal stands for. The two checks differ in one point: an escape by
number may name half of a surrogate pair. Such a literal has the right form, but alone that half is
no character, so the literal stands for no text.
-/

set_option autoImplicit false

namespace EmulatorScout.Json.Literal

open Text.Numeral (hexValue?)

/-! ## Writing -/

/-- The escape of a control character: its code in four digits of base 16, in lower case. -/
def escapeCode (c : Char) : List Char :=
  ['\\', 'u', '0', '0', Nat.digitChar (c.toNat / 16), Nat.digitChar (c.toNat % 16)]

/-- The written form of one character. -/
def encodeChar (c : Char) : List Char :=
  if c = '"' || c = '\\' then ['\\', c]
  else if c = '\x08' then ['\\', 'b']
  else if c = '\x0c' then ['\\', 'f']
  else if c = '\n' then ['\\', 'n']
  else if c = '\r' then ['\\', 'r']
  else if c = '\t' then ['\\', 't']
  else if c.toNat < 0x20 then escapeCode c
  else [c]

def encode (text : List Char) : List Char := text.flatMap encodeChar

/-! ## Reading -/

/-- The number that four digits of base 16 denote. -/
def code? (a b c d : Char) : Option Nat :=
  match hexValue? a, hexValue? b, hexValue? c, hexValue? d with
  | some a, some b, some c, some d => some (((a * 16 + b) * 16 + c) * 16 + d)
  | _, _, _, _ => none

/-- The character that a backslash and a letter stand for. -/
def letterEscape? (c : Char) : Option Char :=
  if c = '"' || c = '\\' || c = '/' then some c
  else if c = 'b' then some '\x08'
  else if c = 'f' then some '\x0c'
  else if c = 'n' then some '\n'
  else if c = 'r' then some '\r'
  else if c = 't' then some '\t'
  else none

/-- Splits what follows an opening quotation mark into the literal and what follows the closing
mark. -/
def scan : List Char → Option (List Char × List Char)
  | [] => none
  | '"' :: rest => some ([], rest)
  | '\\' :: 'u' :: a :: b :: c :: d :: rest =>
    if (code? a b c d).isSome then
      (scan rest).map fun found => ('\\' :: 'u' :: a :: b :: c :: d :: found.1, found.2)
    else none
  | '\\' :: letter :: rest =>
    if (letterEscape? letter).isSome then
      (scan rest).map fun found => ('\\' :: letter :: found.1, found.2)
    else none
  | ['\\'] => none
  | c :: rest =>
    if c.toNat < 0x20 then none else (scan rest).map fun found => (c :: found.1, found.2)

/-- Whether a number is the first half of a surrogate pair. -/
def isHigh (n : Nat) : Bool := 0xD800 ≤ n && n ≤ 0xDBFF

/-- Whether a number is the second half of a surrogate pair. -/
def isLow (n : Nat) : Bool := 0xDC00 ≤ n && n ≤ 0xDFFF

/-- The character of a surrogate pair. -/
def pairChar (high low : Nat) : Char :=
  Char.ofNat (0x10000 + (high - 0xD800) * 0x400 + (low - 0xDC00))

/-- The text that a literal stands for. -/
def decode : List Char → Option (List Char)
  | [] => some []
  | '\\' :: 'u' :: a :: b :: c :: d :: rest =>
    match code? a b c d with
    | none => none
    | some first =>
      if isHigh first then
        match rest with
        | '\\' :: 'u' :: e :: f :: g :: h :: rest =>
          match code? e f g h with
          | none => none
          | some second =>
            if isLow second then (decode rest).map (pairChar first second :: ·) else none
        | _ => none
      else if isLow first then none
      else (decode rest).map (Char.ofNat first :: ·)
  | '\\' :: letter :: rest =>
    match letterEscape? letter with
    | some c => (decode rest).map (c :: ·)
    | none => none
  | ['\\'] => none
  | c :: rest => (decode rest).map (c :: ·)

end EmulatorScout.Json.Literal
