import EmulatorScout.Text.Printable
import EmulatorScout.Text.Utf8

/-!
# Quoted texts in diagnostics

A diagnostic shows a text between quotation marks with everything escaped that could not be read
off the page: quotation marks, backslashes, control characters, and whatever `isPrintable` excludes.
Bytes that belong to no character are shown in hexadecimal, two digits each. An apostrophe needs no
escape, since it does not end a quotation.
-/

set_option autoImplicit false

namespace EmulatorScout.Text.Quoted

open Utf8 (Piece)

/-- The digits of a number in base 16, in lower case. -/
def hexDigits (n : Nat) : List Char := Nat.toDigits 16 n

/-- A byte as two hexadecimal digits in upper case. -/
def hexByte (b : UInt8) : List Char :=
  let digit (n : Nat) : Char := (Nat.digitChar n).toUpper
  [digit (b.toNat / 16), digit (b.toNat % 16)]

/-- The form of one character inside quotation marks. -/
def escapeChar (c : Char) : List Char :=
  if c = '\x00' then ['\\', '0']
  else if c = '\t' then ['\\', 't']
  else if c = '\r' then ['\\', 'r']
  else if c = '\n' then ['\\', 'n']
  else if c = '"' || c = '\\' then ['\\', c]
  else if isPrintable c then [c]
  else ['\\', 'u', '{'] ++ hexDigits c.toNat ++ ['}']

/-- The form of one piece of a byte string inside quotation marks. -/
def escapePiece : Piece → List Char
  | .char c => escapeChar c
  | .damaged bytes => bytes.flatMap fun b => '\\' :: 'x' :: hexByte b

/-- A message between quotation marks. -/
def message (text : String) : String :=
  String.ofList ('"' :: text.toList.flatMap escapeChar ++ ['"'])

/-- The bytes of a path between quotation marks. -/
def path (bytes : Bytes) : String :=
  String.ofList ('"' :: (Utf8.decode bytes).flatMap escapePiece ++ ['"'])

end EmulatorScout.Text.Quoted
