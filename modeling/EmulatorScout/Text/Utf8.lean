/-!
# Bytes and characters

UTF-8 in both directions. `encode` writes characters as bytes. `decode` reads any byte string as a
list of pieces: whole characters, and the damaged stretches between them. A damaged stretch is as
long as it can be while it still begins some character, and one byte otherwise, so a reader that
puts one replacement character in place of each stretch shows every damage once.

`decode` is a machine that takes one byte at a time and holds the bytes of the character it has
begun. Since a byte below 0x80 never continues a character, such a byte separates what stands
before it from what stands after it, whatever damage there is on either side.
-/

set_option autoImplicit false

namespace EmulatorScout

/-- A byte string, first byte first. -/
abbrev Bytes := List UInt8

namespace Text.Utf8

/-! ## Writing -/

/-- The bytes of one character, from the code in base 64: one to four of them. -/
def encodeChar (c : Char) : Bytes :=
  let code := c.toNat
  let tail (n : Nat) : UInt8 := UInt8.ofNat (0x80 + n % 64)
  if code < 0x80 then [UInt8.ofNat code]
  else if code < 0x800 then [UInt8.ofNat (0xC0 + code / 64), tail code]
  else if code < 0x10000 then
    [UInt8.ofNat (0xE0 + code / 4096), tail (code / 64), tail code]
  else
    [UInt8.ofNat (0xF0 + code / 262144), tail (code / 4096), tail (code / 64), tail code]

def encode (text : List Char) : Bytes := text.flatMap encodeChar

/-! ## Reading -/

/-- A stretch of a byte string. -/
inductive Piece where
  /-- The bytes of one character. -/
  | char (c : Char)
  /-- Bytes that belong to no character. -/
  | damaged (bytes : Bytes)
  deriving DecidableEq, Repr

/-- What the bytes of a character that was begun amount to. -/
inductive Progress where
  /-- They are a whole character. -/
  | whole (c : Char)
  /-- They begin a character and more bytes have to follow. -/
  | begun
  /-- No character begins with them. -/
  | refused
  deriving DecidableEq, Repr

/-- Whether a byte may stand after the first byte of a character. -/
def isTail (b : UInt8) : Bool := 0x80 ≤ b && b ≤ 0xBF

/-- Whether `b` may follow the first byte `lead`. The bounds beyond `isTail` rule out codes that
have a shorter form, surrogate codes, and codes above 0x10FFFF. -/
def isSecond (lead b : UInt8) : Bool :=
  isTail b &&
    (if lead = 0xE0 then 0xA0 ≤ b
    else if lead = 0xED then b ≤ 0x9F
    else if lead = 0xF0 then 0x90 ≤ b
    else if lead = 0xF4 then b ≤ 0x8F
    else true)

/-- The number that a byte after the first contributes. -/
def tailValue (b : UInt8) : Nat := b.toNat % 64

/-- How far the given bytes, of which all but the last were found to begin a character, have come. -/
def progress : Bytes → Progress
  | [a] =>
    if a < 0x80 then .whole (Char.ofNat a.toNat)
    else if 0xC2 ≤ a && a ≤ 0xF4 then .begun else .refused
  | [a, b] =>
    if isSecond a b then
      if a ≤ 0xDF then .whole (Char.ofNat (a.toNat % 32 * 64 + tailValue b)) else .begun
    else .refused
  | [a, b, c] =>
    if isTail c then
      if a ≤ 0xEF then
        .whole (Char.ofNat (a.toNat % 16 * 4096 + tailValue b * 64 + tailValue c))
      else .begun
    else .refused
  | [a, b, c, d] =>
    if isTail d then
      .whole (Char.ofNat
        (a.toNat % 8 * 262144 + tailValue b * 4096 + tailValue c * 64 + tailValue d))
    else .refused
  | _ => .refused

/-- The damaged stretch that ends where the held bytes end, if any are held. -/
def damage : Bytes → List Piece
  | [] => []
  | held => [.damaged held]

/-- Reads on after the bytes `held` of a character that was begun. A byte that cannot continue the
character ends a damaged stretch and is looked at again as a first byte. -/
def decodeAfter (held : Bytes) : Bytes → List Piece
  | [] => damage held
  | b :: rest =>
    match progress (held ++ [b]) with
    | .whole c => .char c :: decodeAfter [] rest
    | .begun => decodeAfter (held ++ [b]) rest
    | .refused =>
      damage held ++
        match progress [b] with
        | .whole c => .char c :: decodeAfter [] rest
        | .begun => decodeAfter [b] rest
        | .refused => .damaged [b] :: decodeAfter [] rest

/-- The pieces of a byte string, in order. -/
def decode (bytes : Bytes) : List Piece := decodeAfter [] bytes

/-- The character shown for a piece: a damaged stretch appears as one replacement character. -/
def Piece.shown : Piece → Char
  | .char c => c
  | .damaged _ => Char.ofNat 0xFFFD

/-- The character of a piece, or nothing for a damaged stretch. -/
def Piece.char? : Piece → Option Char
  | .char c => some c
  | .damaged _ => none

/-- The text of any byte string, each damaged stretch shown as one replacement character. -/
def lossy (bytes : Bytes) : List Char := (decode bytes).map Piece.shown

/-- The text of an undamaged byte string. -/
def read? (bytes : Bytes) : Option (List Char) := (decode bytes).mapM Piece.char?

end Text.Utf8

/-- The UTF-8 bytes of a string. -/
def Bytes.ofString (text : String) : Bytes := Text.Utf8.encode text.toList

/-- The string that the bytes spell, if they are undamaged UTF-8. -/
def Bytes.text? (bytes : Bytes) : Option String := (Text.Utf8.read? bytes).map String.ofList

/-- The string that the bytes spell, with a replacement character for each damaged stretch. -/
def Bytes.shown (bytes : Bytes) : String := String.ofList (Text.Utf8.lossy bytes)

end EmulatorScout
