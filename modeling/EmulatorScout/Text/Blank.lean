import EmulatorScout.Text.CodeRange

/-!
# White space

The characters of the standard property White_Space, and the removal of white space from the ends
of a text. Line ends are white space too, so a trimmed line carries none at its ends.
-/

set_option autoImplicit false

namespace EmulatorScout.Text

/-- The ranges of the property White_Space: 25 characters. -/
def blankRanges : List (Nat × Nat) :=
  [(0x9, 0xD), (0x20, 0x20), (0x85, 0x85), (0xA0, 0xA0), (0x1680, 0x1680), (0x2000, 0x200A),
    (0x2028, 0x2029), (0x202F, 0x202F), (0x205F, 0x205F), (0x3000, 0x3000)]

/-- Whether a character is white space. -/
def isBlank (c : Char) : Bool := inRanges blankRanges c

/-- The text without the white space at its start. -/
def trimStart (text : List Char) : List Char := text.dropWhile isBlank

/-- The text without the white space at its end. -/
def trimEnd (text : List Char) : List Char := (text.reverse.dropWhile isBlank).reverse

/-- The text without the white space at its two ends. -/
def trim (text : List Char) : List Char := trimEnd (trimStart text)

/-- A string without the white space at its two ends. -/
def trimmed (text : String) : String := String.ofList (trim text.toList)

end EmulatorScout.Text
