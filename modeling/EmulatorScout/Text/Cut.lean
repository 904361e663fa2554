/-!
# Cutting texts by bytes

A place in a text can be given by its distance from the beginning, in bytes of the text's UTF-8 form.
Such a distance may lead into the middle of a character. There a text cannot be cut, and so the
functions of this module answer with an option.
-/

set_option autoImplicit false

namespace EmulatorScout.Text.Cut

/-- The number of bytes of a text. -/
def width : List Char → Nat
  | [] => 0
  | c :: text => c.utf8Size + width text

/-- The text after the given number of bytes. -/
def after? : List Char → Nat → Option (List Char)
  | text, 0 => some text
  | [], _ + 1 => none
  | c :: text, bytes =>
    if c.utf8Size ≤ bytes then after? text (bytes - c.utf8Size) else none

/-- The first characters of a text that make the given number of bytes. -/
def before? : List Char → Nat → Option (List Char)
  | _, 0 => some []
  | [], _ + 1 => none
  | c :: text, bytes =>
    if c.utf8Size ≤ bytes then (before? text (bytes - c.utf8Size)).map (c :: ·) else none

/-- The text between two distances. -/
def piece? (text : List Char) (start stop : Nat) : Option (List Char) :=
  (after? text start).bind fun rest => before? rest (stop - start)

end EmulatorScout.Text.Cut
