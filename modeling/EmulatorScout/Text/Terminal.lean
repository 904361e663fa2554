/-!
# Texts for terminals

A terminal obeys certain control characters, alone or as the start of a longer command. A notice may
carry a text from anywhere, so these characters are shown by their codes in it. Line ends, tabs and
the other control characters only move the cursor or do nothing, and they stay.
-/

set_option autoImplicit false

namespace EmulatorScout.Text.Terminal

/-- The control characters of one byte that a terminal obeys: bell, backspace, form feed, escape and
delete. -/
def commands : List Char := ['\x07', '\x08', '\x0c', '\x1b', '\x7f']

/-- Whether a character is one of the control characters above ASCII, each of which stands for an
escape and a letter. -/
def isHighControl (c : Char) : Bool := 0x80 ≤ c.toNat && c.toNat ≤ 0x9F

/-- A character as it is shown. -/
def showChar (c : Char) : List Char :=
  if commands.contains c then
    ['\\', 'x', Nat.digitChar (c.toNat / 16), Nat.digitChar (c.toNat % 16)]
  else if isHighControl c then ['\\', 'u', '{'] ++ Nat.toDigits 16 c.toNat ++ ['}']
  else [c]

def shown (text : String) : String := String.ofList (text.toList.flatMap showChar)

end EmulatorScout.Text.Terminal
