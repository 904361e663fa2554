/-!
# Numerals

Reading of numbers written in the ten digits of ASCII. Any number of leading zeros is allowed, and
nothing but digits after the optional sign. The value is a natural number without bound; a caller
that wants a bounded number tests the value, so no numeral wraps around. Decimal fractions are only
recognised, as nothing needs their values.
-/

set_option autoImplicit false

namespace EmulatorScout.Text.Numeral

/-- Whether a character is one of the digits `0` to `9`. -/
def isDigit (c : Char) : Bool := '0' ≤ c && c ≤ '9'

/-- The number that a string of digits denotes. -/
def value (digits : List Char) : Nat :=
  digits.foldl (fun n c => 10 * n + (c.toNat - '0'.toNat)) 0

/-- The value of a text that consists of one or more digits. -/
def digits? (text : List Char) : Option Nat :=
  if text ≠ [] ∧ text.all isDigit then some (value text) else none

/-- The value of a text that consists of one or more digits after at most one plus sign. -/
def unsigned? : List Char → Option Nat
  | '+' :: digits => digits? digits
  | text => digits? text

/-- The value of a text that consists of one or more digits after at most one sign. -/
def signed? : List Char → Option Int
  | '-' :: digits => (digits? digits).map fun n => -(n : Int)
  | text => (unsigned? text).map Int.ofNat

/-- The value of an unsigned numeral that is at most `bound`. -/
def upTo? (bound : Nat) (text : List Char) : Option Nat :=
  (unsigned? text).filter (· ≤ bound)

/-- The value of a digit of base 16, in either case. -/
def hexValue? (c : Char) : Option Nat :=
  if '0' ≤ c && c ≤ '9' then some (c.toNat - '0'.toNat)
  else if 'a' ≤ c && c ≤ 'f' then some (c.toNat - 'a'.toNat + 10)
  else if 'A' ≤ c && c ≤ 'F' then some (c.toNat - 'A'.toNat + 10)
  else none

/-! ## Decimal fractions -/

/-- A text without its sign, if it has one. -/
def withoutSign : List Char → List Char
  | '+' :: text => text
  | '-' :: text => text
  | text => text

/-- Whether a text is the exponent of a fraction: nothing, or a mark and a whole number. -/
def isExponent : List Char → Bool
  | [] => true
  | c :: text => (c = 'e' || c = 'E') && (digits? (withoutSign text)).isSome

/-- Whether a text is a fraction without a sign: digits with at most one point among them or at one
of their ends, and then perhaps an exponent. -/
def isFraction (text : List Char) : Bool :=
  let whole := text.takeWhile isDigit
  match text.dropWhile isDigit with
  | '.' :: rest =>
    (whole ≠ [] || rest.takeWhile isDigit ≠ []) && isExponent (rest.dropWhile isDigit)
  | rest => whole ≠ [] && isExponent rest

/-- The words for what is no finite number. -/
def specialWords : List String := ["inf", "infinity", "nan"]

/-- Whether a text is a number after at most one sign: a fraction, or one of the special words, in
which case does not matter. -/
def isNumber (text : List Char) : Bool :=
  let rest := withoutSign text
  specialWords.contains (String.ofList (rest.map Char.toLower)) || isFraction rest

end EmulatorScout.Text.Numeral
