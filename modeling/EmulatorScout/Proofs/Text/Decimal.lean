import EmulatorScout.Proofs.Text.Numeral
import Mathlib.Data.Nat.Digits.Defs

/-!
# Decimal numerals in the positional system

What digits denote in base 10 (`Numeral.positional`), and the reader of bounded numerals in terms of it:
a trimmed text is read as a number exactly if the text denotes the number, with white space, a plus sign
and any number of zeros allowed, and the number is in bounds (`Numeral.upTo?_trim_eq_some_iff`). A text
that is not read is empty, has a character that is no digit, or denotes a number out of bounds
(`Numeral.upTo?_eq_none_iff`).
-/

set_option autoImplicit false

namespace EmulatorScout.Text.Numeral

/-- The number that digits denote: the last digit counts once, and each of the others ten times what the
one after it counts. -/
def positional (digits : List Char) : Nat :=
  Nat.ofDigits 10 (digits.reverse.map fun c => c.toNat - '0'.toNat)

/-- A reader from the left finds the number that the digits denote. -/
theorem value_eq_positional (digits : List Char) : value digits = positional digits := by
  rw [value, positional, Nat.ofDigits_eq_foldr, List.foldr_map, List.foldr_reverse]
  simp only [Nat.cast_id, Nat.add_comm]

/-! ## Signs and white space -/

/-- A text without the plus sign that it may begin with. -/
def withoutPlus : List Char → List Char
  | '+' :: text => text
  | text => text

/-- A text is a plus sign or nothing, followed by the text without the plus sign. -/
theorem exists_sign (text : List Char) :
    ∃ sign, (sign = [] ∨ sign = ['+']) ∧ text = sign ++ withoutPlus text := by
  unfold withoutPlus
  split
  · exact ⟨['+'], .inr rfl, rfl⟩
  · exact ⟨[], .inl rfl, rfl⟩

/-- What follows a sign is the text without it, unless it begins with a plus sign of its own. -/
theorem withoutPlus_append {sign text : List Char} (hsign : sign = [] ∨ sign = ['+'])
    (h : text.head? ≠ some '+') : withoutPlus (sign ++ text) = text := by
  obtain rfl | rfl := hsign
  · rw [List.nil_append]
    unfold withoutPlus
    split
    · exact absurd rfl h
    · rfl
  · rfl

/-- A text that denotes a number: digits that do, with at most one plus sign in front and white space
around. -/
def Denotes (text : List Char) (n : Nat) : Prop :=
  ∃ before sign digits after, text = before ++ (sign ++ digits) ++ after ∧
    (∀ c ∈ before, isBlank c = true) ∧ (∀ c ∈ after, isBlank c = true) ∧
    (sign = [] ∨ sign = ['+']) ∧ digits ≠ [] ∧ (∀ c ∈ digits, isDigit c = true) ∧
    positional digits = n

/-- A text denotes a number exactly if the digits do that are left of it without white space around
and a plus sign in front. -/
theorem denotes_iff {text : List Char} {n : Nat} :
    Denotes text n ↔
      withoutPlus (trim text) ≠ [] ∧ (∀ c ∈ withoutPlus (trim text), isDigit c = true) ∧
        positional (withoutPlus (trim text)) = n := by
  constructor
  · rintro ⟨before, sign, digits, after, rfl, hbefore, hafter, hsign, hne, hdigits, rfl⟩
    have hstart : ∀ c ∈ (sign ++ digits).head?, isBlank c = false := by
      obtain rfl | rfl := hsign
      · exact fun c hc => isBlank_of_isDigit (hdigits c (List.mem_of_head? hc))
      · rintro c hc
        obtain rfl : '+' = c := Option.some.inj hc
        decide
    have hend : ∀ c ∈ (sign ++ digits).getLast?, isBlank c = false := by
      rw [List.getLast?_append_of_ne_nil _ hne]
      exact fun c hc => isBlank_of_isDigit (hdigits c (List.mem_of_getLast? hc))
    have hfirst : digits.head? ≠ some '+' := fun hplus =>
      absurd (hdigits '+' (List.mem_of_head? hplus)) (by decide)
    -- neither end of the sign and the digits is white space, so trimming leaves just them
    have hrest : withoutPlus (trim (before ++ (sign ++ digits) ++ after)) = digits := by
      rw [trim_surrounded hbefore hafter (List.append_ne_nil_of_right_ne_nil sign hne) hstart hend,
        withoutPlus_append hsign hfirst]
    rw [hrest]
    exact ⟨hne, hdigits, rfl⟩
  · rintro ⟨hne, hdigits, hvalue⟩
    obtain ⟨before, after, hbefore, hafter, htext⟩ := exists_around_trim text
    obtain ⟨sign, hsign, htrim⟩ := exists_sign (trim text)
    exact ⟨before, sign, withoutPlus (trim text), after, htrim ▸ htext, hbefore, hafter, hsign, hne,
      hdigits, hvalue⟩

theorem Denotes.unique {text : List Char} {m n : Nat} (hm : Denotes text m) (hn : Denotes text n) :
    m = n :=
  (denotes_iff.1 hm).2.2.symm.trans (denotes_iff.1 hn).2.2

/-! ## Reading -/

theorem digits?_eq_some_iff {text : List Char} {n : Nat} :
    digits? text = some n ↔
      text ≠ [] ∧ (∀ c ∈ text, isDigit c = true) ∧ positional text = n := by
  rw [digits?, Option.ite_none_right_eq_some, Option.some_inj, List.all_eq_true,
    value_eq_positional, and_assoc]

/-- The sign of a numeral has no part in its value. -/
theorem unsigned?_eq_digits? (text : List Char) : unsigned? text = digits? (withoutPlus text) := by
  unfold unsigned?
  split
  · rfl
  · rename_i hsign
    rw [withoutPlus]
    exact hsign

/-- A text is read as a number exactly if it is made of digits after at most one plus sign, and they
denote the number, and it is in bounds. -/
theorem upTo?_eq_some_iff {bound n : Nat} {text : List Char} :
    upTo? bound text = some n ↔
      withoutPlus text ≠ [] ∧ (∀ c ∈ withoutPlus text, isDigit c = true) ∧
        positional (withoutPlus text) = n ∧ n ≤ bound := by
  rw [upTo?, Option.filter_eq_some_iff, unsigned?_eq_digits?, digits?_eq_some_iff,
    decide_eq_true_iff, and_assoc, and_assoc]

/-- A trimmed text is read as the number that the text denotes, if that is in bounds. -/
theorem upTo?_trim_eq_some_iff {bound n : Nat} {text : List Char} :
    upTo? bound (trim text) = some n ↔ Denotes text n ∧ n ≤ bound := by
  rw [upTo?_eq_some_iff, denotes_iff, and_assoc, and_assoc]

/-- A text is not read as a number exactly if it is empty or a lone sign, or has a character that is
no digit, or denotes a number out of bounds. -/
theorem upTo?_eq_none_iff {bound : Nat} {text : List Char} :
    upTo? bound text = none ↔
      withoutPlus text = [] ∨ (∃ c ∈ withoutPlus text, isDigit c = false) ∨
        bound < positional (withoutPlus text) := by
  rw [Option.eq_none_iff_forall_ne_some]
  constructor
  · intro hnone
    by_contra hsound
    obtain ⟨hne, hsound⟩ := not_or.1 hsound
    obtain ⟨hdigits, hbound⟩ := not_or.1 hsound
    have hall : ∀ c ∈ withoutPlus text, isDigit c = true := fun c hc =>
      Bool.not_eq_false _ |>.mp fun hfalse => hdigits ⟨c, hc, hfalse⟩
    exact hnone _ (upTo?_eq_some_iff.2 ⟨hne, hall, rfl, Nat.not_lt.1 hbound⟩)
  · intro hfault n hread
    obtain ⟨hne, hall, rfl, hbound⟩ := upTo?_eq_some_iff.1 hread
    rcases hfault with hempty | ⟨c, hc, hfalse⟩ | hlarge
    · exact hne hempty
    · rw [hall c hc] at hfalse
      cases hfalse
    · exact Nat.not_lt.2 hbound hlarge

end EmulatorScout.Text.Numeral
