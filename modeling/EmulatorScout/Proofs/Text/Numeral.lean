import EmulatorScout.Proofs.Text.Blank
import EmulatorScout.Text.Numeral

/-!
# Numerals and the numbers that they denote

A text of digits is read with its value as long as the value is in bounds (`upTo?_of_digits`). Every
number is the value of many such texts, of which one is canonical: the only one that neither is `0`
with more digits nor begins with a zero (`value_toDigits`, `isCanonical_toDigits`,
`toDigits_value`).
-/

set_option autoImplicit false

namespace EmulatorScout.Text.Numeral

/-! ## Digits -/

theorem isDigit_iff {c : Char} : isDigit c = true ↔ 48 ≤ c.toNat ∧ c.toNat ≤ 57 := by
  rw [isDigit, Bool.and_eq_true, decide_eq_true_iff, decide_eq_true_iff, Char.le_def, Char.le_def,
    UInt32.le_iff_toNat_le, UInt32.le_iff_toNat_le]
  rfl

theorem isBlank_of_isDigit {c : Char} (h : isDigit c = true) : isBlank c = false := by
  rw [isDigit_iff] at h
  rw [Bool.eq_false_iff, ne_eq, isBlank, inRanges_iff]
  rintro ⟨range, hrange, hcode⟩
  simp only [blankRanges, List.mem_cons, List.not_mem_nil, or_false] at hrange
  rcases hrange with rfl | rfl | rfl | rfl | rfl | rfl | rfl | rfl | rfl | rfl <;> omega

theorem digitChar_value {c : Char} (h : isDigit c = true) : Nat.digitChar (c.toNat - 48) = c := by
  rw [isDigit_iff] at h
  apply Char.toNat_inj.1
  rw [Nat.toNat_digitChar_of_lt_ten (by omega)]
  omega

theorem isDigit_of_mem_toDigits {n : Nat} {c : Char} (h : c ∈ Nat.toDigits 10 n) :
    isDigit c = true := by
  have hdigit := Nat.isDigit_of_mem_toDigits (by decide) (by decide) h
  rw [Char.isDigit, Bool.and_eq_true, decide_eq_true_iff, decide_eq_true_iff] at hdigit
  rw [isDigit, Bool.and_eq_true, decide_eq_true_iff, decide_eq_true_iff]
  exact hdigit

/-- No number but zero is written with a zero first. -/
theorem head?_toDigits_ne {n : Nat} (h : 0 < n) : (Nat.toDigits 10 n).head? ≠ some '0' := by
  -- the first digit of a number of more than one digit is that of its tenth
  induction n using Nat.strongRecOn with
  | ind n ih =>
    by_cases hsmall : n < 10
    · rw [Nat.toDigits_of_lt_base hsmall]
      have hall : ∀ n : Fin 10, 0 < n.val → [n.val.digitChar].head? ≠ some '0' := by decide
      exact hall ⟨n, hsmall⟩ h
    · rw [Nat.toDigits_of_base_le (by decide) (Nat.not_lt.1 hsmall)]
      obtain ⟨first, others, hdigits⟩ := List.exists_cons_of_ne_nil
        (@Nat.toDigits_ne_nil (n / 10) 10)
      have hfirst := ih (n / 10) (by omega) (by omega)
      rw [hdigits] at hfirst ⊢
      exact hfirst

/-! ## Canonical numerals -/

/-- Whether a text is a numeral with nothing in it that is not needed: digits alone, and no zero in front
of others. -/
def IsCanonical (text : List Char) : Prop :=
  text ≠ [] ∧ (∀ c ∈ text, isDigit c = true) ∧ (text.head? = some '0' → text = ['0'])

theorem value_toDigits (n : Nat) : value (Nat.toDigits 10 n) = n := by
  rw [value, ← Nat.ofDigitChars_eq_foldl, Nat.ofDigitChars_ten_toDigits]

theorem isCanonical_toDigits (n : Nat) : IsCanonical (Nat.toDigits 10 n) := by
  refine ⟨Nat.toDigits_ne_nil, fun c => isDigit_of_mem_toDigits, fun hhead => ?_⟩
  cases n with
  | zero => exact Nat.toDigits_zero 10
  | succ n => exact absurd hhead (head?_toDigits_ne (Nat.succ_pos n))

/-- Digits after those of a number other than zero are the last digits of a number. -/
theorem toDigits_ofDigitChars {n : Nat} (hn : 0 < n) {digits : List Char}
    (h : ∀ c ∈ digits, isDigit c = true) :
    Nat.toDigits 10 (Nat.ofDigitChars 10 digits n) = Nat.toDigits 10 n ++ digits := by
  induction digits generalizing n with
  | nil => simp
  | cons c digits ih =>
    have hc := isDigit_iff.1 (h c List.mem_cons_self)
    have hlast : c.toNat - 48 < 10 := by omega
    have hdigits : ∀ c ∈ digits, isDigit c = true := fun c hc => h c (List.mem_cons_of_mem _ hc)
    have hstep : Nat.toDigits 10 (10 * n + (c.toNat - 48)) = Nat.toDigits 10 n ++ [c] := by
      rw [← Nat.toDigits_append_toDigits (by decide) hn hlast, Nat.toDigits_of_lt_base hlast,
        digitChar_value (h c List.mem_cons_self)]
    calc Nat.toDigits 10 (Nat.ofDigitChars 10 (c :: digits) n)
        = Nat.toDigits 10 (Nat.ofDigitChars 10 digits (10 * n + (c.toNat - 48))) := by
          rw [Nat.ofDigitChars_cons]
          rfl
      _ = Nat.toDigits 10 (10 * n + (c.toNat - 48)) ++ digits := ih (by omega) hdigits
      _ = Nat.toDigits 10 n ++ c :: digits := by
          rw [hstep, List.append_assoc, List.singleton_append]

theorem toDigits_value {text : List Char} (h : IsCanonical text) :
    Nat.toDigits 10 (value text) = text := by
  obtain ⟨hne, hdigits, hzero⟩ := h
  cases text with
  | nil => exact absurd rfl hne
  | cons first rest =>
    by_cases hfirst : first = '0'
    · rw [hzero (congrArg some hfirst)]
      rfl
    · have hcode := isDigit_iff.1 (hdigits first List.mem_cons_self)
      have hnonzero : first.toNat ≠ 48 := fun h => hfirst (Char.toNat_inj.1 h)
      have hlast : first.toNat - 48 < 10 := by omega
      have hrest : ∀ c ∈ rest, isDigit c = true :=
        fun c hc => hdigits c (List.mem_cons_of_mem _ hc)
      have hvalue : value (first :: rest) = Nat.ofDigitChars 10 rest (first.toNat - 48) := by
        rw [value, ← Nat.ofDigitChars_eq_foldl, Nat.ofDigitChars_cons, Nat.mul_zero, Nat.zero_add]
        rfl
      rw [hvalue, toDigits_ofDigitChars (by omega) hrest, Nat.toDigits_of_lt_base hlast,
        digitChar_value (hdigits first List.mem_cons_self), List.singleton_append]

/-! ## Reading -/

theorem trim_of_digits {text : List Char} (h : ∀ c ∈ text, isDigit c = true) : trim text = text := by
  have hend : ∀ c ∈ text.getLast?, isBlank c = false :=
    fun c hc => isBlank_of_isDigit (h c (List.mem_of_getLast? hc))
  have hstart : ∀ c ∈ text.head?, isBlank c = false :=
    fun c hc => isBlank_of_isDigit (h c (List.mem_of_head? hc))
  rw [trim, trimStart_eq_self hstart, trimEnd_eq_self hend]

section Reading

variable {text : List Char} (hne : text ≠ []) (hdigits : ∀ c ∈ text, isDigit c = true)
include hne hdigits

theorem unsigned?_of_digits : unsigned? text = some (value text) := by
  have hread : digits? text = some (value text) :=
    if_pos ⟨hne, List.all_eq_true.2 hdigits⟩
  cases text with
  | nil => exact absurd rfl hne
  | cons first rest =>
    rw [unsigned?]
    · exact hread
    · rintro digits heq
      obtain rfl := (List.cons.inj heq).1
      exact absurd (hdigits '+' List.mem_cons_self) (by decide)

/-- A text of digits is read exactly if its value is in bounds. -/
theorem upTo?_of_digits (bound : Nat) :
    upTo? bound text = if value text ≤ bound then some (value text) else none := by
  rw [upTo?, unsigned?_of_digits hne hdigits, Option.filter_some]
  simp

end Reading

end EmulatorScout.Text.Numeral
