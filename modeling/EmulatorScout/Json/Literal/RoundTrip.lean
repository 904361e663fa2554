import EmulatorScout.Json.Literal

/-!
# Reading written literals

A literal that was written for a text decodes to that text (`decode_encode`), and a scan finds its end
at the quotation mark that follows it, since a quotation mark inside the text is escaped
(`scan_encode`).
-/

set_option autoImplicit false

namespace EmulatorScout.Json.Literal

/-! ## Single characters and escapes -/

theorem code?_digits (n : Nat) (h : n < 0x20) :
    code? '0' '0' (Nat.digitChar (n / 16)) (Nat.digitChar (n % 16)) = some n := by
  have hall : ∀ n : Fin 0x20,
      code? '0' '0' (Nat.digitChar (n.val / 16)) (Nat.digitChar (n.val % 16)) = some n.val := by
    decide +kernel
  exact hall ⟨n, h⟩

theorem decode_cons_of_ne {c : Char} (h : c ≠ '\\') (rest : List Char) :
    decode (c :: rest) = (decode rest).map (c :: ·) := by
  rw [decode.eq_def]
  split <;> simp_all

theorem scan_cons_of_ne {c : Char} (hquote : c ≠ '"') (hslash : c ≠ '\\') (hcode : ¬ c.toNat < 0x20)
    (rest : List Char) :
    scan (c :: rest) = (scan rest).map fun found => (c :: found.1, found.2) := by
  rw [scan.eq_def]
  grind

/-- An escape by letter stands for the character of the letter. -/
theorem decode_letter {letter c : Char} (hu : letter ≠ 'u') (h : letterEscape? letter = some c)
    (rest : List Char) : decode ('\\' :: letter :: rest) = (decode rest).map (c :: ·) := by
  rw [decode.eq_def]
  grind

theorem scan_letter {letter c : Char} (hu : letter ≠ 'u') (h : letterEscape? letter = some c)
    (rest : List Char) :
    scan ('\\' :: letter :: rest)
      = (scan rest).map fun found => ('\\' :: letter :: found.1, found.2) := by
  rw [scan.eq_def]
  grind

/-- A character is written as a backslash and a letter, by its code, or as itself. -/
theorem encodeChar_cases (c : Char) :
    (∃ letter, letter ≠ 'u' ∧ letterEscape? letter = some c ∧ encodeChar c = ['\\', letter]) ∨
      (c.toNat < 0x20 ∧ encodeChar c = escapeCode c) ∨
      (c ≠ '"' ∧ c ≠ '\\' ∧ ¬ c.toNat < 0x20 ∧ encodeChar c = [c]) := by
  by_cases hmark : c = '"' ∨ c = '\\'
  · rcases hmark with rfl | rfl
    · exact Or.inl ⟨'"', by decide, by decide, by decide⟩
    · exact Or.inl ⟨'\\', by decide, by decide, by decide⟩
  by_cases hletter : c = '\x08' ∨ c = '\x0c' ∨ c = '\n' ∨ c = '\r' ∨ c = '\t'
  · rcases hletter with rfl | rfl | rfl | rfl | rfl
    · exact Or.inl ⟨'b', by decide, by decide, by decide⟩
    · exact Or.inl ⟨'f', by decide, by decide, by decide⟩
    · exact Or.inl ⟨'n', by decide, by decide, by decide⟩
    · exact Or.inl ⟨'r', by decide, by decide, by decide⟩
    · exact Or.inl ⟨'t', by decide, by decide, by decide⟩
  have hform : encodeChar c = if c.toNat < 0x20 then escapeCode c else [c] := by
    simp only [not_or] at hmark hletter
    simp [encodeChar, hmark, hletter]
  by_cases hcode : c.toNat < 0x20
  · exact Or.inr (Or.inl ⟨hcode, by rw [hform, if_pos hcode]⟩)
  · simp only [not_or] at hmark
    exact Or.inr (Or.inr ⟨hmark.1, hmark.2, hcode, by rw [hform, if_neg hcode]⟩)

/-! ## Texts -/

theorem decode_encodeChar_append (c : Char) (rest : List Char) :
    decode (encodeChar c ++ rest) = (decode rest).map (c :: ·) := by
  rcases encodeChar_cases c with ⟨letter, hu, hletter, hform⟩ | ⟨hcode, hform⟩ | ⟨_, hslash, _, hform⟩
  · rw [hform]
    exact decode_letter hu hletter rest
  · -- A control character is no half of a surrogate pair.
    have hhigh : isHigh c.toNat = false := by simp [isHigh]; omega
    have hlow : isLow c.toNat = false := by simp [isLow]; omega
    rw [hform]
    simp [escapeCode, decode, code?_digits c.toNat hcode, hhigh, hlow, Char.ofNat_toNat]
  · rw [hform]
    exact decode_cons_of_ne hslash rest

/-- Decoding gives back the text that was written. -/
theorem decode_encode (text : List Char) : decode (encode text) = some text := by
  induction text with
  | nil => rfl
  | cons c rest ih =>
    have hsplit : encode (c :: rest) = encodeChar c ++ encode rest := List.flatMap_cons
    rw [hsplit, decode_encodeChar_append, ih, Option.map_some]

theorem scan_encodeChar_append (c : Char) (rest : List Char) :
    scan (encodeChar c ++ rest)
      = (scan rest).map fun found => (encodeChar c ++ found.1, found.2) := by
  rcases encodeChar_cases c with
    ⟨letter, hu, hletter, hform⟩ | ⟨hcode, hform⟩ | ⟨hquote, hslash, hcode, hform⟩
  · rw [hform]
    exact scan_letter hu hletter rest
  · rw [hform]
    simp [escapeCode, scan, code?_digits c.toNat hcode]
  · rw [hform]
    exact scan_cons_of_ne hquote hslash hcode rest

/-- A written literal ends at the mark after it, whatever text it stands for. -/
theorem scan_encode (text rest : List Char) :
    scan (encode text ++ '"' :: rest) = some (encode text, rest) := by
  induction text with
  | nil => rfl
  | cons c text ih =>
    have hsplit : encode (c :: text) = encodeChar c ++ encode text := List.flatMap_cons
    rw [hsplit, List.append_assoc, scan_encodeChar_append, ih, Option.map_some]

end EmulatorScout.Json.Literal
