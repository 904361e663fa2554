import EmulatorScout.Json.Literal.RoundTrip

/-!
# The form of string literals

Between the quotation marks of a string stand plain characters and escapes by letter or by number
(`Literal.IsLiteral`). A scan takes such a literal whole, up to the mark that closes it
(`Literal.scan_append`), and it takes nothing else (`Literal.isLiteral_of_scan`). A literal may have the
form and still stand for no text.
-/

set_option autoImplicit false

namespace EmulatorScout.Json.Literal

/-- What may stand between the quotation marks of a string. -/
inductive IsLiteral : List Char → Prop
  /-- Nothing. -/
  | nil : IsLiteral []
  /-- A character that stands for itself. -/
  | plain {c : Char} {rest : List Char} (hquote : c ≠ '"') (hslash : c ≠ '\\')
    (hcode : ¬ c.toNat < 0x20) (h : IsLiteral rest) : IsLiteral (c :: rest)
  /-- An escape by letter. -/
  | letter {letter : Char} {rest : List Char} (hletter : (letterEscape? letter).isSome = true)
    (h : IsLiteral rest) : IsLiteral ('\\' :: letter :: rest)
  /-- An escape by number. -/
  | code {a b c d : Char} {rest : List Char} (hcode : (code? a b c d).isSome = true)
    (h : IsLiteral rest) : IsLiteral ('\\' :: 'u' :: a :: b :: c :: d :: rest)

/-- A literal is taken whole, up to the quotation mark after it. -/
theorem scan_append {literal : List Char} (h : IsLiteral literal) (rest : List Char) :
    scan (literal ++ '"' :: rest) = some (literal, rest) := by
  induction h with
  | nil => rfl
  | plain hquote hslash hcode _ ih =>
    rw [List.cons_append, scan_cons_of_ne hquote hslash hcode, ih, Option.map_some]
  | letter hletter _ ih =>
    obtain ⟨c, hc⟩ := Option.isSome_iff_exists.1 hletter
    have hu : ∀ letter, letterEscape? letter = some c → letter ≠ 'u' := by
      rintro letter hsome rfl
      cases hsome
    rw [List.cons_append, List.cons_append, scan_letter (hu _ hc) hc, ih, Option.map_some]
  | code hcode _ ih => simp only [List.cons_append, scan, if_pos hcode, ih, Option.map_some]

/-- Only a literal is taken as one. -/
theorem isLiteral_of_scan {text literal rest : List Char} (h : scan text = some (literal, rest)) :
    IsLiteral literal ∧ text = literal ++ '"' :: rest := by
  fun_induction scan text generalizing literal with
  | case1 => cases h
  | case2 text =>
    obtain ⟨rfl, rfl⟩ := Prod.mk.inj (Option.some.inj h)
    exact ⟨.nil, rfl⟩
  | case3 a b c d text hcode ih =>
    obtain ⟨⟨literal, more⟩, hscan, heq⟩ := Option.map_eq_some_iff.1 h
    obtain ⟨rfl, rfl⟩ := Prod.mk.inj heq
    obtain ⟨hliteral, rfl⟩ := ih hscan
    exact ⟨.code hcode hliteral, rfl⟩
  | case4 => cases h
  | case5 letter text _ hletter ih =>
    obtain ⟨⟨literal, more⟩, hscan, heq⟩ := Option.map_eq_some_iff.1 h
    obtain ⟨rfl, rfl⟩ := Prod.mk.inj heq
    obtain ⟨hliteral, rfl⟩ := ih hscan
    exact ⟨.letter hletter hliteral, rfl⟩
  | case6 => cases h
  | case7 => cases h
  | case8 => cases h
  | case9 c text hquote _ hslash hend hcode ih =>
    obtain ⟨⟨literal, more⟩, hscan, heq⟩ := Option.map_eq_some_iff.1 h
    obtain ⟨rfl, rfl⟩ := Prod.mk.inj heq
    obtain ⟨hliteral, rfl⟩ := ih hscan
    refine ⟨.plain hquote ?_ hcode hliteral, rfl⟩
    -- a backslash is the start of an escape, or of nothing
    rintro rfl
    cases hrest : literal ++ '"' :: more with
    | nil => exact hend rfl hrest
    | cons letter rest => exact hslash letter rest rfl hrest

theorem isLiteral_encode (text : List Char) : IsLiteral (encode text) :=
  (isLiteral_of_scan (scan_encode text [])).1

end EmulatorScout.Json.Literal
