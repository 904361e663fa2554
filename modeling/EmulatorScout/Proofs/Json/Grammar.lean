import EmulatorScout.Proofs.Json.Literal
import EmulatorScout.Proofs.Json.Number

/-!
# The grammar of JSON

Which texts spell a tree (`Written.Spells`), apart from how they are read. White space may stand around
every token. So a tree is spelt in many ways, which differ in nothing but white space, since literals
and numbers stand in the tree as they are written.

A spelt value begins with a character that neither is white space nor closes a bracket
(`Spells.exists_cons`), and no number goes on into what follows an item or a member
(`SpellsItems.endsNumber`). Both decide how far a reader has to look ahead.
-/

set_option autoImplicit false

namespace EmulatorScout.Json.Written

open Literal (IsLiteral)

/-- White space between tokens. -/
def IsGap (gap : List Char) : Prop := ∀ c ∈ gap, isSpace c = true

/-- The name of a member, up to the colon after it. -/
inductive SpellsName (name : List Char) : List Char → Prop
  /-- A string and a colon. -/
  | colon {before after : List Char} (hbefore : IsGap before) (hname : IsLiteral name)
    (hafter : IsGap after) : SpellsName name (before ++ '"' :: (name ++ '"' :: (after ++ [':'])))

mutual

/-- A text spells a value, from the first character of its first token to the last one of its last. -/
inductive Spells : Written → List Char → Prop
  | null : Spells .null "null".toList
  | truth_true : Spells (.truth true) "true".toList
  | truth_false : Spells (.truth false) "false".toList
  | number {digits : List Char} (h : IsNumber digits) : Spells (.number digits) digits
  | string {literal : List Char} (h : IsLiteral literal) :
    Spells (.string literal) ('"' :: (literal ++ ['"']))
  | array_nil {gap : List Char} (hgap : IsGap gap) : Spells (.array []) ('[' :: (gap ++ [']']))
  | array_cons {item : Written} {items : List Written} {gap text more : List Char}
    (hgap : IsGap gap) (hitem : Spells item text) (hitems : SpellsItems items more) :
    Spells (.array (item :: items)) ('[' :: (gap ++ (text ++ (more ++ [']']))))
  | object_nil {gap : List Char} (hgap : IsGap gap) : Spells (.object []) ('{' :: (gap ++ ['}']))
  | object_cons {name : List Char} {value : Written} {members : List (List Char × Written)}
    {label gap text more : List Char} (hname : SpellsName name label) (hgap : IsGap gap)
    (hvalue : Spells value text) (hmembers : SpellsMembers members more) :
    Spells (.object ((name, value) :: members)) ('{' :: (label ++ (gap ++ (text ++ (more ++ ['}'])))))

/-- A text spells the items after the first one, each with the comma before it, and the white space
before the closing bracket. -/
inductive SpellsItems : List Written → List Char → Prop
  | nil {gap : List Char} (hgap : IsGap gap) : SpellsItems [] gap
  | cons {item : Written} {items : List Written} {before gap text more : List Char}
    (hbefore : IsGap before) (hgap : IsGap gap) (hitem : Spells item text)
    (hitems : SpellsItems items more) :
    SpellsItems (item :: items) (before ++ ',' :: (gap ++ (text ++ more)))

/-- A text spells the members after the first one, each with the comma before it, and the white space
before the closing brace. -/
inductive SpellsMembers : List (List Char × Written) → List Char → Prop
  | nil {gap : List Char} (hgap : IsGap gap) : SpellsMembers [] gap
  | cons {name : List Char} {value : Written} {members : List (List Char × Written)}
    {before label gap text more : List Char} (hbefore : IsGap before) (hname : SpellsName name label)
    (hgap : IsGap gap) (hvalue : Spells value text) (hmembers : SpellsMembers members more) :
    SpellsMembers ((name, value) :: members) (before ++ ',' :: (label ++ (gap ++ (text ++ more))))

end

/-- A JSON text: a value with white space around it. -/
inductive IsText (tree : Written) : List Char → Prop
  | around {before text after : List Char} (hbefore : IsGap before) (h : Spells tree text)
    (hafter : IsGap after) : IsText tree (before ++ (text ++ after))

/-! ## White space -/

section Space

variable {gap text rest : List Char} {c : Char}

theorem isGap_nil : IsGap [] := nofun

theorem skipSpace_append (h : IsGap gap) : skipSpace (gap ++ text) = skipSpace text :=
  List.dropWhile_append_of_pos h

theorem skipSpace_cons (h : isSpace c = false) : skipSpace (c :: text) = c :: text :=
  List.dropWhile_cons_of_neg (by simp [h])

theorem skipSpace_append_cons (hgap : IsGap gap) (hc : isSpace c = false) :
    skipSpace (gap ++ c :: text) = c :: text := by
  rw [skipSpace_append hgap, skipSpace_cons hc]

/-- What is passed over is white space, and nothing else of the text is lost. -/
theorem exists_skipSpace (text : List Char) : ∃ gap, IsGap gap ∧ text = gap ++ skipSpace text :=
  ⟨text.takeWhile isSpace, fun _ hc => List.mem_takeWhile_imp hc,
    List.takeWhile_append_dropWhile.symm⟩

/-- No number goes on into white space, nor into what follows it. -/
theorem endsNumber_append (hgap : IsGap gap) (hrest : EndsNumber rest) : EndsNumber (gap ++ rest) := by
  cases gap with
  | nil => exact hrest
  | cons first gap =>
    have hspace := hgap first List.mem_cons_self
    simp only [isSpace, Bool.or_eq_true, decide_eq_true_iff] at hspace
    rcases hspace with ((rfl | rfl) | rfl) | rfl <;>
      exact endsNumber_cons rfl (by decide) (by decide) (by decide)

theorem endsNumber_mark (hc : c = ',' ∨ c = ']' ∨ c = '}') : EndsNumber (c :: rest) := by
  rcases hc with rfl | rfl | rfl <;> exact endsNumber_cons rfl (by decide) (by decide) (by decide)

theorem plain_of_sign_or_digit (hc : c = '-' ∨ isDigit c = true) :
    isSpace c = false ∧ c ≠ ']' ∧ c ≠ '}' := by
  refine ⟨?_, ?_, ?_⟩
  · rw [← Bool.not_eq_true]
    intro hspace
    simp only [isSpace, Bool.or_eq_true, decide_eq_true_iff] at hspace
    rcases hspace with ((rfl | rfl) | rfl) | rfl <;> revert hc <;> decide
  · rintro rfl
    revert hc
    decide
  · rintro rfl
    revert hc
    decide

end Space

/-! ## How values begin, and what follows them -/

/-- A value begins with a character that neither is white space nor closes a bracket. -/
theorem Spells.exists_cons {tree : Written} {text : List Char} (h : Spells tree text) :
    ∃ c more, text = c :: more ∧ isSpace c = false ∧ c ≠ ']' ∧ c ≠ '}' := by
  cases h with
  | null => exact ⟨'n', _, rfl, by decide⟩
  | truth_true => exact ⟨'t', _, rfl, by decide⟩
  | truth_false => exact ⟨'f', _, rfl, by decide⟩
  | number hnumber =>
    obtain ⟨c, more, rfl, hc⟩ := hnumber.exists_cons
    exact ⟨c, more, rfl, plain_of_sign_or_digit hc⟩
  | string hliteral => exact ⟨'"', _, rfl, by decide⟩
  | array_nil hgap => exact ⟨'[', _, rfl, by decide⟩
  | array_cons hgap hitem hitems => exact ⟨'[', _, rfl, by decide⟩
  | object_nil hgap => exact ⟨'{', _, rfl, by decide⟩
  | object_cons hname hgap hvalue hmembers => exact ⟨'{', _, rfl, by decide⟩

/-- No number goes on into items and the bracket after them. -/
theorem SpellsItems.endsNumber {items : List Written} {more rest : List Char}
    (h : SpellsItems items more) : EndsNumber (more ++ ']' :: rest) := by
  cases h with
  | nil hgap => exact endsNumber_append hgap (endsNumber_mark (.inr (.inl rfl)))
  | cons hbefore hgap hitem hitems =>
    rw [List.append_assoc, List.cons_append]
    exact endsNumber_append hbefore (endsNumber_mark (.inl rfl))

theorem SpellsMembers.endsNumber {members : List (List Char × Written)} {more rest : List Char}
    (h : SpellsMembers members more) : EndsNumber (more ++ '}' :: rest) := by
  cases h with
  | nil hgap => exact endsNumber_append hgap (endsNumber_mark (.inr (.inr rfl)))
  | cons hbefore hname hgap hvalue hmembers =>
    rw [List.append_assoc, List.cons_append]
    exact endsNumber_append hbefore (endsNumber_mark (.inl rfl))

end EmulatorScout.Json.Written
