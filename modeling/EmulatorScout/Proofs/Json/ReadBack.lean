import EmulatorScout.Json.Value
import EmulatorScout.Proofs.Json.Reading

/-!
# Reading written values

Every value is read back as it was written, in either layout (`Json.read?_write`): what is written for
a value spells its tree (`Json.spells_render`), which has string literals and numbers in their written
form (`Json.written`).
-/

set_option autoImplicit false

namespace EmulatorScout.Json

open Written (IsGap Spells SpellsItems SpellsMembers SpellsName IsText)

mutual

/-- The tree of a value, with its strings and numbers as they are written. -/
def written : Json → Written
  | .null => .null
  | .truth value => .truth value
  | .integer value => .number (toString value).toList
  | .string value => .string (Literal.encode value.toList)
  | .array items => .array (writtenItems items)
  | .object members => .object (writtenMembers members)

/-- The trees of items. -/
def writtenItems : List Json → List Written
  | [] => []
  | item :: items => item.written :: writtenItems items

def writtenMembers : List (String × Json) → List (List Char × Written)
  | [] => []
  | (name, value) :: members =>
    (Literal.encode name.toList, value.written) :: writtenMembers members

end

section Layout

variable (layout : Layout) (depth : Nat)

theorem isGap_gap : IsGap (layout.gap depth) := by
  intro c h
  cases layout with
  | compact => cases h
  | indented =>
    rcases List.mem_cons.1 h with rfl | h
    · rfl
    · rw [List.eq_of_mem_replicate h]
      rfl

theorem exists_colon : ∃ gap, layout.colon = ':' :: gap ∧ IsGap gap := by
  cases layout with
  | compact => exact ⟨[], rfl, nofun⟩
  | indented =>
    refine ⟨[' '], rfl, ?_⟩
    intro c h
    rw [List.mem_singleton.1 h]
    rfl

/-- A quoted name with its colon is spelt as the name, and white space may follow. -/
theorem exists_spellsName (name : String) :
    ∃ label gap, (∀ rest, layout.gap depth ++ quoted name (layout.colon ++ rest)
        = label ++ (gap ++ rest)) ∧
      SpellsName (Literal.encode name.toList) label ∧ IsGap gap := by
  obtain ⟨gap, hcolon, hgap⟩ := exists_colon layout
  refine ⟨_, gap, ?_, .colon (isGap_gap layout depth) (Literal.isLiteral_encode _)
    Written.isGap_nil, hgap⟩
  intro rest
  simp [quoted, hcolon]

end Layout

mutual

/-- What is written for a value spells its tree, in front of any text. -/
theorem spells_render (layout : Layout) : ∀ (depth : Nat) (value : Json),
    ∃ text, (∀ rest, render layout depth value rest = text ++ rest) ∧ Spells value.written text
  | _, .null => ⟨_, fun _ => rfl, .null⟩
  | _, .truth true => ⟨_, fun _ => rfl, .truth_true⟩
  | _, .truth false => ⟨_, fun _ => rfl, .truth_false⟩
  | _, .integer value => ⟨_, fun _ => rfl, .number (Written.isNumber_toString value)⟩
  | _, .string value => by
    refine ⟨_, ?_, .string (Literal.isLiteral_encode value.toList)⟩
    intro rest
    simp [render, quoted]
  | _, .array [] => ⟨['[', ']'], fun _ => rfl, .array_nil Written.isGap_nil⟩
  | depth, .array (item :: items) => by
    obtain ⟨text, hitem, hspells⟩ := spells_render layout (depth + 1) item
    obtain ⟨more, hitems, hmore⟩ :=
      spells_renderItems layout (depth + 1) items (isGap_gap layout depth)
    refine ⟨_, ?_, .array_cons (isGap_gap layout (depth + 1)) hspells hmore⟩
    intro rest
    simp only [render, hitem, hitems, List.cons_append, List.append_assoc, List.nil_append]
  | _, .object [] => ⟨['{', '}'], fun _ => rfl, .object_nil Written.isGap_nil⟩
  | depth, .object ((name, value) :: members) => by
    obtain ⟨label, gap, hname, hlabel, hgap⟩ := exists_spellsName layout (depth + 1) name
    obtain ⟨text, hvalue, hspells⟩ := spells_render layout (depth + 1) value
    obtain ⟨more, hmembers, hmore⟩ :=
      spells_renderMembers layout (depth + 1) members (isGap_gap layout depth)
    refine ⟨_, ?_, .object_cons hlabel hgap hspells hmore⟩
    intro rest
    simp only [render, hname, hvalue, hmembers, List.cons_append, List.append_assoc,
      List.nil_append]

/-- What is written for items spells their trees, with the white space before the bracket. -/
theorem spells_renderItems (layout : Layout) : ∀ (depth : Nat) (items : List Json) {gap : List Char},
    IsGap gap → ∃ text, (∀ rest, renderItems layout depth items (gap ++ rest) = text ++ rest) ∧
      SpellsItems (writtenItems items) text
  | _, [], gap, hgap => ⟨gap, fun _ => rfl, .nil hgap⟩
  | depth, item :: items, gap, hgap => by
    obtain ⟨text, hitem, hspells⟩ := spells_render layout depth item
    obtain ⟨more, hitems, hmore⟩ := spells_renderItems layout depth items hgap
    refine ⟨_, ?_, .cons Written.isGap_nil (isGap_gap layout depth) hspells hmore⟩
    intro rest
    simp only [renderItems, hitem, hitems, List.nil_append, List.cons_append, List.append_assoc]

/-- What is written for members spells their trees, with the white space before the brace. -/
theorem spells_renderMembers (layout : Layout) :
    ∀ (depth : Nat) (members : List (String × Json)) {gap : List Char},
    IsGap gap → ∃ text, (∀ rest, renderMembers layout depth members (gap ++ rest) = text ++ rest) ∧
      SpellsMembers (writtenMembers members) text
  | _, [], gap, hgap => ⟨gap, fun _ => rfl, .nil hgap⟩
  | depth, (name, value) :: members, gap, hgap => by
    obtain ⟨label, before, hname, hlabel, hbefore⟩ := exists_spellsName layout depth name
    obtain ⟨text, hvalue, hspells⟩ := spells_render layout depth value
    obtain ⟨more, hmembers, hmore⟩ := spells_renderMembers layout depth members hgap
    refine ⟨_, ?_, .cons Written.isGap_nil hlabel hbefore hspells hmore⟩
    intro rest
    simp only [renderMembers, hname, hvalue, hmembers, List.nil_append, List.cons_append,
      List.append_assoc]

end

theorem isText_write (layout : Layout) (value : Json) :
    IsText value.written (value.write layout).toList := by
  obtain ⟨text, htext, hspells⟩ := spells_render layout 0 value
  have haround := IsText.around Written.isGap_nil hspells Written.isGap_nil
  rw [write, String.toList_ofList]
  rwa [List.nil_append, ← htext] at haround

/-- Every value is read back as it was written, in either layout. -/
theorem read?_write (layout : Layout) (value : Json) :
    Written.read? (value.write layout).toList = some value.written :=
  Written.read?_eq_some_iff.2 (isText_write layout value)

end EmulatorScout.Json
