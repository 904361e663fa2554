import EmulatorScout.Json.Literal

/-!
# JSON values and their written form

The values that this program writes: JSON without fractions. The members of an object have an order,
which is the order in which they are written; where a value comes from a map, the order is that of
the map.

There are two layouts. The compact one has no white space. The indented one puts every item and every
member on a line of its own, two spaces deeper than the bracket around it; an empty array or object
stays on one line.

A value is written in front of the text that follows it, so nothing is written twice on the way out
of the brackets. What follows has no part in what is written (`render_append`).
-/

set_option autoImplicit false

namespace EmulatorScout

/-- A JSON value whose numbers are integers. -/
inductive Json where
  /-- The null value. -/
  | null
  /-- A truth value. -/
  | truth (value : Bool)
  /-- An integer. -/
  | integer (value : Int)
  /-- A string. -/
  | string (value : String)
  /-- An array. -/
  | array (items : List Json)
  /-- An object, with its members in order. -/
  | object (members : List (String × Json))
  deriving Inhabited

namespace Json

/-- How a value is laid out. -/
inductive Layout where
  /-- Without white space. -/
  | compact
  /-- On several lines. -/
  | indented
  deriving DecidableEq, Repr

/-- What stands before an item at the given depth, and before a closing bracket. -/
def Layout.gap : Layout → Nat → List Char
  | .compact, _ => []
  | .indented, depth => '\n' :: List.replicate (2 * depth) ' '

/-- What stands between a name and its value. -/
def Layout.colon : Layout → List Char
  | .compact => [':']
  | .indented => [':', ' ']

/-- A string between its quotation marks, in front of a text. -/
def quoted (string : String) (rest : List Char) : List Char :=
  '"' :: (Literal.encode string.toList ++ '"' :: rest)

mutual

/-- The written form of a value inside brackets of the given depth, in front of a text. -/
def render (layout : Layout) (depth : Nat) : Json → List Char → List Char
  | .null, rest => "null".toList ++ rest
  | .truth true, rest => "true".toList ++ rest
  | .truth false, rest => "false".toList ++ rest
  | .integer value, rest => (toString value).toList ++ rest
  | .string value, rest => quoted value rest
  | .array [], rest => '[' :: ']' :: rest
  | .array (item :: items), rest =>
    '[' :: (layout.gap (depth + 1) ++ render layout (depth + 1) item
      (renderItems layout (depth + 1) items (layout.gap depth ++ ']' :: rest)))
  | .object [], rest => '{' :: '}' :: rest
  | .object ((name, value) :: members), rest =>
    '{' :: (layout.gap (depth + 1) ++ quoted name (layout.colon ++ render layout (depth + 1) value
      (renderMembers layout (depth + 1) members (layout.gap depth ++ '}' :: rest))))

/-- The written form of the items after the first one, each with the comma before it, in front of a
text. -/
def renderItems (layout : Layout) (depth : Nat) : List Json → List Char → List Char
  | [], rest => rest
  | item :: items, rest =>
    ',' :: (layout.gap depth ++ render layout depth item (renderItems layout depth items rest))

/-- The written form of the members after the first one, each with the comma before it, in front of a
text. -/
def renderMembers (layout : Layout) (depth : Nat) : List (String × Json) → List Char → List Char
  | [], rest => rest
  | (name, value) :: members, rest =>
    ',' :: (layout.gap depth ++ quoted name (layout.colon ++ render layout depth value
      (renderMembers layout depth members rest)))

end

/-- The written form of a value. -/
def write (layout : Layout) (value : Json) : String := String.ofList (render layout 0 value [])

/-! ## What is written does not depend on what follows -/

theorem quoted_append (string : String) (rest after : List Char) :
    quoted string (rest ++ after) = quoted string rest ++ after := by
  simp [quoted]

mutual

/-- A written value stands in front of the text that follows, which changes nothing in it. -/
theorem render_append (layout : Layout) (depth : Nat) :
    ∀ (value : Json) (rest after : List Char),
      render layout depth value (rest ++ after) = render layout depth value rest ++ after
  | .null, rest, after => (List.append_assoc _ rest after).symm
  | .truth true, rest, after => (List.append_assoc _ rest after).symm
  | .truth false, rest, after => (List.append_assoc _ rest after).symm
  | .integer _, rest, after => (List.append_assoc _ rest after).symm
  | .string value, rest, after => quoted_append value rest after
  | .array [], _, _ => rfl
  | .array (item :: items), rest, after => by
    simp only [render, List.cons_append, List.append_assoc,
      ← render_append layout (depth + 1) item, ← renderItems_append layout (depth + 1) items]
  | .object [], _, _ => rfl
  | .object ((name, value) :: members), rest, after => by
    simp only [render, List.cons_append, List.append_assoc, ← quoted_append,
      ← render_append layout (depth + 1) value, ← renderMembers_append layout (depth + 1) members]

/-- Written items stand in front of the text that follows. -/
theorem renderItems_append (layout : Layout) (depth : Nat) :
    ∀ (items : List Json) (rest after : List Char),
      renderItems layout depth items (rest ++ after) = renderItems layout depth items rest ++ after
  | [], _, _ => rfl
  | item :: items, rest, after => by
    simp only [renderItems, List.cons_append, List.append_assoc,
      ← render_append layout depth item, ← renderItems_append layout depth items]

theorem renderMembers_append (layout : Layout) (depth : Nat) :
    ∀ (members : List (String × Json)) (rest after : List Char),
      renderMembers layout depth members (rest ++ after)
        = renderMembers layout depth members rest ++ after
  | [], _, _ => rfl
  | (name, value) :: members, rest, after => by
    simp only [renderMembers, List.cons_append, List.append_assoc, ← quoted_append,
      ← render_append layout depth value, ← renderMembers_append layout depth members]

end

end Json

end EmulatorScout
