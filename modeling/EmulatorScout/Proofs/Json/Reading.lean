import EmulatorScout.Proofs.Json.Grammar

/-!
# Reading JSON texts

The reader accepts exactly the JSON texts, and the tree that it builds is the one that the text spells
(`Written.read?_eq_some_iff`). There is no bound on how deep values are nested: the number that bounds
the descent is used up no faster than the text, so any text is long enough for its own depth
(`scanValue_of_spells`). In the other direction the induction is on that number (`readsSpelt`).
-/

set_option autoImplicit false

namespace EmulatorScout.Json.Written

/-! ## What the reader does with the first token -/

section Token

variable {fuel : Nat} {text gap : List Char}

theorem skipSpace_skipSpace (text : List Char) : skipSpace (skipSpace text) = skipSpace text :=
  List.dropWhile_idempotent isSpace text

/-- A value is read from its first token on. -/
theorem scanValue_skipSpace : scanValue fuel (skipSpace text) = scanValue fuel text := by
  cases fuel with
  | zero => rfl
  | succ fuel => rw [scanValue, scanValue, skipSpace_skipSpace]

theorem scanValue_gap (hgap : IsGap gap) : scanValue fuel (gap ++ text) = scanValue fuel text := by
  rw [← scanValue_skipSpace, skipSpace_append hgap, scanValue_skipSpace]

theorem scanName_skipSpace : scanName (skipSpace text) = scanName text := by
  rw [scanName, scanName, skipSpace_skipSpace]

theorem scanValue_number {c : Char} (hc : c = '-' ∨ isDigit c = true) :
    scanValue (fuel + 1) (c :: text)
      = (scanNumber (c :: text)).map fun found => (.number found.1, found.2) := by
  rw [scanValue, skipSpace_cons (plain_of_sign_or_digit hc).1]
  split
  case h_7 => rfl
  all_goals
    rename_i heq
    obtain rfl := (List.cons.inj heq).1
    exact absurd hc (by decide)

theorem scanValue_string :
    scanValue (fuel + 1) ('"' :: text)
      = (Literal.scan text).map fun found => (.string found.1, found.2) := by
  rw [scanValue, skipSpace_cons (by decide)]
  rfl

/-- A bracket begins an array, which has an item unless it is closed at once. -/
theorem scanValue_array (hopen : ∀ rest, skipSpace text ≠ ']' :: rest) :
    scanValue (fuel + 1) ('[' :: text)
      = (scanValue fuel text).bind fun item =>
          (scanItems fuel item.2).map fun items => (.array (item.1 :: items.1), items.2) := by
  rw [scanValue, skipSpace_cons (by decide)]
  simp only
  rw [scanValue_skipSpace]

/-- A brace begins an object, which has a member unless it is closed at once. -/
theorem scanValue_object (hopen : ∀ rest, skipSpace text ≠ '}' :: rest) :
    scanValue (fuel + 1) ('{' :: text)
      = (scanName text).bind fun name =>
          (scanValue fuel name.2).bind fun value =>
            (scanMembers fuel value.2).map fun members =>
              (.object ((name.1, value.1) :: members.1), members.2) := by
  rw [scanValue, skipSpace_cons (by decide)]
  simp only
  rw [scanName_skipSpace]

end Token

/-! ## What is spelt is read -/

/-- A name is read up to the colon after it. -/
theorem scanName_of_spells {name label : List Char} (h : SpellsName name label) (rest : List Char) :
    scanName (label ++ rest) = some (name, rest) ∧ ∃ more, skipSpace (label ++ rest) = '"' :: more := by
  cases h with
  | @colon before after hbefore hname hafter =>
    have htext : before ++ '"' :: (name ++ '"' :: (after ++ [':'])) ++ rest
        = before ++ '"' :: (name ++ '"' :: (after ++ ':' :: rest)) := by simp
    have hskip : skipSpace (before ++ '"' :: (name ++ '"' :: (after ++ ':' :: rest)))
        = '"' :: (name ++ '"' :: (after ++ ':' :: rest)) := skipSpace_append_cons hbefore rfl
    rw [htext]
    refine ⟨?_, _, hskip⟩
    rw [scanName, hskip]
    simp only [Literal.scan_append hname, Option.bind_some,
      skipSpace_append_cons hafter (show isSpace ':' = false from rfl)]

theorem spellsName_of_scanName {text name rest : List Char} (h : scanName text = some (name, rest)) :
    ∃ label, SpellsName name label ∧ text = label ++ rest := by
  obtain ⟨before, hbefore, htext⟩ := exists_skipSpace text
  rw [scanName] at h
  split at h
  · rename_i inner hinner
    obtain ⟨⟨literal, more⟩, hscan, hfound⟩ := Option.bind_eq_some_iff.1 h
    obtain ⟨hliteral, rfl⟩ := Literal.isLiteral_of_scan hscan
    obtain ⟨after, hafter, hmore⟩ := exists_skipSpace more
    split at hfound
    · rename_i others hcolon
      obtain ⟨rfl, rfl⟩ := Prod.mk.inj (Option.some.inj hfound)
      have hcolon' : skipSpace more = ':' :: others := hcolon
      refine ⟨_, .colon hbefore hliteral hafter, ?_⟩
      rw [htext, hinner, hmore, hcolon']
      simp
    · cases hfound
  · cases h

mutual

/-- A value is read as it is spelt, and nothing after it. The bound on the depth has to be more than
the length of what is read. -/
theorem scanValue_of_spells : ∀ {tree : Written} {fuel : Nat} {text rest : List Char},
    Spells tree text → EndsNumber rest → text.length < fuel →
      scanValue fuel (text ++ rest) = some (tree, rest)
  | _, 0, _, _, _, _, hfuel => absurd hfuel (Nat.not_lt_zero _)
  | .null, _ + 1, _, _, .null, _, _ => rfl
  | .truth true, _ + 1, _, _, .truth_true, _, _ => rfl
  | .truth false, _ + 1, _, _, .truth_false, _, _ => rfl
  | .number digits, fuel + 1, _, rest, .number hnumber, hrest, _ => by
    obtain ⟨c, more, hdigits, hc⟩ := hnumber.exists_cons
    have hscan := scanNumber_append hnumber hrest
    rw [hdigits] at hscan ⊢
    rw [List.cons_append, scanValue_number hc, ← List.cons_append, hscan, Option.map_some]
  | .string literal, fuel + 1, _, rest, .string hliteral, _, _ => by
    have htext : '"' :: (literal ++ ['"']) ++ rest = '"' :: (literal ++ '"' :: rest) := by simp
    rw [htext, scanValue_string, Literal.scan_append hliteral, Option.map_some]
  | .array [], fuel + 1, _, rest, @Spells.array_nil gap hgap, _, _ => by
    have htext : '[' :: (gap ++ [']']) ++ rest = '[' :: (gap ++ ']' :: rest) := by simp
    rw [htext, scanValue, skipSpace_cons (by decide)]
    simp only [skipSpace_append_cons hgap (show isSpace ']' = false from rfl)]
  | .array (item :: items), fuel + 1, _, rest,
      @Spells.array_cons _ _ gap text more hgap hitem hitems, _, hfuel => by
    -- the bracket takes one character of the text and one of the fuel
    simp only [List.length_cons, List.length_append] at hfuel
    have htext : '[' :: (gap ++ (text ++ (more ++ [']']))) ++ rest
        = '[' :: (gap ++ (text ++ (more ++ ']' :: rest))) := by simp
    have hopen : ∀ others, skipSpace (gap ++ (text ++ (more ++ ']' :: rest))) ≠ ']' :: others := by
      obtain ⟨c, others, hc, hspace, hclosing, -⟩ := hitem.exists_cons
      rw [skipSpace_append hgap, hc, List.cons_append, skipSpace_cons hspace]
      exact fun _ heq => hclosing (List.cons.inj heq).1
    rw [htext, scanValue_array hopen, scanValue_gap hgap,
      scanValue_of_spells hitem hitems.endsNumber (by omega), Option.bind_some,
      scanItems_of_spells hitems (by omega), Option.map_some]
  | .object [], fuel + 1, _, rest, @Spells.object_nil gap hgap, _, _ => by
    have htext : '{' :: (gap ++ ['}']) ++ rest = '{' :: (gap ++ '}' :: rest) := by simp
    rw [htext, scanValue, skipSpace_cons (by decide)]
    simp only [skipSpace_append_cons hgap (show isSpace '}' = false from rfl)]
  | .object ((name, value) :: members), fuel + 1, _, rest,
      @Spells.object_cons _ _ _ label gap text more hname hgap hvalue hmembers, _, hfuel => by
    simp only [List.length_cons, List.length_append] at hfuel
    have htext : '{' :: (label ++ (gap ++ (text ++ (more ++ ['}'])))) ++ rest
        = '{' :: (label ++ (gap ++ (text ++ (more ++ '}' :: rest)))) := by simp
    obtain ⟨hscan, inner, hinner⟩ :=
      scanName_of_spells hname (gap ++ (text ++ (more ++ '}' :: rest)))
    have hopen : ∀ others, skipSpace (label ++ (gap ++ (text ++ (more ++ '}' :: rest))))
        ≠ '}' :: others := by
      rw [hinner]
      exact fun _ heq => absurd (List.cons.inj heq).1 (by decide)
    rw [htext, scanValue_object hopen, hscan, Option.bind_some, scanValue_gap hgap,
      scanValue_of_spells hvalue hmembers.endsNumber (by omega), Option.bind_some,
      scanMembers_of_spells hmembers (by omega), Option.map_some]

/-- Items are read up to the closing bracket. -/
theorem scanItems_of_spells : ∀ {items : List Written} {fuel : Nat} {more rest : List Char},
    SpellsItems items more → more.length < fuel →
      scanItems fuel (more ++ ']' :: rest) = some (items, rest)
  | _, 0, _, _, _, hfuel => absurd hfuel (Nat.not_lt_zero _)
  | [], fuel + 1, _, rest, .nil hgap, _ => by
    rw [scanItems, skipSpace_append_cons hgap (by decide)]
    rfl
  | item :: items, fuel + 1, _, rest,
      @SpellsItems.cons _ _ before gap text more hbefore hgap hitem hitems, hfuel => by
    simp only [List.length_cons, List.length_append] at hfuel
    have htext : before ++ ',' :: (gap ++ (text ++ more)) ++ ']' :: rest
        = before ++ ',' :: (gap ++ (text ++ (more ++ ']' :: rest))) := by simp
    rw [htext, scanItems, skipSpace_append_cons hbefore (by decide)]
    simp only [scanValue_gap hgap]
    rw [scanValue_of_spells hitem hitems.endsNumber (by omega), Option.bind_some,
      scanItems_of_spells hitems (by omega), Option.map_some]

theorem scanMembers_of_spells :
    ∀ {members : List (List Char × Written)} {fuel : Nat} {more rest : List Char},
    SpellsMembers members more → more.length < fuel →
      scanMembers fuel (more ++ '}' :: rest) = some (members, rest)
  | _, 0, _, _, _, hfuel => absurd hfuel (Nat.not_lt_zero _)
  | [], fuel + 1, _, rest, .nil hgap, _ => by
    rw [scanMembers, skipSpace_append_cons hgap (by decide)]
    rfl
  | (name, value) :: members, fuel + 1, _, rest,
      @SpellsMembers.cons _ _ _ before label gap text more hbefore hname hgap hvalue hmembers,
      hfuel => by
    simp only [List.length_cons, List.length_append] at hfuel
    have htext : before ++ ',' :: (label ++ (gap ++ (text ++ more))) ++ '}' :: rest
        = before ++ ',' :: (label ++ (gap ++ (text ++ (more ++ '}' :: rest)))) := by simp
    have hscan := (scanName_of_spells hname (gap ++ (text ++ (more ++ '}' :: rest)))).1
    rw [htext, scanMembers, skipSpace_append_cons hbefore (by decide)]
    simp only [hscan, Option.bind_some, scanValue_gap hgap]
    rw [scanValue_of_spells hvalue hmembers.endsNumber (by omega), Option.bind_some,
      scanMembers_of_spells hmembers (by omega), Option.map_some]

end

/-! ## What is read is spelt -/

/-- What a reader with a bound on its depth reads is spelt as the grammar says. -/
structure ReadsSpelt (fuel : Nat) : Prop where
  /-- A value is spelt after white space. -/
  value : ∀ {text : List Char} {tree : Written} {rest : List Char},
    scanValue fuel text = some (tree, rest) →
      ∃ gap inner, IsGap gap ∧ Spells tree inner ∧ text = gap ++ (inner ++ rest)
  /-- Items are spelt up to the closing bracket. -/
  items : ∀ {text : List Char} {items : List Written} {rest : List Char},
    scanItems fuel text = some (items, rest) →
      ∃ more, SpellsItems items more ∧ text = more ++ ']' :: rest
  /-- Members are spelt up to the closing brace. -/
  members : ∀ {text : List Char} {members : List (List Char × Written)} {rest : List Char},
    scanMembers fuel text = some (members, rest) →
      ∃ more, SpellsMembers members more ∧ text = more ++ '}' :: rest

namespace ReadsSpelt

variable {fuel : Nat} {text rest : List Char}

/-- One level further, a value is still spelt. -/
theorem value_step (h : ReadsSpelt fuel) {tree : Written}
    (hscan : scanValue (fuel + 1) text = some (tree, rest)) :
    ∃ gap inner, IsGap gap ∧ Spells tree inner ∧ text = gap ++ (inner ++ rest) := by
  obtain ⟨gap, hgap, htext⟩ := exists_skipSpace text
  suffices ∃ inner, Spells tree inner ∧ skipSpace text = inner ++ rest by
    obtain ⟨inner, hinner, hskip⟩ := this
    exact ⟨gap, inner, hgap, hinner, by rw [← hskip, ← htext]⟩
  rw [scanValue] at hscan
  split at hscan
  case h_1 hskip =>
    obtain ⟨rfl, rfl⟩ := Prod.mk.inj (Option.some.inj hscan)
    exact ⟨_, .null, hskip⟩
  case h_2 hskip =>
    obtain ⟨rfl, rfl⟩ := Prod.mk.inj (Option.some.inj hscan)
    exact ⟨_, .truth_true, hskip⟩
  case h_3 hskip =>
    obtain ⟨rfl, rfl⟩ := Prod.mk.inj (Option.some.inj hscan)
    exact ⟨_, .truth_false, hskip⟩
  case h_4 inner hskip =>
    obtain ⟨⟨literal, more⟩, hfound, heq⟩ := Option.map_eq_some_iff.1 hscan
    obtain ⟨rfl, rfl⟩ := Prod.mk.inj heq
    obtain ⟨hliteral, rfl⟩ := Literal.isLiteral_of_scan hfound
    exact ⟨_, .string hliteral, by rw [hskip]; simp⟩
  case h_5 inner hskip =>
    split at hscan
    case h_1 hclosed =>
      obtain ⟨rfl, rfl⟩ := Prod.mk.inj (Option.some.inj hscan)
      obtain ⟨before, hbefore, hinner⟩ := exists_skipSpace inner
      exact ⟨_, .array_nil hbefore, by rw [hskip, hinner, hclosed]; simp⟩
    case h_2 =>
      obtain ⟨⟨item, afterItem⟩, hitem, hrest⟩ := Option.bind_eq_some_iff.1 hscan
      obtain ⟨⟨items, afterItems⟩, hitems, heq⟩ := Option.map_eq_some_iff.1 hrest
      obtain ⟨rfl, rfl⟩ := Prod.mk.inj heq
      rw [scanValue_skipSpace] at hitem
      obtain ⟨before, spelt, hbefore, hspelt, rfl⟩ := h.value hitem
      obtain ⟨more, hmore, rfl⟩ := h.items hitems
      exact ⟨_, .array_cons hbefore hspelt hmore, by rw [hskip]; simp⟩
  case h_6 inner hskip =>
    split at hscan
    case h_1 hclosed =>
      obtain ⟨rfl, rfl⟩ := Prod.mk.inj (Option.some.inj hscan)
      obtain ⟨before, hbefore, hinner⟩ := exists_skipSpace inner
      exact ⟨_, .object_nil hbefore, by rw [hskip, hinner, hclosed]; simp⟩
    case h_2 =>
      obtain ⟨⟨name, afterName⟩, hname, hrest⟩ := Option.bind_eq_some_iff.1 hscan
      obtain ⟨⟨value, afterValue⟩, hvalue, hrest⟩ := Option.bind_eq_some_iff.1 hrest
      obtain ⟨⟨members, afterMembers⟩, hmembers, heq⟩ := Option.map_eq_some_iff.1 hrest
      obtain ⟨rfl, rfl⟩ := Prod.mk.inj heq
      rw [scanName_skipSpace] at hname
      obtain ⟨label, hlabel, rfl⟩ := spellsName_of_scanName hname
      obtain ⟨before, spelt, hbefore, hspelt, rfl⟩ := h.value hvalue
      obtain ⟨more, hmore, rfl⟩ := h.members hmembers
      exact ⟨_, .object_cons hlabel hbefore hspelt hmore, by rw [hskip]; simp⟩
  case h_7 =>
    obtain ⟨⟨digits, more⟩, hfound, heq⟩ := Option.map_eq_some_iff.1 hscan
    obtain ⟨rfl, rfl⟩ := Prod.mk.inj heq
    obtain ⟨hnumber, hskip⟩ := isNumber_of_scanNumber hfound
    exact ⟨_, .number hnumber, hskip⟩

theorem items_step (h : ReadsSpelt fuel) {items : List Written}
    (hscan : scanItems (fuel + 1) text = some (items, rest)) :
    ∃ more, SpellsItems items more ∧ text = more ++ ']' :: rest := by
  obtain ⟨gap, hgap, htext⟩ := exists_skipSpace text
  rw [scanItems] at hscan
  split at hscan
  case h_1 hskip =>
    obtain ⟨rfl, rfl⟩ := Prod.mk.inj (Option.some.inj hscan)
    exact ⟨gap, .nil hgap, by rw [← hskip, ← htext]⟩
  case h_2 inner hskip =>
    obtain ⟨⟨item, afterItem⟩, hitem, hrest⟩ := Option.bind_eq_some_iff.1 hscan
    obtain ⟨⟨items, afterItems⟩, hitems, heq⟩ := Option.map_eq_some_iff.1 hrest
    obtain ⟨rfl, rfl⟩ := Prod.mk.inj heq
    obtain ⟨before, spelt, hbefore, hspelt, rfl⟩ := h.value hitem
    obtain ⟨more, hmore, rfl⟩ := h.items hitems
    exact ⟨_, .cons hgap hbefore hspelt hmore, by rw [htext, hskip]; simp⟩
  case h_3 => cases hscan

theorem members_step (h : ReadsSpelt fuel) {members : List (List Char × Written)}
    (hscan : scanMembers (fuel + 1) text = some (members, rest)) :
    ∃ more, SpellsMembers members more ∧ text = more ++ '}' :: rest := by
  obtain ⟨gap, hgap, htext⟩ := exists_skipSpace text
  rw [scanMembers] at hscan
  split at hscan
  case h_1 hskip =>
    obtain ⟨rfl, rfl⟩ := Prod.mk.inj (Option.some.inj hscan)
    exact ⟨gap, .nil hgap, by rw [← hskip, ← htext]⟩
  case h_2 inner hskip =>
    obtain ⟨⟨name, afterName⟩, hname, hrest⟩ := Option.bind_eq_some_iff.1 hscan
    obtain ⟨⟨value, afterValue⟩, hvalue, hrest⟩ := Option.bind_eq_some_iff.1 hrest
    obtain ⟨⟨members, afterMembers⟩, hmembers, heq⟩ := Option.map_eq_some_iff.1 hrest
    obtain ⟨rfl, rfl⟩ := Prod.mk.inj heq
    obtain ⟨label, hlabel, rfl⟩ := spellsName_of_scanName hname
    obtain ⟨before, spelt, hbefore, hspelt, rfl⟩ := h.value hvalue
    obtain ⟨more, hmore, rfl⟩ := h.members hmembers
    exact ⟨_, .cons hgap hlabel hbefore hspelt hmore, by rw [htext, hskip]; simp⟩
  case h_3 => cases hscan

end ReadsSpelt

/-- Only what is spelt is read, whatever the bound on the depth. -/
theorem readsSpelt (fuel : Nat) : ReadsSpelt fuel := by
  induction fuel with
  | zero =>
    constructor
    case value => exact nofun
    case items => exact nofun
    case members => exact nofun
  | succ fuel ih =>
    constructor
    case value => exact ih.value_step
    case items => exact ih.items_step
    case members => exact ih.members_step

/-- The reader accepts exactly the JSON texts, and the tree that it builds is the one that the text
spells, at any depth of nesting. -/
theorem read?_eq_some_iff {text : List Char} {tree : Written} :
    read? text = some tree ↔ IsText tree text := by
  rw [read?, Option.bind_eq_some_iff]
  constructor
  · rintro ⟨⟨found, rest⟩, hscan, h⟩
    obtain ⟨before, inner, hbefore, hinner, rfl⟩ := (readsSpelt _).value hscan
    split at h
    · rename_i hend
      obtain rfl := Option.some.inj h
      obtain ⟨after, hafter, hrest⟩ := exists_skipSpace rest
      have hend' : skipSpace rest = [] := hend
      rw [hend', List.append_nil] at hrest
      subst hrest
      exact .around hbefore hinner hafter
    · cases h
  · intro h
    cases h with
    | @around before inner after hbefore hinner hafter =>
      have hrest : EndsNumber after := by simpa using endsNumber_append hafter endsNumber_nil
      have hend : skipSpace after = [] := List.dropWhile_eq_nil_iff.2 hafter
      refine ⟨(tree, after), ?_, if_pos hend⟩
      rw [scanValue_gap hbefore]
      apply scanValue_of_spells hinner hrest
      simp only [List.length_append]
      omega

end EmulatorScout.Json.Written
