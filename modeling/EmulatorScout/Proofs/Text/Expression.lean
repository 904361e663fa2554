import EmulatorScout.Text.Expression

/-!
# What regular expressions mean

`Expression.Matches` says what it means that an expression matches from one place in a text to another,
constructor by constructor and without any order of preference. A search finds the end of a match if there
is any, and nothing else (`Expression.search?_eq_none_iff`, `Expression.matchesIn_of_search?`).

The rest is about expressions that take characters one after the other: what they take is read off their
form (`Expression.matches_literals_iff`, `Expression.matches_repeated_one_iff`).
-/

set_option autoImplicit false

namespace EmulatorScout.Text.Expression

/-- What an expression means. -/
inductive Matches : Expression → Spot → Spot → Prop
  /-- Nothing is taken. -/
  | empty (spot : Spot) : Matches empty spot spot
  /-- Nothing is before the start. -/
  | textStart {spot : Spot} (first : spot.before = []) : Matches textStart spot spot
  /-- Nothing is after the end. -/
  | textEnd {spot : Spot} (last : spot.after = []) : Matches textEnd spot spot
  /-- One character of the set is taken. -/
  | one {set : CharSet} {c : Char} (holds : set.holds c = true) (before after : List Char)
    (caught : List (Nat × List Char)) :
    Matches (one set) ⟨before, c :: after, caught⟩ ⟨c :: before, after, caught⟩
  /-- The second one matches where the first one ends. -/
  | followedBy {first second : Expression} {s t u : Spot} (start : Matches first s t)
    (rest : Matches second t u) : Matches (followedBy first second) s u
  /-- The part matches once. -/
  | once {part : Expression} {s t : Spot} (last : Matches part s t) : Matches (repeated part) s t
  /-- The part matches, takes a character, and matches again. -/
  | again {part : Expression} {s t u : Spot} (next : Matches part s t)
    (moves : t.after.length < s.after.length) (rest : Matches (repeated part) t u) :
    Matches (repeated part) s u
  /-- What the part takes is caught. -/
  | group (number : Nat) {part : Expression} {s t : Spot} (inside : Matches part s t) :
    Matches (group number part) s (t.catching number s)

section Inversion

variable {first second part : Expression} {s t : Spot}

theorem matches_empty_iff : Matches empty s t ↔ t = s := by
  constructor
  · intro h
    cases h
    rfl
  · rintro rfl
    exact .empty t

theorem matches_textStart_iff : Matches textStart s t ↔ s.before = [] ∧ t = s := by
  constructor
  · intro h
    cases h with
    | textStart first => exact ⟨first, rfl⟩
  · rintro ⟨first, rfl⟩
    exact .textStart first

theorem matches_textEnd_iff : Matches textEnd s t ↔ s.after = [] ∧ t = s := by
  constructor
  · intro h
    cases h with
    | textEnd last => exact ⟨last, rfl⟩
  · rintro ⟨last, rfl⟩
    exact .textEnd last

theorem matches_followedBy_iff :
    Matches (first.followedBy second) s t ↔ ∃ u, Matches first s u ∧ Matches second u t := by
  constructor
  · intro h
    cases h with
    | followedBy start rest => exact ⟨_, start, rest⟩
  · rintro ⟨u, start, rest⟩
    exact .followedBy start rest

theorem matches_group_iff {number : Nat} :
    Matches (group number part) s t ↔ ∃ u, Matches part s u ∧ t = u.catching number s := by
  constructor
  · intro h
    cases h with
    | group _ inside => exact ⟨_, inside, rfl⟩
  · rintro ⟨u, inside, rfl⟩
    exact .group number inside

end Inversion

/-! ## Searching -/

/-- One step or more lead where the repetition of the step leads, if the bound is large enough. -/
theorem mem_onceOrMore_iff {part : Expression}
    (hpart : ∀ s t, t ∈ part.ways s ↔ Matches part s t) (bound : Nat) :
    ∀ s t : Spot, s.after.length ≤ bound →
      (t ∈ onceOrMore part.ways bound s ↔ Matches (repeated part) s t) := by
  -- the induction is on the bound: a step that is not the last one leaves fewer characters
  induction bound with
  | zero =>
    intro s t hbound
    rw [onceOrMore, hpart]
    constructor
    · exact .once
    · intro h
      cases h with
      | once last => exact last
      | again next moves rest => omega
  | succ bound ih =>
    intro s t hbound
    rw [onceOrMore, List.mem_flatMap]
    constructor
    · rintro ⟨next, hnext, ht⟩
      rw [List.mem_append, List.mem_singleton] at ht
      rcases ht with ht | rfl
      · split at ht
        · rename_i hmoves
          exact .again ((hpart s next).1 hnext) hmoves ((ih next t (by omega)).1 ht)
        · exact absurd ht List.not_mem_nil
      · exact .once ((hpart s t).1 hnext)
    · intro h
      cases h with
      | once last =>
        exact ⟨t, (hpart s t).2 last, List.mem_append_right _ (List.mem_singleton_self t)⟩
      | @again _ _ next _ hnext hmoves hrest =>
        refine ⟨next, (hpart s next).2 hnext, List.mem_append_left _ ?_⟩
        rw [if_pos hmoves]
        exact (ih next t (by omega)).2 hrest

/-- The ways that are listed are those that the expression means. -/
theorem mem_ways_iff (expression : Expression) :
    ∀ s t : Spot, t ∈ expression.ways s ↔ Matches expression s t := by
  induction expression with
  | empty =>
    intro s t
    rw [ways, List.mem_singleton, matches_empty_iff]
  | textStart =>
    intro s t
    rw [ways, List.mem_ite_nil_right, List.mem_singleton, matches_textStart_iff]
  | textEnd =>
    intro s t
    rw [ways, List.mem_ite_nil_right, List.mem_singleton, matches_textEnd_iff]
  | one set =>
    rintro ⟨before, after, caught⟩ t
    cases after with
    | nil =>
      simp only [ways, List.not_mem_nil, false_iff]
      intro h
      cases h
    | cons c rest =>
      simp only [ways]
      rw [List.mem_ite_nil_right, List.mem_singleton]
      constructor
      · rintro ⟨hholds, rfl⟩
        exact .one hholds before rest caught
      · intro h
        cases h with
        | one hholds => exact ⟨hholds, rfl⟩
  | followedBy first second ihfirst ihsecond =>
    intro s t
    rw [ways, List.mem_flatMap, matches_followedBy_iff]
    exact exists_congr fun u => and_congr (ihfirst s u) (ihsecond u t)
  | repeated part ih =>
    intro s t
    rw [ways]
    exact mem_onceOrMore_iff ih s.after.length s t (Nat.le_refl _)
  | group number part ih =>
    intro s t
    rw [ways, List.mem_map, matches_group_iff]
    exact exists_congr fun u => and_congr (ih s u) eq_comm

theorem mem_places_iff (text : List Char) :
    ∀ (before : List Char) (spot : Spot), spot ∈ places before text ↔
      ∃ taken rest, text = taken ++ rest ∧ spot = ⟨taken.reverse ++ before, rest, []⟩ := by
  induction text with
  | nil =>
    intro before spot
    rw [places, List.mem_singleton]
    constructor
    · rintro rfl
      exact ⟨[], [], rfl, rfl⟩
    · rintro ⟨taken, rest, htext, rfl⟩
      obtain ⟨rfl, rfl⟩ := List.append_eq_nil_iff.1 htext.symm
      rfl
  | cons c text ih =>
    intro before spot
    rw [places, List.mem_cons, ih]
    constructor
    · rintro (rfl | ⟨taken, rest, rfl, rfl⟩)
      · exact ⟨[], c :: text, rfl, rfl⟩
      · exact ⟨c :: taken, rest, rfl, by simp⟩
    · rintro ⟨taken, rest, htext, rfl⟩
      cases taken with
      | nil =>
        left
        rw [← (show c :: text = rest from htext)]
        rfl
      | cons first taken =>
        obtain ⟨rfl, rfl⟩ := List.cons.inj htext
        exact .inr ⟨taken, rest, rfl, by simp⟩

/-- A match in a text, from any place of it. -/
def MatchesIn (expression : Expression) (text : List Char) (spot : Spot) : Prop :=
  ∃ before after, text = before ++ after ∧ Matches expression ⟨before.reverse, after, []⟩ spot

/-- The ends that a search has to choose from are those of the matches. -/
theorem mem_ends_iff {expression : Expression} {text : List Char} {spot : Spot} :
    spot ∈ (places [] text).flatMap expression.ways ↔ expression.MatchesIn text spot := by
  rw [List.mem_flatMap]
  constructor
  · rintro ⟨place, hplace, hspot⟩
    obtain ⟨before, after, htext, rfl⟩ := (mem_places_iff text [] place).1 hplace
    rw [List.append_nil] at hspot
    exact ⟨before, after, htext, (mem_ways_iff expression _ _).1 hspot⟩
  · rintro ⟨before, after, htext, hmatches⟩
    refine ⟨⟨before.reverse, after, []⟩, (mem_places_iff text [] _).2 ?_,
      (mem_ways_iff expression _ _).2 hmatches⟩
    exact ⟨before, after, htext, by rw [List.append_nil]⟩

/-- What a search finds is the end of a match. -/
theorem matchesIn_of_search? {expression : Expression} {text : List Char} {spot : Spot}
    (h : expression.search? text = some spot) : expression.MatchesIn text spot :=
  mem_ends_iff.1 (List.mem_of_head? h)

theorem search?_eq_none_iff {expression : Expression} {text : List Char} :
    expression.search? text = none ↔ ∀ spot, ¬ expression.MatchesIn text spot := by
  rw [search?, List.head?_eq_none_iff, List.eq_nil_iff_forall_not_mem]
  exact forall_congr' fun spot => not_congr mem_ends_iff

/-- What a group catches in some match in a text. -/
def Catches (expression : Expression) (number : Nat) (text caught : String) : Prop :=
  ∃ spot, expression.MatchesIn text.toList spot ∧ spot.caught.lookup number = some caught.toList

/-- What a search says that a group caught it caught, in the match that was found. -/
theorem caught?_eq_some_iff {expression : Expression} {number : Nat} {text caught : String} :
    expression.caught? number text = some caught ↔
      ∃ spot, expression.search? text.toList = some spot ∧
        spot.caught.lookup number = some caught.toList := by
  rw [caught?, Option.bind_eq_some_iff]
  refine exists_congr fun spot => and_congr_right fun _ => ?_
  rw [Option.map_eq_some_iff]
  constructor
  · rintro ⟨chars, hchars, rfl⟩
    rw [hchars, String.toList_ofList]
  · intro hcaught
    exact ⟨caught.toList, hcaught, String.ofList_toList⟩

/-- What a group is said to have caught it catches, and where all matches agree on that it is said. -/
theorem caught?_eq_some_iff_catches {expression : Expression} {number : Nat} {text : String}
    (always : ∀ spot, expression.MatchesIn text.toList spot →
      (spot.caught.lookup number).isSome = true)
    (unique : ∀ one other, expression.Catches number text one → expression.Catches number text other →
      one = other) (caught : String) :
    expression.caught? number text = some caught ↔ expression.Catches number text caught := by
  rw [caught?_eq_some_iff]
  constructor
  · rintro ⟨spot, hsearch, hcaught⟩
    exact ⟨spot, matchesIn_of_search? hsearch, hcaught⟩
  · rintro ⟨spot, hmatches, hcaught⟩
    cases hsearch : expression.search? text.toList with
    | none => exact absurd hmatches (search?_eq_none_iff.1 hsearch spot)
    | some found =>
      refine ⟨found, rfl, ?_⟩
      have hfound := matchesIn_of_search? hsearch
      obtain ⟨chars, hchars⟩ := Option.isSome_iff_exists.1 (always found hfound)
      -- the match that is found and the given one agree on what is caught
      have hsame : String.ofList chars = caught := by
        refine unique _ _ ⟨found, hfound, ?_⟩ ⟨spot, hmatches, hcaught⟩
        rw [hchars, String.toList_ofList]
      rw [hchars, ← hsame, String.toList_ofList]

/-! ## What is taken -/

/-- From one place to another exactly the given characters are taken. -/
structure Spot.Takes (s : Spot) (chars : List Char) (t : Spot) : Prop where
  /-- They are what follows the first place. -/
  after : s.after = chars ++ t.after
  /-- They are what precedes the second one. -/
  before : t.before = chars.reverse ++ s.before

namespace Spot.Takes

variable {s t u : Spot} {chars more : List Char}

theorem refl (s : Spot) : s.Takes [] s := ⟨rfl, rfl⟩

theorem trans (h : s.Takes chars t) (h' : t.Takes more u) : s.Takes (chars ++ more) u where
  after := by rw [h.after, h'.after, List.append_assoc]
  before := by rw [h'.before, h.before, List.reverse_append, List.append_assoc]

/-- The place after what is taken, if nothing is caught in between. -/
theorem eq_of_caught (h : s.Takes chars t) (hcaught : t.caught = s.caught) :
    t = ⟨chars.reverse ++ s.before, t.after, s.caught⟩ := by
  rw [← h.before, ← hcaught]

theorem caught_catching (h : s.Takes chars t) (number : Nat) :
    (t.catching number s).caught = (number, chars) :: t.caught := by
  simp [Spot.catching, h.before]

/-- What was taken is taken whatever is caught. -/
theorem catching (h : s.Takes chars t) (number : Nat) (opened : Spot) :
    s.Takes chars (t.catching number opened) := ⟨h.after, h.before⟩

end Spot.Takes

section Taking

variable {s t : Spot}

theorem matches_one_iff {set : CharSet} :
    Matches (one set) s t ↔
      ∃ c, set.holds c = true ∧ s.Takes [c] t ∧ t.caught = s.caught := by
  constructor
  · intro h
    cases h with
    | @one _ c holds => exact ⟨c, holds, ⟨rfl, rfl⟩, rfl⟩
  · rintro ⟨c, holds, htakes, hcaught⟩
    obtain ⟨before, after, caught⟩ := s
    obtain rfl : after = c :: t.after := htakes.after
    rw [htakes.eq_of_caught hcaught]
    exact .one holds before t.after caught

/-- The repetition of a set takes one or more of its characters. -/
theorem matches_repeated_one_iff {set : CharSet} :
    Matches (one set).repeated s t ↔
      ∃ chars, chars ≠ [] ∧ (∀ c ∈ chars, set.holds c = true) ∧ s.Takes chars t ∧
        t.caught = s.caught := by
  constructor
  · intro h
    generalize hexpression : (one set).repeated = expression at h
    induction h with
    | once last =>
      cases hexpression
      obtain ⟨c, hholds, htakes, hcaught⟩ := matches_one_iff.1 last
      refine ⟨[c], List.cons_ne_nil c [], ?_, htakes, hcaught⟩
      intro d hd
      rw [List.mem_singleton.1 hd]
      exact hholds
    | again next moves rest ih ihrest =>
      cases hexpression
      obtain ⟨c, hholds, htakes, hcaught⟩ := matches_one_iff.1 next
      obtain ⟨chars, -, hall, htakes', hcaught'⟩ := ihrest rfl
      refine ⟨[c] ++ chars, List.cons_ne_nil c chars, ?_, htakes.trans htakes',
        hcaught'.trans hcaught⟩
      intro d hd
      rcases List.mem_cons.1 hd with rfl | hd
      · exact hholds
      · exact hall d hd
    | _ => cases hexpression
  · rintro ⟨chars, hne, hall, htakes, hcaught⟩
    -- the characters are taken one by one, the first one first
    induction chars generalizing s with
    | nil => exact absurd rfl hne
    | cons c chars ih =>
      have hholds : set.holds c = true := hall c List.mem_cons_self
      by_cases hlast : chars = []
      · subst hlast
        exact .once (matches_one_iff.2 ⟨c, hholds, htakes, hcaught⟩)
      · have hafter : s.after = c :: (chars ++ t.after) := htakes.after
        have hnext : s.Takes [c] ⟨c :: s.before, chars ++ t.after, s.caught⟩ := ⟨hafter, rfl⟩
        have hrest : Spot.Takes ⟨c :: s.before, chars ++ t.after, s.caught⟩ chars t :=
          ⟨rfl, by rw [htakes.before]; simp⟩
        refine .again (matches_one_iff.2 ⟨c, hholds, hnext, rfl⟩) ?_
          (ih hlast (fun d hd => hall d (List.mem_cons_of_mem c hd)) hrest hcaught)
        rw [hafter]
        exact Nat.lt_succ_self _

/-- An expression with characters after it that stand for themselves. -/
def literals (expression : Expression) (chars : List Char) : Expression :=
  chars.foldl (fun done c => done.followedBy (one (.only c))) expression

theorem matches_literals_iff {chars : List Char} :
    ∀ {expression : Expression}, Matches (expression.literals chars) s t ↔
      ∃ u, Matches expression s u ∧ u.Takes chars t ∧ t.caught = u.caught := by
  induction chars with
  | nil =>
    intro expression
    constructor
    · intro h
      exact ⟨t, h, .refl t, rfl⟩
    · rintro ⟨u, h, htakes, hcaught⟩
      obtain ⟨before, after, caught⟩ := u
      obtain rfl : after = t.after := htakes.after
      rw [htakes.eq_of_caught hcaught]
      exact h
  | cons c chars ih =>
    intro expression
    rw [literals, List.foldl_cons, ← literals, ih]
    constructor
    · rintro ⟨u, h, htakes, hcaught⟩
      obtain ⟨v, hv, hone⟩ := matches_followedBy_iff.1 h
      obtain ⟨d, hd, htakes', hcaught'⟩ := matches_one_iff.1 hone
      obtain rfl : c = d := of_decide_eq_true hd
      exact ⟨v, hv, htakes'.trans htakes, hcaught.trans hcaught'⟩
    · rintro ⟨v, hv, htakes, hcaught⟩
      have hnext : v.Takes [c] ⟨c :: v.before, chars ++ t.after, v.caught⟩ := ⟨htakes.after, rfl⟩
      refine ⟨⟨c :: v.before, chars ++ t.after, v.caught⟩, .followedBy hv ?_,
        ⟨rfl, by rw [htakes.before]; simp⟩, hcaught⟩
      exact matches_one_iff.2 ⟨c, decide_eq_true rfl, hnext, rfl⟩

end Taking

end EmulatorScout.Text.Expression
