import EmulatorScout.MarkerFile
import EmulatorScout.Path
import EmulatorScout.Proofs.Text.Expression
import EmulatorScout.Proofs.Text.Undamaged

/-!
# Marker files and process ids

A marker file's name and the process id in it determine each other: the name is read as a process id
exactly if it is made from that id (`MarkerFile.pid?_text?_eq_some_iff`). So no two entries of one
directory mark the same process, however the name is spelt as bytes.
-/

set_option autoImplicit false

namespace EmulatorScout

open Text (Expression)
open Text.Expression (Spot)

namespace MarkerFile

/-- A text that can be a process id: one or more decimal digits. -/
def IsPid (pid : String) : Prop := pid ≠ "" ∧ ∀ c ∈ pid.toList, Text.isDecimalDigit c = true

instance (pid : String) : Decidable (IsPid pid) :=
  inferInstanceAs (Decidable (pid ≠ "" ∧ ∀ c ∈ pid.toList, Text.isDecimalDigit c = true))

/-- The name of the marker file of a process, as a directory holds it. -/
def entryName (pid : String) : Name := Bytes.ofString (name pid)

theorem name_inj {pid other : String} (h : name pid = name other) : pid = other := by
  have hlist := congrArg String.toList h
  simp only [name, String.toList_ofList] at hlist
  exact String.toList_inj.1 (List.append_cancel_left (List.append_cancel_right hlist))

/-- What the pattern spells. -/
def expression : Expression :=
  (((Expression.empty.followedBy .textStart).literals opening).followedBy
    (.group 1 (Expression.empty.followedBy (.repeated (.one .decimalDigits))))).literals closing
    |>.followedBy .textEnd

theorem ofText?_pattern : Expression.ofText? pattern = some expression := by decide

/-- The group takes digits and catches them. -/
theorem matches_digits_iff {s t : Spot} :
    Expression.Matches (.group 1 (Expression.empty.followedBy (.repeated (.one .decimalDigits)))) s t ↔
      ∃ digits, digits ≠ [] ∧ (∀ c ∈ digits, Text.isDecimalDigit c = true) ∧ s.Takes digits t ∧
        t.caught = (1, digits) :: s.caught := by
  rw [Expression.matches_group_iff]
  constructor
  · rintro ⟨u, hinside, rfl⟩
    obtain ⟨v, hempty, hrepeated⟩ := Expression.matches_followedBy_iff.1 hinside
    obtain rfl := Expression.matches_empty_iff.1 hempty
    obtain ⟨digits, hne, hall, htakes, hcaught⟩ := Expression.matches_repeated_one_iff.1 hrepeated
    refine ⟨digits, hne, hall, htakes.catching 1 v, ?_⟩
    rw [htakes.caught_catching, hcaught]
  · rintro ⟨digits, hne, hall, htakes, hcaught⟩
    have hu : s.Takes digits ⟨t.before, t.after, s.caught⟩ := ⟨htakes.after, htakes.before⟩
    refine ⟨⟨t.before, t.after, s.caught⟩, .followedBy (.empty s) ?_, ?_⟩
    · exact Expression.matches_repeated_one_iff.2 ⟨digits, hne, hall, hu, rfl⟩
    · rw [Spot.ext_iff, hu.caught_catching]
      exact ⟨rfl, rfl, hcaught⟩

/-- The expression matches a text from end to end or not at all: its beginning, digits, and its end,
one after the other. The digits are what the group catches. -/
theorem matchesIn_expression_iff {text : List Char} {spot : Spot} :
    expression.MatchesIn text spot ↔
      ∃ digits, digits ≠ [] ∧ (∀ c ∈ digits, Text.isDecimalDigit c = true) ∧
        text = opening ++ digits ++ closing ∧ spot = ⟨text.reverse, [], [(1, digits)]⟩ := by
  constructor
  · rintro ⟨before, after, rfl, hmatches⟩
    obtain ⟨u, hclosed, hend⟩ := Expression.matches_followedBy_iff.1 hmatches
    obtain ⟨hlast, rfl⟩ := Expression.matches_textEnd_iff.1 hend
    obtain ⟨v, hdigits, htakes, hcaught⟩ := Expression.matches_literals_iff.1 hclosed
    obtain ⟨w, hopened, hgroup⟩ := Expression.matches_followedBy_iff.1 hdigits
    obtain ⟨digits, hne, hall, htakes', hcaught'⟩ := matches_digits_iff.1 hgroup
    obtain ⟨x, hstart, htakes'', hcaught''⟩ := Expression.matches_literals_iff.1 hopened
    obtain ⟨y, hempty, hfirst⟩ := Expression.matches_followedBy_iff.1 hstart
    obtain rfl := Expression.matches_empty_iff.1 hempty
    obtain ⟨hnone, rfl⟩ := Expression.matches_textStart_iff.1 hfirst
    -- nothing is before the start and nothing after the end, so what was taken is the whole text
    obtain rfl : before = [] := List.reverse_eq_nil_iff.1 hnone
    have hwhole := (htakes''.trans htakes').trans htakes
    have htext : after = opening ++ digits ++ closing := by
      have hafter := hwhole.after
      rwa [hlast, List.append_nil] at hafter
    refine ⟨digits, hne, hall, htext, ?_⟩
    rw [Spot.ext_iff]
    refine ⟨?_, hlast, ?_⟩
    · rw [hwhole.before, htext]
      simp
    · rw [hcaught, hcaught', hcaught'']
  · rintro ⟨digits, hne, hall, rfl, rfl⟩
    -- the places where the beginning, the digits and the end are taken
    have hopened : Expression.Matches ((Expression.empty.followedBy .textStart).literals opening)
        ⟨[], opening ++ digits ++ closing, []⟩ ⟨opening.reverse, digits ++ closing, []⟩ := by
      refine Expression.matches_literals_iff.2 ⟨_, .followedBy (.empty _) (.textStart rfl), ?_, rfl⟩
      exact ⟨List.append_assoc _ _ _, (List.append_nil _).symm⟩
    have hdigits := matches_digits_iff.2 ⟨digits, hne, hall,
      (⟨rfl, rfl⟩ : Spot.Takes ⟨opening.reverse, digits ++ closing, []⟩ digits
        ⟨digits.reverse ++ opening.reverse, closing, [(1, digits)]⟩), rfl⟩
    have hclosed := Expression.matches_literals_iff.2
      ⟨_, .followedBy hopened hdigits,
        (⟨(List.append_nil _).symm, by simp⟩ : Spot.Takes _ closing
          ⟨(opening ++ digits ++ closing).reverse, [], [(1, digits)]⟩), rfl⟩
    exact ⟨[], _, rfl, .followedBy hclosed (.textEnd rfl)⟩

/-- What the group catches in a name. -/
theorem catches_expression_iff {text pid : String} :
    expression.Catches 1 text pid ↔ IsPid pid ∧ text = name pid := by
  constructor
  · rintro ⟨spot, hmatches, hcaught⟩
    obtain ⟨digits, hne, hall, htext, rfl⟩ := matchesIn_expression_iff.1 hmatches
    obtain rfl : digits = pid.toList := Option.some.inj hcaught
    refine ⟨⟨fun hempty => hne (String.toList_eq_nil_iff.2 hempty), hall⟩, ?_⟩
    rw [name, ← htext, String.ofList_toList]
  · rintro ⟨⟨hne, hall⟩, rfl⟩
    refine ⟨_, matchesIn_expression_iff.2 ⟨pid.toList, ?_, hall, ?_, rfl⟩, rfl⟩
    · intro hempty
      exact hne (String.toList_eq_nil_iff.1 hempty)
    · rw [name, String.toList_ofList]

/-- The process id in a name is what the group catches in it. -/
theorem pid?_eq_some_iff_catches {text pid : String} :
    pid? text = some pid ↔ expression.Catches 1 text pid := by
  rw [pid?, ofText?_pattern, Option.bind_some]
  apply Expression.caught?_eq_some_iff_catches
  · intro spot hmatches
    obtain ⟨digits, -, -, -, rfl⟩ := matchesIn_expression_iff.1 hmatches
    rfl
  · intro one other hone hother
    have hnames := (catches_expression_iff.1 hone).2.symm.trans (catches_expression_iff.1 hother).2
    exact name_inj hnames

theorem pid?_eq_some_iff_name {text pid : String} :
    pid? text = some pid ↔ IsPid pid ∧ text = name pid :=
  pid?_eq_some_iff_catches.trans catches_expression_iff

/-- The name of an entry states a process id exactly if it is that of the process's marker file. -/
theorem pid?_text?_eq_some_iff {entry : Name} {pid : String} :
    entry.text?.bind pid? = some pid ↔ IsPid pid ∧ entry = entryName pid := by
  rw [Option.bind_eq_some_iff]
  constructor
  · rintro ⟨text, htext, hpid⟩
    obtain ⟨hdigits, rfl⟩ := pid?_eq_some_iff_name.1 hpid
    exact ⟨hdigits, Bytes.text?_eq_some_iff.1 htext⟩
  · rintro ⟨hdigits, rfl⟩
    exact ⟨name pid, Bytes.text?_ofString _, pid?_eq_some_iff_name.2 ⟨hdigits, rfl⟩⟩

theorem entryName_ne_nil (pid : String) : entryName pid ≠ [] := by
  intro h
  have htext : name pid = "" := Bytes.ofString_inj.1 (h.trans (by decide))
  have hlist := congrArg String.toList htext
  rw [name, String.toList_ofList] at hlist
  simp [opening] at hlist

end MarkerFile

end EmulatorScout
