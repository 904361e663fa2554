import EmulatorScout.CommandLine.Level
import EmulatorScout.Proofs.Path

/-!
# Where directories are given

A command line as a user sees it: directories are given by `--dir`, with the value in the same
argument or in the next one, and words stand between the options. `marks` finds both without any
knowledge of commands, and `pathsByLevel` tells which directories stand before the first word, between
it and the next one, and so on. All of them together are all that are given (`flatten_pathsByLevel`).
-/

set_option autoImplicit false

namespace EmulatorScout.CommandLine

/-! ## Marks -/

/-- What a part of a command line means for the directories. -/
inductive Mark where
  /-- A directory is given. -/
  | dir (path : Path)
  /-- A word that is neither an option nor the value of one. -/
  | word
  deriving DecidableEq, Repr

/-- The directory that is given. -/
def Mark.path? : Mark → Option Path
  | dir path => some path
  | word => none

/-- The directories that are given, in order. -/
def paths (marks : List Mark) : List Path := marks.filterMap Mark.path?

@[simp] theorem paths_append (first second : List Mark) :
    paths (first ++ second) = paths first ++ paths second := List.filterMap_append

@[simp] theorem paths_word_cons (marks : List Mark) : paths (.word :: marks) = paths marks := rfl

/-- The mark that the value of an option leaves. -/
def ValueOption.mark? (value : Argument) : ValueOption → Option Mark
  | dir => some (.dir ⟨value⟩)
  | out => none

/-! ## The scan -/

/-- What an argument is taken for. -/
inductive Mode where
  /-- For an option, if it begins with a dash. -/
  | options
  /-- For the value of the option before it. -/
  | valueOf (option : ValueOption)
  /-- For a word in any case. -/
  | operands
  deriving DecidableEq, Repr

/-- The mark that an argument leaves, and what the next one is taken for. -/
def Mode.step : Mode → Argument → Option Mark × Mode
  | operands, _ => (some .word, operands)
  | valueOf option, argument => (option.mark? argument, options)
  | options, argument =>
    if argument = Bytes.ofString "--" then (none, operands)
    -- a value that comes next is one even if it looks like a word
    else if argument = Bytes.ofString "--dir" then (none, valueOf .dir)
    else if argument = Bytes.ofString "--out" then (none, valueOf .out)
    else if (Bytes.ofString "--dir=").isPrefixOf argument then
      (some (.dir ⟨argument.drop 6⟩), options)
    else if argument.head? = some dash ∧ argument ≠ [dash] then (none, options)
    else (some .word, options)

/-- The marks of a command line, in order. -/
def marks : Mode → List Argument → List Mark
  | _, [] => []
  | mode, argument :: rest =>
    (mode.step argument).1.toList ++ marks (mode.step argument).2 rest

/-- All directories that are given in a command line, in order. -/
def given (arguments : List Argument) : List Path := paths (marks .options arguments)

/-- Whether an argument is a word where options are expected: it does not begin with a dash, or it is
a dash and nothing else. -/
def IsWord (argument : Argument) : Prop := argument.head? = some dash → argument = [dash]

/-- A word leaves its mark. -/
theorem step_of_isWord {argument : Argument} (h : IsWord argument) :
    Mode.options.step argument = (some .word, .options) := by
  have hne : ∀ text : Argument, text.head? = some dash → text ≠ [dash] → argument ≠ text := by
    rintro text hhead hlone rfl
    exact hlone (h hhead)
  have hattached : ¬ (Bytes.ofString "--dir=").isPrefixOf argument = true := by
    intro hprefix
    obtain ⟨value, hvalue⟩ := List.isPrefixOf_iff_prefix.1 hprefix
    have hlone : Bytes.ofString "--dir=" ++ value ≠ [dash] := fun heq =>
      List.cons_ne_nil _ _ (List.cons.inj heq).2
    exact hne _ rfl hlone hvalue.symm
  have hdash : ¬ (argument.head? = some dash ∧ argument ≠ [dash]) :=
    fun ⟨hhead, hlone⟩ => hlone (h hhead)
  rw [Mode.step, if_neg (hne (Bytes.ofString "--") rfl (by decide)),
    if_neg (hne (Bytes.ofString "--dir") rfl (by decide)),
    if_neg (hne (Bytes.ofString "--out") rfl (by decide)), if_neg hattached, if_neg hdash]

/-- What follows the name of an option: its value, if that stands in the same argument. -/
def attachment : Option Argument → Argument
  | some value => equalsSign :: value
  | none => []

/-- An option as it is written. -/
def ValueOption.written (attached? : Option Argument) : ValueOption → Argument
  | dir => Bytes.ofString "--dir" ++ attachment attached?
  | out => Bytes.ofString "--out" ++ attachment attached?

theorem step_written (option : ValueOption) :
    Mode.options.step (option.written none) = (none, .valueOf option) := by
  cases option <;> rfl

theorem step_written_attached (option : ValueOption) (value : Argument) :
    Mode.options.step (option.written (some value)) = (option.mark? value, .options) := by
  cases option <;> rfl

/-! ## Levels -/

/-- The directories before the first word, between it and the next one, and so on; and those after as
many words as there are further levels. -/
def pathsByLevel : Nat → List Mark → List (List Path)
  | 0, marks => [paths marks]
  | further + 1, marks =>
    paths (marks.takeWhile (· ≠ .word))
      :: pathsByLevel further (marks.dropWhile (· ≠ .word)).tail

theorem pathsByLevel_word (further : Nat) {before : List Mark} (hnone : .word ∉ before)
    (after : List Mark) :
    pathsByLevel (further + 1) (before ++ .word :: after)
      = paths before :: pathsByLevel further after := by
  have hall : ∀ mark ∈ before, decide (mark ≠ .word) = true := by
    intro mark hmark
    exact decide_eq_true fun heq => hnone (heq ▸ hmark)
  rw [pathsByLevel, List.takeWhile_append_of_pos hall, List.dropWhile_append_of_pos hall,
    List.takeWhile_cons_of_neg (by decide), List.dropWhile_cons_of_neg (by decide), List.append_nil,
    List.tail_cons]

/-- The levels together give all that is given. -/
theorem flatten_pathsByLevel (further : Nat) (marks : List Mark) :
    (pathsByLevel further marks).flatten = paths marks := by
  induction further generalizing marks with
  | zero => exact List.append_nil _
  | succ further ih =>
    have hsplit := @List.takeWhile_append_dropWhile _ (· ≠ Mark.word) marks
    -- what is cut off between two levels is a word, or nothing at all
    have htail : paths (marks.dropWhile (· ≠ .word)).tail
        = paths (marks.dropWhile (· ≠ .word)) := by
      cases hdrop : marks.dropWhile (· ≠ .word) with
      | nil => rfl
      | cons mark rest => rw [eq_of_dropWhile_ne hdrop, List.tail_cons, paths_word_cons]
    rw [pathsByLevel, List.flatten_cons, ih, htail, ← paths_append, hsplit]

/-- The directories of the last level that gives any. -/
def innermost (levels : List (List Path)) : List Path :=
  (levels.filter (· ≠ [])).getLast?.getD []

/-- Lists that are not empty and yet nothing together are none at all. -/
theorem eq_nil_of_flatten_eq_nil {levels : List (List Path)} (hne : ∀ level ∈ levels, level ≠ [])
    (h : levels.flatten = []) : levels = [] := by
  cases levels with
  | nil => rfl
  | cons first rest =>
    rw [List.flatten_cons, List.append_eq_nil_iff] at h
    exact absurd h.1 (hne first List.mem_cons_self)

/-- The last level that gives any gives all of them only if it is the only one. -/
theorem innermost_eq_flatten_iff (levels : List (List Path)) :
    innermost levels = levels.flatten ↔ (levels.filter (· ≠ [])).length ≤ 1 := by
  have hne : ∀ level ∈ levels.filter (· ≠ []), level ≠ [] := fun level hlevel =>
    of_decide_eq_true (List.mem_filter.1 hlevel).2
  rw [innermost, ← List.flatten_filter_ne_nil]
  generalize levels.filter (· ≠ []) = giving at hne ⊢
  rcases List.eq_nil_or_concat giving with rfl | ⟨outer, last, rfl⟩
  · simp
  · rw [List.concat_eq_append] at hne ⊢
    rw [List.getLast?_concat, Option.getD_some, List.flatten_append, List.flatten_singleton,
      List.self_eq_append_left, List.length_append, List.length_singleton]
    constructor
    · intro hempty
      -- a level further out that gave nothing would not be there
      have houter : outer = [] := eq_nil_of_flatten_eq_nil
        (fun level hlevel => hne level (List.mem_append_left _ hlevel)) hempty
      rw [houter]
      exact Nat.le_refl 1
    · intro hone
      rw [List.eq_nil_of_length_eq_zero (Nat.le_zero.1 (Nat.le_of_succ_le_succ hone)),
        List.flatten_nil]

end EmulatorScout.CommandLine
