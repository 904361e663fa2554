import EmulatorScout.CommandLine.Run
import EmulatorScout.Proofs.CommandLine.Marks

/-!
# Which directories a run scans

Directories may be given at every level of a command line, and a level takes in those that are given
there (`paths_of_level`). An invocation has those of the innermost level that gives any, and the ones
further out are lost. So all that are given are scanned exactly if they are given at one level
(`innermost_of_parse`).
-/

set_option autoImplicit false

namespace EmulatorScout.CommandLine

/-! ## The state of reading -/

/-- What goes well in two steps does so in both. -/
theorem exists_of_bind {ε α β : Type} {first : Except ε α} {next : α → Except ε β} {result : β}
    (h : first.bind next = .ok result) : ∃ value, first = .ok value ∧ next value = .ok result := by
  cases first with
  | error error => cases h
  | ok value => exact ⟨value, rfl, h⟩

/-- The mark of what is held. -/
def Held.mark? : Held → Option Mark
  | optionValue option value => option.mark? value
  | nothing | awaiting _ | operandValue .. => none

namespace Reading

/-- What the next argument is taken for. -/
def mode (reading : Reading) : Mode :=
  if reading.onlyOperands then .operands
  else
    match reading.held with
    | .awaiting option => .valueOf option
    | _ => .options

/-- The directories that were given so far, the one that is held included. -/
def taken (reading : Reading) : List Path := reading.dirs ++ paths reading.held.mark?.toList

/-- A reading that can come to a good end: no value is missing after a double dash. -/
def Open (reading : Reading) : Prop :=
  ∀ option, reading.held = .awaiting option → reading.onlyOperands = false

/-- What taking in an option changes. -/
structure Sets (reading : Reading) (mark? : Option Mark) (after : Reading) : Prop where
  /-- A directory is added if one is given. -/
  dirs : after.dirs = reading.dirs ++ paths mark?.toList
  /-- What is held stays. -/
  held : after.held = reading.held
  /-- The end of the options stays. -/
  onlyOperands : after.onlyOperands = reading.onlyOperands
  /-- The operands that are to come stay. -/
  expected : after.expected = reading.expected

/-- What checking the held value changes. -/
structure Settles (reading settled : Reading) : Prop where
  /-- No value is missing. -/
  present : ∀ option, reading.held ≠ .awaiting option
  /-- The directories are those given so far. -/
  dirs : settled.dirs = reading.taken
  /-- Nothing is held any more. -/
  held : settled.held = .nothing
  /-- The end of the options stays. -/
  onlyOperands : settled.onlyOperands = reading.onlyOperands
  /-- The operands that are to come stay. -/
  expected : settled.expected = reading.expected

/-- What an argument changes. -/
structure Follows (reading : Reading) (argument : Argument) (after : Reading) : Prop where
  /-- The scan goes on as the reading does. -/
  mode : (reading.mode.step argument).2 = after.mode
  /-- What is taken in is what the argument gives. -/
  taken : after.taken = reading.taken ++ paths (reading.mode.step argument).1.toList
  /-- Without operands to come there is no word. -/
  expected : reading.expected = [] →
    after.expected = [] ∧ (reading.mode.step argument).1 ≠ some .word

section Steps

variable {reading settled after : Reading} {level : Level} {argument value : Argument}
  {option : ValueOption}

/-- Where nothing is held the directories so far are those that were taken in. -/
theorem taken_of_held (h : reading.held = .nothing) : reading.taken = reading.dirs := by
  rw [taken, h]
  exact List.append_nil _

/-- Options are expected unless they are over or a value is awaited. -/
theorem mode_eq_options (h : reading.onlyOperands = false)
    (hpresent : ∀ option, reading.held ≠ .awaiting option) : reading.mode = .options := by
  rw [mode, h]
  cases hheld : reading.held with
  | awaiting option => exact absurd hheld (hpresent option)
  | nothing | optionValue option value | operandValue kind value => rfl

/-- An option takes in what its value gives. -/
theorem sets_of_setOption (h : reading.setOption value option = .ok after) :
    reading.Sets (option.mark? value) after := by
  cases option with
  | dir =>
    rw [setOption, readPath] at h
    split at h
    · cases h
    · cases h
      exact ⟨rfl, rfl, rfl, rfl⟩
  | out =>
    rw [setOption] at h
    split at h
    · cases h
    · rw [readPath] at h
      split at h
      · cases h
      · cases h
        exact ⟨(List.append_nil _).symm, rfl, rfl, rfl⟩

/-- Checking the held value takes in what it gives. -/
theorem settles_of_settle (h : reading.settle = .ok settled) : reading.Settles settled := by
  rw [settle] at h
  cases hheld : reading.held with
  | nothing =>
    rw [hheld] at h
    cases h
    exact ⟨by rw [hheld]; exact nofun, (taken_of_held hheld).symm, hheld, rfl, rfl⟩
  | awaiting option =>
    rw [hheld] at h
    cases h
  | optionValue option value =>
    rw [hheld] at h
    have hsets := sets_of_setOption h
    refine ⟨by rw [hheld]; exact nofun, ?_, hsets.held, hsets.onlyOperands, hsets.expected⟩
    rw [hsets.dirs, taken, hheld]
    rfl
  | operandValue kind value =>
    rw [hheld] at h
    dsimp only at h
    cases hread : kind.read value with
    | error error =>
      rw [hread] at h
      cases h
    | ok operand =>
      rw [hread] at h
      cases h
      refine ⟨by rw [hheld]; exact nofun, ?_, rfl, rfl, rfl⟩
      rw [taken, hheld]
      exact (List.append_nil _).symm

theorem Settles.open (h : reading.Settles settled) : reading.Open :=
  fun option hheld => absurd hheld (h.present option)

/-- What is done after the held value was checked is done only if that value is good. -/
theorem exists_settles {next : Reading → Except UsageError Reading}
    (h : reading.settle.bind next = .ok after) :
    ∃ settled, reading.Settles settled ∧ next settled = .ok after := by
  obtain ⟨settled, hsettle, hnext⟩ := exists_of_bind h
  exact ⟨settled, settles_of_settle hsettle, hnext⟩

/-- What is taken in after the held value was checked follows the scan. -/
theorem follows_of_sets {mark? : Option Mark} (hoptions : reading.onlyOperands = false)
    (hsettles : reading.Settles settled) (hsets : settled.Sets mark? after)
    (hstep : Mode.options.step argument = (mark?, .options)) (hword : mark? ≠ some .word) :
    reading.Follows argument after := by
  have hmode := mode_eq_options hoptions hsettles.present
  have hheld := hsets.held.trans hsettles.held
  constructor
  case mode =>
    rw [hmode, hstep, mode_eq_options (hsets.onlyOperands.trans (hsettles.onlyOperands.trans hoptions))]
    rw [hheld]
    exact nofun
  case taken => rw [hmode, hstep, taken_of_held hheld, hsets.dirs, hsettles.dirs]
  case expected =>
    intro hnone
    rw [hmode, hstep]
    exact ⟨hsets.expected.trans (hsettles.expected.trans hnone), hword⟩

/-- An option follows the scan, whether its value stands in the same argument or comes next. -/
theorem follows_of_takeOption {attached? : Option Argument} (hoptions : reading.onlyOperands = false)
    (h : reading.takeOption option attached? = .ok after) :
    reading.Follows (option.written attached?) after := by
  obtain ⟨settled, hsettles, hnext⟩ := exists_settles h
  cases attached? with
  | none =>
    cases hnext
    have hmode := mode_eq_options hoptions hsettles.present
    constructor
    case mode =>
      rw [hmode, step_written, mode]
      simp only [hsettles.onlyOperands, hoptions, Bool.false_eq_true, if_false]
    case taken =>
      rw [hmode, step_written, ← hsettles.dirs]
      rfl
    case expected =>
      intro hnone
      rw [hmode, step_written]
      exact ⟨hsettles.expected.trans hnone, nofun⟩
  | some value =>
    exact follows_of_sets hoptions hsettles (sets_of_setOption hnext)
      (step_written_attached option value) (by cases option <;> exact nofun)

/-- The flag for JSON follows the scan. -/
theorem follows_of_setJson (hoptions : reading.onlyOperands = false)
    (h : reading.setJson = .ok after) : reading.Follows (Bytes.ofString "--json") after := by
  obtain ⟨settled, hsettles, hnext⟩ := exists_settles h
  split at hnext
  · cases hnext
  · cases hnext
    have hsets : settled.Sets none { settled with json := true } :=
      ⟨(List.append_nil _).symm, rfl, rfl, rfl⟩
    exact follows_of_sets hoptions hsettles hsets rfl nofun

theorem request_ne_ok (wanted : UsageError) : reading.request wanted ≠ .ok after := by
  intro h
  obtain ⟨settled, -, hnext⟩ := exists_settles h
  cases hnext

end Steps

end Reading

/-! ## One argument -/

section Take

variable {reading after final : Reading} {level : Level} {argument : Argument}

open Reading

theorem splitLong_append (argument : Argument) :
    (splitLong argument).1 ++ attachment (splitLong argument).2 = argument := by
  have hsplit := @List.takeWhile_append_dropWhile _ (· ≠ equalsSign) argument
  rw [splitLong]
  cases hdrop : argument.dropWhile (· ≠ equalsSign) with
  | nil =>
    rw [hdrop] at hsplit
    exact hsplit
  | cons sign value =>
    rw [hdrop, eq_of_dropWhile_ne hdrop] at hsplit
    exact hsplit

/-- A long option that is taken in follows the scan. -/
theorem follows_of_takeLong (hoptions : reading.onlyOperands = false)
    (h : level.takeLong reading argument = .ok after) :
    reading.Follows (dash :: dash :: argument) after := by
  have hsplit := splitLong_append argument
  rw [Level.takeLong] at h
  generalize (splitLong argument).1 = name, (splitLong argument).2 = attached? at h hsplit
  subst hsplit
  split at h
  next hname =>
    subst hname
    exact follows_of_takeOption hoptions h
  split at h
  next hname =>
    rw [hname.1]
    exact follows_of_takeOption hoptions h
  -- the other options take no value
  cases attached? with
  | some value =>
    split at h
    · cases h
    · split at h
      · cases h
      · split at h <;> cases h
  | none =>
    rw [attachment, List.append_nil]
    split at h
    next hname =>
      subst hname
      exact follows_of_setJson hoptions h
    split at h
    · exact absurd h (request_ne_ok _)
    split at h
    · exact absurd h (request_ne_ok _)
    · cases h

theorem takeShort_ne_ok : level.takeShort reading argument ≠ .ok after := by
  rw [Level.takeShort]
  split
  · exact request_ne_ok _
  split
  · exact request_ne_ok _
  · exact nofun

/-- A word that is no value of an option is held as an operand that was to come. -/
theorem exists_of_takeWord (h : level.takeWord reading argument = .ok after)
    (hvalue : ¬ ∃ option, reading.held = .awaiting option ∧ reading.onlyOperands = false) :
    reading.expected ≠ [] ∧ (∀ option, reading.held ≠ .awaiting option) ∧
      (∃ kind, after.held = .operandValue kind argument) ∧ after.dirs = reading.taken ∧
      after.onlyOperands = reading.onlyOperands := by
  rw [Level.takeWord] at h
  split at h
  next option hheld honly => exact absurd ⟨option, hheld, honly⟩ hvalue
  next =>
    split at h
    · cases h
    next kind expected hexpected =>
      obtain ⟨settled, hsettles, hnext⟩ := exists_settles h
      cases hnext
      exact ⟨hexpected ▸ List.cons_ne_nil kind expected, hsettles.present, ⟨kind, rfl⟩,
        hsettles.dirs, hsettles.onlyOperands⟩

/-- A word that is taken in follows the scan, as the value of an option or as an operand. -/
theorem follows_of_takeWord (h : level.takeWord reading argument = .ok after)
    (hword : reading.onlyOperands = false → IsWord argument) : reading.Follows argument after := by
  by_cases hawaits : ∃ option, reading.held = .awaiting option ∧ reading.onlyOperands = false
  · obtain ⟨option, hheld, honly⟩ := hawaits
    rw [Level.takeWord, hheld, honly] at h
    cases h
    have hmode : reading.mode = .valueOf option := by
      rw [mode, hheld, honly]
      rfl
    constructor
    case mode =>
      rw [hmode, mode]
      rfl
    case taken =>
      rw [hmode, taken, taken, hheld]
      exact congrArg (· ++ _) (List.append_nil _).symm
    case expected =>
      intro hnone
      rw [hmode]
      refine ⟨hnone, ?_⟩
      cases option <;> exact nofun
  · obtain ⟨hexpected, hpresent, ⟨kind, hheld⟩, hdirs, hsame⟩ := exists_of_takeWord h hawaits
    have hstep : reading.mode.step argument = (some .word, after.mode) := by
      cases honly : reading.onlyOperands with
      | true =>
        rw [mode, mode, if_pos honly, if_pos (hsame.trans honly)]
        rfl
      | false =>
        rw [mode_eq_options honly hpresent, step_of_isWord (hword honly),
          mode_eq_options (hsame.trans honly)]
        rw [hheld]
        exact fun _ => nofun
    constructor
    case mode => rw [hstep]
    case taken =>
      rw [hstep, taken, hheld, hdirs]
      rfl
    case expected => exact fun hnone => absurd hnone hexpected

/-- An argument that is taken in follows the scan, if no value is missing in the end. -/
theorem follows_of_take (h : level.take reading argument = .ok after) (hopen : after.Open) :
    reading.Follows argument after := by
  rw [Level.take.eq_def] at h
  cases honly : reading.onlyOperands with
  | true =>
    rw [if_pos honly] at h
    exact follows_of_takeWord h fun hfalse => absurd (honly.symm.trans hfalse) (by decide)
  | false =>
    rw [if_neg (by rw [honly]; decide)] at h
    match argument, h with
    | [], h => exact follows_of_takeWord h fun _ => nofun
    | [letter], h =>
      refine follows_of_takeWord h fun _ hdash => ?_
      rw [Option.some.inj hdash]
    | [first, second], h =>
      dsimp only at h
      split at h
      next hdashes =>
        cases h
        have hpresent : ∀ option, reading.held ≠ .awaiting option := fun option hheld =>
          Bool.noConfusion (hopen option hheld)
        rw [hdashes.1, hdashes.2]
        have hstep : Mode.options.step [dash, dash] = (none, .operands) := rfl
        constructor
        case mode =>
          rw [mode_eq_options honly hpresent, hstep]
          rfl
        case taken =>
          rw [mode_eq_options honly hpresent, hstep]
          exact (List.append_nil _).symm
        case expected =>
          intro hnone
          rw [mode_eq_options honly hpresent, hstep]
          exact ⟨hnone, nofun⟩
      split at h
      · exact absurd h takeShort_ne_ok
      next hfirst =>
        exact follows_of_takeWord h fun _ hdash => absurd (Option.some.inj hdash) hfirst
    | first :: second :: third :: rest, h =>
      dsimp only at h
      split at h
      next hdashes =>
        rw [hdashes.1, hdashes.2]
        exact follows_of_takeLong honly h
      split at h
      · exact absurd h takeShort_ne_ok
      next hfirst =>
        exact follows_of_takeWord h fun _ hdash => absurd (Option.some.inj hdash) hfirst

/-- What takes an argument in can come to a good end. -/
theorem open_of_take (h : level.take reading argument = .ok after) : reading.Open := by
  intro option hheld
  apply Decidable.byContradiction
  intro hover
  rw [Level.take.eq_def, if_pos (by simpa using hover)] at h
  exact (exists_of_takeWord h fun ⟨_, _, honly⟩ => hover honly).2.1 option hheld

end Take

/-! ## One level -/

section Level

variable {reading final settled : Reading} {level : Level} {argument : Argument}
  {arguments : List Argument} {next : Option (String × List Argument)}

/-- The marks of what follows a level, the command word included. -/
def marksAfter : Option (String × List Argument) → List Mark
  | none => []
  | some (_, rest) => .word :: marks .options rest

/-- Whether no command word of a level begins as an option does. -/
def Level.Plain (level : Level) : Prop :=
  ∀ word ∈ level.subcommands ++ [helpWord], (Bytes.ofString word).head? ≠ some dash

instance (level : Level) : Decidable level.Plain :=
  inferInstanceAs (Decidable (∀ word ∈ level.subcommands ++ [helpWord],
    (Bytes.ofString word).head? ≠ some dash))

/-- A command stands where options are expected, and it is a word. -/
theorem mode_of_command (plain : level.Plain) {word : String}
    (h : level.command? reading argument = some word) :
    reading.mode = .options ∧ IsWord argument := by
  rw [Level.command?] at h
  split at h
  · cases h
  · cases h
  next honly hpresent =>
    refine ⟨Reading.mode_eq_options honly hpresent, ?_⟩
    intro hdash
    rw [Level.subcommand?] at h
    split at h
    · cases h
    · have hword := List.find?_some h
      rw [decide_eq_true_iff] at hword
      exact absurd (hword ▸ hdash) (plain word (List.mem_of_find?_eq_some h))

/-- Reading a level follows the scan up to what comes after the level. -/
theorem marks_of_read (plain : level.Plain) (h : level.read reading arguments = .ok (final, next))
    (hopen : final.Open) :
    reading.Open ∧ ∃ before, marks reading.mode arguments = before ++ marksAfter next ∧
      final.taken = reading.taken ++ paths before ∧
      (reading.expected = [] → .word ∉ before) := by
  -- the induction is on the arguments; what follows the scan is the state of reading
  induction arguments generalizing reading with
  | nil =>
    cases h
    exact ⟨hopen, [], rfl, (List.append_nil _).symm, fun _ => List.not_mem_nil⟩
  | cons argument rest ih =>
    rw [Level.read] at h
    split at h
    next word hcommand =>
      cases h
      obtain ⟨hmode, hword⟩ := mode_of_command plain hcommand
      refine ⟨hopen, [], ?_, (List.append_nil _).symm, fun _ => List.not_mem_nil⟩
      rw [hmode, marks, step_of_isWord hword]
      rfl
    next =>
      obtain ⟨after, htake, h⟩ := exists_of_bind h
      obtain ⟨hafter, before, hmarks, htaken, hwords⟩ := ih h
      have hfollows := follows_of_take htake hafter
      refine ⟨open_of_take htake, (reading.mode.step argument).1.toList ++ before, ?_, ?_, ?_⟩
      · rw [marks, hfollows.mode, hmarks, List.append_assoc]
      · rw [htaken, hfollows.taken, paths_append, List.append_assoc]
      · intro hnone hmem
        obtain ⟨hnone', hword⟩ := hfollows.expected hnone
        rcases List.mem_append.1 hmem with hmem | hmem
        · exact hword (Option.mem_toList.1 hmem)
        · exact hwords hnone' hmem

/-- A level takes in the directories that are given there. -/
theorem paths_of_level (plain : level.Plain)
    (h : level.read level.begin arguments = .ok (reading, next))
    (hsettle : reading.settle = .ok settled) :
    ∃ before, marks .options arguments = before ++ marksAfter next ∧
      settled.dirs = paths before ∧ (level.operands = [] → .word ∉ before) := by
  have hsettles := Reading.settles_of_settle hsettle
  obtain ⟨-, before, hmarks, htaken, hwords⟩ := marks_of_read plain h hsettles.open
  exact ⟨before, hmarks, hsettles.dirs.trans htaken, hwords⟩

theorem read_to_end (hnone : level.subcommands = [])
    (h : level.read reading arguments = .ok (final, next)) : next = none := by
  induction arguments generalizing reading with
  | nil =>
    cases h
    rfl
  | cons argument rest ih =>
    have hcommand : level.command? reading argument = none := by
      rw [Level.command?, Level.subcommand?, if_pos hnone]
      split <;> rfl
    rw [Level.read, hcommand] at h
    obtain ⟨after, -, h⟩ := exists_of_bind h
    exact ih h

/-- The last level takes in all that is given from there on. -/
theorem dirs_of_readLeaf (hnone : level.subcommands = [])
    (h : readLeaf level arguments = .ok settled) : settled.dirs = given arguments := by
  have plain : level.Plain := by
    rw [Level.Plain, hnone]
    decide
  rw [readLeaf] at h
  obtain ⟨⟨reading, next⟩, hread, h⟩ := exists_of_bind h
  obtain ⟨checked, hsettle, h⟩ := exists_of_bind h
  split at h
  · cases h
  · cases h
    obtain rfl := read_to_end hnone hread
    obtain ⟨before, hmarks, hdirs, -⟩ := paths_of_level plain hread hsettle
    rw [given, hmarks, marksAfter, List.append_nil]
    exact hdirs

end Level

/-! ## The whole command line -/

/-- How many levels a command has after the first one. -/
def Command.furtherLevels : Command → Nat
  | .config _ => 2
  | .dirs | .list | .find .. | .pid _ | .first | .exportTo _ => 1

/-- The directories that are given in a command line, level by level from the outermost. -/
def givenByLevel (command : Command) (arguments : List Argument) : List (List Path) :=
  pathsByLevel command.furtherLevels (marks .options arguments)

section Parse

variable {arguments rest : List Argument} {invocation : Invocation} {word : String}
  {reading top leaf : Reading} {command : Command}

/-- The readings of levels, innermost first, have the directories of the innermost level. -/
theorem innermostDirs_eq (levels : List Reading) :
    innermostDirs levels = innermost (levels.map (·.dirs)).reverse := by
  rw [innermostDirs, innermost, List.filter_reverse, List.getLast?_reverse, List.head?_filter]

theorem withoutCommand_ne_ok : withoutCommand reading ≠ .ok invocation := by
  intro h
  obtain ⟨settled, -, h⟩ := exists_of_bind h
  split at h <;> cases h

theorem subcommands_leafLevel (word : String) : (leafLevel word).subcommands = [] := by
  rw [leafLevel]
  split
  · rfl
  split
  · rfl
  split <;> rfl

theorem subcommands_configLeafLevel (word : String) : (configLeafLevel word).subcommands = [] := by
  rw [configLeafLevel]
  split
  · rfl
  split <;> rfl

theorem furtherLevels_of_commandOf (h : commandOf word leaf = .ok command) :
    command.furtherLevels = 1 := by
  rw [commandOf.eq_def] at h
  split at h <;> cases h <;> rfl

/-- What follows `config` adds two levels to the first one. -/
theorem dirs_of_parseConfig (h : parseConfig reading arguments = .ok invocation) :
    ∃ top, reading.settle = .ok top ∧ invocation.command.furtherLevels = 2 ∧
      invocation.dirs = innermost (top.dirs :: pathsByLevel 1 (marks .options arguments)) := by
  rw [parseConfig] at h
  obtain ⟨⟨middle, next⟩, hread, h⟩ := exists_of_bind h
  cases next with
  | none => exact absurd h withoutCommand_ne_ok
  | some following =>
    obtain ⟨word, rest⟩ := following
    dsimp only at h
    split at h
    · cases h
    · obtain ⟨leaf, hleaf, h⟩ := exists_of_bind h
      obtain ⟨settled, hsettle, h⟩ := exists_of_bind h
      obtain ⟨top, htop, h⟩ := exists_of_bind h
      obtain ⟨command, -, h⟩ := exists_of_bind h
      cases h
      obtain ⟨before, hmarks, hdirs, hword⟩ := paths_of_level (by decide) hread hsettle
      refine ⟨top, htop, rfl, ?_⟩
      rw [hmarks, marksAfter, pathsByLevel_word 0 (hword rfl), ← hdirs, pathsByLevel, ← given,
        ← dirs_of_readLeaf (subcommands_configLeafLevel word) hleaf]
      exact innermostDirs_eq [leaf, settled, top]

/-- An invocation has the directories of the innermost level that gives any. -/
theorem dirs_of_parse (h : parse arguments = .ok invocation) :
    invocation.dirs = innermost (givenByLevel invocation.command arguments) := by
  rw [parse] at h
  obtain ⟨⟨reading, next⟩, hread, h⟩ := exists_of_bind h
  cases next with
  | none => exact absurd h withoutCommand_ne_ok
  | some following =>
    obtain ⟨word, rest⟩ := following
    dsimp only at h
    split at h
    · cases h
    split at h
    · obtain ⟨top, htop, hlevels, hinner⟩ := dirs_of_parseConfig h
      obtain ⟨before, hmarks, hdirs, hword⟩ := paths_of_level (by decide) hread htop
      rw [givenByLevel, hlevels, hmarks, marksAfter, pathsByLevel_word 1 (hword rfl), ← hdirs]
      exact hinner
    · obtain ⟨leaf, hleaf, h⟩ := exists_of_bind h
      obtain ⟨top, htop, h⟩ := exists_of_bind h
      obtain ⟨command, hcommand, h⟩ := exists_of_bind h
      cases h
      obtain ⟨before, hmarks, hdirs, hword⟩ := paths_of_level (by decide) hread htop
      rw [givenByLevel, CommandLine.invocation, furtherLevels_of_commandOf hcommand, hmarks,
        marksAfter, pathsByLevel_word 0 (hword rfl), ← hdirs, pathsByLevel, ← given,
        ← dirs_of_readLeaf (subcommands_leafLevel word) hleaf]
      exact innermostDirs_eq [leaf, top]

/-- Which of the given directories are scanned, after all others: those of the innermost level
that gives any. These are all that are given exactly if at most one level gives any. -/
theorem innermost_of_parse (h : parse arguments = .ok invocation) :
    (givenByLevel invocation.command arguments).flatten = given arguments ∧
      invocation.dirs = innermost (givenByLevel invocation.command arguments) ∧
      (invocation.dirs = given arguments
        ↔ ((givenByLevel invocation.command arguments).filter (· ≠ [])).length ≤ 1) ∧
      ∀ host config,
        scanPaths host config invocation.dirs = scanPaths host config [] ++ invocation.dirs := by
  have hall := flatten_pathsByLevel invocation.command.furtherLevels (marks .options arguments)
  have hdirs := dirs_of_parse h
  refine ⟨hall, hdirs, ?_, ?_⟩
  · rw [hdirs, given, ← hall]
    exact innermost_eq_flatten_iff _
  · intro host config
    rw [scanPaths, scanPaths, List.append_nil]

end Parse

/-- A command line with a directory before its command and another one after it. -/
def splitArguments : List Argument := ["--dir", "/a", "list", "--dir", "/b"].map Bytes.ofString

/-- Of two directories that are given at two levels only the inner one is scanned. -/
theorem innermost_of_parse_split :
    parse splitArguments = .ok ⟨.list, [Path.ofString "/b"], false⟩ ∧
      given splitArguments = [Path.ofString "/a", Path.ofString "/b"] ∧
      [Path.ofString "/b"] ≠ given splitArguments := by
  have hparse : parse splitArguments = .ok ⟨.list, [Path.ofString "/b"], false⟩ := by rfl
  refine ⟨hparse, by rfl, fun hall => ?_⟩
  -- two levels give directories
  exact absurd ((innermost_of_parse hparse).2.2.1.1 hall) (by decide)

/-- Directories that are given can be lost. -/
theorem exists_given_lost :
    ¬ ∀ arguments invocation, parse arguments = .ok invocation →
      invocation.dirs = given arguments := by
  intro hall
  have hparse : parse splitArguments = .ok ⟨.list, [Path.ofString "/b"], false⟩ := by rfl
  exact absurd (hall _ _ hparse) (by decide)

end EmulatorScout.CommandLine
