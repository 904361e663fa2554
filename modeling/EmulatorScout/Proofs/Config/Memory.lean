import EmulatorScout.CommandLine.Command
import EmulatorScout.Config.Basic
import EmulatorScout.Proofs.Text.Blank

/-!
# What the commands remember

The remembered directories as an ordered set (`DirSet`): trimmed texts that are not empty, none
twice, in the order in which they first came. Commands act on it and on one flag (`Memory.after`),
and `Memory.replay` is what a list of commands makes of an empty memory. Nothing is in it but what
an earlier command brought (`Memory.exists_addDir_of_mem_replay`). A configuration that agrees with
a memory still does after the same command (`Config.after_config`).
-/

set_option autoImplicit false

namespace EmulatorScout

/-- An ordered set of directories. -/
structure DirSet where
  /-- The directories, in the order in which they first came. -/
  dirs : List String
  /-- None is there twice. -/
  nodup : dirs.Nodup
  /-- None has white space at its ends. -/
  trimmed : ∀ dir ∈ dirs, Text.trimmed dir = dir
  /-- None is empty. -/
  ne_empty : ∀ dir ∈ dirs, dir ≠ ""

namespace DirSet

def empty : DirSet := ⟨[], List.nodup_nil, nofun, nofun⟩

/-- Whether a directory comes new to a set: it is not blank and not there yet. -/
def Admits (set : DirSet) (dir : String) : Prop :=
  Text.trimmed dir ≠ "" ∧ Text.trimmed dir ∉ set.dirs

instance (set : DirSet) (dir : String) : Decidable (set.Admits dir) :=
  inferInstanceAs (Decidable (Text.trimmed dir ≠ "" ∧ Text.trimmed dir ∉ set.dirs))

/-- The set with a directory at its end, if it comes new. -/
def insert (set : DirSet) (dir : String) : DirSet :=
  if new : set.Admits dir then
    { dirs := set.dirs ++ [Text.trimmed dir]
      nodup := by
        rw [List.nodup_append]
        refine ⟨set.nodup, List.pairwise_singleton _ _, ?_⟩
        rintro kept hkept added hadded rfl
        rw [List.mem_singleton] at hadded
        exact new.2 (hadded ▸ hkept)
      trimmed := by
        intro kept hkept
        rcases List.mem_append.1 hkept with hkept | hkept
        · exact set.trimmed kept hkept
        · rw [List.mem_singleton.1 hkept, Text.trimmed_trimmed]
      ne_empty := by
        intro kept hkept
        rcases List.mem_append.1 hkept with hkept | hkept
        · exact set.ne_empty kept hkept
        · rw [List.mem_singleton.1 hkept]
          exact new.1 }
  else set

/-- The set without a directory. -/
def erase (set : DirSet) (dir : String) : DirSet where
  dirs := set.dirs.filter (· ≠ Text.trimmed dir)
  nodup := set.nodup.filter _
  trimmed kept hkept := set.trimmed kept (List.mem_filter.1 hkept).1
  ne_empty kept hkept := set.ne_empty kept (List.mem_filter.1 hkept).1

theorem dirs_insert (set : DirSet) (dir : String) :
    (set.insert dir).dirs
      = if set.Admits dir then set.dirs ++ [Text.trimmed dir] else set.dirs := by
  rw [insert]
  split <;> rfl

end DirSet

open CommandLine (Command ConfigCommand)

/-- What is remembered from one run to the next. -/
structure Memory where
  /-- The directories. -/
  dirs : DirSet
  /-- Whether output is JSON. -/
  json : Bool

namespace Memory

def initial : Memory := ⟨DirSet.empty, false⟩

/-- What is remembered after a command on the configuration. -/
def afterConfig (memory : Memory) : ConfigCommand → Memory
  | .print => memory
  | .addDir dir => { memory with dirs := memory.dirs.insert dir }
  | .removeDir dir => { memory with dirs := memory.dirs.erase dir }
  | .setJson enabled => { memory with json := enabled }

/-- What is remembered after a command. -/
def after (memory : Memory) : Command → Memory
  | .config command => memory.afterConfig command
  | _ => memory

theorem after_of_ne_config {memory : Memory} {command : Command}
    (h : ∀ inner, command ≠ .config inner) : memory.after command = memory := by
  cases command with
  | config inner => exact absurd rfl (h inner)
  | _ => rfl

/-- What a list of commands makes of an empty memory. -/
def replay (commands : List Command) : Memory := commands.foldl after initial

theorem replay_concat (commands : List Command) (command : Command) :
    replay (commands ++ [command]) = (replay commands).after command := by
  rw [replay, List.foldl_append, List.foldl_cons, List.foldl_nil, replay]

/-- A directory that is remembered after a command was remembered before or comes with the command. -/
theorem mem_after {memory : Memory} {command : Command} {dir : String}
    (h : dir ∈ (memory.after command).dirs.dirs) :
    dir ∈ memory.dirs.dirs ∨
      ∃ text, command = .config (.addDir text) ∧ Text.trimmed text = dir := by
  cases command with
  | config command =>
    cases command with
    | addDir text =>
      rw [after, afterConfig, DirSet.dirs_insert] at h
      split at h
      · rcases List.mem_append.1 h with h | h
        · exact .inl h
        · exact .inr ⟨text, rfl, (List.mem_singleton.1 h).symm⟩
      · exact .inl h
    | removeDir text => exact .inl (List.mem_filter.1 h).1
    | print | setJson enabled => exact .inl h
  | _ => exact .inl h

/-- Every remembered directory was brought by a command, which named it up to white space at its
ends. -/
theorem exists_addDir_of_mem_replay {commands : List Command} {dir : String}
    (h : dir ∈ (replay commands).dirs.dirs) :
    ∃ text, .config (.addDir text) ∈ commands ∧ Text.trimmed text = dir := by
  -- the induction is on the last command, the one that acts on what the others made
  induction commands using List.reverseRecOn with
  | nil => cases h
  | append_singleton commands command ih =>
    rw [replay_concat] at h
    rcases mem_after h with h | ⟨text, rfl, htext⟩
    · obtain ⟨text, hmem, htext⟩ := ih h
      exact ⟨text, List.mem_append_left _ hmem, htext⟩
    · exact ⟨text, List.mem_append_right _ (List.mem_singleton_self _), htext⟩

/-- The configuration that agrees with a memory. -/
def config (memory : Memory) : Config := ⟨memory.dirs.dirs, memory.json, none⟩

end Memory

namespace Config

/-- What a command makes of a configuration. -/
def after (config : Config) : ConfigCommand → Config
  | .print => config
  | .addDir dir => (config.addDir dir).1
  | .removeDir dir => (config.removeDir dir).1
  | .setJson enabled => config.setJson enabled

/-- Whether a command has something to save: a choice of output always is, a directory if it is new,
and the loss of one if it was there. -/
def Saves (config : Config) : ConfigCommand → Prop
  | .print => False
  | .addDir dir => Text.trimmed dir ≠ "" ∧ Text.trimmed dir ∉ config.extraDirs
  | .removeDir dir => Text.trimmed dir ∈ config.extraDirs
  | .setJson _ => True

theorem addDir_of_not_new {config : Config} {dir : String} (h : (config.addDir dir).2 = false) :
    (config.addDir dir).1 = config := by
  rw [addDir] at h ⊢
  split at h
  · cases h
  · rename_i haccepts
    rw [if_neg haccepts]

theorem removeDir_of_not_there {config : Config} {dir : String}
    (h : (config.removeDir dir).2 = false) : (config.removeDir dir).1 = config := by
  have hlength : (config.extraDirs.filter (· ≠ Text.trimmed dir)).length
      = config.extraDirs.length := Decidable.not_not.1 (of_decide_eq_false h)
  -- as many directories are left as there were, so all of them are
  have hkept := List.filter_sublist.eq_of_length hlength
  change { config with extraDirs := config.extraDirs.filter (· ≠ Text.trimmed dir) } = config
  rw [hkept]

theorem addDir_new_iff {config : Config} {dir : String} :
    (config.addDir dir).2 = true ↔ Text.trimmed dir ≠ "" ∧ Text.trimmed dir ∉ config.extraDirs := by
  have haccepts : config.accepts dir = true
      ↔ Text.trimmed dir ≠ "" ∧ Text.trimmed dir ∉ config.extraDirs := by
    simp [accepts]
  rw [addDir, ← haccepts]
  cases config.accepts dir with
  | true => exact ⟨fun _ => rfl, fun _ => rfl⟩
  | false => exact ⟨nofun, nofun⟩

/-- What a directory is taken out of has lost a directory if it was there. -/
theorem removeDir_there_iff {config : Config} {dir : String} :
    (config.removeDir dir).2 = true ↔ Text.trimmed dir ∈ config.extraDirs := by
  have hkept : (config.extraDirs.filter (· ≠ Text.trimmed dir)).length = config.extraDirs.length
      ↔ Text.trimmed dir ∉ config.extraDirs := by
    rw [List.length_filter_eq_length_iff]
    simp only [ne_eq, decide_not, Bool.not_eq_true', decide_eq_false_iff_not]
    exact ⟨fun hall hmem => hall _ hmem rfl, fun hnot dir' hdir heq => hnot (heq ▸ hdir)⟩
  rw [removeDir, decide_eq_true_iff, ne_eq, hkept, Decidable.not_not]

/-- A configuration that agrees with a memory still does after the same command. -/
theorem after_config (memory : Memory) (command : ConfigCommand) :
    memory.config.after command = (memory.afterConfig command).config := by
  cases command with
  | print => rfl
  | addDir dir =>
    -- the two tests for a new directory are one
    have haccepts : memory.config.accepts dir = decide (memory.dirs.Admits dir) := by
      apply Bool.eq_iff_iff.2
      rw [decide_eq_true_iff]
      simp [accepts, Memory.config, DirSet.Admits]
    rw [after, addDir, haccepts, Memory.afterConfig, Memory.config, Memory.config]
    by_cases hnew : memory.dirs.Admits dir
    · simp [hnew, DirSet.dirs_insert]
    · simp [hnew, DirSet.dirs_insert]
  | removeDir dir => rfl
  | setJson enabled => rfl

end Config

end EmulatorScout
