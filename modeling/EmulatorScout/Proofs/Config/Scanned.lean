import EmulatorScout.CommandLine.Run
import EmulatorScout.Proofs.Config.Memory
import EmulatorScout.Proofs.FileSystem.Walk

/-!
# The directories that a scan goes through

A scan reads each entry of the configuration without the white space at its ends (`scannedDirs`). To add
or to remove a directory is to compare the entries themselves with the trimmed directory, so both go by
what is scanned (`ActsOnScanned`) exactly if no entry stands for the directory with white space at its
ends (`CommandLine.actsOnScanned_iff`). The commands alone never bring such an entry in
(`Memory.actsOnScanned_config`), but a file that was written by hand may have one.
-/

set_option autoImplicit false

namespace EmulatorScout

namespace Config

/-- The directories that a scan goes through, before a tilde in them is expanded. -/
def scannedDirs (config : Config) : List String :=
  (config.effectiveDirs.map Text.trimmed).filter (· ≠ "")

/-- The paths to scan are those of these directories. -/
theorem extraPaths_eq_map_scannedDirs (config : Config) (home? : Option String) :
    config.extraPaths home? = config.scannedDirs.map (Home.expand home?) := rfl

/-- The remembered entries that a scan does not read as the given directory, in their order. -/
def others (config : Config) (dir : String) : List String :=
  config.extraDirs.filter fun entry => Text.trimmed entry ≠ Text.trimmed dir

/-- A remembered entry that a scan reads as the given directory has white space at its ends. -/
def Padded (config : Config) (dir : String) : Prop :=
  ∃ entry ∈ config.extraDirs, Text.trimmed entry = Text.trimmed dir ∧ entry ≠ Text.trimmed dir

/-- To remove a directory and to add it go by what is scanned. -/
structure ActsOnScanned (config : Config) (dir : String) : Prop where
  /-- After the removal the directory is not scanned. -/
  removed : Text.trimmed dir ∉ (config.removeDir dir).1.scannedDirs
  /-- The removal tells whether the directory was scanned. -/
  removal_told : (config.removeDir dir).2 = true ↔ Text.trimmed dir ∈ config.scannedDirs
  /-- The removal keeps the other entries in their order. -/
  others_kept : (config.removeDir dir).1.others dir = config.others dir
  /-- The addition tells whether the directory was not scanned. -/
  addition_told : (config.addDir dir).2 = true ↔ Text.trimmed dir ∉ config.scannedDirs
  /-- A new directory is added at the end, in its trimmed form. -/
  added : (config.addDir dir).2 = true →
    (config.addDir dir).1.extraDirs = config.extraDirs ++ [Text.trimmed dir]

section Remembered

variable {config : Config} {dir : String}

/-- Without directories for the run the remembered ones are scanned, each in its trimmed form. -/
theorem mem_scannedDirs_iff (hunset : config.overrideDirs = none) (hne : Text.trimmed dir ≠ "") :
    Text.trimmed dir ∈ config.scannedDirs ↔
      ∃ entry ∈ config.extraDirs, Text.trimmed entry = Text.trimmed dir := by
  rw [scannedDirs, effectiveDirs, hunset, Option.getD_none, List.mem_filter, List.mem_map]
  simp [hne]

/-- A directory is scanned if it is remembered in its trimmed form, or with white space at its ends. -/
theorem mem_scannedDirs_iff_or_padded (hunset : config.overrideDirs = none)
    (hne : Text.trimmed dir ≠ "") :
    Text.trimmed dir ∈ config.scannedDirs ↔
      Text.trimmed dir ∈ config.extraDirs ∨ config.Padded dir := by
  rw [mem_scannedDirs_iff hunset hne]
  constructor
  · rintro ⟨entry, hentry, htrimmed⟩
    by_cases hsame : entry = Text.trimmed dir
    · exact .inl (hsame ▸ hentry)
    · exact .inr ⟨entry, hentry, htrimmed, hsame⟩
  · rintro (hmem | ⟨entry, hentry, htrimmed, -⟩)
    · exact ⟨_, hmem, Text.trimmed_trimmed dir⟩
    · exact ⟨entry, hentry, htrimmed⟩

/-- After its removal a directory is still scanned exactly if it is remembered with white space at its
ends. -/
theorem mem_scannedDirs_removeDir_iff (hunset : config.overrideDirs = none)
    (hne : Text.trimmed dir ≠ "") :
    Text.trimmed dir ∈ (config.removeDir dir).1.scannedDirs ↔ config.Padded dir := by
  have hunset' : (config.removeDir dir).1.overrideDirs = none := hunset
  rw [mem_scannedDirs_iff hunset' hne]
  apply exists_congr
  intro entry
  rw [removeDir, List.mem_filter, decide_eq_true_iff, and_assoc, and_comm (a := entry ≠ _)]

theorem others_removeDir (config : Config) (dir : String) :
    (config.removeDir dir).1.others dir = config.others dir := by
  rw [others, removeDir, List.filter_filter, others]
  apply List.filter_congr
  intro entry _
  -- an entry that is read as another directory is not the directory that is removed
  by_cases hsame : entry = Text.trimmed dir
  · simp [hsame, Text.trimmed_trimmed]
  · simp [hsame]

theorem extraDirs_addDir (h : (config.addDir dir).2 = true) :
    (config.addDir dir).1.extraDirs = config.extraDirs ++ [Text.trimmed dir] := by
  rw [addDir] at h ⊢
  split at h
  · rename_i haccepts
    rw [if_pos haccepts]
  · cases h

theorem addDir_new_iff_of_ne (hne : Text.trimmed dir ≠ "") :
    (config.addDir dir).2 = true ↔ Text.trimmed dir ∉ config.extraDirs := by
  rw [addDir_new_iff]
  exact and_iff_right hne

/-- Adding and removing go by what is scanned exactly if no entry has white space at its ends. -/
theorem actsOnScanned_iff_not_padded (hunset : config.overrideDirs = none)
    (hne : Text.trimmed dir ≠ "") : config.ActsOnScanned dir ↔ ¬ config.Padded dir := by
  constructor
  · intro acts hpadded
    exact acts.removed ((mem_scannedDirs_removeDir_iff hunset hne).2 hpadded)
  · intro hplain
    -- so the directory is scanned exactly if its trimmed form is remembered
    have hscanned : Text.trimmed dir ∈ config.scannedDirs ↔ Text.trimmed dir ∈ config.extraDirs := by
      rw [mem_scannedDirs_iff_or_padded hunset hne]
      exact or_iff_left hplain
    exact {
      removed := mt (mem_scannedDirs_removeDir_iff hunset hne).1 hplain
      removal_told := removeDir_there_iff.trans hscanned.symm
      others_kept := others_removeDir config dir
      addition_told := (addDir_new_iff_of_ne hne).trans (not_congr hscanned.symm)
      added := extraDirs_addDir }

end Remembered

end Config

/-- For what the commands alone made, adding and removing go by what is scanned. -/
theorem Memory.actsOnScanned_config (memory : Memory) {dir : String} (hne : Text.trimmed dir ≠ "") :
    memory.config.ActsOnScanned dir := by
  refine (Config.actsOnScanned_iff_not_padded rfl hne).2 ?_
  rintro ⟨entry, hentry, htrimmed, hpadded⟩
  exact hpadded ((memory.dirs.trimmed entry hentry).symm.trans htrimmed)

namespace CommandLine

theorem overrideDirs_loadConfig {host : Host} (hunset : host.value? dirsVariable = none) :
    (loadConfig host).1.overrideDirs = none := by
  rw [loadConfig, hunset]
  rfl

/-- What adding and removing do to the directories that are scanned, for every configuration that is
loaded in a run without directories of its own and every directory that is not blank. They go by what is
scanned exactly if no entry has the directory with white space at its ends. Such an entry is still
scanned after the removal. What is removed and what counts as there is the trimmed form alone, all other
entries are kept in their order, and a new directory comes at the end in its trimmed form. -/
theorem actsOnScanned_iff {host : Host} (hunset : host.value? dirsVariable = none) {dir : String}
    (hne : Text.trimmed dir ≠ "") :
    let config := (loadConfig host).1
    (config.ActsOnScanned dir ↔ ¬ config.Padded dir) ∧
      (Text.trimmed dir ∈ (config.removeDir dir).1.scannedDirs ↔ config.Padded dir) ∧
      ((config.removeDir dir).2 = true ↔ Text.trimmed dir ∈ config.extraDirs) ∧
      (config.removeDir dir).1.others dir = config.others dir ∧
      ((config.addDir dir).2 = true ↔ Text.trimmed dir ∉ config.extraDirs) ∧
      ((config.addDir dir).2 = true →
        (config.addDir dir).1.extraDirs = config.extraDirs ++ [Text.trimmed dir]) := by
  intro config
  have hnone : config.overrideDirs = none := overrideDirs_loadConfig hunset
  refine ⟨Config.actsOnScanned_iff_not_padded hnone hne,
    Config.mem_scannedDirs_removeDir_iff hnone hne, Config.removeDir_there_iff,
    Config.others_removeDir config dir, Config.addDir_new_iff_of_ne hne, Config.extraDirs_addDir⟩

/-- The surroundings of a process without a home directory, at the root of a file system with the given
text in the file with the configuration, and with the given value of the variable for directories. -/
def configuredHost (text : String) (dirs? : Option String) : Host where
  files := FileSystem.ofNodes
    [("tmp", .directory), ("tmp/aemu", .directory), ("tmp/aemu/state", .directory),
      ("tmp/aemu/state/cli-config.json", .file (Bytes.ofString text))]
  current := []
  order := ListingOrder.stored
  settings key := if key = dirsVariable then dirs?.map Bytes.ofString else none
  user := 0
  time := 0

/-- A file with one directory that has a blank before it, and one that has none. -/
def paddedHost : Host :=
  configuredHost "\x7b\"extra_dirs\":[\" /x\",\"/y\"]\x7d" none

theorem loadConfig_paddedHost :
    paddedHost.value? dirsVariable = none ∧
      (loadConfig paddedHost).1 = ⟨[" /x", "/y"], false, none⟩ := by
  decide

/-- Of the two directories in that file the one without a blank is removed as it is scanned, and the other
one is still scanned after its removal. -/
theorem actsOnScanned_iff_padded :
    (loadConfig paddedHost).1.ActsOnScanned "/y" ∧
      "/x" ∈ ((loadConfig paddedHost).1.removeDir "/x").1.scannedDirs := by
  obtain ⟨hunset, hloaded⟩ := loadConfig_paddedHost
  have hacts := actsOnScanned_iff hunset (show Text.trimmed "/y" ≠ "" by decide)
  have hscanned := actsOnScanned_iff hunset (show Text.trimmed "/x" ≠ "" by decide)
  rw [hloaded] at hacts hscanned ⊢
  refine ⟨hacts.1.2 ?_, hscanned.2.1.2 ?_⟩
  · rintro ⟨entry, hentry, htrimmed, hpadded⟩
    obtain rfl | rfl : entry = " /x" ∨ entry = "/y" := by simpa using hentry
    · exact absurd htrimmed (by decide)
    · exact absurd (by decide) hpadded
  · exact ⟨" /x", List.mem_cons_self, by decide, by decide⟩

/-- A directory with a blank before it is not removed, although it is scanned, and it is added a second
time. -/
theorem exists_scanned_not_removed :
    paddedHost.value? dirsVariable = none ∧ Text.trimmed "/x" ≠ "" ∧
      ¬ (loadConfig paddedHost).1.ActsOnScanned "/x" ∧
      (loadConfig paddedHost).1.scannedDirs = ["/x", "/y"] ∧
      (loadConfig paddedHost).1.removeDir "/x" = ((loadConfig paddedHost).1, false) ∧
      (loadConfig paddedHost).1.addDir "/x" = (⟨[" /x", "/y", "/x"], false, none⟩, true) := by
  obtain ⟨hunset, hloaded⟩ := loadConfig_paddedHost
  rw [hloaded]
  refine ⟨hunset, by decide, ?_, by decide, by decide, by decide⟩
  intro acts
  exact acts.removed (by decide)

end CommandLine

end EmulatorScout
