import EmulatorScout.Proofs.CommandLine.Agreement
import EmulatorScout.Proofs.FileSystem.Refusal

/-!
# What a run leaves alone

A run changes the file system only for a command that writes: an export, or a command on the
configuration that has something to save (`CommandLine.keeps_progress_of_not_writes`). When such a save
fails, a configuration that could be read can still be read and is the same
(`CommandLine.content_of_failed`).

What was printed before a step that fails stays printed, so that a run which fails has printed nothing is
owed to the order of the steps alone: every command prints only after the last of its steps that can fail
(`CommandLine.tidy_execute`). Together these are `CommandLine.run_frame`.
-/

set_option autoImplicit false

namespace EmulatorScout.CommandLine

open AtomicWrite CommandLine.Action

/-- Whether a command writes a file under a configuration. -/
def Command.Writes (config : Config) : Command → Prop
  | .config command => config.Saves command
  | .exportTo _ => True
  | .dirs | .list | .find .. | .pid _ | .first => False

section Frame

variable {host : Host} {config : Config} {invocation : Invocation} {filter : NoticeFilter}
  {arguments : List Argument}

/-! ## Files -/

/-- A command that does not write changes nothing. -/
theorem keeps_progress_of_not_writes (h : ¬ invocation.command.Writes config) :
    Keeps Trace.progress (execute host config invocation) := by
  by_cases hconfig : ∀ command, invocation.command ≠ .config command
  · apply keeps_progress_execute hconfig
    intro out hout
    exact h (hout ▸ trivial)
  · obtain ⟨command, hcommand⟩ := Classical.not_forall_not.1 hconfig
    have hsaves : ¬ config.Saves command := fun hsaves => h (hcommand ▸ hsaves)
    rw [execute_config hcommand]
    rcases runConfig_cases host config command with ⟨-, -, -, hkeeps⟩ | ⟨hsaves', -⟩
    · exact hkeeps
    · exact absurd hsaves' hsaves

theorem progress_of_not_writes
    (h : ∀ invocation, parse arguments = .ok invocation →
      ¬ invocation.command.Writes (loadConfig host).1) :
    (run host arguments).progress = Progress.start host.files :=
  run_progress fun invocation hparse => keeps_progress_of_not_writes (h invocation hparse)

/-- A run that fails leaves a configuration that can be read as it is, if it is no export. -/
theorem content_of_failed (sound : host.toView.Sound)
    (noExport : ∀ invocation out, parse arguments = .ok invocation →
      invocation.command ≠ .exportTo out)
    (hcode : (run host arguments).code ≠ 0) {old : Bytes}
    (hread : host.content (configPath host) = .ok old) :
    (host.toView.withFiles (run host arguments).progress.files).content (configPath host)
      = .ok old := by
  by_cases hframe : ∀ invocation, parse arguments = .ok invocation →
      ¬ invocation.command.Writes (loadConfig host).1
  · rw [progress_of_not_writes hframe]
    exact hread
  · simp only [not_forall, not_not] at hframe
    obtain ⟨invocation, hparse, hwrites⟩ := hframe
    rcases run_cases host arguments with hrun | ⟨error, hother, -⟩ | ⟨filter, other, hother, hrun⟩
    · rw [hrun]
      exact hread
    · rw [hparse] at hother
      cases hother
    · rw [hparse] at hother
      cases hother
      rw [hrun] at hcode ⊢
      rw [progress_exitAfter]
      cases hcommand : invocation.command with
      | dirs | list | find key value | pid pid | first =>
        rw [hcommand] at hwrites
        exact hwrites.elim
      | exportTo out => exact absurd hcommand (noExport invocation out hparse)
      | config command =>
        rw [execute_config hcommand] at hcode ⊢
        rcases runConfig_cases host (loadConfig host).1 command with
          ⟨-, -, -, hkeeps⟩ | ⟨-, rest, hsure, hkeeps, hsaving⟩
        · rw [hkeeps]
          exact hread
        · -- what was printed after the attempt could not fail, so the attempt did
          rw [hsaving] at hcode ⊢
          rw [progress_after_attempt hkeeps]
          apply content_of_failed_write sound hread
          intro hsaved
          exact hcode (code_exitAfter_eq_zero_iff.2 ((after_attempt_eq_ok_iff hsure _ _).2 hsaved))

/-! ## Output -/

theorem keeps_output_attempt (made : Attempt) : Keeps Trace.output (attempt made) := by
  intro trace
  rw [after_attempt]

theorem sure_printEmulators (json : Bool) (emulators : List Emulator) :
    Sure (printEmulators json emulators) := sure_printList _ _ _ _

/-- A command on the configuration prints what it made of it after it was saved, or it cannot fail. -/
theorem tidy_runConfig (host : Host) (config : Config) (command : ConfigCommand) :
    Tidy (runConfig host config command) := by
  rcases runConfig_cases host config command with ⟨-, -, hsure, -⟩ | ⟨-, rest, hsure, -, hsaving⟩
  · exact hsure.tidy
  · rw [hsaving]
    exact (keeps_output_attempt _).bind_tidy fun _ => hsure.tidy

/-- Every command prints only after the last of its steps that can fail. -/
theorem tidy_execute (host : Host) (config : Config) (invocation : Invocation) :
    Tidy (execute host config invocation) := by
  obtain ⟨command, dirs, json⟩ := invocation
  have hscanned : Keeps Trace.output (scanned host config dirs) := keeps_scanned fun _ _ => rfl
  cases command with
  | config command => exact tidy_runConfig host config command
  | dirs => exact (sure_printList _ _ _ _).tidy
  | list =>
    apply hscanned.bind_tidy
    intro discovery
    exact (sure_printEmulators _ _).tidy
  | find key value =>
    apply hscanned.bind_tidy
    intro discovery
    apply (Keeps.requireSome _ _).bind_tidy
    intro emulator
    exact (sure_printEmulators _ _).tidy
  | pid pid =>
    apply hscanned.bind_tidy
    intro discovery
    apply (Keeps.requireSome _ _).bind_tidy
    intro emulator
    exact (sure_printEmulators _ _).tidy
  | first =>
    apply hscanned.bind_tidy
    intro discovery
    apply (Keeps.require _).bind_tidy
    intro emulator
    exact (sure_printEmulators _ _).tidy
  | exportTo out =>
    apply hscanned.bind_tidy
    intro discovery
    apply (keeps_output_attempt _).bind_tidy
    intro _
    exact (Sure.print _).tidy

/-- A run that fails has printed nothing. -/
theorem output_of_failed (hcode : (run host arguments).code ≠ 0) :
    (run host arguments).output = "" := by
  rcases run_cases host arguments with hrun | ⟨error, -, hrun⟩ | ⟨filter, invocation, -, hrun⟩
  · rw [hrun]
    rfl
  · rw [hrun] at hcode ⊢
    exact output_usageExit_of_failed hcode
  · rw [hrun] at hcode ⊢
    obtain ⟨failure, hfailed⟩ := code_exitAfter_of_ne_zero hcode
    rw [output_exitAfter]
    exact tidy_execute host (loadConfig host).1 invocation (warned host) failure hfailed

/-- What a run leaves alone: the whole file system, unless its command writes; the configuration,
if it could be read and the run fails, unless it is an export; and the standard output, if it fails. -/
theorem run_frame (host : Host) (arguments : List Argument) :
    ((∀ invocation, parse arguments = .ok invocation →
        ¬ invocation.command.Writes (loadConfig host).1) →
      (run host arguments).progress = Progress.start host.files) ∧
    (host.toView.Sound →
      (∀ invocation out, parse arguments = .ok invocation → invocation.command ≠ .exportTo out) →
      (run host arguments).code ≠ 0 → ∀ old, host.content (configPath host) = .ok old →
        (host.toView.withFiles (run host arguments).progress.files).content (configPath host)
          = .ok old) ∧
    ((run host arguments).code ≠ 0 → (run host arguments).output = "") :=
  ⟨progress_of_not_writes,
    fun sound noExport hcode _ hread => content_of_failed sound noExport hcode hread,
    output_of_failed⟩

end Frame

/-- A file system with a stored configuration and a directory in the way of the next one. -/
def blockedFiles : FileSystem :=
  FileSystem.ofNodes
    [("tmp", .directory), ("tmp/aemu", .directory), ("tmp/aemu/state", .directory),
      ("tmp/aemu/state/cli-config.json", .file (Bytes.ofString "\x7b\x7d")),
      ("tmp/aemu/state/cli-config.json.tmp", .directory)]

/-- A save that fails leaves the stored configuration as it is and prints nothing, while a command that has
nothing to save changes nothing and prints. -/
theorem run_frame_blocked :
    (run (rootHost blockedFiles none) (["config", "set-json", "true"].map Bytes.ofString)).code = 1 ∧
      ((rootHost blockedFiles none).toView.withFiles
        (run (rootHost blockedFiles none)
          (["config", "set-json", "true"].map Bytes.ofString)).progress.files).content
          (configPath (rootHost blockedFiles none)) = .ok (Bytes.ofString "\x7b\x7d") ∧
      (run (rootHost blockedFiles none)
        (["config", "set-json", "true"].map Bytes.ofString)).output = "" ∧
      (run (rootHost blockedFiles none) (["config", "remove-dir", "/x"].map Bytes.ofString)).progress
        = Progress.start blockedFiles ∧
      (run (rootHost blockedFiles none) (["config", "remove-dir", "/x"].map Bytes.ofString)).output
        = "extra_dirs=\n" := by
  have sound : (rootHost blockedFiles none).toView.Sound :=
    ⟨((((FileSystem.isTree_empty.insert rfl rfl _).insert (by decide +kernel) (by decide +kernel)
      _).insert (by decide +kernel) (by decide +kernel) _).insert (by decide +kernel)
      (by decide +kernel) _).insert (by decide +kernel) (by decide +kernel) _, .inl rfl⟩
  have hcode : (run (rootHost blockedFiles none)
      (["config", "set-json", "true"].map Bytes.ofString)).code = 1 := by decide +kernel
  have hparse : parse (["config", "set-json", "true"].map Bytes.ofString)
      = .ok ⟨.config (.setJson true), [], false⟩ := by rfl
  have hremove : parse (["config", "remove-dir", "/x"].map Bytes.ofString)
      = .ok ⟨.config (.removeDir "/x"), [], false⟩ := by rfl
  have hfailed : (run (rootHost blockedFiles none)
      (["config", "set-json", "true"].map Bytes.ofString)).code ≠ 0 := by
    rw [hcode]
    exact Nat.one_ne_zero
  refine ⟨hcode, (run_frame _ _).2.1 sound ?_ hfailed _ (by rfl), (run_frame _ _).2.2 hfailed,
    (run_frame _ _).1 ?_, by decide +kernel⟩
  · intro invocation out hother
    rw [hparse] at hother
    cases hother
    exact nofun
  · intro invocation hother hwrites
    rw [hremove] at hother
    cases hother
    -- the directory is not stored, so there is nothing to save
    have hnone : "/x" ∉ (loadConfig (rootHost blockedFiles none)).1.extraDirs := by decide +kernel
    exact hnone hwrites

end EmulatorScout.CommandLine
