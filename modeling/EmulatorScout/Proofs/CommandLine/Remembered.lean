import EmulatorScout.Proofs.CommandLine.Run
import EmulatorScout.Proofs.Config.Memory
import EmulatorScout.Proofs.Config.Store

/-!
# What is remembered from run to run

Each run is a process of its own that knows of the earlier ones by the file with the configuration
alone. `Runs` puts processes of one user one after the other. One run keeps the file and the memory
of the commands together (`stored_of_run`), so any number of them does (`stored_of_runs`), and what
is loaded in the end is the replay of the commands (`loadConfig_eq_replay`).
-/

set_option autoImplicit false

namespace EmulatorScout

open FileSystem

/-- A process whose home directory has the given path, which it sees from the same place as a
process at the given location. -/
structure Host.LivesIn (host : Host) (current : Location) (home : String) : Prop where
  /-- The variable for the home directory has the path as its value. -/
  home?_eq : host.home? = some home
  /-- The path leads on from the same place. -/
  start_eq : (Path.ofString home).start host.current = (Path.ofString home).start current

namespace Config

/-- The directories for one run make no difference to what a command makes of the rest. -/
theorem lasting_after (config : Config) (command : CommandLine.ConfigCommand) :
    (config.after command).lasting = config.lasting.after command := by
  cases command with
  | addDir dir =>
    rw [after, after, addDir, addDir]
    change _ = (if config.accepts dir then _ else _ : Config × Bool).1
    split <;> rfl
  | print | removeDir dir | setJson enabled => rfl

end Config

namespace CommandLine

/-! ## One run -/

section Run

open CommandLine.Action

variable {host : Host} {config : Config} {invocation : Invocation} {arguments : List Argument}
  {rest : Action Unit}

/-- What is changed by an attempt and by something that changes nothing after it. -/
theorem progress_after_attempt (hrest : Keeps Trace.progress rest) (made : Attempt) (trace : Trace) :
    ((attempt made >>= fun _ => rest).after trace).2.progress = made.progress := by
  rw [after_bind, after_attempt]
  cases made.failure? with
  | some error => rfl
  | none => exact hrest _

/-- An attempt fails by itself if nothing after it can. -/
theorem after_attempt_eq_ok_iff (hrest : Sure rest) (made : Attempt) (trace : Trace) :
    ((attempt made >>= fun _ => rest).after trace).1 = .ok () ↔ made.failure? = none := by
  rw [after_bind, after_attempt]
  cases made.failure? with
  | some error => exact ⟨nofun, nofun⟩
  | none =>
    obtain ⟨⟨⟩, hvalue⟩ := hrest { trace with progress := made.progress }
    exact ⟨fun _ => rfl, fun _ => hvalue⟩

/-- What is kept if it is a changed configuration is saved, or there is nothing to save. -/
theorem keepChanged_cases {changed : Config × Bool} {saves : Prop} (next : Config → Action Unit)
    (hsaves : changed.2 = true ↔ saves) (hsame : changed.2 = false → changed.1 = config) :
    (¬ saves ∧ changed.1 = config ∧ keepChanged host changed >>= next = next config) ∨
      (saves ∧ keepChanged host changed >>= next
        = attempt (changed.1.save host.toView (configPath host)) >>= fun _ => next changed.1) := by
  obtain ⟨changed, isChanged⟩ := changed
  cases isChanged with
  | true => exact .inr ⟨hsaves.1 rfl, by simp only [keepChanged, bind_assoc, pure_bind]⟩
  | false =>
    obtain rfl : changed = config := hsame rfl
    exact .inl ⟨fun h => absurd (hsaves.2 h) Bool.false_ne_true, rfl, pure_bind _ _⟩

theorem keeps_progress_print (line : String) : Keeps Trace.progress (print line) :=
  .print line fun _ _ => rfl

/-- A command on the configuration saves what it makes of it and does nothing after that which could
fail, or it has nothing to save, makes nothing of it and cannot fail at all. -/
theorem runConfig_cases (host : Host) (config : Config) (command : ConfigCommand) :
    (¬ config.Saves command ∧ config.after command = config ∧
        Sure (runConfig host config command) ∧ Keeps Trace.progress (runConfig host config command)) ∨
      (config.Saves command ∧ ∃ rest, Sure rest ∧ Keeps Trace.progress rest ∧
        runConfig host config command
          = attempt ((config.after command).save host.toView (configPath host)) >>= fun _ => rest) := by
  -- the last step of a command that may save prints what it made of the configuration
  have printed : ∀ line, Sure (print line) ∧ Keeps Trace.progress (print line) :=
    fun line => ⟨.print line, keeps_progress_print line⟩
  cases command with
  | print =>
    refine .inl ⟨id, rfl, ?_, ?_⟩
    · exact (Sure.print _).bind fun _ => .printJson _
    · exact (keeps_progress_print _).bind fun _ => keeps_progress_print _
  | addDir dir =>
    rw [runConfig, Config.after, Config.Saves]
    rcases keepChanged_cases (fun changed => print (extraDirsLine changed)) (@Config.addDir_new_iff config dir)
      (@Config.addDir_of_not_new config dir) with ⟨hnot, hsame, hkept⟩ | ⟨hsaves, hsaved⟩
    · exact .inl ⟨hnot, hsame, hkept ▸ printed _⟩
    · exact .inr ⟨hsaves, _, (printed _).1, (printed _).2, hsaved⟩
  | removeDir dir =>
    rw [runConfig, Config.after, Config.Saves]
    rcases keepChanged_cases (fun changed => print (extraDirsLine changed))
      (@Config.removeDir_there_iff config dir) (@Config.removeDir_of_not_there config dir) with
      ⟨hnot, hsame, hkept⟩ | ⟨hsaves, hsaved⟩
    · exact .inl ⟨hnot, hsame, hkept ▸ printed _⟩
    · exact .inr ⟨hsaves, _, (printed _).1, (printed _).2, hsaved⟩
  | setJson enabled => exact .inr ⟨trivial, _, (printed _).1, (printed _).2, rfl⟩

/-- A command on the configuration that goes well has saved what it made of the configuration, or it
has made nothing of it and changed no file. -/
theorem runConfig_ok {command : ConfigCommand} {trace : Trace}
    (h : ((runConfig host config command).after trace).1 = .ok ()) :
    (((runConfig host config command).after trace).2.progress = trace.progress ∧
        config.after command = config) ∨
      (((config.after command).save host.toView (configPath host)).failure? = none ∧
        ((runConfig host config command).after trace).2.progress
          = ((config.after command).save host.toView (configPath host)).progress) := by
  rcases runConfig_cases host config command with
    ⟨-, hsame, -, hkeeps⟩ | ⟨-, rest, hsure, hkeeps, hsaving⟩
  · exact .inl ⟨hkeeps trace, hsame⟩
  · rw [hsaving] at h ⊢
    exact .inr ⟨(after_attempt_eq_ok_iff hsure _ trace).1 h, progress_after_attempt hkeeps _ trace⟩

/-- A command other than an export or one on the configuration changes nothing. -/
theorem keeps_progress_execute (hconfig : ∀ command, invocation.command ≠ .config command)
    (hexport : ∀ out, invocation.command ≠ .exportTo out) :
    Keeps Trace.progress (execute host config invocation) := by
  obtain ⟨command, dirs, json⟩ := invocation
  have hscanned : Keeps Trace.progress (scanned host config dirs) := keeps_scanned fun _ _ => rfl
  cases command with
  | config command => exact absurd rfl (hconfig command)
  | exportTo out => exact absurd rfl (hexport out)
  | dirs => exact keeps_progress_printList _ _ _ _
  | list => exact hscanned.bind fun _ => keeps_progress_printList _ _ _ _
  | find key value =>
    exact hscanned.bind fun _ => (Keeps.requireSome _ _).bind fun _ => keeps_progress_printList _ _ _ _
  | pid pid =>
    exact hscanned.bind fun _ => (Keeps.requireSome _ _).bind fun _ => keeps_progress_printList _ _ _ _
  | first =>
    exact hscanned.bind fun _ => (Keeps.require _).bind fun _ => keeps_progress_printList _ _ _ _

theorem execute_config {command : ConfigCommand} (hcommand : invocation.command = .config command) :
    execute host config invocation = runConfig host config command := by
  obtain ⟨_, dirs, json⟩ := invocation
  cases hcommand
  rfl

/-- A run that goes well is that of its invocation, which goes well. -/
theorem run_ok (hparse : parse arguments = .ok invocation) (hcode : (run host arguments).code = 0) :
    ((execute host (loadConfig host).1 invocation).after (warned host)).1 = .ok () ∧
      (run host arguments).progress
        = ((execute host (loadConfig host).1 invocation).after (warned host)).2.progress := by
  rcases run_cases host arguments with hrun | ⟨error, hother, -⟩ | ⟨filter, other, hother, hrun⟩
  · rw [hrun] at hcode
    cases hcode
  · rw [hparse] at hother
    cases hother
  · rw [hparse] at hother
    cases hother
    rw [hrun] at hcode ⊢
    exact ⟨code_exitAfter_eq_zero_iff.1 hcode, progress_exitAfter⟩

theorem run_progress
    (hkeeps : ∀ invocation, parse arguments = .ok invocation →
      Keeps Trace.progress (execute host (loadConfig host).1 invocation)) :
    (run host arguments).progress = Progress.start host.files := by
  rcases run_cases host arguments with hrun | ⟨error, -, hrun⟩ | ⟨filter, invocation, hparse, hrun⟩
  · rw [hrun]
    rfl
  · rw [hrun, progress_usageExit]
  · rw [hrun, progress_exitAfter]
    exact hkeeps invocation hparse (warned host)

end Run

/-! ## One run after another -/

/-- Runs of the program one after the other, from one file system to another: each sees the same
home directory and finds the files that the one before it left. Nothing is exported, and every
command on the configuration goes well. Else the runs may differ: in the other variables, in the
user, the time and the order of listings. -/
inductive Runs (current : Location) (home : String) (files : FileSystem) :
    List Command → FileSystem → Prop
  /-- No run at all. -/
  | none : Runs current home files [] files
  /-- One more run. -/
  | next {commands : List Command} {before : FileSystem}
    (earlier : Runs current home files commands before) (host : Host) (arguments : List Argument)
    (invocation : Invocation) (sees : host.files = before) (lives : host.LivesIn current home)
    (parsed : parse arguments = .ok invocation)
    (noExport : ∀ out, invocation.command ≠ .exportTo out)
    (success : ∀ command, invocation.command = .config command → (run host arguments).code = 0) :
    Runs current home files (commands ++ [invocation.command])
      (run host arguments).progress.files

section Runs

open Config (Stored)

variable {files after : FileSystem} {current location : Location} {home : String} {host : Host}
  {commands : List Command} {memory : Memory}

/-- What is loaded is what is stored, in whatever surroundings. -/
theorem loadConfig_lasting
    (hhome : host.files.directory? current (Path.ofString home) = some location)
    (h : Stored host.files current home location memory.config)
    (lives : host.LivesIn current home) :
    (loadConfig host).1.lasting = memory.config := by
  have hhome' := (directory?_of_start_eq host.files lives.start_eq).trans hhome
  rw [loadConfig, configPath, lives.home?_eq]
  exact (h.of_start_eq hhome lives.start_eq).load hhome' (host.value? dirsVariable)

/-- One run keeps the file and the memory together. -/
theorem stored_of_run {arguments : List Argument} {invocation : Invocation}
    (hhome : host.files.directory? current (Path.ofString home) = some location)
    (h : Stored host.files current home location memory.config) (lives : host.LivesIn current home)
    (parsed : parse arguments = .ok invocation)
    (noExport : ∀ out, invocation.command ≠ .exportTo out)
    (success : ∀ command, invocation.command = .config command → (run host arguments).code = 0) :
    (run host arguments).progress.files.directory? current (Path.ofString home) = some location ∧
      Stored (run host arguments).progress.files current home location
        (memory.after invocation.command).config := by
  by_cases hconfig : ∀ command, invocation.command ≠ .config command
  · -- neither the files nor the memory are changed
    have hstart : (run host arguments).progress = Progress.start host.files := by
      apply run_progress
      intro other hother
      rw [parsed] at hother
      cases hother
      exact keeps_progress_execute hconfig noExport
    rw [hstart, Memory.after_of_ne_config hconfig]
    exact ⟨hhome, h⟩
  · obtain ⟨command, hcommand⟩ := Classical.not_forall_not.1 hconfig
    obtain ⟨hresult, hprogress⟩ := run_ok parsed (success command hcommand)
    -- the command finds what is remembered, and what it makes of it is what is to be remembered
    have hloaded := loadConfig_lasting hhome h lives
    have hafter : ((loadConfig host).1.after command).lasting
        = (memory.afterConfig command).config := by
      rw [Config.lasting_after, hloaded, Config.after_config]
    rw [execute_config hcommand] at hresult hprogress
    rw [hprogress, hcommand, Memory.after, ← hafter]
    rcases runConfig_ok hresult with ⟨hkept, hsame⟩ | ⟨hsaved, hkept⟩
    · rw [hkept, hsame, hloaded]
      exact ⟨hhome, h⟩
    · have hhome' := (directory?_of_start_eq host.files lives.start_eq).trans hhome
      have hpath : configPath host = Home.configFile (some home) := by
        rw [configPath, lives.home?_eq]
      rw [hpath] at hsaved hkept
      have hsave := Stored.save hhome' (h.of_start_eq hhome lives.start_eq) hsaved
      rw [hkept]
      exact ⟨(directory?_of_start_eq _ lives.start_eq).symm.trans hsave.1,
        hsave.2.of_start_eq hsave.1 lives.start_eq.symm⟩

/-- After any number of runs the file and the memory still go together, if nothing stood below
the home directory where the file would stand. -/
theorem stored_of_runs (hhome : files.directory? current (Path.ofString home) = some location)
    (hfree : files.Vacant (Home.hiddenName :: location))
    (runs : Runs current home files commands after) :
    after.directory? current (Path.ofString home) = some location ∧
      Stored after current home location (Memory.replay commands).config := by
  -- the induction is on the runs; what a run finds is what the one before it left
  induction runs with
  | none => exact ⟨hhome, .nothing hfree⟩
  | next earlier host arguments invocation sees lives parsed noExport success ih =>
    subst sees
    rw [Memory.replay_concat]
    exact stored_of_run ih.1 ih.2 lives parsed noExport success

/-- What is loaded after any runs is the replay of their commands: the same directories in the
same order and the same choice of output, whatever the other variables were in each run and are now.
So no directory is loaded twice, blank or untrimmed, and none that no command added; and the file
holds the text of the replay and nothing else. -/
theorem loadConfig_eq_replay
    (hhome : files.directory? current (Path.ofString home) = some location)
    (hfree : files.Vacant (Home.hiddenName :: location))
    (runs : Runs current home files commands after) (sees : host.files = after)
    (lives : host.LivesIn current home) :
    (loadConfig host).1.extraDirs = (Memory.replay commands).dirs.dirs ∧
      (loadConfig host).1.json = (Memory.replay commands).json ∧
      (loadConfig host).1.extraDirs.Nodup ∧
      (∀ dir ∈ (loadConfig host).1.extraDirs, Text.trimmed dir = dir ∧ dir ≠ "" ∧
        ∃ text, .config (.addDir text) ∈ commands ∧ Text.trimmed text = dir) ∧
      ∀ content, host.content (configPath host) = .ok content →
        content = Bytes.ofString (Memory.replay commands).config.text := by
  subst sees
  obtain ⟨hhome, hstored⟩ := stored_of_runs hhome hfree runs
  have hloaded := loadConfig_lasting hhome hstored lives
  have hdirs : (loadConfig host).1.extraDirs = (Memory.replay commands).dirs.dirs :=
    congrArg Config.extraDirs hloaded
  refine ⟨hdirs, congrArg Config.json hloaded, ?_, ?_, ?_⟩
  · rw [hdirs]
    exact (Memory.replay commands).dirs.nodup
  · intro dir hdir
    rw [hdirs] at hdir
    exact ⟨(Memory.replay commands).dirs.trimmed dir hdir,
      (Memory.replay commands).dirs.ne_empty dir hdir, Memory.exists_addDir_of_mem_replay hdir⟩
  · intro content hread
    -- where the file can be read it is the stored one, with nothing in it from any single run
    have hhome' := (directory?_of_start_eq host.files lives.start_eq).trans hhome
    rw [configPath, lives.home?_eq, View.content] at hread
    have hcontent := (hstored.of_start_eq hhome lives.start_eq).content hhome'
    rcases hcontent with ⟨⟨error, hnone⟩, -⟩ | htext
    · rw [hnone] at hread
      cases hread
    · rw [htext] at hread
      exact (Except.ok.inj hread).symm

end Runs

def homeFiles : FileSystem := FileSystem.ofNodes [("h", .directory)]

/-- The surroundings of a run of the user of that home directory, with the given value of the
variable for the directories of the run. -/
def homeHost (files : FileSystem) (dirs? : Option String) : Host where
  files := files
  current := []
  order := ListingOrder.stored
  settings key :=
    if key = Directories.homeVariable then some (Bytes.ofString "/h")
    else if key = dirsVariable then dirs?.map Bytes.ofString
    else none
  user := 0
  time := 0

/-- Whether a command writes what was found to a file. -/
def Command.exports : Command → Bool
  | .exportTo _ => true
  | _ => false

/-- Runs of the user of that home directory one after the other, each with its own value of the variable
and its own arguments: their commands and the files in the end, if every run goes well and none of them
exports. -/
def session? (files : FileSystem) : List (Option String × List String) →
    Option (List Command × FileSystem)
  | [] => some ([], files)
  | (dirs?, words) :: rest =>
    match parse (words.map Bytes.ofString) with
    | .error _ => none
    | .ok invocation =>
      if invocation.command.exports = false ∧
          (run (homeHost files dirs?) (words.map Bytes.ofString)).code = 0 then
        (session? (run (homeHost files dirs?) (words.map Bytes.ofString)).progress.files rest).map
          fun later => (invocation.command :: later.1, later.2)
      else none

/-- They are runs one after the other. -/
theorem runs_of_session? {start : FileSystem} (steps : List (Option String × List String)) :
    ∀ {earlier : List Command} {files : FileSystem} {later : List Command × FileSystem},
      Runs [] "/h" start earlier files → session? files steps = some later →
      Runs [] "/h" start (earlier ++ later.1) later.2 := by
  induction steps with
  | nil =>
    intro earlier files later runs h
    cases h
    rwa [List.append_nil]
  | cons step steps ih =>
    intro earlier files later runs h
    obtain ⟨dirs?, words⟩ := step
    rw [session?] at h
    cases hparse : parse (words.map Bytes.ofString) with
    | error error =>
      rw [hparse] at h
      cases h
    | ok invocation =>
      simp only [hparse] at h
      split at h
      · rename_i hgood
        obtain ⟨rest, hrest, rfl⟩ := Option.map_eq_some_iff.1 h
        have lives : (homeHost files dirs?).LivesIn [] "/h" := ⟨by rfl, rfl⟩
        have noExport : ∀ out, invocation.command ≠ .exportTo out := by
          intro out hout
          rw [hout] at hgood
          cases hgood.1
        have next := Runs.next runs (homeHost files dirs?) _ invocation rfl lives hparse noExport
          fun _ _ => hgood.2
        have whole := ih next hrest
        rwa [List.append_assoc] at whole
      · cases h

/-- Runs that add three directories, one of them twice, remove one, and choose JSON, with directories given
for some of the runs. -/
def sessionSteps : List (Option String × List String) :=
  [(some "/once", ["config", "add-dir", " /x "]), (none, ["config", "add-dir", "/y"]),
    (some "/x", ["config", "add-dir", "/x\t"]), (some "", ["config", "add-dir", "/z"]),
    (some "/y:/w", ["config", "remove-dir", " /y"]), (none, ["config", "set-json", "true"]),
    (some "/once", ["list", "--dir", "/x"]), (none, ["config", "show"])]

def sessionCommands : List Command :=
  [.config (.addDir " /x "), .config (.addDir "/y"), .config (.addDir "/x\t"),
    .config (.addDir "/z"), .config (.removeDir " /y"), .config (.setJson true), .list, .config .print]

/-- What is loaded after these runs, with another directory given for the run that loads it: the two
directories that were added and not removed, in the order in which they were added. -/
theorem loadConfig_after_session :
    ∃ after, session? homeFiles sessionSteps = some (sessionCommands, after) ∧
      (loadConfig (homeHost after (some "/now"))).1.extraDirs = ["/x", "/z"] ∧
      (loadConfig (homeHost after (some "/now"))).1.json = true := by
  have hsession : (session? homeFiles sessionSteps).map Prod.fst = some sessionCommands := by
    decide +kernel
  obtain ⟨⟨commands, after⟩, hafter, hcommands⟩ := Option.map_eq_some_iff.1 hsession
  obtain rfl : commands = sessionCommands := hcommands
  have tree : homeFiles.IsTree := isTree_empty.insert rfl rfl .directory
  have hhome : homeFiles.directory? [] (Path.ofString "/h") = some [Bytes.ofString "h"] := by
    decide +kernel
  have hfree : homeFiles.Vacant (Home.hiddenName :: [Bytes.ofString "h"]) := by
    apply tree.vacant
    decide +kernel
  have runs : Runs [] "/h" homeFiles sessionCommands after :=
    runs_of_session? sessionSteps .none hafter
  have lives : (homeHost after (some "/now")).LivesIn [] "/h" := ⟨by rfl, rfl⟩
  have hloaded := loadConfig_eq_replay hhome hfree runs rfl lives
  exact ⟨after, hafter, hloaded.1.trans (by decide), hloaded.2.1.trans (by decide)⟩

end CommandLine

end EmulatorScout
