import EmulatorScout.Proofs.CommandLine.Action

/-!
# How runs end

A run whose arguments and directives can be used ends as the steps of its command do, begun with the
warnings about the configuration (`run_eq_exit`). Its code tells whether they went to their end, and what it
printed and changed is what they did.
-/

set_option autoImplicit false

namespace EmulatorScout.CommandLine

open CommandLine.Action

variable {host : Host} {config : Config} {dirs : List Path}

/-! ## Ends -/

section Exit

variable {filter : NoticeFilter} {result : Except Failure Unit × Trace}

/-- A run ends with zero exactly if none of its steps fails. -/
theorem code_exitAfter_eq_zero_iff : (exitAfter filter result).code = 0 ↔ result.1 = .ok () := by
  obtain ⟨_ | _, trace⟩ := result
  · exact ⟨nofun, nofun⟩
  · exact ⟨fun _ => rfl, fun _ => rfl⟩

theorem code_exitAfter_of_ne_zero (h : (exitAfter filter result).code ≠ 0) :
    ∃ failure, result.1 = .error failure := by
  obtain ⟨failure | _, trace⟩ := result
  · exact ⟨failure, rfl⟩
  · exact absurd rfl h

theorem output_exitAfter : (exitAfter filter result).output = result.2.output := by
  obtain ⟨_ | _, trace⟩ := result <;> rfl

-- a line before a step that fails
example (files : FileSystem) (failure : Failure) :
    (exitAfter filter ((print "a" >>= fun _ => (require (.error failure) : Action Unit)).after
      (Trace.start files))).output = "a\n" := rfl

theorem progress_exitAfter : (exitAfter filter result).progress = result.2.progress := by
  obtain ⟨_ | _, trace⟩ := result <;> rfl

end Exit

/-! ## Beginnings -/

/-- What a run mentions before its command is carried out. -/
def warnings (host : Host) : List Notice :=
  (loadConfig host).2.toList.map (configNotice (configPath host))

/-- What a run has done before its command is carried out. -/
def warned (host : Host) : Trace := { Trace.start host.files with notices := warnings host }

/-- A command is carried out after the warnings. -/
theorem after_perform (host : Host) (invocation : Invocation) :
    (perform host invocation).after (Trace.start host.files)
      = (execute host (loadConfig host).1 invocation).after (warned host) := by
  have hwarned : (mentionWarning host (loadConfig host).2).after (Trace.start host.files)
      = (.ok (), warned host) := by
    rw [warned, warnings]
    cases (loadConfig host).2 <;> rfl
  exact after_bind_ok hwarned

/-- A run whose directives can be used ends as its invocation does under the configuration. -/
theorem run_eq_exit {filter : NoticeFilter} {arguments : List Argument} {invocation : Invocation}
    (hfilter : noticeFilter? host = some filter) (hparse : parse arguments = .ok invocation) :
    run host arguments
      = exitAfter filter ((execute host (loadConfig host).1 invocation).after (warned host)) := by
  rw [run, hfilter, hparse, ← after_perform]

/-- The ways in which a run ends: its directives are spoilt, its arguments lead to no invocation, or it
carries an invocation out under the configuration. -/
theorem run_cases (host : Host) (arguments : List Argument) :
    run host arguments = spoiltExit host ∨
      (∃ error, parse arguments = .error error ∧ run host arguments = usageExit host error) ∨
      ∃ filter invocation, parse arguments = .ok invocation ∧ run host arguments
        = exitAfter filter ((execute host (loadConfig host).1 invocation).after (warned host)) := by
  cases hfilter : noticeFilter? host with
  | none =>
    left
    rw [run, hfilter]
  | some filter =>
    right
    cases hparse : parse arguments with
    | error error =>
      left
      refine ⟨error, rfl, ?_⟩
      rw [run, hfilter, hparse]
    | ok invocation => exact .inr ⟨filter, invocation, rfl, run_eq_exit hfilter hparse⟩

theorem progress_usageExit (host : Host) (error : UsageError) :
    (usageExit host error).progress = Progress.start host.files := by
  cases error <;> rfl

/-- Only the help and the version are printed without an invocation, and they are no failures. -/
theorem output_usageExit_of_failed {error : UsageError} (h : (usageExit host error).code ≠ 0) :
    (usageExit host error).output = "" := by
  cases error with
  | helpWanted | versionWanted => exact absurd rfl h
  | _ => rfl

/-! ## Parts of commands -/

/-- Whether output is JSON for an invocation with or without the flag for it. -/
def asJson (host : Host) (json : Bool) : Bool := json || (loadConfig host).1.json

/-- The path that an export at a time writes to. -/
def exportPath (host : Host) (out : Option Path) (time : Int) : Path :=
  out.getD (Home.exportFile host.home? "emulators" time)

section Lists

variable {α : Type} (json : Bool) (toJson : α → Json) (line : α → String) (items : List α)

/-- What is printed of a list. -/
theorem after_printList (trace : Trace) :
    (printList json toJson line items).after trace
      = (.ok (), trace.printing
          (if json then printedJson (.array (items.map toJson))
            else String.join (items.map fun item => printed (line item)))) := by
  cases json with
  | true => exact after_printJson _ trace
  | false => exact after_forM_print items line trace

theorem sure_printList : Sure (printList json toJson line items) :=
  fun trace => ⟨(), by rw [after_printList]⟩

theorem keeps_progress_printList : Keeps Trace.progress (printList json toJson line items) :=
  fun trace => congrArg (Trace.progress ∘ Prod.snd) (after_printList json toJson line items trace)

end Lists

theorem after_printEmulators (json : Bool) (emulators : List Emulator) (trace : Trace) :
    (printEmulators json emulators).after trace
      = (.ok (), trace.printing (emulatorsText json emulators)) :=
  after_printList json _ _ emulators trace

/-- With a scan mentioned. -/
def Trace.afterScan (trace : Trace) (discovery : Discovery) : Trace :=
  trace.mentioning (.found discovery.snapshot.size discovery.directories.length)

/-- A scan that goes well is mentioned, and the run goes on with what it found. -/
theorem after_scanned_ok {discovery : Discovery} (h : discover host config dirs = .ok discovery)
    (trace : Trace) :
    (scanned host config dirs).after trace
      = (.ok (discovery.arranged host.entryOrder), trace.afterScan discovery) := by
  rw [scanned, h]
  rfl

theorem after_scanned_error {error : DiscoveryError} (h : discover host config dirs = .error error)
    (trace : Trace) :
    (scanned host config dirs).after trace = (.error (.discovery error), trace) := by
  rw [scanned, h]
  rfl

/-- A scan mentions what it found and does nothing else. -/
theorem keeps_scanned {γ : Type} {part : Trace → γ}
    (hpart : ∀ trace notice, part (trace.mentioning notice) = part trace) :
    Keeps part (scanned host config dirs) := by
  apply Keeps.bind (Keeps.require _)
  intro discovery
  apply Keeps.bind
  · intro trace
    exact hpart trace _
  · intro _
    exact .pure _

/-! ## Commands after a scan -/

/-- What a command for one emulator does after its scan. -/
def showOne (json : Bool) (found : Except Failure Emulator) : Action Unit := do
  let emulator ← require found
  printEmulators json [emulator]

section Commands

variable {discovery : Discovery} (json : Bool) (trace : Trace)

theorem after_execute_list (h : discover host config dirs = .ok discovery) :
    (execute host config ⟨.list, dirs, json⟩).after trace
      = (.ok (), (trace.afterScan discovery).printing
          (emulatorsText (json || config.json)
            (discovery.arranged host.entryOrder).snapshot.sorted)) := by
  rw [execute, after_bind_ok (after_scanned_ok h trace)]
  exact after_printEmulators _ _ _

theorem after_execute_find (h : discover host config dirs = .ok discovery) (key value : String) :
    (execute host config ⟨.find key value, dirs, json⟩).after trace
      = (showOne (json || config.json)
          (((discovery.arranged host.entryOrder).snapshot.find? key value).elim
            (.error (.noMatch key value)) .ok)).after (trace.afterScan discovery) := by
  rw [execute, after_bind_ok (after_scanned_ok h trace)]
  rfl

theorem after_execute_pid (h : discover host config dirs = .ok discovery) (pid : UInt32) :
    (execute host config ⟨.pid pid, dirs, json⟩).after trace
      = (showOne (json || config.json)
          (((discovery.arranged host.entryOrder).snapshot.findPid? (toString pid.toNat)).elim
            (.error (.noPid pid)) .ok)).after (trace.afterScan discovery) := by
  rw [execute, after_bind_ok (after_scanned_ok h trace)]
  rfl

theorem after_execute_first (h : discover host config dirs = .ok discovery) :
    (execute host config ⟨.first, dirs, json⟩).after trace
      = (showOne (json || config.json)
          ((discovery.arranged host.entryOrder).first.mapError .discovery)).after
            (trace.afterScan discovery) := by
  rw [execute, after_bind_ok (after_scanned_ok h trace)]
  rfl

theorem after_execute_exportTo (h : discover host config dirs = .ok discovery) (out : Option Path) :
    (execute host config ⟨.exportTo out, dirs, json⟩).after trace
      = (attempt (writeExport host (exportPath host out host.time)
            (discovery.arranged host.entryOrder)) >>= fun _ =>
          print (exportedLine (exportPath host out host.time))).after (trace.afterScan discovery) := by
  rw [execute, after_bind_ok (after_scanned_ok h trace)]
  rfl

end Commands

end EmulatorScout.CommandLine
