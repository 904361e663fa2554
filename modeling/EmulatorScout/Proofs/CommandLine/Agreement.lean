import EmulatorScout.Proofs.CommandLine.Remembered
import EmulatorScout.Proofs.Discovery.Rescan
import EmulatorScout.Proofs.FileSystem.Outcome
import Mathlib.Data.Set.Operations

/-!
# What the commands report

Commands that look for emulators in the same surroundings report on one collection, at whatever time
each of them runs, in whatever order the host lists its directories, and in whatever order each process
goes through the map of what it found (`CommandLine.commands_agree`). Either the scan fails for all of
them, or there is one list of emulators that is printed as a list, that a single emulator is taken from, and
that is exported together with the directories.

A single emulator is the first one that comes, so a run for one has as many possible ends as there are
emulators to choose from: each of them may be printed, and nothing else (`CommandLine.PrintsOne`).

Two things are apart from that. Directives about notices that are torn end every run before it begins.
And a link at the temporary path of an export is followed and then put in the place of the exported
file, so an export says where it has left its text only if no link is there.
-/

set_option autoImplicit false

namespace EmulatorScout

open AtomicWrite

/-- The same surroundings at another time, with directories listed and maps gone through in other orders. -/
def Host.seen (host : Host) (listing : ListingOrder) (entries : EntryOrder) (time : Int) : Host :=
  { host with order := listing, entryOrder := entries, time := time }

namespace CommandLine

open CommandLine.Action

/-- Whether a command looks for emulators. -/
def Command.scans : Command → Bool
  | .list | .find .. | .pid _ | .first | .exportTo _ => true
  | .dirs | .config _ => false

/-- The ends that a run at a time may come to, in whatever order directories are listed and maps are gone
through. -/
def possibleExits (host : Host) (time : Int) (arguments : List Argument) : Set Exit :=
  {exit | ∃ listing entries, run (host.seen listing entries time) arguments = exit}

/-- An end apart from its diagnostic. -/
def Exit.withoutDiagnostic (exit : Exit) : Exit := { exit with diagnostic? := none }

/-- What a run that fails leaves apart from its diagnostic does not depend on the failure. -/
theorem withoutDiagnostic_of_error (filter : NoticeFilter) (failure : Failure) (trace : Trace) :
    (exitAfter filter (.error failure, trace)).withoutDiagnostic
      = ⟨1, trace.output, none, none, filter.select trace.notices, trace.progress⟩ := rfl

/-- Runs that print one of the emulators that may be printed, any of them, if there is any, and fail
otherwise. -/
structure PrintsOne (exits : Set Exit) (json : Bool) (eligible : Emulator → Prop) : Prop where
  /-- They succeed exactly if there is one. -/
  succeeds_iff : ∀ exit ∈ exits, exit.code = 0 ↔ ∃ emulator, eligible emulator
  /-- They fail otherwise. -/
  fails : ∀ exit ∈ exits, exit.code ≠ 0 → exit.code = 1
  /-- What is printed is one of them. -/
  prints : ∀ exit ∈ exits, exit.code = 0 →
    ∃ emulator, eligible emulator ∧ exit.output = emulatorsText json [emulator]
  /-- Each of them may be printed. -/
  each : ∀ emulator, eligible emulator →
    ∃ exit ∈ exits, exit.code = 0 ∧ exit.output = emulatorsText json [emulator]

/-- Runs each of which prints an eligible emulator, or fails where there is none. -/
theorem printsOne_of_ends {exits : Set Exit} {json : Bool} {eligible : Emulator → Prop}
    (ends : ∀ exit ∈ exits,
      (∃ emulator, eligible emulator ∧ exit.code = 0 ∧ exit.output = emulatorsText json [emulator]) ∨
        (exit.code = 1 ∧ ∀ emulator, ¬ eligible emulator))
    (each : ∀ emulator, eligible emulator →
      ∃ exit ∈ exits, exit.code = 0 ∧ exit.output = emulatorsText json [emulator]) :
    PrintsOne exits json eligible := by
  constructor
  case succeeds_iff =>
    intro exit hexit
    rcases ends exit hexit with ⟨emulator, heligible, hcode, -⟩ | ⟨hcode, hnone⟩
    · exact ⟨fun _ => ⟨emulator, heligible⟩, fun _ => hcode⟩
    · rw [hcode]
      exact ⟨nofun, fun ⟨emulator, heligible⟩ => absurd heligible (hnone emulator)⟩
  case fails =>
    intro exit hexit hne
    rcases ends exit hexit with ⟨-, -, hcode, -⟩ | ⟨hcode, -⟩
    · exact absurd hcode hne
    · exact hcode
  case prints =>
    intro exit hexit hcode
    rcases ends exit hexit with ⟨emulator, heligible, -, houtput⟩ | ⟨hcode', -⟩
    · exact ⟨emulator, heligible, houtput⟩
    · rw [hcode'] at hcode
      cases hcode
  case each => exact each

/-! ## One collection -/

/-- The statuses of the directories to scan, as they are printed. -/
def statuses (host : Host) (dirs : List Path) : List DirectoryStatus :=
  (scanPaths host (loadConfig host).1 dirs).map (DirectoryStatus.of host.toView)

/-- A collection as it is exported at a time, with the directories that were scanned. -/
def exported (time : Int) (statuses : List DirectoryStatus) (collection : List Emulator) : Json :=
  .object
    [("exported_at_unix_millis", .integer time),
      ("directories", .array (statuses.map fun status => .string status.path)),
      ("emulators", .array (collection.map Emulator.toJson))]

/-- Every command reports on one collection, at every time and in all orders. -/
structure Reports (host : Host) (dirs : List Path) (collection : List Emulator) : Prop where
  /-- The collection is what the scan finds, sorted, however it is gone through. -/
  scan : ∀ listing entries time, ∃ discovery,
    discover (host.seen listing entries time) (loadConfig host).1 dirs = .ok discovery ∧
      (discovery.arranged entries).snapshot.sorted = collection
  /-- The directories are printed with their statuses. -/
  directories : ∀ time arguments json, parse arguments = .ok ⟨.dirs, dirs, json⟩ →
    ∀ exit ∈ possibleExits host time arguments, exit.code = 0 ∧
      exit.output = directoriesText (asJson host json) (statuses host dirs)
  /-- The list is the collection. -/
  list : ∀ time arguments json, parse arguments = .ok ⟨.list, dirs, json⟩ →
    ∀ exit ∈ possibleExits host time arguments, exit.code = 0 ∧
      exit.output = emulatorsText (asJson host json) collection
  /-- The first emulator is one of the collection, and may be any of it. -/
  first : ∀ time arguments json, parse arguments = .ok ⟨.first, dirs, json⟩ →
    PrintsOne (possibleExits host time arguments) (asJson host json)
      fun emulator => emulator ∈ collection
  /-- An emulator with a value of a property is one of the collection that has it, and may be any of
  these. -/
  find : ∀ time arguments json key value, parse arguments = .ok ⟨.find key value, dirs, json⟩ →
    PrintsOne (possibleExits host time arguments) (asJson host json)
      fun emulator => emulator ∈ collection ∧ emulator.get? key = some value
  /-- A run for an emulator with a process id has the same possible ends as one for an emulator with the
  decimal text of it as the value of that property, apart from the diagnostic that there is none. -/
  pid : ∀ time arguments arguments' json pid, parse arguments = .ok ⟨.pid pid, dirs, json⟩ →
    parse arguments' = .ok ⟨.find Emulator.pidKey (toString pid.toNat), dirs, json⟩ →
    (possibleExits host time arguments).image Exit.withoutDiagnostic
      = (possibleExits host time arguments').image Exit.withoutDiagnostic
  /-- An export that succeeds leaves a file with the collection and the directories, if no link was at
  the temporary path. -/
  exportTo : ∀ time arguments json out, parse arguments = .ok ⟨.exportTo out, dirs, json⟩ →
    ∀ exit ∈ possibleExits host time arguments, exit.code = 0 →
    (∀ place link, (madeView host.toView (exportPath host out time)).named?
        (temporary (exportPath host out time)) = some place →
      (madeView host.toView (exportPath host out time)).files.node? place ≠ some (.link link)) →
    ∃ place, (madeView host.toView (exportPath host out time)).named? (exportPath host out time)
        = some place ∧
      exit.progress.files.node? place
        = some (.file (jsonContent (exported time (statuses host dirs) collection))) ∧
      (¬ (madeView host.toView (exportPath host out time)).PassesItself (exportPath host out time) →
        (host.toView.withFiles exit.progress.files).content (exportPath host out time)
          = .ok (jsonContent (exported time (statuses host dirs) collection)))

/-- Every command that looks for emulators fails with the scan, at every time and in all orders. -/
structure Fails (host : Host) (dirs : List Path) : Prop where
  /-- The scan fails. -/
  scan : ∀ listing entries time, ∃ error,
    discover (host.seen listing entries time) (loadConfig host).1 dirs = .error error
  /-- The command fails. -/
  code : ∀ time arguments command json, Command.scans command = true →
    parse arguments = .ok ⟨command, dirs, json⟩ →
    ∀ exit ∈ possibleExits host time arguments, exit.code = 1

section Collection

variable {host : Host} {dirs : List Path} {filter : NoticeFilter} {arguments : List Argument}
  {invocation : Invocation} {listing : ListingOrder} {entries : EntryOrder} {time : Int}

/-- The scan at another time and in other orders is a scan of the same directories. -/
theorem discover_seen (host : Host) (dirs : List Path) (listing : ListingOrder) (entries : EntryOrder)
    (time : Int) :
    discover (host.seen listing entries time) (loadConfig host).1 dirs
      = Discovery.inDirectories (host.toView.relisted listing)
        (scanPaths host (loadConfig host).1 dirs) := rfl

/-- A scan that goes well goes well at every time and in all orders, and what it finds is sorted into one
list. -/
theorem exists_discover_seen {discovery : Discovery}
    (h : discover host (loadConfig host).1 dirs = .ok discovery) (listing : ListingOrder)
    (entries : EntryOrder) (time : Int) :
    ∃ other, discover (host.seen listing entries time) (loadConfig host).1 dirs = .ok other ∧
      other.directories = scanPaths host (loadConfig host).1 dirs ∧
      ∀ order, (other.arranged order).snapshot.sorted = discovery.snapshot.sorted := by
  rw [discover, Discovery.inDirectories] at h
  cases hscan : Scan.directories host.toView (scanPaths host (loadConfig host).1 dirs) with
  | error error =>
    rw [hscan] at h
    cases h
  | ok snapshot =>
    rw [hscan] at h
    cases h
    obtain ⟨other, hother, hperm⟩ := Discovery.scan_relisted hscan listing
    refine ⟨⟨scanPaths host (loadConfig host).1 dirs, other⟩, ?_, rfl, fun order => ?_⟩
    · rw [discover_seen, Discovery.inDirectories, hother]
      rfl
    · have harranged := (order.perm other.entries).trans hperm
      exact Snapshot.sorted_eq_of_perm harranged (Scan.distinct_directories hscan)
        (Scan.keyed_directories hscan)

/-- A scan that fails fails at every time and in all orders. -/
theorem exists_discover_seen_error {error : DiscoveryError}
    (h : discover host (loadConfig host).1 dirs = .error error) (listing : ListingOrder)
    (entries : EntryOrder) (time : Int) :
    ∃ error, discover (host.seen listing entries time) (loadConfig host).1 dirs = .error error := by
  cases hseen : discover (host.seen listing entries time) (loadConfig host).1 dirs with
  | error error => exact ⟨error, rfl⟩
  | ok discovery =>
    -- seen once more in the first order, the scan would go well
    obtain ⟨other, hother, -⟩ := @exists_discover_seen (host.seen listing entries time) dirs discovery
      hseen host.order host.entryOrder host.time
    have hback : discover host (loadConfig host).1 dirs = .ok other := hother
    rw [h] at hback
    cases hback

/-- A run carries its command out under the one configuration that there is. -/
theorem run_seen (hfilter : noticeFilter? host = some filter)
    (hparse : parse arguments = .ok invocation) :
    run (host.seen listing entries time) arguments
      = exitAfter filter ((execute (host.seen listing entries time) (loadConfig host).1
          invocation).after (warned host)) := by
  have hseen : noticeFilter? (host.seen listing entries time) = some filter := hfilter
  rw [run_eq_exit hseen hparse]
  rfl

/-- A command that looks for emulators fails where the scan does. -/
theorem execute_of_scan_error {config : Config} {command : Command} {json : Bool}
    {error : DiscoveryError} {trace : Trace} (hscans : command.scans = true)
    (hscan : discover host config dirs = .error error) :
    (execute host config ⟨command, dirs, json⟩).after trace = (.error (.discovery error), trace) := by
  cases command with
  | dirs | config command => cases hscans
  | list | find key value | pid pid | first | exportTo out =>
    exact after_bind_error (after_scanned_error hscan trace)

/-! ## One emulator -/

/-- A command for one emulator prints what was found. -/
theorem exit_showOne_ok {trace : Trace} (hstart : trace.output = "") (json : Bool)
    (emulator : Emulator) :
    (exitAfter filter ((showOne json (.ok emulator)).after trace)).code = 0 ∧
      (exitAfter filter ((showOne json (.ok emulator)).after trace)).output
        = emulatorsText json [emulator] := by
  rw [showOne, after_bind_ok (after_require_ok emulator trace), after_printEmulators,
    output_exitAfter, Trace.printing, hstart]
  exact ⟨rfl, String.empty_append⟩

theorem exit_showOne_error (json : Bool) (failure : Failure) (trace : Trace) :
    exitAfter filter ((showOne json (.error failure)).after trace)
      = exitAfter filter (.error failure, trace) := by
  rw [showOne, after_bind_error (after_require_error failure trace)]

/-- A way to choose an emulator among those for which something holds: it finds one of them, any one if the
order in which they come is right, and finds none only if there is none. -/
structure Chooses (choice : Snapshot → Except Failure Emulator) (holds : Emulator → Prop) : Prop where
  /-- What is found is there, and it is one for which it holds. -/
  found : ∀ snapshot emulator, choice snapshot = .ok emulator →
    emulator ∈ snapshot.emulators ∧ holds emulator
  /-- Where nothing is found nothing is there. -/
  missed : ∀ snapshot failure, choice snapshot = .error failure →
    ∀ emulator ∈ snapshot.emulators, ¬ holds emulator
  /-- What is there is found if it comes first. -/
  any : ∀ snapshot : Snapshot, ∀ emulator ∈ snapshot.emulators, holds emulator →
    choice (snapshot.arranged (.favouring emulator)) = .ok emulator

/-- The first emulator for which something holds is chosen among those for which it holds. -/
theorem chooses_find? (p : Emulator → Bool) (failure : Failure) :
    Chooses (fun snapshot => (snapshot.emulators.find? p).elim (.error failure) .ok)
      fun emulator => p emulator = true where
  found snapshot emulator h := by
    cases hfind : snapshot.emulators.find? p with
    | none =>
      rw [hfind] at h
      cases h
    | some other =>
      rw [hfind] at h
      cases h
      exact ⟨List.mem_of_find?_eq_some hfind, List.find?_some hfind⟩
  missed snapshot _ h emulator hmem hholds := by
    cases hfind : snapshot.emulators.find? p with
    | none => exact List.find?_eq_none.1 hfind emulator hmem hholds
    | some other =>
      rw [hfind] at h
      cases h
  any snapshot emulator hmem hholds := by
    rw [Snapshot.find?_emulators_favouring hmem hholds]
    rfl

/-- A command scans directories, chooses among what it found, and shows what it has chosen. -/
def ShowsChosen (dirs : List Path) (json : Bool) (command : Command)
    (choice : Snapshot → Except Failure Emulator) : Prop :=
  ∀ (host : Host) (discovery : Discovery) (trace : Trace),
    discover host (loadConfig host).1 dirs = .ok discovery →
      (execute host (loadConfig host).1 ⟨command, dirs, json⟩).after trace
        = (showOne (asJson host json) (choice (discovery.arranged host.entryOrder).snapshot)).after
          (trace.afterScan discovery)

/-- Every run of a command that scans and then shows one emulator finds the same emulators, goes through
them in an order of its own, and shows what is chosen. -/
theorem exists_run_showOne {discovery : Discovery} {command : Command} {json : Bool}
    {choice : Snapshot → Except Failure Emulator} (hfilter : noticeFilter? host = some filter)
    (hscan : discover host (loadConfig host).1 dirs = .ok discovery)
    (hparse : parse arguments = .ok ⟨command, dirs, json⟩)
    (hexecute : ShowsChosen dirs json command choice)
    (listing : ListingOrder) (entries : EntryOrder) (time : Int) :
    ∃ snapshot : Snapshot, ∃ trace : Trace,
      (∀ emulator, emulator ∈ snapshot.emulators ↔ emulator ∈ discovery.snapshot.sorted) ∧
      trace.output = "" ∧
      run (host.seen listing entries time) arguments = exitAfter filter
        ((showOne (asJson host json) (choice (snapshot.arranged entries))).after trace) := by
  obtain ⟨other, hother, -, hsorted⟩ := exists_discover_seen hscan listing entries time
  refine ⟨other.snapshot, (warned host).afterScan other, fun emulator => ?_, rfl, ?_⟩
  · rw [← hsorted .stored, Snapshot.mem_sorted]
    rfl
  · rw [run_seen hfilter hparse]
    exact congrArg (exitAfter filter) (hexecute _ other (warned host) hother)

variable (time) in
/-- A command that scans and then shows one emulator prints any of those among which it is chosen. -/
theorem printsOne_of_chooses {discovery : Discovery} {command : Command} {json : Bool}
    {choice : Snapshot → Except Failure Emulator} {holds : Emulator → Prop}
    (hfilter : noticeFilter? host = some filter)
    (hscan : discover host (loadConfig host).1 dirs = .ok discovery)
    (hparse : parse arguments = .ok ⟨command, dirs, json⟩) (chooses : Chooses choice holds)
    (hexecute : ShowsChosen dirs json command choice) :
    PrintsOne (possibleExits host time arguments) (asJson host json)
      fun emulator => emulator ∈ discovery.snapshot.sorted ∧ holds emulator := by
  apply printsOne_of_ends
  · rintro exit ⟨listing, entries, rfl⟩
    obtain ⟨snapshot, trace, hmem, hstart, hrun⟩ :=
      exists_run_showOne hfilter hscan hparse hexecute listing entries time
    rw [hrun]
    cases hchoice : choice (snapshot.arranged entries) with
    | ok emulator =>
      obtain ⟨hthere, hholds⟩ := chooses.found _ _ hchoice
      rw [Snapshot.mem_emulators_arranged, hmem] at hthere
      exact .inl ⟨emulator, ⟨hthere, hholds⟩, exit_showOne_ok hstart _ emulator⟩
    | error failure =>
      rw [exit_showOne_error]
      refine .inr ⟨rfl, fun emulator ⟨hthere, hholds⟩ => ?_⟩
      rw [← hmem, ← Snapshot.mem_emulators_arranged entries] at hthere
      exact chooses.missed _ _ hchoice emulator hthere hholds
  · rintro emulator ⟨hthere, hholds⟩
    -- it is printed by a process in which it comes first
    obtain ⟨snapshot, trace, hmem, hstart, hrun⟩ :=
      exists_run_showOne hfilter hscan hparse hexecute host.order (.favouring emulator) time
    have hchoice := chooses.any snapshot emulator ((hmem emulator).2 hthere) hholds
    refine ⟨_, ⟨host.order, .favouring emulator, rfl⟩, ?_⟩
    rw [hrun, hchoice]
    exact exit_showOne_ok hstart _ emulator

/-! ## Exports -/

/-- What is exported of a discovery is its sorted list with the directories that were scanned. -/
theorem exportText_eq {discovery : Discovery} (time : Int)
    (h : discovery.directories = scanPaths host (loadConfig host).1 dirs) :
    Bytes.ofString (exportText time discovery)
      = jsonContent (exported time (statuses host dirs) discovery.snapshot.sorted) := by
  rw [exportText, exportJson, jsonContent, exported, statuses, h, List.map_map]
  rfl

/-- An export that goes well leaves its text at the place that its path names, if no link was at the
temporary path. -/
theorem exists_place_of_export (sound : host.toView.Sound) {discovery : Discovery} {path : Path}
    (hdirectories : discovery.directories = scanPaths host (loadConfig host).1 dirs)
    (hlink : ∀ place link, (madeView host.toView path).named? (temporary path) = some place →
      (madeView host.toView path).files.node? place ≠ some (.link link))
    (hok : (writeExport (host.seen listing entries time) path discovery).failure? = none) :
    ∃ place, (madeView host.toView path).named? path = some place ∧
      (writeExport (host.seen listing entries time) path discovery).files.node? place
        = some (.file (jsonContent
          (exported time (statuses host dirs) discovery.snapshot.sorted))) ∧
      (¬ (madeView host.toView path).PassesItself path →
        (host.toView.withFiles
          (writeExport (host.seen listing entries time) path discovery).files).content path
          = .ok (jsonContent (exported time (statuses host dirs) discovery.snapshot.sorted))) := by
  -- the file is written in the file system of the host, and what is written is the export
  have hwrite : writeExport (host.seen listing entries time) path discovery
      = write host.current host.files path
        (jsonContent (exported time (statuses host dirs) discovery.snapshot.sorted)) := by
    rw [← exportText_eq time hdirectories]
    rfl
  rw [hwrite] at hok ⊢
  obtain ⟨above, name, temporaryName, directory, h⟩ := exists_overwritten_of_write sound hlink hok
  have hnamed := View.named?_of_looksUpIn h.ends h.looksUpIn
  refine ⟨name :: directory, hnamed, h.replaced.target_node, fun hself => ?_⟩
  have hin := h.looksUpIn_after fun link hnode =>
    View.way_erase_of_not_passesItself h.ends hself hnamed hnode
  exact hin.content_eq h.ends h.replaced.target_node

/-- A run that exports what its scan found writes it to the path of the export, and fails if that fails. -/
theorem run_exportTo {discovery : Discovery} {out : Option Path} {json : Bool}
    (hfilter : noticeFilter? host = some filter)
    (hscan : discover host (loadConfig host).1 dirs = .ok discovery)
    (hparse : parse arguments = .ok ⟨.exportTo out, dirs, json⟩) :
    (run host arguments).progress
        = (writeExport host (exportPath host out host.time)
            (discovery.arranged host.entryOrder)).progress ∧
      ((run host arguments).code = 0 →
        (writeExport host (exportPath host out host.time)
          (discovery.arranged host.entryOrder)).failure? = none) := by
  rw [run_eq_exit hfilter hparse, progress_exitAfter, code_exitAfter_eq_zero_iff,
    after_execute_exportTo _ _ hscan, after_attempt_eq_ok_iff (.print _)]
  exact ⟨progress_after_attempt (keeps_progress_print _) _ _, id⟩

/-! ## Agreement -/

/-- Looking for a process id and for that value of the property come to the same, apart from what is said
if there is none. -/
theorem run_pid_withoutDiagnostic {arguments' : List Argument} {json : Bool} {pid : UInt32}
    {discovery : Discovery} (hfilter : noticeFilter? host = some filter)
    (hscan : discover host (loadConfig host).1 dirs = .ok discovery)
    (hparse : parse arguments = .ok ⟨.pid pid, dirs, json⟩)
    (hparse' : parse arguments' = .ok ⟨.find Emulator.pidKey (toString pid.toNat), dirs, json⟩) :
    (run host arguments).withoutDiagnostic = (run host arguments').withoutDiagnostic := by
  rw [run_eq_exit hfilter hparse, run_eq_exit hfilter hparse', after_execute_pid _ _ hscan,
    after_execute_find _ _ hscan, Snapshot.findPid?]
  cases (discovery.arranged host.entryOrder).snapshot.find? Emulator.pidKey (toString pid.toNat) with
  | some emulator => rfl
  | none =>
    -- only the failures differ, and they are told in the diagnostics alone
    rw [Option.elim_none, Option.elim_none, exit_showOne_error, exit_showOne_error,
      withoutDiagnostic_of_error, withoutDiagnostic_of_error]

/-- The first emulator that comes is the first one for which nothing is asked. -/
theorem first_eq_find? (discovery : Discovery) :
    discovery.first.mapError Failure.discovery
      = (discovery.snapshot.emulators.find? fun _ => true).elim
          (.error (.discovery .noEmulators)) .ok := by
  rw [Discovery.first, Snapshot.first?]
  cases discovery.snapshot.emulators <;> rfl

/-- Where the scan goes well every command reports on what it finds. -/
theorem reports_of_discover (sound : host.toView.Sound) {discovery : Discovery}
    (hfilter : noticeFilter? host = some filter)
    (h : discover host (loadConfig host).1 dirs = .ok discovery) :
    Reports host dirs discovery.snapshot.sorted := by
  constructor
  case scan =>
    intro listing entries time
    obtain ⟨other, hother, -, hsorted⟩ := exists_discover_seen h listing entries time
    exact ⟨other, hother, hsorted entries⟩
  case directories =>
    rintro time arguments json hparse exit ⟨listing, entries, rfl⟩
    have hprinted := after_printList (asJson host json) DirectoryStatus.toJson DirectoryStatus.line
      (statuses host dirs) (warned host)
    rw [run_seen hfilter hparse, code_exitAfter_eq_zero_iff, output_exitAfter]
    exact ⟨congrArg Prod.fst hprinted, (congrArg (Trace.output ∘ Prod.snd) hprinted).trans
      String.empty_append⟩
  case list =>
    rintro time arguments json hparse exit ⟨listing, entries, rfl⟩
    obtain ⟨other, hother, -, hsorted⟩ := exists_discover_seen h listing entries time
    have hlisted := after_execute_list json (warned host) hother
    rw [run_seen hfilter hparse, hlisted, ← hsorted entries]
    exact ⟨rfl, String.empty_append⟩
  case first =>
    intro time arguments json hparse
    have hprints := printsOne_of_chooses time hfilter h hparse
      (chooses_find? (fun _ => true) (.discovery .noEmulators)) fun host found trace hfound => by
        rw [after_execute_first json trace hfound, first_eq_find?]
        rfl
    simpa only [and_true] using hprints
  case find =>
    intro time arguments json key value hparse
    have hprints := printsOne_of_chooses time hfilter h hparse
      (chooses_find? (fun emulator => emulator.get? key = some value) (.noMatch key value))
      fun host found trace hfound => after_execute_find json trace hfound key value
    simpa only [decide_eq_true_iff] using hprints
  case pid =>
    intro time arguments arguments' json pid hparse hparse'
    have hsame : ∀ listing entries,
        (run (host.seen listing entries time) arguments).withoutDiagnostic
          = (run (host.seen listing entries time) arguments').withoutDiagnostic := by
      intro listing entries
      obtain ⟨other, hother, -, -⟩ := exists_discover_seen h listing entries time
      have hseen : noticeFilter? (host.seen listing entries time) = some filter := hfilter
      exact run_pid_withoutDiagnostic hseen hother hparse hparse'
    ext exit
    constructor
    · rintro ⟨_, ⟨listing, entries, rfl⟩, rfl⟩
      exact ⟨_, ⟨listing, entries, rfl⟩, (hsame listing entries).symm⟩
    · rintro ⟨_, ⟨listing, entries, rfl⟩, rfl⟩
      exact ⟨_, ⟨listing, entries, rfl⟩, hsame listing entries⟩
  case exportTo =>
    rintro time arguments json out hparse exit ⟨listing, entries, rfl⟩ hcode hlink
    obtain ⟨other, hother, hdirectories, hsorted⟩ := exists_discover_seen h listing entries time
    have hseen : noticeFilter? (host.seen listing entries time) = some filter := hfilter
    obtain ⟨hprogress, hwritten⟩ := run_exportTo hseen hother hparse
    rw [hprogress, ← hsorted entries]
    exact exists_place_of_export sound hdirectories hlink (hwritten hcode)

theorem fails_of_discover {error : DiscoveryError} (hfilter : noticeFilter? host = some filter)
    (h : discover host (loadConfig host).1 dirs = .error error) : Fails host dirs := by
  constructor
  case scan => exact exists_discover_seen_error h
  case code =>
    rintro time arguments command json hscans hparse exit ⟨listing, entries, rfl⟩
    obtain ⟨error, hscan⟩ := exists_discover_seen_error h listing entries time
    rw [run_seen hfilter hparse, execute_of_scan_error hscans hscan]
    rfl

/-- The commands agree. Directories that are marked as missing have no part in a scan. Unless the
directives about notices are torn, which ends every run, either every command that looks for
emulators fails with the scan, or all of them report on one collection. -/
theorem commands_agree (sound : host.toView.Sound) (dirs : List Path) :
    Scan.directories host.toView ((scanPaths host (loadConfig host).1 dirs).filter fun path =>
        (DirectoryStatus.of host.toView path).existing)
        = Scan.directories host.toView (scanPaths host (loadConfig host).1 dirs) ∧
      ((noticeFilter? host = none ∧
          ∀ time arguments, ∀ exit ∈ possibleExits host time arguments, exit.code = 101) ∨
        (noticeFilter? host ≠ none ∧
          (Fails host dirs ∨ ∃ collection, Reports host dirs collection))) := by
  refine ⟨Scan.directories_filter_isDirectory _ _, ?_⟩
  cases hfilter : noticeFilter? host with
  | none =>
    refine .inl ⟨rfl, ?_⟩
    rintro time arguments exit ⟨listing, entries, rfl⟩
    have hseen : noticeFilter? (host.seen listing entries time) = none := hfilter
    rw [run, hseen]
    rfl
  | some filter =>
    refine .inr ⟨Option.some_ne_none filter, ?_⟩
    cases hscan : discover host (loadConfig host).1 dirs with
    | error error => exact .inl (fails_of_discover hfilter hscan)
    | ok discovery => exact .inr ⟨_, reports_of_discover sound hfilter hscan⟩

end Collection

/-- The surroundings of a process at the root of a file system, with the given value of the variable
for directives about notices. -/
def rootHost (files : FileSystem) (directives? : Option String) : Host where
  files := files
  current := []
  order := ListingOrder.stored
  settings key := if key = noticesVariable then directives?.map Bytes.ofString else none
  user := 0
  time := 0

/-- The surroundings of a process that finds three emulators in two directories. -/
def markedHost : Host :=
  rootHost (FileSystem.ofNodes
    [("e", .directory), ("e/pid_20.ini", .file (Bytes.ofString "avd.name=one")),
      ("e/pid_5.ini", .file (Bytes.ofString "avd.name=two")), ("f", .directory),
      ("f/pid_3.ini", .file (Bytes.ofString "avd.name=two")),
      ("f/pid_5.ini", .file (Bytes.ofString "avd.name=shadowed"))]) none

/-- These directories, with one between them that is not there. -/
def markedDirs : List Path := ["/e", "/gone", "/f"].map Path.ofString

/-- What is found there, in the order in which it is found. -/
def markedSnapshot : Snapshot :=
  ⟨[("20", ⟨"20", .single "avd.name" "one"⟩), ("5", ⟨"5", .single "avd.name" "two"⟩),
    ("3", ⟨"3", .single "avd.name" "two"⟩)]⟩

/-- The emulators in the order for display. -/
def markedCollection : List Emulator :=
  [⟨"3", .single "avd.name" "two"⟩, ⟨"5", .single "avd.name" "two"⟩, ⟨"20", .single "avd.name" "one"⟩]

theorem sorted_markedSnapshot : markedSnapshot.sorted = markedCollection :=
  Snapshot.sorted_eq_of_pairwise (by decide : (markedSnapshot.entries.map (·.1)).Nodup)
    (by decide : ∀ entry ∈ markedSnapshot.entries, entry.2.pid = entry.1) (by decide)
    (by decide +kernel)

theorem sound_markedHost : markedHost.toView.Sound := by
  refine ⟨?_, .inl rfl⟩
  exact (((((FileSystem.isTree_empty.insert rfl rfl _).insert (by decide +kernel) (by decide +kernel)
    _).insert (by decide +kernel) (by decide +kernel) _).insert (by decide +kernel)
    (by decide +kernel) _).insert (by decide +kernel) (by decide +kernel) _).insert
    (by decide +kernel) (by decide +kernel) _

/-- All commands report on the three emulators in the two directories that are there. The one that was
found last may be printed as the first one, and either of the two with one name as the one with that
name. -/
theorem commands_agree_marked :
    Reports markedHost markedDirs markedCollection ∧
      (∀ status ∈ statuses markedHost markedDirs, status.path = "/gone" → status.existing = false) ∧
      (∃ exit ∈ possibleExits markedHost 0 (["first", "--dir=/e", "--dir=/gone", "--dir=/f"].map
          Bytes.ofString), exit.output = "3\ttwo\t-\tgrpc=-\n") ∧
      ∀ emulator ∈ markedCollection, emulator.get? "avd.name" = some "two" →
        ∃ exit ∈ possibleExits markedHost 0 (["find", "avd.name", "two", "--dir=/e", "--dir=/gone",
          "--dir=/f"].map Bytes.ofString), exit.output = emulatorsText false [emulator] := by
  have hscan : (discover markedHost (loadConfig markedHost).1 markedDirs).toOption.map (·.snapshot)
      = some markedSnapshot := by decide +kernel
  have hreports : Reports markedHost markedDirs markedCollection := by
    obtain ⟨-, ⟨hnone, -⟩ | ⟨-, hfails | ⟨collection, hreports⟩⟩⟩ :=
      commands_agree sound_markedHost markedDirs
    · cases hnone
    · obtain ⟨error, herror⟩ := hfails.scan .stored .stored 0
      have hseen : discover markedHost (loadConfig markedHost).1 markedDirs = .error error := herror
      rw [hseen] at hscan
      cases hscan
    · obtain ⟨discovery, hfound, hsorted⟩ := hreports.scan .stored .stored 0
      have hseen : discover markedHost (loadConfig markedHost).1 markedDirs = .ok discovery := hfound
      rw [hseen] at hscan
      have hsnapshot : discovery.snapshot = markedSnapshot := Option.some.inj hscan
      have hcollection : discovery.snapshot.sorted = collection := hsorted
      rw [hsnapshot, sorted_markedSnapshot] at hcollection
      rw [hcollection]
      exact hreports
  refine ⟨hreports, by decide +kernel, ?_, ?_⟩
  · obtain ⟨exit, hexit, -, houtput⟩ := (hreports.first 0
      (["first", "--dir=/e", "--dir=/gone", "--dir=/f"].map Bytes.ofString) false rfl).each
        ⟨"3", .single "avd.name" "two"⟩ (by decide)
    exact ⟨exit, hexit, houtput.trans (by decide +kernel)⟩
  · intro emulator hmem hname
    obtain ⟨exit, hexit, -, houtput⟩ := (hreports.find 0
      (["find", "avd.name", "two", "--dir=/e", "--dir=/gone", "--dir=/f"].map Bytes.ofString) false
        "avd.name" "two" rfl).each emulator ⟨hmem, hname⟩
    exact ⟨exit, hexit, houtput⟩

/-- Where the commands do not agree: directives that are torn end a run with neither the code of success
nor that of a failed scan, and an export with a link at its temporary path succeeds and leaves a path
that cannot be read. -/
theorem commands_disagree :
    (run (rootHost FileSystem.empty (some "\u3000[]")) (["list", "--json"].map Bytes.ofString)).code
        = 101 ∧
      (run (rootHost (FileSystem.ofNodes [("o.json.tmp", .link (Path.ofString "o.json"))]) none)
        (["export", "--out", "o.json"].map Bytes.ofString)).code = 0 ∧
      (run (rootHost (FileSystem.ofNodes [("o.json.tmp", .link (Path.ofString "o.json"))]) none)
        (["export", "--out", "o.json"].map Bytes.ofString)).progress.files.content []
          (Path.ofString "o.json") = .error .tooManyLinks := by
  decide +kernel

end CommandLine

end EmulatorScout
