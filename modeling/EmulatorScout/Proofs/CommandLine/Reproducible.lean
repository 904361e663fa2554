import EmulatorScout.Proofs.CommandLine.Agreement
import EmulatorScout.Proofs.Discovery.Order

/-!
# Reproducible output

Discoveries in which every process id leads to the same emulator are displayed alike, in whatever
order their entries came (`CommandLine.displayed_alike`): there is one list of emulators, in strict
order, that every run prints which lists one of them, and whose text every run writes which exports one
of them, after the time and the directories that are its own.
-/

set_option autoImplicit false

namespace EmulatorScout.CommandLine

open Json

/-! ## The text of an export -/

/-- The text of an export up to its emulators. -/
def exportHead (time : Int) (paths : List Path) : String :=
  String.ofList ('{' :: (Layout.indented.gap 1 ++ quoted "exported_at_unix_millis"
    (Layout.indented.colon ++ render .indented 1 (.integer time)
      (renderMembers .indented 1 [("directories", .array (paths.map fun path => .string path.shown))]
        (',' :: (Layout.indented.gap 1 ++ quoted "emulators" Layout.indented.colon))))))

/-- The text of an export from its emulators on. -/
def exportTail (emulators : List Emulator) : String :=
  String.ofList (render .indented 1 (.array (emulators.map Emulator.toJson))
    (Layout.indented.gap 0 ++ ['}']))

/-- The emulators have a part of an export to themselves. -/
theorem exportText_eq_append (time : Int) (discovery : Discovery) :
    exportText time discovery
      = exportHead time discovery.directories ++ exportTail discovery.snapshot.sorted := by
  apply String.toList_inj.1
  rw [String.toList_append, exportText, exportJson, write, exportHead, exportTail,
    String.toList_ofList, String.toList_ofList, String.toList_ofList]
  simp only [render, renderMembers, List.cons_append, List.append_assoc, ← quoted_append,
    ← render_append]

/-! ## Runs on a discovery -/

/-- A run that carries a command out on a discovery, with its output as JSON or not. -/
structure CarriesOut (host : Host) (arguments : List Argument) (command : Command) (json : Bool)
    (discovery : Discovery) : Prop where
  /-- The directives about notices can be used. -/
  directives : (noticeFilter? host).isSome = true
  /-- The arguments ask for the command, and the scan that goes with it finds the discovery. -/
  asked : ∃ dirs flag, parse arguments = .ok ⟨command, dirs, flag⟩ ∧ asJson host flag = json ∧
    discover host (loadConfig host).1 dirs = .ok discovery

section Runs

variable {host : Host} {arguments : List Argument} {json : Bool} {discovery : Discovery}

/-- A run that carries a command out has directives and arguments that can be used, and it finds the
discovery in its scan. -/
theorem CarriesOut.exists_parse {command : Command}
    (h : CarriesOut host arguments command json discovery) :
    ∃ filter dirs flag, noticeFilter? host = some filter ∧
      parse arguments = .ok ⟨command, dirs, flag⟩ ∧ asJson host flag = json ∧
      discover host (loadConfig host).1 dirs = .ok discovery := by
  obtain ⟨filter, hfilter⟩ := Option.isSome_iff_exists.1 h.directives
  obtain ⟨dirs, flag, hparse, hjson, hscan⟩ := h.asked
  exact ⟨filter, dirs, flag, hfilter, hparse, hjson, hscan⟩

/-- However the host goes through what a scan found, it has one order for display. -/
theorem sorted_arranged_of_discover {dirs : List Path}
    (h : discover host (loadConfig host).1 dirs = .ok discovery) (entries : EntryOrder) :
    (discovery.arranged entries).snapshot.sorted = discovery.snapshot.sorted := by
  have proper := (Discovery.Reachable.inDirectories h).proper
  exact Snapshot.sorted_arranged proper.distinct proper.keyed entries

/-- A run that lists a discovery prints its emulators in the order for display. -/
theorem output_of_list (h : CarriesOut host arguments .list json discovery) :
    (run host arguments).code = 0 ∧
      (run host arguments).output = emulatorsText json discovery.snapshot.sorted := by
  obtain ⟨filter, dirs, flag, hfilter, hparse, rfl, hscan⟩ := h.exists_parse
  rw [run_eq_exit hfilter hparse, after_execute_list flag _ hscan, sorted_arranged_of_discover hscan]
  exact ⟨rfl, String.empty_append⟩

/-- A run that exports a discovery writes its time, its directories and its emulators in the order for
display to the path of the export. -/
theorem progress_of_exportTo {out : Option Path}
    (h : CarriesOut host arguments (.exportTo out) json discovery) :
    (run host arguments).progress
      = (AtomicWrite.write host.current host.files (exportPath host out host.time) (Bytes.ofString
          (exportHead host.time discovery.directories
            ++ exportTail discovery.snapshot.sorted))).progress := by
  obtain ⟨filter, dirs, flag, hfilter, hparse, -, hscan⟩ := h.exists_parse
  rw [(run_exportTo hfilter hscan hparse).1, writeExport, exportText_eq_append,
    sorted_arranged_of_discover hscan]
  rfl

end Runs

/-! ## Displays -/

/-- A list of emulators is how a discovery is displayed. -/
structure Displayed (discovery : Discovery) (display : List Emulator) : Prop where
  /-- It is made of the emulators that were found. -/
  perm : display.Perm discovery.snapshot.emulators
  /-- It is their order for display, in whatever order the entries are taken. -/
  sorted : ∀ snapshot : Snapshot, snapshot.entries.Perm discovery.snapshot.entries →
    snapshot.sorted = display
  /-- Every run that lists the discovery prints it. -/
  list : ∀ host arguments json, CarriesOut host arguments .list json discovery →
    (run host arguments).code = 0 ∧ (run host arguments).output = emulatorsText json display
  /-- Every run that exports the discovery writes it after the time and the directories. -/
  exportTo : ∀ host arguments out json, CarriesOut host arguments (.exportTo out) json discovery →
    (run host arguments).progress
      = (AtomicWrite.write host.current host.files (exportPath host out host.time) (Bytes.ofString
          (exportHead host.time discovery.directories ++ exportTail display))).progress

theorem displayed_sorted {discovery : Discovery} (h : discovery.Reachable) :
    Displayed discovery discovery.snapshot.sorted where
  perm := List.mergeSort_perm _ _
  sorted _ hperm := Snapshot.sorted_eq_of_perm hperm h.proper.distinct h.proper.keyed
  list _ _ _ hrun := output_of_list hrun
  exportTo _ _ _ _ hrun := progress_of_exportTo hrun

/-- Discoveries of the same emulators are displayed alike, whatever the order in which they were
found. The display is in strict order, by rank and then by the text of the process id, so of two
process ids that are written with the digits 0 to 9 and denote numbers of 64 bits the one with the
smaller number comes first. -/
theorem displayed_alike {discovery other : Discovery} (h : discovery.Reachable)
    (hother : other.Reachable)
    (same : ∀ pid, discovery.snapshot.get? pid = other.snapshot.get? pid) :
    ∃ display, Displayed discovery display ∧ Displayed other display ∧
      (display.Pairwise fun e f => Snapshot.Before e.pid f.pid) ∧
      ∀ e ∈ display, ∀ f ∈ display, Snapshot.IsPlain e.pid → Snapshot.IsPlain f.pid →
        Snapshot.number f.pid ≤ Snapshot.maxRank → Snapshot.number e.pid < Snapshot.number f.pid →
          [e, f].Sublist display := by
  have proper := h.proper
  have hperm : discovery.snapshot.entries.Perm other.snapshot.entries :=
    Snapshot.perm_entries proper.distinct hother.proper.distinct same
  have hdisplayed := displayed_sorted hother
  rw [← hdisplayed.sorted _ hperm] at hdisplayed
  refine ⟨_, displayed_sorted h, hdisplayed, proper.pairwise_before_sorted, ?_⟩
  intro e he f hf hplain hplain' hmax hlt
  rw [Snapshot.mem_sorted] at he hf
  exact (proper.pair_sorted_iff_number he hf hplain hplain' hlt).2 (.inl (by omega))

/-- The surroundings of a process at the root of a file system with two directories, each with the marker
file of a process, whose process ids denote one number. -/
def pairHost : Host :=
  rootHost (FileSystem.ofNodes
    [("a", .directory), ("a/pid_5.ini", .file (Bytes.ofString "k=v")),
      ("b", .directory), ("b/pid_05.ini", .file (Bytes.ofString "k=w"))]) none

/-- What is found there, with the directories and the entries in a given order. -/
def pairDiscovery (dirs pids : List String) : Discovery :=
  ⟨("/run/user/0/avd/running" :: dirs).map Path.ofString,
    ⟨pids.map fun pid => (pid, ⟨pid, .single "k" (if pid = "5" then "v" else "w")⟩)⟩⟩

/-- The two directories are scanned in the order in which they are given. -/
theorem discover_pair :
    discover pairHost (loadConfig pairHost).1 (["/a", "/b"].map Path.ofString)
        = .ok (pairDiscovery ["/a", "/b"] ["5", "05"]) ∧
      discover pairHost (loadConfig pairHost).1 (["/b", "/a"].map Path.ofString)
        = .ok (pairDiscovery ["/b", "/a"] ["05", "5"]) := by
  have hscan : ∀ dirs found, (discover pairHost (loadConfig pairHost).1 dirs).toOption = some found →
      discover pairHost (loadConfig pairHost).1 dirs = .ok found := by
    intro dirs found h
    cases hfound : discover pairHost (loadConfig pairHost).1 dirs with
    | error error =>
      rw [hfound] at h
      cases h
    | ok other =>
      rw [hfound] at h
      exact congrArg Except.ok (Option.some.inj h)
  exact ⟨hscan _ _ (by decide +kernel), hscan _ _ (by decide +kernel)⟩

/-- Two runs that find the emulators in different orders print the same list. -/
theorem displayed_alike_pair :
    (run pairHost (["list", "--dir", "/a", "--dir", "/b"].map Bytes.ofString)).output
        = (run pairHost (["list", "--dir", "/b", "--dir", "/a"].map Bytes.ofString)).output ∧
      (pairDiscovery ["/a", "/b"] ["5", "05"]).snapshot.entries
        ≠ (pairDiscovery ["/b", "/a"] ["05", "5"]).snapshot.entries := by
  obtain ⟨hscan, hscan'⟩ := discover_pair
  have same : ∀ pid, (pairDiscovery ["/a", "/b"] ["5", "05"]).snapshot.get? pid
      = (pairDiscovery ["/b", "/a"] ["05", "5"]).snapshot.get? pid := by
    intro pid
    by_cases hpid : pid = "5"
    · subst hpid
      rfl
    · by_cases hpid' : pid = "05"
      · subst hpid'
        rfl
      · simp [pairDiscovery, Snapshot.get?, lookup_cons_of_ne hpid, lookup_cons_of_ne hpid']
  obtain ⟨display, hdisplay, hdisplay', -, -⟩ :=
    displayed_alike (.inDirectories hscan) (.inDirectories hscan') same
  have hrun : CarriesOut pairHost (["list", "--dir", "/a", "--dir", "/b"].map Bytes.ofString) .list
      false (pairDiscovery ["/a", "/b"] ["5", "05"]) :=
    ⟨rfl, _, false, rfl, rfl, hscan⟩
  have hrun' : CarriesOut pairHost (["list", "--dir", "/b", "--dir", "/a"].map Bytes.ofString) .list
      false (pairDiscovery ["/b", "/a"] ["05", "5"]) :=
    ⟨rfl, _, false, rfl, rfl, hscan'⟩
  refine ⟨?_, by decide +kernel⟩
  exact (hdisplay.list _ _ _ hrun).2.trans (hdisplay'.list _ _ _ hrun').2.symm

end EmulatorScout.CommandLine
