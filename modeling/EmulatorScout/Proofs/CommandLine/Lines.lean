import EmulatorScout.Proofs.CommandLine.Reproducible
import EmulatorScout.Proofs.Discovery.Columns

/-!
# Listings read back

A run that lists the emulators with one of them on each line prints as many lines as it found emulators,
in the order for display, whatever text the marker files hold (`CommandLine.splitOn_emulatorsText`). Each
line is read back as its columns, so lines of any two discoveries that are equal show the same
(`CommandLine.lines_of_list`).
-/

set_option autoImplicit false

namespace EmulatorScout

/-! ## Emulators that were found -/

theorem Scan.States.legible {view : View} {path : Path} {emulator : Emulator}
    (h : Scan.States view path emulator.pid emulator.properties) : emulator.Legible := by
  obtain ⟨⟨hpid, -⟩, -, content, -, hread⟩ := h
  refine ⟨hpid, ?_⟩
  rw [← hread]
  exact PropertyFile.wellFormed_parse content.shown

/-- Every emulator that a scan finds is stated in a marker file of one of the directories. -/
theorem Scan.exists_states_of_mem_emulators {view : View} {paths : List Path} {snapshot : Snapshot}
    {emulator : Emulator} (h : directories view paths = .ok snapshot)
    (hmem : emulator ∈ snapshot.emulators) :
    ∃ path ∈ paths, States view path emulator.pid emulator.properties := by
  obtain ⟨⟨pid, emulator⟩, hentry, rfl⟩ := List.mem_map.1 hmem
  obtain ⟨rfl, path, hpath, hstates⟩ := exists_states_of_mem_entries h hentry
  exact ⟨path, hpath, hstates⟩

/-- Every emulator of a discovery is legible, however the discovery came about. -/
theorem Discovery.Reachable.legible {discovery : Discovery} (h : discovery.Reachable)
    {emulator : Emulator} (hmem : emulator ∈ discovery.snapshot.emulators) : emulator.Legible := by
  obtain ⟨view, paths, hscan⟩ := h.scanned
  obtain ⟨path, -, hstates⟩ := Scan.exists_states_of_mem_emulators hscan hmem
  exact hstates.legible

namespace CommandLine

/-! ## What was listed -/

/-- Emulators listed one on each line are listed on as many lines, after each of which a line ends. -/
theorem splitOn_emulatorsText {emulators : List Emulator}
    (legible : ∀ emulator ∈ emulators, emulator.Legible) :
    (emulatorsText false emulators).toList.splitOn '\n'
      = emulators.map (fun emulator => emulator.line.toList) ++ [[]] := by
  induction emulators with
  | nil => rfl
  | cons first rest ih =>
    have hline := (legible first List.mem_cons_self).feed_notMem_line
    have htext : (emulatorsText false (first :: rest)).toList
        = first.line.toList ++ '\n' :: (emulatorsText false rest).toList := by
      simp [emulatorsText, printed]
    rw [htext, List.splitOn_append_cons_self_of_not_mem hline,
      ih fun emulator hmem => legible emulator (List.mem_cons_of_mem first hmem)]
    rfl

/-- A run that succeeds with a command that looks for emulators carries it out on what it found. -/
theorem exists_carriesOut {host : Host} {arguments : List Argument} {command : Command}
    {dirs : List Path} {flag : Bool} (hscans : command.scans = true)
    (hparse : parse arguments = .ok ⟨command, dirs, flag⟩) (hcode : (run host arguments).code = 0) :
    ∃ discovery, discover host (loadConfig host).1 dirs = .ok discovery ∧
      CarriesOut host arguments command (asJson host flag) discovery := by
  cases hfilter : noticeFilter? host with
  | none =>
    rw [run, hfilter] at hcode
    cases hcode
  | some filter =>
    cases hscan : discover host (loadConfig host).1 dirs with
    | error error =>
      have hcode' : (run host arguments).code = 1 := by
        rw [run_eq_exit hfilter hparse, execute_of_scan_error hscans hscan]
        rfl
      rw [hcode'] at hcode
      cases hcode
    | ok discovery =>
      exact ⟨discovery, rfl, by rw [hfilter]; rfl, dirs, flag, hparse, rfl, hscan⟩

/-- An output lists a discovery line by line. -/
structure Lists (host : Host) (dirs : List Path) (output : String) (discovery : Discovery) : Prop where
  /-- The discovery is what the scan of the run finds. -/
  scan : discover host (loadConfig host).1 dirs = .ok discovery
  /-- There is a line for each emulator, in the order for display, and nothing after the last one. -/
  lines : output.toList.splitOn '\n'
    = discovery.snapshot.sorted.map (fun emulator => emulator.line.toList) ++ [[]]
  /-- The order for display has every emulator once. -/
  perm : discovery.snapshot.sorted.Perm discovery.snapshot.emulators
  /-- Every line is read back as the columns of its emulator. -/
  columns : ∀ emulator ∈ discovery.snapshot.emulators,
    Columns.ofLine emulator.line.toList = emulator.columns
  /-- Every emulator is stated in the marker file that has its process id in the name. -/
  stated : ∀ emulator ∈ discovery.snapshot.emulators,
    ∃ path ∈ scanPaths host (loadConfig host).1 dirs,
      Scan.States host.toView path emulator.pid emulator.properties

/-- The lines of a listing tell what was found. A run that succeeds in listing the emulators with
one of them on each line prints a line for each of them in the order for display, and each line is
read back as what it shows, whatever text the marker files hold. Emulators of any two discoveries
whose lines are equal agree in the process id, in the name as far as it is shown, in the serial number
and in the port for remote calls. -/
theorem lines_of_list {host : Host} {arguments : List Argument} {dirs : List Path} {flag : Bool}
    (hparse : parse arguments = .ok ⟨.list, dirs, flag⟩) (htext : asJson host flag = false)
    (hcode : (run host arguments).code = 0) :
    (∃ discovery, Lists host dirs (run host arguments).output discovery) ∧
      ∀ one other : Discovery, one.Reachable → other.Reachable →
        ∀ e ∈ one.snapshot.emulators, ∀ f ∈ other.snapshot.emulators, e.line = f.line →
          e.pid = f.pid ∧ e.name?.getD Emulator.absent = f.name?.getD Emulator.absent ∧
            e.serial? = f.serial? ∧ e.callPort? = f.callPort? := by
  constructor
  · obtain ⟨discovery, hscan, hrun⟩ := exists_carriesOut rfl hparse hcode
    have reachable : discovery.Reachable := .inDirectories hscan
    have houtput := (output_of_list hrun).2
    rw [htext] at houtput
    refine ⟨discovery, hscan, ?_, List.mergeSort_perm _ _, ?_, ?_⟩
    · rw [houtput]
      apply splitOn_emulatorsText
      intro emulator hmem
      exact reachable.legible (Snapshot.mem_sorted.1 hmem)
    · intro emulator hmem
      exact (reachable.legible hmem).ofLine_line
    · intro emulator hmem
      obtain ⟨snapshot, hsnapshot, rfl⟩ := Discovery.inDirectories_eq_ok_iff.1 hscan
      exact Scan.exists_states_of_mem_emulators hsnapshot hmem
  · intro one other hone hother e he f hf hline
    exact (hone.legible he).eq_of_line (hother.legible hf) hline

/-- The surroundings of a process at the root of a file system with the marker file of an emulator whose
name has tabs, so that it looks like the columns of a line. -/
def tabbedHost : Host :=
  rootHost (FileSystem.ofNodes
    [("e", .directory),
      ("e/pid_5.ini", .file (Bytes.ofString "avd.name=-\t-\tgrpc=1\ngrpc.port=2"))]) none

/-- The emulator is listed there on one line, and the name with tabs is read back from it. -/
theorem lines_of_list_tabbed :
    (run tabbedHost (["list", "--dir", "/e"].map Bytes.ofString)).output.toList.splitOn '\n'
        = ["5\t-\t-\tgrpc=1\t-\tgrpc=2".toList, []] ∧
      Columns.ofLine "5\t-\t-\tgrpc=1\t-\tgrpc=2".toList
        = ⟨['5'], "-\t-\tgrpc=1".toList, ['-'], "grpc=2".toList⟩ := by
  have hparse : parse (["list", "--dir", "/e"].map Bytes.ofString)
      = .ok ⟨.list, [Path.ofString "/e"], false⟩ := rfl
  have hcode : (run tabbedHost (["list", "--dir", "/e"].map Bytes.ofString)).code = 0 := by
    decide +kernel
  obtain ⟨⟨discovery, hlists⟩, -⟩ := lines_of_list hparse rfl hcode
  have hfound : (discover tabbedHost (loadConfig tabbedHost).1 [Path.ofString "/e"]).toOption.map
      (fun discovery => discovery.snapshot.sorted.map fun emulator => emulator.line.toList)
        = some ["5\t-\t-\tgrpc=1\t-\tgrpc=2".toList] := by decide +kernel
  rw [hlists.scan] at hfound
  have hsorted : discovery.snapshot.sorted.map (fun emulator => emulator.line.toList)
      = ["5\t-\t-\tgrpc=1\t-\tgrpc=2".toList] := Option.some.inj hfound
  refine ⟨?_, by decide +kernel⟩
  rw [hlists.lines, hsorted]
  rfl

end CommandLine

end EmulatorScout
