import EmulatorScout.Proofs.Discovery.Rescan

/-!
# Watching over time

A discovery lives while the file system changes under it. A run is a list of events: changes of what
the process sees, and scans. After any run the discovery is the one that a fresh scan gives of the
directories it was opened with, in the file system as it stood at the latest scan that succeeded
(`run_eq_latest_scan`). So a scan that fails leaves nothing behind, and one that succeeds keeps
nothing of what was found before.
-/

set_option autoImplicit false

namespace EmulatorScout

open Scan (States)

/-- What happens to a watched file system. -/
inductive Event where
  /-- The file system, the current directory or the order of listings becomes another. -/
  | change (view : View)
  /-- The discovery scans again. -/
  | rescan

/-- A discovery in the surroundings of its process. -/
structure Watch where
  /-- What the process sees. -/
  view : View
  /-- The discovery. -/
  discovery : Discovery

namespace Watch

/-- One event. -/
def step (watch : Watch) : Event → Watch
  | .change view => { watch with view := view }
  | .rescan => { watch with discovery := (watch.discovery.rescan watch.view).1 }

def run (watch : Watch) (events : List Event) : Watch := events.foldl step watch

/-- What the process saw at its latest scan that succeeded, if it sees `view` before the events and
saw `scanned` at the latest such scan before them. -/
def lastScanned (directories : List Path) : View → View → List Event → View
  | _, scanned, [] => scanned
  | _, scanned, .change view :: events => lastScanned directories view scanned events
  | view, scanned, .rescan :: events =>
    if (Scan.directories view directories).isOk then lastScanned directories view view events
    else lastScanned directories view scanned events

end Watch

namespace Discovery

/-- Opening succeeds exactly if the directories can be scanned. -/
theorem inDirectories_eq_ok_iff {view : View} {directories : List Path} {opened : Discovery} :
    inDirectories view directories = .ok opened ↔
      ∃ snapshot, Scan.directories view directories = .ok snapshot ∧
        opened = ⟨directories, snapshot⟩ := by
  unfold inDirectories
  cases Scan.directories view directories with
  | error error =>
    constructor
    · intro h
      cases h
    · rintro ⟨snapshot, h, -⟩
      cases h
  | ok snapshot =>
    constructor
    · intro h
      cases h
      exact ⟨snapshot, rfl, rfl⟩
    · rintro ⟨snapshot', h, rfl⟩
      cases h
      rfl

/-- Opening is a first scan, and what was held before a scan has no part in it. -/
theorem inDirectories_eq_ok_iff_rescan {view : View} {discovery opened : Discovery} :
    inDirectories view discovery.directories = .ok opened
      ↔ discovery.rescan view = (opened, none) :=
  inDirectories_eq_ok_iff.trans rescan_eq_ok_iff.symm

theorem rescan_fst_of_error {view : View} {discovery : Discovery} {error : DiscoveryError}
    (h : Scan.directories view discovery.directories = .error error) :
    (discovery.rescan view).1 = discovery := by
  rw [rescan, h]

end Discovery

namespace Watch

open Discovery (inDirectories inDirectories_eq_ok_iff inDirectories_eq_ok_iff_rescan)

/-- After a run the discovery is a fresh one of the latest scan, if it was one before. -/
theorem inDirectories_lastScanned {directories : List Path} {view scanned : View}
    {discovery : Discovery} (h : inDirectories scanned directories = .ok discovery)
    (events : List Event) :
    inDirectories (lastScanned directories view scanned events) directories
      = .ok (run ⟨view, discovery⟩ events).discovery := by
  -- the invariant is the statement itself: a scan that succeeds is a fresh start of it
  induction events generalizing view scanned discovery with
  | nil => exact h
  | cons event events ih =>
    cases event with
    | change view' => exact ih h
    | rescan =>
      obtain ⟨snapshot, -, rfl⟩ := inDirectories_eq_ok_iff.1 h
      have hrun : run ⟨view, ⟨directories, snapshot⟩⟩ (.rescan :: events)
          = run ⟨view, (Discovery.rescan view ⟨directories, snapshot⟩).1⟩ events := rfl
      rw [hrun]
      cases hscan : Scan.directories view directories with
      | error error =>
        -- the discovery is kept, and so is the scan that it comes from
        have hkept : (Discovery.rescan view ⟨directories, snapshot⟩).1 = ⟨directories, snapshot⟩ :=
          Discovery.rescan_fst_of_error hscan
        rw [hkept, lastScanned, hscan]
        exact ih h
      | ok fresh =>
        -- the new snapshot takes the place of the old one, and this scan is now the latest
        have hrescan : Discovery.rescan view ⟨directories, snapshot⟩
            = (⟨directories, fresh⟩, none) := Discovery.rescan_eq_ok_iff.2 ⟨fresh, hscan, rfl⟩
        rw [hrescan, lastScanned, hscan]
        exact ih (inDirectories_eq_ok_iff.2 ⟨fresh, hscan, rfl⟩)

/-- After any run a discovery holds exactly what a fresh one would have found at the latest scan
that succeeded, in any order of listings, and the directories that it was opened with. A scan that
fails next changes nothing, and one that succeeds holds only what it finds. -/
theorem run_eq_latest_scan {view : View} {directories : List Path} {opened : Discovery}
    (h : inDirectories view directories = .ok opened) (events : List Event) :
    let watch := run ⟨view, opened⟩ events
    let snapshot := watch.discovery.snapshot
    watch.discovery.directories = directories ∧
    inDirectories (lastScanned directories view view events) directories = .ok watch.discovery ∧
    (∀ order, ∃ fresh,
      inDirectories ((lastScanned directories view view events).relisted order) directories
        = .ok fresh ∧
      fresh.snapshot.entries.Perm snapshot.entries ∧ fresh.snapshot.size = snapshot.size ∧
      fresh.snapshot.pids = snapshot.pids ∧
      ∀ key value, (fresh.snapshot.candidates key value).Perm (snapshot.candidates key value)) ∧
    (∀ error, (watch.discovery.rescan watch.view).2 = some error → watch.step .rescan = watch) ∧
    ∀ next, watch.discovery.rescan watch.view = (next, none) →
      (watch.step .rescan).discovery = next ∧ inDirectories watch.view directories = .ok next ∧
      ∀ pid emulator, next.snapshot.get? pid = some emulator →
        ∃ path ∈ directories, States watch.view path pid emulator.properties := by
  intro watch snapshot
  have hlatest : inDirectories (lastScanned directories view view events) directories
      = .ok watch.discovery := inDirectories_lastScanned h events
  obtain ⟨found, hscan, hwatch⟩ := inDirectories_eq_ok_iff.1 hlatest
  have hdirectories : watch.discovery.directories = directories := by rw [hwatch]
  refine ⟨hdirectories, hlatest, ?_, ?_, ?_⟩
  · intro order
    obtain ⟨other, hother, hperm⟩ := Discovery.scan_relisted hscan order
    have hsnapshot : snapshot = found := congrArg Discovery.snapshot hwatch
    rw [hsnapshot]
    exact ⟨⟨directories, other⟩, inDirectories_eq_ok_iff.2 ⟨other, hother, rfl⟩, hperm,
      Snapshot.size_eq_of_perm hperm, Snapshot.pids_eq_of_perm hperm,
      Snapshot.candidates_perm_of_perm hperm⟩
  · intro error herror
    have hkept := Discovery.rescan_fst_of_error (Discovery.rescan_snd_eq_some_iff.1 herror)
    rw [step, hkept]
  · intro next hnext
    have hopened := inDirectories_eq_ok_iff_rescan.2 hnext
    rw [hdirectories] at hopened
    refine ⟨congrArg Prod.fst hnext, hopened, ?_⟩
    intro pid emulator hget
    -- what is found in the new snapshot comes from one of the directories as they are now
    obtain ⟨fresh, hfresh, rfl⟩ := inDirectories_eq_ok_iff.1 hopened
    rw [Scan.get?_directories hfresh] at hget
    obtain ⟨path, hpath, hstates⟩ := List.exists_of_findSome?_eq_some hget
    exact ⟨path, hpath, (Scan.directoryStates_eq_some_iff.1 hstates).2⟩

/-- A directory in which the entry with the name of a marker file is a link to itself. -/
def endlessView : View :=
  ⟨.ofNodes [("a", .directory), ("a/pid_5.ini", .link (Path.ofString "pid_5.ini"))], [], .stored⟩

/-- A discovery that was opened before that link took the place of a file. -/
def openedBefore : Discovery :=
  ⟨[Path.ofString "a"], ⟨[("5", ⟨"5", .single "avd.name" "first"⟩)]⟩⟩

/-- After a scan that failed, a discovery holds what it held when it was opened. -/
theorem run_endless :
    inDirectories Discovery.brokenView [Path.ofString "a"] = .ok openedBefore ∧
      inDirectories Discovery.brokenView [Path.ofString "a"]
        = .ok (run ⟨Discovery.brokenView, openedBefore⟩
            [.change endlessView, .rescan]).discovery := by
  have hrescan : Discovery.rescan Discovery.brokenView ⟨[Path.ofString "a"], .empty⟩
      = (openedBefore, none) := by
    decide +kernel
  have hopened : inDirectories Discovery.brokenView [Path.ofString "a"] = .ok openedBefore :=
    (inDirectories_eq_ok_iff_rescan.2 hrescan :)
  have hfails : (Scan.directories endlessView [Path.ofString "a"]).isOk = false := by
    decide +kernel
  have hlatest := (run_eq_latest_scan hopened [.change endlessView, .rescan]).2.1
  rw [lastScanned, lastScanned, hfails, if_neg Bool.false_ne_true, lastScanned] at hlatest
  exact ⟨hopened, hlatest⟩

end Watch

end EmulatorScout
