import EmulatorScout.Proofs.Discovery.Scan

/-!
# Scanning again

What a discovery holds after a scan that succeeded, and when a scan fails. Both are said of the file
system and the list of directories alone: neither depends on the order in which the host lists the
names of a directory (`get?_rescan_iff_earliest`, `rescan_fails_iff_unreadable`).
-/

set_option autoImplicit false

namespace EmulatorScout

/-- The same file system, with its directories listed in another order. -/
def View.relisted (view : View) (order : ListingOrder) : View := { view with order := order }

namespace Discovery

open Scan (States Unreadable HasUnreadable markerPath)

/-- A scan succeeds exactly if the directories can be scanned, and it replaces the snapshot. -/
theorem rescan_eq_ok_iff {view : View} {discovery after : Discovery} :
    discovery.rescan view = (after, none) ↔
      ∃ snapshot, Scan.directories view discovery.directories = .ok snapshot ∧
        after = ⟨discovery.directories, snapshot⟩ := by
  unfold rescan
  cases Scan.directories view discovery.directories with
  | error error =>
    constructor
    · intro h
      cases h
    · rintro ⟨snapshot, h, -⟩
      cases h
  | ok snapshot =>
    constructor
    · intro h
      cases h
      exact ⟨snapshot, rfl, rfl⟩
    · rintro ⟨snapshot', h, rfl⟩
      cases h
      rfl

theorem rescan_snd_eq_some_iff {view : View} {discovery : Discovery} {error : DiscoveryError} :
    (discovery.rescan view).2 = some error
      ↔ Scan.directories view discovery.directories = .error error := by
  unfold rescan
  cases Scan.directories view discovery.directories with
  | error error' =>
    constructor
    · intro h
      cases h
      rfl
    · intro h
      cases h
      rfl
  | ok snapshot =>
    constructor
    · intro h
      cases h
    · intro h
      cases h

/-- What a marker file states does not depend on the order of listings. -/
theorem states_relisted {view : View} {order : ListingOrder} {path : Path} {pid : String}
    {properties : Properties} :
    States (view.relisted order) path pid properties ↔ States view path pid properties :=
  Iff.rfl

theorem directoryStates_relisted (view : View) (order : ListingOrder) (path : Path)
    (pid : String) :
    Scan.directoryStates (view.relisted order) path pid = Scan.directoryStates view path pid := by
  apply Option.ext
  intro emulator
  rw [Scan.directoryStates_eq_some_iff, Scan.directoryStates_eq_some_iff, states_relisted]

/-- Two orders of listing lead to one outcome: a scan that succeeds in one order succeeds in the
other and finds the same. -/
theorem scan_relisted {view : View} {paths : List Path} {snapshot : Snapshot}
    (h : Scan.directories view paths = .ok snapshot) (order : ListingOrder) :
    ∃ other, Scan.directories (view.relisted order) paths = .ok other ∧
      other.entries.Perm snapshot.entries := by
  cases hother : Scan.directories (view.relisted order) paths with
  | error error =>
    -- a failure in the other order comes from a file that makes the scan fail in this one too
    obtain ⟨error', herror⟩ := (Scan.exists_directories_eq_error_iff view paths).2
      ((Scan.exists_directories_eq_error_iff (view.relisted order) paths).1 ⟨error, hother⟩)
    rw [h] at herror
    cases herror
  | ok other =>
    refine ⟨other, rfl, Snapshot.perm_entries (Scan.distinct_directories hother)
      (Scan.distinct_directories h) ?_⟩
    intro pid
    rw [Scan.get?_directories hother, Scan.get?_directories h]
    simp only [directoryStates_relisted]

/-- After a scan that succeeded, a process id leads to what the earliest directory states about
it. There is an emulator under a process id exactly if one of the directories states anything, and
another order of listings leads to the same entries. -/
theorem get?_rescan_iff_earliest {view : View} {discovery after : Discovery}
    (h : discovery.rescan view = (after, none)) :
    (∀ pid emulator, after.snapshot.get? pid = some emulator ↔
      emulator.pid = pid ∧ ∃ before path rest, discovery.directories = before ++ path :: rest ∧
        States view path pid emulator.properties ∧
          ∀ earlier ∈ before, ∀ properties, ¬ States view earlier pid properties) ∧
    (∀ pid, after.snapshot.contains pid = true ↔
      ∃ path ∈ discovery.directories, ∃ properties, States view path pid properties) ∧
    ∀ order, ∃ other, discovery.rescan (view.relisted order) = (other, none) ∧
      other.snapshot.entries.Perm after.snapshot.entries := by
  obtain ⟨snapshot, hscan, rfl⟩ := rescan_eq_ok_iff.1 h
  have hget := Scan.get?_directories hscan
  refine ⟨?_, ?_, ?_⟩
  · intro pid emulator
    -- the look-up is a search through the directories, which the earliest one that states decides
    rw [hget, List.findSome?_eq_some_iff]
    constructor
    · rintro ⟨before, path, rest, hpaths, hstates, hbefore⟩
      obtain ⟨hpid, hmarker⟩ := Scan.directoryStates_eq_some_iff.1 hstates
      refine ⟨hpid, before, path, rest, hpaths, hmarker, ?_⟩
      intro earlier hearlier properties hprior
      have hsome := Scan.directoryStates_of_states hprior
      rw [hbefore earlier hearlier] at hsome
      cases hsome
    · rintro ⟨hpid, before, path, rest, hpaths, hmarker, hbefore⟩
      refine ⟨before, path, rest, hpaths, Scan.directoryStates_eq_some_iff.2 ⟨hpid, hmarker⟩, ?_⟩
      intro earlier hearlier
      cases hprior : Scan.directoryStates view earlier pid with
      | none => rfl
      | some other =>
        exact absurd (Scan.directoryStates_eq_some_iff.1 hprior).2 (hbefore earlier hearlier _)
  · intro pid
    rw [Snapshot.contains, hget, List.findSome?_isSome_iff]
    constructor
    · rintro ⟨path, hpath, hsome⟩
      obtain ⟨emulator, hstates⟩ := Option.isSome_iff_exists.1 hsome
      exact ⟨path, hpath, _, (Scan.directoryStates_eq_some_iff.1 hstates).2⟩
    · rintro ⟨path, hpath, properties, hmarker⟩
      exact ⟨path, hpath, Option.isSome_of_eq_some (Scan.directoryStates_of_states hmarker)⟩
  · intro order
    obtain ⟨other, hother, hperm⟩ := scan_relisted hscan order
    exact ⟨⟨discovery.directories, other⟩, rescan_eq_ok_iff.2 ⟨other, hother, rfl⟩, hperm⟩

/-- Four directories with an entry of the name of one marker file: a directory, a file without a
property, a link to a file, and a file. -/
def shadowedView : View :=
  ⟨.ofNodes
    [("a", .directory), ("a/pid_5.ini", .directory), ("b", .directory),
      ("b/pid_5.ini", .file (Bytes.ofString "[section]")), ("c", .directory),
      ("c/pid_5.ini", .link (Path.ofString "../real")),
      ("real", .file (Bytes.ofString "avd.name=first")), ("d", .directory),
      ("d/pid_5.ini", .file (Bytes.ofString "avd.name=second"))], [], .stored⟩

/-- The four directories, and one that does not exist. -/
def shadowedPaths : List Path := ["a", "/b/", "none", "./c", "d"].map Path.ofString

/-- The directory and the file without a property do not shadow the link, and the link shadows the
file after it. -/
theorem rescan_shadowed :
    rescan shadowedView ⟨shadowedPaths, .empty⟩
        = (⟨shadowedPaths, ⟨[("5", ⟨"5", .single "avd.name" "first"⟩)]⟩⟩, none) ∧
      ∃ before path rest, shadowedPaths = before ++ path :: rest ∧
        States shadowedView path "5" (.single "avd.name" "first") ∧
          ∀ earlier ∈ before, ∀ properties, ¬ States shadowedView earlier "5" properties := by
  have h : rescan shadowedView ⟨shadowedPaths, .empty⟩
      = (⟨shadowedPaths, ⟨[("5", ⟨"5", .single "avd.name" "first"⟩)]⟩⟩, none) := by
    decide +kernel
  refine ⟨h, ?_⟩
  exact (((get?_rescan_iff_earliest h).1 "5" ⟨"5", .single "avd.name" "first"⟩).1 (by decide)).2

/-- A scan fails exactly if one of the directories has a marker file that cannot be read,
whatever was found in the directories before it. The failure names such a file in the first
directory that has one, and it does so in every order of listings. A path that leads to no directory
never makes a scan fail. -/
theorem rescan_fails_iff_unreadable (view : View) (discovery : Discovery) :
    ((∃ error, (discovery.rescan view).2 = some error) ↔
      ∃ path ∈ discovery.directories, HasUnreadable view path) ∧
    (∀ error, (discovery.rescan view).2 = some error →
      ∃ before path rest, discovery.directories = before ++ path :: rest ∧
        (∀ earlier ∈ before, ¬ HasUnreadable view earlier) ∧
        (∃ pid cause, Unreadable view path pid cause ∧
          error = .unreadable (markerPath path pid) cause) ∧
        ∀ order, ∃ pid cause, Unreadable view path pid cause ∧
          (discovery.rescan (view.relisted order)).2
            = some (.unreadable (markerPath path pid) cause)) ∧
    (rescan view ⟨discovery.directories.filter view.isDirectory, discovery.snapshot⟩).2
      = (discovery.rescan view).2 := by
  refine ⟨?_, ?_, ?_⟩
  · simp only [rescan_snd_eq_some_iff]
    exact Scan.exists_directories_eq_error_iff view discovery.directories
  · intro error herror
    obtain ⟨before, path, rest, hpaths, hbefore, hfailure⟩ :=
      Scan.directories_eq_error (rescan_snd_eq_some_iff.1 herror)
    refine ⟨before, path, rest, hpaths, hbefore, hfailure, ?_⟩
    intro order
    obtain ⟨pid, cause, hunreadable, -⟩ := hfailure
    have hpath : path ∈ discovery.directories := by simp [hpaths]
    have hhas : HasUnreadable view path := ⟨pid, cause, hunreadable⟩
    obtain ⟨error', herror'⟩ :=
      (Scan.exists_directories_eq_error_iff (view.relisted order) discovery.directories).2
        ⟨path, hpath, hhas⟩
    obtain ⟨before', path', rest', hpaths', hbefore', pid', cause', hunreadable', rfl⟩ :=
      Scan.directories_eq_error herror'
    -- both failures are in the first directory with an unreadable file, so in the same one
    obtain rfl := eq_of_first (hpaths.symm.trans hpaths') hhas ⟨pid', cause', hunreadable'⟩ hbefore
      hbefore'
    exact ⟨pid', cause', hunreadable', rescan_snd_eq_some_iff.2 herror'⟩
  · apply Option.ext
    intro error
    rw [rescan_snd_eq_some_iff, rescan_snd_eq_some_iff, Scan.directories_filter_isDirectory]

/-- Two directories with the marker file of one process, which in the second is a link to a
directory. -/
def brokenView : View :=
  ⟨.ofNodes
    [("a", .directory), ("a/pid_5.ini", .file (Bytes.ofString "avd.name=first")),
      ("b", .directory), ("b/pid_5.ini", .link (Path.ofString "."))], [], .stored⟩

/-- The file in the first directory does not hide that the one in the second cannot be read. -/
theorem rescan_broken :
    (rescan brokenView ⟨["a", "b"].map Path.ofString, .empty⟩).2
        = some (.unreadable (Path.ofString "b/pid_5.ini") .isADirectory) ∧
      ∃ path ∈ ["a", "b"].map Path.ofString, HasUnreadable brokenView path := by
  have h : (rescan brokenView ⟨["a", "b"].map Path.ofString, .empty⟩).2
      = some (.unreadable (Path.ofString "b/pid_5.ini") .isADirectory) := by
    decide +kernel
  exact ⟨h, (rescan_fails_iff_unreadable brokenView _).1.1 ⟨_, h⟩⟩

end Discovery

end EmulatorScout
