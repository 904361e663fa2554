import EmulatorScout.Proofs.Discovery.Watch
import Mathlib.Data.Finset.Card

/-!
# Discoveries that can come about

A discovery is opened over some directories or in some environment, and it scans again any number of
times, each time in whatever file system there is then (`Discovery.Reachable`). What it holds at any
time is what one scan found (`Discovery.Reachable.scanned`), so it is proper
(`Discovery.Reachable.proper`): each emulator is kept under its own process id, which is one or more
digits, none is kept twice, and each has a property.

Since descriptions are told apart by their process ids alone, it is this that makes all ways to count
the emulators agree (`Discovery.Reachable.counts_agree`).
-/

set_option autoImplicit false

namespace EmulatorScout

namespace Emulator

/-- A list of different emulators has one description of each already. -/
theorem oneOfEach_eq_self {emulators : List Emulator}
    (different : emulators.Pairwise fun e f => e.pid ≠ f.pid) : oneOfEach emulators = emulators := by
  rw [oneOfEach]
  induction emulators with
  | nil => rfl
  | cons first rest ih =>
    obtain ⟨hfirst, hrest⟩ := List.pairwise_cons.1 different
    -- no later description is of the first emulator, so none is left out
    have hkept : rest.filter (fun e => decide (sameEmulator e first = false)) = rest := by
      refine List.filter_eq_self.2 fun e he => ?_
      rw [decide_eq_true_iff, sameEmulator, beq_eq_false_iff_ne]
      exact (hfirst e he).symm
    rw [List.eraseDupsBy_cons, hkept, ih hrest]

end Emulator

namespace Snapshot

/-- What holds of everything that a scan finds. -/
structure Proper (snapshot : Snapshot) : Prop where
  /-- No process id is kept twice. -/
  distinct : snapshot.Distinct
  /-- Each emulator is kept under its own process id. -/
  keyed : snapshot.Keyed
  /-- Each process id is one or more digits. -/
  digits : ∀ entry ∈ snapshot.entries, MarkerFile.IsPid entry.1
  /-- Each emulator has a property. -/
  stated : ∀ entry ∈ snapshot.entries, entry.2.properties.isEmpty = false

namespace Proper

variable {snapshot : Snapshot}

theorem map_pid_emulators (proper : snapshot.Proper) :
    snapshot.emulators.map Emulator.pid = snapshot.entries.map (·.1) := by
  rw [emulators, List.map_map]
  exact List.map_congr_left fun entry hentry => proper.keyed entry hentry

/-- No two descriptions are of one emulator. -/
theorem pairwise_pid_ne (proper : snapshot.Proper) :
    snapshot.emulators.Pairwise fun e f => e.pid ≠ f.pid := by
  have hnodup : (snapshot.emulators.map Emulator.pid).Nodup := by
    rw [proper.map_pid_emulators]
    exact proper.distinct
  exact List.pairwise_map.1 hnodup

theorem card_pids (proper : snapshot.Proper) : snapshot.pids.toFinset.card = snapshot.size := by
  have hperm : snapshot.pids.Perm (snapshot.entries.map (·.1)) := List.mergeSort_perm _ _
  rw [List.toFinset_card_of_nodup (hperm.nodup_iff.2 proper.distinct), hperm.length_eq,
    List.length_map, size]

end Proper

end Snapshot

namespace Scan

/-- Everything that a scan finds is proper. -/
theorem proper_directories {view : View} {paths : List Path} {snapshot : Snapshot}
    (h : directories view paths = .ok snapshot) : snapshot.Proper where
  distinct := distinct_directories h
  keyed := keyed_directories h
  digits := by
    intro entry hentry
    obtain ⟨-, path, -, hmarks, -⟩ := exists_states_of_mem_entries h hentry
    exact hmarks.1
  stated := by
    intro entry hentry
    obtain ⟨-, path, -, -, hstated, -⟩ := exists_states_of_mem_entries h hentry
    exact hstated

end Scan

/-- What one scan of some directories found. -/
def Snapshot.Scanned (snapshot : Snapshot) : Prop :=
  ∃ view paths, Scan.directories view paths = .ok snapshot

namespace Discovery

/-- A discovery that can come about: it is opened, and then it scans again any number of times. -/
inductive Reachable : Discovery → Prop
  /-- It is opened over directories. -/
  | inDirectories {view : View} {directories : List Path} {discovery : Discovery}
    (opened : Discovery.inDirectories view directories = .ok discovery) : Reachable discovery
  /-- It is opened in an environment. -/
  | inEnvironment {view : View} {environment : Environment} {discovery : Discovery}
    (opened : Discovery.inEnvironment view environment = .ok discovery) : Reachable discovery
  /-- It scans again, with or without success, in whatever file system there is. -/
  | rescan {discovery : Discovery} (earlier : Reachable discovery) (view : View) :
    Reachable (discovery.rescan view).1

theorem reachable_of_rescan {view : View} {directories : List Path} {discovery : Discovery}
    (h : rescan view ⟨directories, .empty⟩ = (discovery, none)) : discovery.Reachable :=
  .inDirectories (inDirectories_eq_ok_iff_rescan.2 h)

theorem scanned_of_inDirectories {view : View} {directories : List Path} {discovery : Discovery}
    (opened : Discovery.inDirectories view directories = .ok discovery) :
    discovery.snapshot.Scanned := by
  obtain ⟨snapshot, hscan, rfl⟩ := inDirectories_eq_ok_iff.1 opened
  exact ⟨view, directories, hscan⟩

/-- After one more scan a discovery still holds what one scan found: this one if it succeeded, and
else the one before. -/
theorem scanned_rescan {discovery : Discovery} (scanned : discovery.snapshot.Scanned) (view : View) :
    (discovery.rescan view).1.snapshot.Scanned := by
  cases hscan : Scan.directories view discovery.directories with
  | error error =>
    rw [rescan_fst_of_error hscan]
    exact scanned
  | ok snapshot =>
    have hrescan := rescan_eq_ok_iff.2 ⟨snapshot, hscan, rfl⟩
    rw [hrescan]
    exact ⟨view, discovery.directories, hscan⟩

/-- What a discovery holds at any time is what one scan found. -/
theorem Reachable.scanned {discovery : Discovery} (h : discovery.Reachable) :
    discovery.snapshot.Scanned := by
  induction h with
  | inDirectories opened => exact scanned_of_inDirectories opened
  | inEnvironment opened => exact scanned_of_inDirectories opened
  | rescan earlier view ih => exact scanned_rescan ih view

/-- What a discovery holds is proper at every time. -/
theorem Reachable.proper {discovery : Discovery} (h : discovery.Reachable) :
    discovery.snapshot.Proper := by
  obtain ⟨view, paths, hscan⟩ := h.scanned
  exact Scan.proper_directories hscan

/-- All ways to count the emulators of a discovery agree, however it came about. Each emulator is
kept under its own process id, which is one or more digits, and has a property and a value for the
process id. So there are as many entries as descriptions, as different process ids, as emulators told
apart by their process ids, and as places in the order for display: neither a set nor a sorted list
loses any. -/
theorem Reachable.counts_agree {discovery : Discovery} (h : discovery.Reachable) :
    let snapshot := discovery.snapshot
    (∀ pid emulator, (pid, emulator) ∈ snapshot.entries →
      emulator.pid = pid ∧ MarkerFile.IsPid pid ∧ emulator.properties.isEmpty = false ∧
        (emulator.get? Emulator.pidKey).isSome = true) ∧
    snapshot.emulators.length = snapshot.size ∧
    snapshot.pids.toFinset.card = snapshot.size ∧
    (Emulator.oneOfEach snapshot.emulators).length = snapshot.size ∧
    snapshot.sorted.length = snapshot.size ∧
    Emulator.oneOfEach snapshot.emulators = snapshot.emulators ∧
    snapshot.sorted.Perm snapshot.emulators := by
  intro snapshot
  have proper := h.proper
  have hlength : snapshot.emulators.length = snapshot.size := List.length_map _
  have hset : Emulator.oneOfEach snapshot.emulators = snapshot.emulators :=
    Emulator.oneOfEach_eq_self proper.pairwise_pid_ne
  have hsorted : snapshot.sorted.Perm snapshot.emulators := List.mergeSort_perm _ _
  refine ⟨?_, hlength, proper.card_pids, (congrArg List.length hset).trans hlength,
    hsorted.length_eq.trans hlength, hset, hsorted⟩
  intro pid emulator hentry
  refine ⟨proper.keyed _ hentry, proper.digits _ hentry, proper.stated _ hentry, ?_⟩
  -- the file may state a process id of its own, and else the one of its name is taken
  rw [Emulator.get?]
  cases emulator.properties.get? Emulator.pidKey <;> rfl

/-- A directory with the marker files of two processes that state one process id, and whose own process
ids are one number. -/
def twinView : View :=
  ⟨.ofNodes
    [("a", .directory), ("a/pid_5.ini", .file (Bytes.ofString "pid=7")),
      ("a/pid_05.ini", .file (Bytes.ofString "pid=7"))], [], .stored⟩

/-- A discovery that was opened over that directory. -/
def openedTwins : Discovery :=
  ⟨[Path.ofString "a"],
    ⟨[("5", ⟨"5", .single "pid" "7"⟩), ("05", ⟨"05", .single "pid" "7"⟩)]⟩⟩

/-- Both of them are still counted after a scan that failed. -/
theorem counts_agree_twins :
    (rescan Watch.endlessView openedTwins).1.Reachable ∧
      (Emulator.oneOfEach (rescan Watch.endlessView openedTwins).1.snapshot.emulators).length
        = 2 := by
  have hscan : rescan twinView ⟨[Path.ofString "a"], .empty⟩ = (openedTwins, none) := by
    decide +kernel
  have hopened : Discovery.inDirectories twinView [Path.ofString "a"] = .ok openedTwins :=
    (inDirectories_eq_ok_iff_rescan.2 hscan :)
  have reachable := Reachable.rescan (.inDirectories hopened) Watch.endlessView
  have hsize : (rescan Watch.endlessView openedTwins).1.snapshot.size = 2 := by decide +kernel
  exact ⟨reachable, reachable.counts_agree.2.2.2.1.trans hsize⟩

end Discovery

end EmulatorScout
