import EmulatorScout.Proofs.Discovery.Finding
import EmulatorScout.Proofs.Discovery.Snapshot

/-!
# Scans without their loops

A scan is a loop over directories around a loop over names, with a snapshot that grows and an early
end at the first failure. Both loops have the same form: a step fails, or it adds what its element
states unless that is there, and which of the two does not depend on what was found before. So a
scan that succeeds leads under each process id to what the first directory states that states
anything (`get?_directories`), a scan fails exactly if some marker file cannot be read
(`exists_directories_eq_error_iff`), and then in the first directory that has one
(`directories_eq_error`).
-/

set_option autoImplicit false

namespace EmulatorScout

/-- The first element of a list with a property is determined by the list. -/
theorem eq_of_first {α : Type} {has : α → Prop} {before before' rest rest' : List α} {x x' : α}
    (h : before ++ x :: rest = before' ++ x' :: rest') (hx : has x) (hx' : has x')
    (hbefore : ∀ y ∈ before, ¬ has y) (hbefore' : ∀ y ∈ before', ¬ has y) : x = x' := by
  induction before generalizing before' with
  | nil =>
    cases before' with
    | nil => exact (List.cons.inj h).1
    | cons y ys =>
      obtain rfl := (List.cons.inj h).1
      exact absurd hx (hbefore' x List.mem_cons_self)
  | cons y ys ih =>
    cases before' with
    | nil =>
      obtain rfl := (List.cons.inj h).1
      exact absurd hx' (hbefore y List.mem_cons_self)
    | cons z zs =>
      exact ih (List.cons.inj h).2 (fun w hw => hbefore w (List.mem_cons_of_mem _ hw))
        fun w hw => hbefore' w (List.mem_cons_of_mem _ hw)

/-! ## Loops that can fail -/

section Folds

variable {α β ε : Type}

/-- A loop whose steps fail independently of what they have gathered fails at the first element that
makes a step fail. -/
theorem foldlM_eq_error_iff {step : β → α → Except ε β} {fails : α → ε → Prop}
    (hstep : ∀ b x e, step b x = .error e ↔ fails x e) (xs : List α) (b : β) (e : ε) :
    xs.foldlM step b = .error e ↔
      ∃ before x after, xs = before ++ x :: after ∧ fails x e ∧
        ∀ y ∈ before, ∀ e', ¬ fails y e' := by
  induction xs generalizing b with
  | nil =>
    constructor
    · intro h
      cases h
    · rintro ⟨before, x, after, h, -⟩
      cases before <;> cases h
  | cons first rest ih =>
    rw [List.foldlM_cons]
    cases hfirst : step b first with
    | error e' =>
      -- the first element fails, so it is the one, and nothing comes before it
      have hfails := (hstep b first e').1 hfirst
      constructor
      · intro h
        cases h
        exact ⟨[], first, rest, rfl, hfails, fun y hy => absurd hy List.not_mem_nil⟩
      · rintro ⟨before, x, after, hsplit, hx, hbefore⟩
        cases before with
        | nil =>
          cases hsplit
          exact hfirst.symm.trans ((hstep b first e).2 hx)
        | cons y ys =>
          cases hsplit
          exact absurd hfails (hbefore first List.mem_cons_self e')
    | ok b' =>
      -- the first element is fine, so the failure is the one that the loop over the rest meets
      have hfine : ∀ e', ¬ fails first e' := by
        intro e' hfails
        rw [(hstep b first e').2 hfails] at hfirst
        cases hfirst
      refine (ih b').trans ?_
      constructor
      · rintro ⟨before, x, after, rfl, hx, hbefore⟩
        refine ⟨first :: before, x, after, rfl, hx, ?_⟩
        intro y hy
        rcases List.mem_cons.1 hy with rfl | hy
        · exact hfine
        · exact hbefore y hy
      · rintro ⟨before, x, after, hsplit, hx, hbefore⟩
        cases before with
        | nil =>
          cases hsplit
          exact absurd hx (hfine e)
        | cons y ys =>
          cases hsplit
          exact ⟨ys, x, after, rfl, hx, fun z hz => hbefore z (List.mem_cons_of_mem _ hz)⟩

/-- Such a loop fails if any of its elements makes a step fail. -/
theorem exists_foldlM_eq_error_iff {step : β → α → Except ε β} {fails : α → ε → Prop}
    (hstep : ∀ b x e, step b x = .error e ↔ fails x e) (xs : List α) (b : β) :
    (∃ e, xs.foldlM step b = .error e) ↔ ∃ x ∈ xs, ∃ e, fails x e := by
  constructor
  · rintro ⟨e, h⟩
    obtain ⟨before, x, after, rfl, hx, -⟩ := (foldlM_eq_error_iff hstep xs b e).1 h
    exact ⟨x, by simp, e, hx⟩
  · rintro ⟨x, hmem, e, hx⟩
    induction xs generalizing b with
    | nil => exact absurd hmem List.not_mem_nil
    | cons first rest ih =>
      rw [List.foldlM_cons]
      cases hfirst : step b first with
      | error e' => exact ⟨e', rfl⟩
      | ok b' =>
        rcases List.mem_cons.1 hmem with rfl | hmem
        · rw [(hstep b x e).2 hx] at hfirst
          cases hfirst
        · exact ih b' hmem

/-- What every step of a loop keeps, the loop keeps. -/
theorem foldlM_preserves {step : β → α → Except ε β} {keeps : β → Prop}
    (hstep : ∀ b x after, keeps b → step b x = .ok after → keeps after) {xs : List α} {b after : β}
    (hb : keeps b) (h : xs.foldlM step b = .ok after) : keeps after := by
  induction xs generalizing b with
  | nil =>
    cases h
    exact hb
  | cons first rest ih =>
    rw [List.foldlM_cons] at h
    cases hfirst : step b first with
    | error e =>
      rw [hfirst] at h
      cases h
    | ok middle =>
      rw [hfirst] at h
      exact ih (hstep b first middle hb hfirst) h

/-- Elements that a loop passes over may be left out. -/
theorem foldlM_filter {step : β → α → Except ε β} {counts : α → Bool}
    (hstep : ∀ b x, counts x = false → step b x = .ok b) (xs : List α) (b : β) :
    (xs.filter counts).foldlM step b = xs.foldlM step b := by
  induction xs generalizing b with
  | nil => rfl
  | cons first rest ih =>
    rw [List.foldlM_cons]
    cases hfirst : counts first with
    | false =>
      rw [List.filter_cons_of_neg (by simp [hfirst]), hstep b first hfirst]
      exact ih b
    | true =>
      rw [List.filter_cons_of_pos hfirst, List.foldlM_cons]
      exact congrArg (step b first >>= ·) (funext ih)

end Folds

namespace Snapshot

/-- A loop in which each step adds what its element states, unless it is there, leads under each
process id to what the first element states that states anything. -/
theorem get?_foldlM {α ε : Type} {step : Snapshot → α → Except ε Snapshot}
    {states : α → String → Option Emulator}
    (hstep : ∀ found x after, step found x = .ok after →
      ∀ pid, after.get? pid = (found.get? pid).or (states x pid))
    {xs : List α} {found after : Snapshot} (h : xs.foldlM step found = .ok after) (pid : String) :
    after.get? pid = (found.get? pid).or (xs.findSome? (states · pid)) := by
  induction xs generalizing found with
  | nil =>
    cases h
    simp
  | cons first rest ih =>
    rw [List.foldlM_cons] at h
    cases hfirst : step found first with
    | error e =>
      rw [hfirst] at h
      cases h
    | ok middle =>
      rw [hfirst] at h
      rw [ih h, hstep found first middle hfirst pid, Option.or_assoc, List.findSome?_cons]
      cases states first pid <;> rfl

end Snapshot

namespace Scan

/-! ## One directory -/

/-- A name makes a scan fail exactly if its marker file cannot be read. -/
theorem entry_eq_error_iff (view : View) (path : Path) (directory : Location) (found : Snapshot)
    (name : Name) (error : DiscoveryError) :
    entry view path directory found name = .error error ↔
      ∃ cause, finding? view path directory name = some (.error cause) ∧
        error = .unreadable (path.child name) cause := by
  rw [entry_eq]
  constructor
  · intro h
    split at h
    · cases h
    · rename_i cause hfinding
      cases h
      exact ⟨cause, hfinding, rfl⟩
    · cases h
  · rintro ⟨cause, hfinding, rfl⟩
    rw [hfinding]

/-- What was found before decides nothing about a failure. -/
theorem directory_eq_error_congr (view : View) (found : Snapshot) (path : Path)
    (error : DiscoveryError) :
    directory view found path = .error error
      ↔ directory view Snapshot.empty path = .error error := by
  unfold directory
  cases view.directory? path with
  | none =>
    constructor
    · intro h
      cases h
    · intro h
      cases h
  | some location =>
    exact (foldlM_eq_error_iff (entry_eq_error_iff view path location) _ found error).trans
      (foldlM_eq_error_iff (entry_eq_error_iff view path location) _ Snapshot.empty error).symm

/-- A directory makes a scan fail exactly if it has a marker file that cannot be read. -/
theorem exists_directory_eq_error_iff (view : View) (found : Snapshot) (path : Path) :
    (∃ error, directory view found path = .error error) ↔ HasUnreadable view path := by
  unfold directory
  cases hpath : view.directory? path with
  | none =>
    constructor
    · rintro ⟨error, h⟩
      cases h
    · rintro ⟨pid, cause, ⟨-, location, node, hlocation, -⟩, -⟩
      rw [hpath] at hlocation
      cases hlocation
  | some location =>
    refine (exists_foldlM_eq_error_iff (entry_eq_error_iff view path location) _ found).trans ?_
    constructor
    · rintro ⟨name, hname, error, cause, hfinding, -⟩
      obtain ⟨pid, -, hunreadable⟩ := (finding?_eq_error_iff hpath hname).1 hfinding
      exact ⟨pid, cause, hunreadable⟩
    · rintro ⟨pid, cause, hunreadable⟩
      have hname := ((marks_iff hpath hunreadable.1.1).1 hunreadable.1).1
      exact ⟨MarkerFile.entryName pid, hname, _, cause,
        (finding?_eq_error_iff hpath hname).2 ⟨pid, rfl, hunreadable⟩, rfl⟩

/-- The failure of a directory names one of its marker files that cannot be read, and why. -/
theorem unreadable_of_directory_eq_error {view : View} {found : Snapshot} {path : Path}
    {error : DiscoveryError} (h : directory view found path = .error error) :
    ∃ pid cause, Unreadable view path pid cause ∧
      error = .unreadable (markerPath path pid) cause := by
  unfold directory at h
  split at h
  · cases h
  · rename_i location hpath
    obtain ⟨before, name, after, hlist, ⟨cause, hfinding, rfl⟩, -⟩ :=
      (foldlM_eq_error_iff (entry_eq_error_iff view path location) _ found error).1 h
    have hname : name ∈ view.list location := by simp [hlist]
    obtain ⟨pid, rfl, hunreadable⟩ := (finding?_eq_error_iff hpath hname).1 hfinding
    exact ⟨pid, cause, hunreadable, rfl⟩

/-- What a name in a directory states about a process. -/
def nameStates (view : View) (path : Path) (directory : Location) (name : Name) (pid : String) :
    Option Emulator :=
  match finding? view path directory name with
  | some (.ok emulator) => if pid = emulator.pid then some emulator else none
  | _ => none

/-- What a directory states about a process. -/
def directoryStates (view : View) (path : Path) (pid : String) : Option Emulator :=
  match view.directory? path with
  | none => none
  | some location =>
    (view.list location).findSome? fun name => nameStates view path location name pid

/-- A name adds what it states to what was found, unless it is there. -/
theorem get?_entry {view : View} {path : Path} {directory : Location} {found after : Snapshot}
    {name : Name} (h : entry view path directory found name = .ok after) (pid : String) :
    after.get? pid = (found.get? pid).or (nameStates view path directory name pid) := by
  rw [entry_eq] at h
  unfold nameStates
  split at h
  · rename_i hfinding
    cases h
    simp [hfinding]
  · cases h
  · rename_i emulator hfinding
    cases h
    rw [hfinding]
    exact Snapshot.get?_insertNew found emulator.pid pid emulator

/-- A directory states about a process what its marker file states, in whatever order the
directory is listed. -/
theorem directoryStates_eq_some_iff {view : View} {path : Path} {pid : String}
    {emulator : Emulator} :
    directoryStates view path pid = some emulator
      ↔ emulator.pid = pid ∧ States view path pid emulator.properties := by
  unfold directoryStates
  cases hpath : view.directory? path with
  | none =>
    constructor
    · intro h
      cases h
    · rintro ⟨-, ⟨-, location, node, hlocation, -⟩, -⟩
      rw [hpath] at hlocation
      cases hlocation
  | some location =>
    -- what a single listed name states is what the marker file of that name states
    have hstates : ∀ {name other}, name ∈ view.list location →
        (nameStates view path location name pid = some other ↔
          other.pid = pid ∧ name = MarkerFile.entryName pid ∧
            States view path pid other.properties) := by
      intro name other hname
      unfold nameStates
      constructor
      · intro h
        split at h
        · rename_i found hfinding
          split at h
          · rename_i hpid
            cases h
            subst hpid
            exact ⟨rfl, (finding?_eq_ok_iff hpath hname).1 hfinding⟩
          · cases h
        · cases h
      · rintro ⟨rfl, hmarker⟩
        rw [(finding?_eq_ok_iff hpath hname).2 hmarker]
        exact if_pos rfl
    constructor
    · intro h
      obtain ⟨name, hname, hstate⟩ := List.exists_of_findSome?_eq_some h
      obtain ⟨hpid, -, hmarker⟩ := (hstates hname).1 hstate
      exact ⟨hpid, hmarker⟩
    · rintro ⟨hpid, hmarker⟩
      have hname := ((marks_iff hpath hmarker.1.1).1 hmarker.1).1
      have hstate := (hstates hname).2 ⟨hpid, rfl, hmarker⟩
      cases hfirst : (view.list location).findSome? fun name =>
          nameStates view path location name pid with
      | none =>
        rw [List.findSome?_eq_none_iff.1 hfirst _ hname] at hstate
        cases hstate
      | some other =>
        -- whatever name came first is the same name, and a marker file states one thing
        obtain ⟨name, hother, hstate'⟩ := List.exists_of_findSome?_eq_some hfirst
        obtain ⟨-, rfl, -⟩ := (hstates hother).1 hstate'
        exact hfirst.trans (hstate'.symm.trans hstate)

theorem directoryStates_of_states {view : View} {path : Path} {pid : String}
    {properties : Properties} (h : States view path pid properties) :
    directoryStates view path pid = some ⟨pid, properties⟩ :=
  directoryStates_eq_some_iff.2 ⟨rfl, h⟩

/-- A directory adds what it states to what was found, unless it is there. -/
theorem get?_directory {view : View} {path : Path} {found after : Snapshot}
    (h : directory view found path = .ok after) (pid : String) :
    after.get? pid = (found.get? pid).or (directoryStates view path pid) := by
  cases hpath : view.directory? path with
  | none =>
    rw [directory, hpath] at h
    cases h
    simp [directoryStates, hpath]
  | some location =>
    rw [directory, hpath] at h
    rw [directoryStates, hpath]
    exact Snapshot.get?_foldlM (fun _ _ _ hentry => get?_entry hentry) h pid

/-! ## All directories -/

/-- A scan that succeeds leads under each process id to what the first directory states that
states anything. -/
theorem get?_directories {view : View} {paths : List Path} {snapshot : Snapshot}
    (h : directories view paths = .ok snapshot) (pid : String) :
    snapshot.get? pid = paths.findSome? (directoryStates view · pid) := by
  rw [Snapshot.get?_foldlM (fun _ _ _ hdirectory => get?_directory hdirectory) h pid]
  rfl

/-- A scan fails exactly if a marker file in one of the directories cannot be read. -/
theorem exists_directories_eq_error_iff (view : View) (paths : List Path) :
    (∃ error, directories view paths = .error error) ↔ ∃ path ∈ paths, HasUnreadable view path := by
  refine (exists_foldlM_eq_error_iff (fun found path error =>
    directory_eq_error_congr view found path error) paths Snapshot.empty).trans ?_
  simp only [exists_directory_eq_error_iff]

/-- A scan that fails does so in the first directory with a marker file that cannot be read. -/
theorem directories_eq_error {view : View} {paths : List Path} {error : DiscoveryError}
    (h : directories view paths = .error error) :
    ∃ before path after, paths = before ++ path :: after ∧
      (∀ earlier ∈ before, ¬ HasUnreadable view earlier) ∧
      ∃ pid cause, Unreadable view path pid cause ∧
        error = .unreadable (markerPath path pid) cause := by
  obtain ⟨before, path, after, hpaths, hfails, hbefore⟩ :=
    (foldlM_eq_error_iff (fun found path error =>
      directory_eq_error_congr view found path error) paths Snapshot.empty error).1 h
  refine ⟨before, path, after, hpaths, ?_, unreadable_of_directory_eq_error hfails⟩
  intro earlier hearlier hunreadable
  obtain ⟨error', hfails'⟩ :=
    (exists_directory_eq_error_iff view Snapshot.empty earlier).2 hunreadable
  exact hbefore earlier hearlier error' hfails'

/-- A path that leads to no directory has no part in a scan. -/
theorem directories_filter_isDirectory (view : View) (paths : List Path) :
    directories view (paths.filter view.isDirectory) = directories view paths := by
  apply foldlM_filter
  intro found path hpath
  have hnone : view.directory? path = none := by
    rw [View.isDirectory, FileSystem.isDirectory] at hpath
    exact Option.isNone_iff_eq_none.1 (Option.isSome_eq_false_iff.1 hpath)
  rw [directory, hnone]

/-- A name adds at most one process id, and one that is free. -/
theorem distinct_entry {view : View} {path : Path} {location : Location} {found after : Snapshot}
    {name : Name} (distinct : found.Distinct)
    (h : entry view path location found name = .ok after) : after.Distinct := by
  rw [entry_eq] at h
  split at h
  · cases h
    exact distinct
  · cases h
  · cases h
    exact distinct.insertNew _ _

/-- A scan keeps no process id twice. -/
theorem distinct_directories {view : View} {paths : List Path} {snapshot : Snapshot}
    (h : directories view paths = .ok snapshot) : snapshot.Distinct := by
  refine foldlM_preserves ?_ Snapshot.distinct_empty h
  intro found path after hfound hdirectory
  unfold directory at hdirectory
  split at hdirectory
  · cases hdirectory
    exact hfound
  · exact foldlM_preserves (fun _ _ _ => distinct_entry) hfound hdirectory

/-- What a scan finds is stated in one of the directories, under the process id that it is found
under. -/
theorem exists_states_of_mem_entries {view : View} {paths : List Path} {snapshot : Snapshot}
    {pid : String} {emulator : Emulator} (h : directories view paths = .ok snapshot)
    (hentry : (pid, emulator) ∈ snapshot.entries) :
    emulator.pid = pid ∧ ∃ path ∈ paths, States view path pid emulator.properties := by
  have hget := (Snapshot.mem_entries_iff (distinct_directories h)).1 hentry
  rw [get?_directories h] at hget
  obtain ⟨path, hpath, hstates⟩ := List.exists_of_findSome?_eq_some hget
  obtain ⟨hpid, hmarker⟩ := directoryStates_eq_some_iff.1 hstates
  exact ⟨hpid, path, hpath, hmarker⟩

/-- A scan keeps each emulator under its own process id. -/
theorem keyed_directories {view : View} {paths : List Path} {snapshot : Snapshot}
    (h : directories view paths = .ok snapshot) : snapshot.Keyed :=
  fun _ hentry => (exists_states_of_mem_entries h hentry).1

end Scan

end EmulatorScout
