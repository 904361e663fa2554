import EmulatorScout.FileSystem.AtomicWrite
import EmulatorScout.Proofs.FileSystem.Walk

/-!
# Making the directories above a file

Whatever becomes of the attempt to make the directories above a file, and wherever it stops, nothing
but directories is new afterwards, each at a place that was free, and every node that stood stands
(`Grown`, `grown_ensureParents`).
-/

set_option autoImplicit false

namespace EmulatorScout

open FileSystem (Change)

namespace FileSystem

/-- Nothing but new directories tells one file system from another. -/
def Grown (files other : FileSystem) : Prop :=
  ∀ location, other.node? location = files.node? location ∨
    (files.node? location = none ∧ other.node? location = some .directory)

section Grown

variable {files other more : FileSystem} {location : Location}

theorem Grown.refl (files : FileSystem) : Grown files files := fun _ => .inl rfl

theorem Grown.trans (h : Grown files other) (h' : Grown other more) : Grown files more := by
  intro location
  rcases h location with hsame | ⟨hfree, hnew⟩
  · rw [← hsame]
    exact h' location
  · rcases h' location with hsame' | ⟨hfree', -⟩
    · exact .inr ⟨hfree, hsame'.trans hnew⟩
    · rw [hnew] at hfree'
      cases hfree'

theorem Grown.node?_eq_some (h : Grown files other) {node : Node}
    (hnode : files.node? location = some node) : other.node? location = some node := by
  rcases h location with hsame | ⟨hfree, -⟩
  · exact hsame.trans hnode
  · rw [hnode] at hfree
    cases hfree

theorem Grown.keeps (h : Grown files other) : Keeps files other :=
  fun _ _ hnode _ => h.node?_eq_some hnode

/-- At a place that was free there is nothing or a directory after growth. -/
theorem Grown.free_or_directory (h : Grown files other)
    (hplace : files.node? location = none ∨ files.node? location = some .directory) :
    other.node? location = none ∨ other.node? location = some .directory := by
  rcases hplace with hfree | hdirectory
  · rcases h location with hsame | ⟨-, hnew⟩
    · exact .inl (hsame.trans hfree)
    · exact .inr hnew
  · exact .inr (h.node?_eq_some hdirectory)

/-- A link after growth was one before. -/
theorem Grown.link_of_link (h : Grown files other) {target : Path}
    (hlink : other.node? location = some (.link target)) :
    files.node? location = some (.link target) := by
  rcases h location with hsame | ⟨-, hnew⟩
  · exact hsame.symm.trans hlink
  · rw [hnew] at hlink
    cases hlink

end Grown

section Making

variable {files after : FileSystem} {current : Location} {path : Path}

/-- What making a directory does: the path ends in a name that is short enough and free, and the
directory is put under it. -/
theorem makeDirectory_eq_ok (h : files.makeDirectory current path = .ok after) :
    ∃ directory name slashed, files.locateLast current path = .ok (directory, .name name slashed) ∧
      name.length ≤ maxName ∧ files.node? (name :: directory) = none ∧
      after = files.insert (name :: directory) .directory := by
  rw [makeDirectory] at h
  cases hlast : files.locateLast current path with
  | error error => simp [hlast] at h
  | ok last =>
    obtain ⟨directory, kind⟩ := last
    cases kind with
    | fixed => simp [hlast] at h
    | name name slashed =>
      simp only [hlast] at h
      split at h
      · cases h
      · rename_i hshort
        cases hnode : files.node? (name :: directory) with
        | some node => simp [hnode] at h
        | none =>
          simp only [hnode, Except.ok.injEq] at h
          exact ⟨directory, name, slashed, rfl, Nat.not_lt.1 hshort, hnode, h.symm⟩

theorem grown_makeDirectory (h : files.makeDirectory current path = .ok after) :
    Grown files after := by
  obtain ⟨directory, name, -, -, -, hfree, rfl⟩ := makeDirectory_eq_ok h
  -- the new directory is where nothing was, and all else is as before
  intro location
  rw [node?_insert]
  by_cases hplace : location = name :: directory
  · subst hplace
    exact .inr ⟨hfree, if_pos ⟨rfl, List.cons_ne_nil name directory⟩⟩
  · exact .inl (if_neg fun hboth => hplace hboth.1)

end Making

end FileSystem

open FileSystem

/-! ## Runs of changes -/

namespace Progress

variable {current : Location} {progress after : Progress} {change : Change}

/-- One more change is recorded with the file system that it leaves. -/
theorem perform_eq_map (current : Location) (progress : Progress) (change : Change) :
    progress.perform current change = (change.perform current progress.files).map fun files =>
      ⟨files, (change, files) :: progress.history⟩ := by
  rw [perform]
  cases change.perform current progress.files <;> rfl

/-- A change that is recorded is a change of the file system, and comes first in the history with the
state that it left. -/
theorem of_perform_eq_ok (h : progress.perform current change = .ok after) :
    change.perform current progress.files = .ok after.files ∧
      after.history = (change, after.files) :: progress.history := by
  rw [perform_eq_map] at h
  cases hchange : change.perform current progress.files with
  | error error =>
    rw [hchange] at h
    cases h
  | ok files =>
    rw [hchange] at h
    cases h
    exact ⟨rfl, rfl⟩

end Progress

namespace Attempt

/-- What one more change comes to: nothing where the run had failed, else a new state, or a failure
that leaves everything as it is. -/
theorem perform_cases (current : Location) (attempt : Attempt) (change : Change) :
    (attempt.failure? ≠ none ∧ attempt.perform current change = attempt) ∨
      (attempt.failure? = none ∧
        ((∃ files, change.perform current attempt.files = .ok files ∧
            attempt.perform current change
              = ⟨⟨files, (change, files) :: attempt.progress.history⟩, none⟩) ∨
          (∃ error, change.perform current attempt.files = .error error ∧
            attempt.perform current change = ⟨attempt.progress, some error⟩))) := by
  rw [Attempt.perform]
  cases hfailure : attempt.failure? with
  | some error => exact .inl ⟨Option.some_ne_none error, rfl⟩
  | none =>
    right
    refine ⟨rfl, ?_⟩
    rw [Progress.perform_eq_map, files]
    cases change.perform current attempt.progress.files with
    | ok files => exact .inl ⟨files, rfl, rfl⟩
    | error error => exact .inr ⟨error, rfl, rfl⟩

/-- A run that ends well with a change went well before it, and the change was made. -/
theorem perform_of_failure?_eq_none {current : Location} {attempt : Attempt} {change : Change}
    (h : (attempt.perform current change).failure? = none) :
    attempt.failure? = none ∧
      change.perform current attempt.files = .ok (attempt.perform current change).files := by
  rcases attempt.perform_cases current change with
    ⟨hfailed, heq⟩ | ⟨hnone, ⟨files, hfiles, heq⟩ | ⟨error, -, heq⟩⟩
  · rw [heq] at h
    exact absurd h hfailed
  · rw [heq]
    exact ⟨hnone, hfiles⟩
  · rw [heq] at h
    cases h

/-- The states of a run with one more change: a run that fails with it has stopped before it, and one
that goes well has gone through one more state. -/
theorem states_perform_cases (current : Location) (attempt : Attempt) (change : Change)
    (begun : FileSystem) :
    ((attempt.perform current change).failure? ≠ none ∧
        (attempt.perform current change).files = attempt.files ∧
        (attempt.perform current change).states begun = attempt.states begun) ∨
      ((attempt.perform current change).failure? = none ∧
        (attempt.perform current change).states begun
          = attempt.states begun ++ [(attempt.perform current change).files]) := by
  rcases attempt.perform_cases current change with
    ⟨hfailed, heq⟩ | ⟨-, ⟨files, -, heq⟩ | ⟨error, -, heq⟩⟩
  · rw [heq]
    exact .inl ⟨hfailed, rfl, rfl⟩
  · rw [heq]
    refine .inr ⟨rfl, ?_⟩
    rw [states, states, List.map_cons, List.reverse_cons, List.cons_append]
    rfl
  · rw [heq]
    exact .inl ⟨Option.some_ne_none error, rfl, rfl⟩

end Attempt

/-! ## Making directories -/

namespace AtomicWrite

section Directories

variable {current : Location} {progress : Progress} {path : Path} {motive : Progress → Prop}

theorem ensureDirectory_induction
    (hmake : ∀ after, progress.perform current (.makeDirectory path) = .ok after → motive after)
    (h : motive progress) : motive (ensureDirectory current progress path).progress := by
  rw [ensureDirectory]
  cases hchange : progress.perform current (.makeDirectory path) with
  | ok after => exact hmake after hchange
  | error error =>
    by_cases hdirectory : progress.files.isDirectory current path = true
    · simpa only [if_pos hdirectory] using h
    · simpa only [if_neg hdirectory] using h

/-- What making one directory keeps is kept by making directories from the innermost one out. -/
theorem ensureDirectories_induction {places : List Nat}
    (hmake : ∀ place ∈ places, ∀ progress after, motive progress →
      progress.perform current (.makeDirectory (path.cut place)) = .ok after → motive after)
    (h : motive progress) : motive (ensureDirectories current progress path places).progress := by
  induction places with
  | nil => exact h
  | cons place above ih =>
    have hone : ∀ progress, motive progress →
        motive (ensureDirectory current progress (path.cut place)).progress := fun progress hbefore =>
      ensureDirectory_induction
        (fun after => hmake place List.mem_cons_self progress after hbefore) hbefore
    have hmore := ih fun other hother => hmake other (List.mem_cons_of_mem place hother)
    rw [ensureDirectories]
    by_cases hempty : (path.cut place).bytes = []
    · rw [if_pos hempty]
      exact h
    rw [if_neg hempty]
    -- only a missing directory above sends the attempt there; then this one is tried once more
    split
    · cases hfailure : (ensureDirectories current progress path above).failure? with
      | some error => simpa only [hfailure] using hmore
      | none => simpa only [hfailure] using hone _ hmore
    · exact hone progress h

theorem grown_ensureDirectory (current : Location) (progress : Progress) (path : Path) :
    Grown progress.files (ensureDirectory current progress path).files :=
  ensureDirectory_induction
    (motive := fun after => Grown progress.files after.files)
    (fun _ hmake => grown_makeDirectory (Progress.of_perform_eq_ok hmake |>.1))
    (Grown.refl progress.files)

theorem grown_ensureDirectories (current : Location) (progress : Progress) (path : Path)
    (places : List Nat) :
    Grown progress.files (ensureDirectories current progress path places).files :=
  ensureDirectories_induction
    (motive := fun after => Grown progress.files after.files)
    (fun _ _ _ _ hbefore hmake =>
      hbefore.trans (grown_makeDirectory (Progress.of_perform_eq_ok hmake).1))
    (Grown.refl progress.files)

end Directories

/-- The first stage of a replacement is growth, whether it succeeds or not. -/
theorem grown_ensureParents (current : Location) (files : FileSystem) (target : Path) :
    Grown files (ensureParents current files target).files :=
  grown_ensureDirectories current (Progress.start files) target target.above

end AtomicWrite

end EmulatorScout
