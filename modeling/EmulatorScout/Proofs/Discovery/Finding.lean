import EmulatorScout.Discovery
import EmulatorScout.Proofs.Discovery.Marker
import EmulatorScout.Proofs.FileSystem.Walk

/-!
# What there is to find

`Marks`, `States` and `Unreadable` say what one listed directory holds about a process. They mention
neither the order of a listing nor what a scan found before. What a single name contributes to a
scan is `finding?`, whatever was found before (`entry_eq`), and it contributes an emulator or a
failure exactly if it is the name of a marker file that states something or cannot be read
(`finding?_eq_ok_iff`, `finding?_eq_error_iff`).
-/

set_option autoImplicit false

namespace EmulatorScout

namespace Scan

/-! ## What a directory holds -/

/-- A path leads to a directory that holds the marker file of a process: an entry with the name of
that file which is not itself a directory. -/
def Marks (view : View) (path : Path) (pid : String) : Prop :=
  MarkerFile.IsPid pid ∧ ∃ location node,
    view.directory? path = some location ∧
      view.files.node? (MarkerFile.entryName pid :: location) = some node ∧ node ≠ .directory

/-- The path through which the marker file of a process is read. -/
def markerPath (path : Path) (pid : String) : Path := path.child (MarkerFile.entryName pid)

/-- The marker file of a process in a listed directory states the given properties, and it states
any. -/
def States (view : View) (path : Path) (pid : String) (properties : Properties) : Prop :=
  Marks view path pid ∧ properties.isEmpty = false ∧
    ∃ content, view.content (markerPath path pid) = .ok content ∧
      PropertyFile.read content = properties

/-- The marker file of a process in a listed directory cannot be read. -/
def Unreadable (view : View) (path : Path) (pid : String) (cause : FileError) : Prop :=
  Marks view path pid ∧ view.content (markerPath path pid) = .error cause

/-- A listed directory has a marker file that cannot be read. -/
def HasUnreadable (view : View) (path : Path) : Prop :=
  ∃ pid cause, Unreadable view path pid cause

/-! ## What one name contributes -/

/-- What a name in a directory contributes to a scan, if anything: an emulator, or the reason why
its marker file cannot be read. -/
def finding? (view : View) (path : Path) (directory : Location) (name : Name) :
    Option (Except FileError Emulator) :=
  match name.text?.bind MarkerFile.pid? with
  | none => none
  | some pid =>
    if view.files.isDirectoryAt (name :: directory) then none
    else
      match view.content (path.child name) with
      | .error cause => some (.error cause)
      | .ok content =>
        if (PropertyFile.read content).isEmpty then none
        else some (.ok ⟨pid, PropertyFile.read content⟩)

/-- What a name contributes does not depend on what was found before. -/
theorem entry_eq (view : View) (path : Path) (directory : Location) (found : Snapshot)
    (name : Name) :
    entry view path directory found name =
      match finding? view path directory name with
      | none => .ok found
      | some (.error cause) => .error (.unreadable (path.child name) cause)
      | some (.ok emulator) => .ok (found.insertNew emulator.pid emulator) := by
  unfold entry finding?
  cases name.text?.bind MarkerFile.pid? with
  | none => rfl
  | some pid =>
    by_cases hdirectory : view.files.isDirectoryAt (name :: directory) = true
    · simp [hdirectory]
    · cases hcontent : view.content (path.child name) with
      | error cause => simp [hdirectory]
      | ok content =>
        by_cases hempty : (PropertyFile.read content).isEmpty = true <;> simp [hdirectory, hempty]

/-- The entry of a listed directory with the name of a marker file, unless it is a directory, marks
a process. -/
theorem marks_iff {view : View} {path : Path} {location : Location} {pid : String}
    (hpath : view.directory? path = some location) (hpid : MarkerFile.IsPid pid) :
    Marks view path pid ↔ MarkerFile.entryName pid ∈ view.list location ∧
      ¬ view.files.isDirectoryAt (MarkerFile.entryName pid :: location) = true := by
  rw [View.mem_list, FileSystem.mem_names, Option.isSome_iff_exists,
    FileSystem.isDirectoryAt_cons (MarkerFile.entryName_ne_nil pid)]
  constructor
  · rintro ⟨-, location', node, hpath', hnode, hne⟩
    obtain rfl := Option.some.inj (hpath.symm.trans hpath')
    refine ⟨⟨node, hnode⟩, ?_⟩
    intro hdirectory
    exact hne (Option.some.inj (hnode.symm.trans hdirectory))
  · rintro ⟨⟨node, hnode⟩, hne⟩
    exact ⟨hpid, location, node, hpath, hnode, fun h => hne (h ▸ hnode)⟩

/-- A listed name contributes an emulator exactly if it is that of a marker file which states the
properties of the emulator. -/
theorem finding?_eq_ok_iff {view : View} {path : Path} {location : Location} {name : Name}
    {emulator : Emulator} (hpath : view.directory? path = some location)
    (hname : name ∈ view.list location) :
    finding? view path location name = some (.ok emulator) ↔
      name = MarkerFile.entryName emulator.pid ∧
        States view path emulator.pid emulator.properties := by
  constructor
  · intro h
    -- of the five ways out only the last one, past every test, contributes an emulator
    unfold finding? at h
    split at h
    · cases h
    · rename_i pid hpid
      obtain ⟨hdigits, rfl⟩ := MarkerFile.pid?_text?_eq_some_iff.1 hpid
      split at h
      · cases h
      · rename_i hdirectory
        have hmarks : Marks view path pid := (marks_iff hpath hdigits).2 ⟨hname, hdirectory⟩
        split at h
        · cases h
        · rename_i content hcontent
          split at h
          · cases h
          · rename_i hempty
            cases h
            exact ⟨rfl, hmarks, Bool.eq_false_iff.2 hempty, content, hcontent, rfl⟩
  · rintro ⟨rfl, hmarks, hempty, content, hcontent, hread⟩
    have hpid := MarkerFile.pid?_text?_eq_some_iff.2 ⟨hmarks.1, rfl⟩
    have hdirectory := ((marks_iff hpath hmarks.1).1 hmarks).2
    rw [markerPath] at hcontent
    simp [finding?, hpid, hdirectory, hcontent, hread, hempty]

/-- A listed name contributes a failure exactly if it is that of a marker file which cannot be
read. -/
theorem finding?_eq_error_iff {view : View} {path : Path} {location : Location} {name : Name}
    {cause : FileError} (hpath : view.directory? path = some location)
    (hname : name ∈ view.list location) :
    finding? view path location name = some (.error cause) ↔
      ∃ pid, name = MarkerFile.entryName pid ∧ Unreadable view path pid cause := by
  constructor
  · intro h
    unfold finding? at h
    split at h
    · cases h
    · rename_i pid hpid
      obtain ⟨hdigits, rfl⟩ := MarkerFile.pid?_text?_eq_some_iff.1 hpid
      split at h
      · cases h
      · rename_i hdirectory
        split at h
        · rename_i cause' hcontent
          cases h
          exact ⟨pid, rfl, (marks_iff hpath hdigits).2 ⟨hname, hdirectory⟩, hcontent⟩
        · split at h <;> cases h
  · rintro ⟨pid, rfl, hmarks, hcontent⟩
    have hpid := MarkerFile.pid?_text?_eq_some_iff.2 ⟨hmarks.1, rfl⟩
    have hdirectory := ((marks_iff hpath hmarks.1).1 hmarks).2
    rw [markerPath] at hcontent
    simp [finding?, hpid, hdirectory, hcontent]

end Scan

end EmulatorScout
