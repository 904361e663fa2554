import EmulatorScout.FileSystem.Operations

/-!
# Replacing a file as a whole

A file is replaced in three stages: the missing directories above it are made, the new content is
written to a temporary file beside it, and the temporary file takes its name. An observer that looks
between the stages sees the old content or the new one.

A run is recorded change by change together with the file system that each change left. A stage that
fails ends the run; what the stages before it did stays, the temporary file included.
-/

set_option autoImplicit false

namespace EmulatorScout

open FileSystem (Change)

/-- What a run of changes has done so far. -/
structure Progress where
  /-- The file system as it stands. -/
  files : FileSystem
  /-- The changes made, the latest first, each with the file system it left. -/
  history : List (Change × FileSystem)

namespace Progress

/-- Before the first change. -/
def start (files : FileSystem) : Progress := ⟨files, []⟩

/-- One more change. -/
def perform (current : Location) (progress : Progress) (change : Change) :
    Except FileError Progress :=
  match change.perform current progress.files with
  | .ok files => .ok ⟨files, (change, files) :: progress.history⟩
  | .error error => .error error

end Progress

/-- How a run of changes ended. -/
structure Attempt where
  /-- What was done. -/
  progress : Progress
  /-- The failure that ended the run early, if one did. -/
  failure? : Option FileError

namespace Attempt

/-- One more change, if nothing has failed. -/
def perform (current : Location) (attempt : Attempt) (change : Change) : Attempt :=
  match attempt.failure? with
  | some _ => attempt
  | none =>
    match attempt.progress.perform current change with
    | .ok progress => ⟨progress, none⟩
    | .error error => ⟨attempt.progress, some error⟩

def files (attempt : Attempt) : FileSystem := attempt.progress.files

def changes (attempt : Attempt) : List Change := (attempt.progress.history.map (·.1)).reverse

/-- The file systems that a run went through, in order, from the one it began with. -/
def states (attempt : Attempt) (files : FileSystem) : List FileSystem :=
  files :: (attempt.progress.history.map (·.2)).reverse

end Attempt

namespace AtomicWrite

/-- Makes one directory, which may exist already. -/
def ensureDirectory (current : Location) (progress : Progress) (path : Path) : Attempt :=
  match progress.perform current (.makeDirectory path) with
  | .ok progress => ⟨progress, none⟩
  | .error error =>
    if progress.files.isDirectory current path then ⟨progress, none⟩ else ⟨progress, some error⟩

/-- Makes the directory at the path cut at the first of the given places, and those at the other
places that are missing, where each place is followed by those above it. The ones above are made only
when their absence is what stands in the way. The empty path is that of a directory which is always
there. -/
def ensureDirectories (current : Location) (progress : Progress) (path : Path) :
    List Nat → Attempt
  | [] => ⟨progress, none⟩
  | place :: above =>
    if (path.cut place).bytes = [] then ⟨progress, none⟩
    else
      match progress.perform current (.makeDirectory (path.cut place)) with
      | .error .notFound =>
        let attempt := ensureDirectories current progress path above
        match attempt.failure? with
        | some _ => attempt
        | none => ensureDirectory current attempt.progress (path.cut place)
      | _ => ensureDirectory current progress (path.cut place)

def temporaryExtension : Name := Bytes.ofString "json.tmp"

/-- The path of the temporary file for a target. -/
def temporary (target : Path) : Path := target.withExtension temporaryExtension

/-- The first stage: the directories above the target. -/
def ensureParents (current : Location) (files : FileSystem) (target : Path) : Attempt :=
  ensureDirectories current (Progress.start files) target target.above

/-- Replaces the content of the target, or creates it. -/
def write (current : Location) (files : FileSystem) (target : Path) (content : Bytes) : Attempt :=
  ((ensureParents current files target).perform current
      (.writeFile (temporary target) content)).perform current (.rename (temporary target) target)

end AtomicWrite

end EmulatorScout
