import EmulatorScout.Config.Form
import EmulatorScout.FileSystem.AtomicWrite
import EmulatorScout.FileSystem.View

/-!
# The stored configuration

Loading never fails. A file that is not there gives the default configuration; a file that cannot be
read, or whose text is unusable, does so with a warning. Saving replaces the file as a whole.
-/

set_option autoImplicit false

namespace EmulatorScout

namespace Config

/-- Why a file gave no configuration although it is there. -/
inductive LoadWarning where
  /-- The file could not be read, or its bytes are no text. -/
  | unreadable
  /-- The text is not that of a configuration. -/
  | unusable
  deriving DecidableEq, Repr

/-- The configuration in a file with the given content. -/
def ofContent (content : Bytes) : Config × Option LoadWarning :=
  match content.text? with
  | none => (default, some .unreadable)
  | some text =>
    match ofText? text with
    | none => (default, some .unusable)
    | some config => (config, none)

/-- The configuration that the attempt to read a file gives. -/
def ofReading : Except FileError Bytes → Config × Option LoadWarning
  | .ok content => ofContent content
  | .error .notFound => (default, none)
  | .error _ => (default, some .unreadable)

/-- Loads the configuration from a file, with the directories for this run. -/
def load (view : View) (path : Path) (dirs? : Option String) : Config × Option LoadWarning :=
  ((ofReading (view.content path)).1.override dirs?, (ofReading (view.content path)).2)

/-- Saves the configuration to a file. -/
def save (config : Config) (view : View) (path : Path) : Attempt :=
  AtomicWrite.write view.current view.files path (Bytes.ofString config.text)

end Config

end EmulatorScout
