import EmulatorScout.Proofs.Config.ReadBack
import EmulatorScout.Proofs.FileSystem.Vacancy

/-!
# The stored configuration

Where the file with the configuration stands (`endsIn_configFile`, `endsIn_temporary`), and what is
known of the file system between two runs (`Config.Stored`): nothing stands there yet, or the file
with the text of the configuration, and no temporary file is left beside it. What is stored is what
is loaded (`Stored.load`), and what is saved is stored (`Stored.save`), whatever directories had to
be made for it.
-/

set_option autoImplicit false

namespace EmulatorScout

open FileSystem

namespace Home

/-- The name of the hidden directory below the home directory. -/
def hiddenName : Name := Bytes.ofString ".local"

/-- The names that lead from the home directory to the state directory. -/
def stateNames : List Name :=
  [hiddenName, Bytes.ofString "share", Bytes.ofString "aemu", Bytes.ofString "state"]

def configName : Name := Bytes.ofString "cli-config.json"

/-- The name of the temporary file beside it. -/
def temporaryName : Name := Bytes.ofString "cli-config.json.tmp"

section ConfigFile

variable {home : String}

theorem steps_stateDirectory (h : (Path.ofString home).bytes ≠ []) :
    (stateDirectory (some home)).steps = (Path.ofString home).steps ++ stateNames := by
  have hshare : (Path.ofString ".local/share").isAbsolute = false := by decide
  have hname : directoryName.isAbsolute = false := by decide
  have hstate : (Path.ofString "state").isAbsolute = false := by decide
  have hdata := Path.bytes_join_ne_nil h hshare
  rw [stateDirectory, dataDirectory,
    Path.steps_join (Path.bytes_join_ne_nil hdata hname) hstate (by decide)
      (by decide),
    Path.steps_join hdata hname (by decide) (by decide),
    Path.steps_join h hshare (by decide) (by decide), List.append_assoc,
    List.append_assoc]
  congr 1

theorem start_stateDirectory (h : (Path.ofString home).bytes ≠ []) :
    (stateDirectory (some home)).bytes ≠ [] ∧
      (stateDirectory (some home)).isAbsolute = (Path.ofString home).isAbsolute := by
  have hshare : (Path.ofString ".local/share").isAbsolute = false := by decide
  have hname : directoryName.isAbsolute = false := by decide
  have hstate : (Path.ofString "state").isAbsolute = false := by decide
  have hdata := Path.bytes_join_ne_nil h hshare
  have hbase := Path.bytes_join_ne_nil hdata hname
  refine ⟨Path.bytes_join_ne_nil hbase hstate, ?_⟩
  rw [stateDirectory, dataDirectory, Path.isAbsolute_join hbase hstate,
    Path.isAbsolute_join hdata hname, Path.isAbsolute_join h hshare]

/-- The file with the configuration stands in the state directory. -/
theorem endsIn_configFile (h : (Path.ofString home).bytes ≠ []) :
    (configFile (some home)).EndsIn ((Path.ofString home).steps ++ stateNames) configName := by
  refine ⟨?_, by decide, by decide, by decide⟩
  rw [configFile, stateFile, Path.segments_join (start_stateDirectory h).1 (by decide),
    steps_stateDirectory h]
  congr 1

theorem endsIn_temporary (h : (Path.ofString home).bytes ≠ []) :
    (AtomicWrite.temporary (configFile (some home))).EndsIn
      ((Path.ofString home).steps ++ stateNames) temporaryName := by
  have hstem : (Path.splitExtension configName).1 ++ dot :: AtomicWrite.temporaryExtension
      = temporaryName := by decide
  rw [AtomicWrite.temporary, ← hstem]
  exact (endsIn_configFile h).withExtension (by decide) (by decide)

/-- The walk to the configuration begins where the walk to the home directory does. -/
theorem start_configFile (h : (Path.ofString home).bytes ≠ []) (current : Location) :
    (configFile (some home)).start current = (Path.ofString home).start current := by
  have hstart := start_stateDirectory h
  have habsolute : (configFile (some home)).isAbsolute = (Path.ofString home).isAbsolute := by
    rw [configFile, stateFile, Path.isAbsolute_join hstart.1 (by decide), hstart.2]
  rw [Path.start, Path.start, habsolute]

theorem isPlain_of_mem_stateNames {name : Name} (h : name ∈ stateNames) : IsPlain name := by
  have hall : ∀ name ∈ stateNames, name ≠ [] ∧ name ≠ dotName ∧ name ≠ dotDotName := by
    decide
  exact hall name h

end ConfigFile

end Home

/-! ## What is stored -/

namespace Config

open AtomicWrite Home

/-- What of a configuration stands in a file system: nothing, where nothing is remembered yet, or
the file with its text and no temporary file beside it. -/
inductive Stored (files : FileSystem) (current : Location) (home : String) (location : Location) :
    Config → Prop
  /-- Nothing stands below the home directory where the file would stand. -/
  | nothing (free : files.Vacant (hiddenName :: location)) :
    Stored files current home location default
  /-- The file stands there. -/
  | file (config : Config) (directory : Location)
    (looksUp : LooksUpIn files current (configFile (some home))
      ((Path.ofString home).steps ++ stateNames) configName directory)
    (node : files.node? (configName :: directory) = some (.file (Bytes.ofString config.text)))
    (temporary : files.node? (temporaryName :: directory) = none) :
    Stored files current home location config

section Stored

variable {files parents : FileSystem} {current location directory : Location} {home : String}
  {config : Config}

theorem bytes_ne_nil_of_directory? (hhome : files.directory? current (Path.ofString home)
    = some location) : (Path.ofString home).bytes ≠ [] := by
  intro hempty
  have htext := (directory?_eq_some_iff.1 hhome).1
  rw [textError?, if_pos hempty] at htext
  cases htext

/-- Where nothing is stored the file cannot be read; else it holds the text of what is stored. -/
theorem Stored.content (hhome : files.directory? current (Path.ofString home) = some location)
    (h : Stored files current home location config) :
    ((∃ error, files.content current (configFile (some home)) = .error error) ∧ config = default) ∨
      files.content current (configFile (some home)) = .ok (Bytes.ofString config.text) := by
  have hne := bytes_ne_nil_of_directory? hhome
  cases h with
  | nothing free =>
    -- the path leads through the hidden directory, which is not there
    have hsegments : (configFile (some home)).segments
        = (Path.ofString home).steps ++ hiddenName :: (stateNames.tail ++ [configName]) :=
      (endsIn_configFile hne).segments_eq.trans (List.append_assoc _ _ _)
    cases hread : files.content current (configFile (some home)) with
    | error error => exact .inl ⟨⟨error, rfl⟩, rfl⟩
    | ok content =>
      have hplain : IsPlain hiddenName := isPlain_of_mem_stateNames List.mem_cons_self
      exact absurd hread
        (content_ne_ok_of_free hhome hsegments (start_configFile hne current) hplain (free []))
  | file _ directory looksUp node temporary =>
    exact .inr (looksUp.content_eq (endsIn_configFile hne) node)

/-- What is stored is what is loaded, whatever the directories for the run. -/
theorem Stored.load {view : View}
    (hhome : view.files.directory? view.current (Path.ofString home) = some location)
    (h : Stored view.files view.current home location config) (dirs? : Option String) :
    (load view (configFile (some home)) dirs?).1.lasting = config.lasting := by
  rw [Config.load, View.content]
  rcases h.content hhome with ⟨⟨error, hread⟩, rfl⟩ | hread
  · rw [hread]
    cases error <;> rfl
  · rw [hread, ofReading, ofContent_text]
    rfl

/-- What is stored is the same for every process that sees the home directory from the same place. -/
theorem Stored.of_start_eq {other : Location}
    (hhome : files.directory? current (Path.ofString home) = some location)
    (hstart : (Path.ofString home).start other = (Path.ofString home).start current)
    (h : Stored files current home location config) : Stored files other home location config := by
  have hne := bytes_ne_nil_of_directory? hhome
  cases h with
  | nothing free => exact .nothing free
  | file _ directory looksUp node temporary =>
    obtain ⟨left, way⟩ := looksUp.way
    rw [start_configFile hne, ← hstart, ← start_configFile hne] at way
    exact .file config directory ⟨looksUp.text, ⟨left, way⟩, looksUp.looksUp⟩ node temporary

/-- Where the file is written, no link is in the way, wherever the directories above it were
missing. -/
theorem Stored.no_link (hhome : files.directory? current (Path.ofString home) = some location)
    (h : Stored files current home location config) (grown : Grown files parents) {left : Nat}
    (way : Way parents maxLinks ((Path.ofString home).start current)
      ((Path.ofString home).steps ++ stateNames) left directory) (link : Path) :
    parents.node? (configName :: directory) ≠ some (.link link) ∧
      parents.node? (temporaryName :: directory) ≠ some (.link link) := by
  cases h with
  | nothing free =>
    -- what stands there now was made on the way, and only directories were made
    have hbelow : ∀ below, parents.node? (below ++ hiddenName :: location) = none ∨
        parents.node? (below ++ hiddenName :: location) = some .directory := fun below =>
      grown.free_or_directory (.inl (free below))
    obtain ⟨below, rfl⟩ := way.exists_below (grown.keeps.directory? hhome)
      (fun _ => isPlain_of_mem_stateNames) hbelow
    have hplain : ∀ name, parents.node? (name :: (below ++ hiddenName :: location))
        ≠ some (.link link) := by
      intro name hlink
      have hplace := hbelow (name :: below)
      rw [List.cons_append, hlink] at hplace
      rcases hplace with hplace | hplace <;> cases hplace
    exact ⟨hplain configName, hplain temporaryName⟩
  | file _ place looksUp node temporary =>
    -- the way leads to the directory of the file, as it did before
    obtain ⟨left', way'⟩ := (looksUp.mono grown.keeps).way
    rw [start_configFile (bytes_ne_nil_of_directory? hhome)] at way'
    obtain rfl := way.unique way'
    constructor
    · rw [grown.node?_eq_some node]
      exact nofun
    · intro hlink
      rw [grown.link_of_link hlink] at temporary
      cases temporary

/-- What of a saved configuration outlasts the run is stored, and the home directory is where it
was. -/
theorem Stored.save {old : Config} {view : View}
    (hhome : view.files.directory? view.current (Path.ofString home) = some location)
    (h : Stored view.files view.current home location old)
    (hsaved : (config.save view (configFile (some home))).failure? = none) :
    (config.save view (configFile (some home))).files.directory? view.current (Path.ofString home)
        = some location ∧
      Stored (config.save view (configFile (some home))).files view.current home location
        config.lasting := by
  have hne := bytes_ne_nil_of_directory? hhome
  have grown := grown_ensureParents view.current view.files (configFile (some home))
  have hstart := start_configFile hne view.current
  obtain ⟨directory, hin, -, hreplaced⟩ := replaced_of_write (endsIn_configFile hne)
    (endsIn_temporary hne) (by decide)
    (fun _ ⟨_, way⟩ link => (h.no_link hhome grown (hstart ▸ way) link).2) hsaved
  obtain ⟨left, way⟩ := hin.way
  rw [hstart] at way
  -- so no directory and no link is lost, and every path leads where it led
  have keeps := hreplaced.keeps (fun link => (h.no_link hhome grown way link).1)
    fun link => (h.no_link hhome grown way link).2
  exact ⟨keeps.directory? (grown.keeps.directory? hhome),
    .file config.lasting directory (hin.mono keeps) hreplaced.target_node hreplaced.temporary_node⟩

end Stored

end Config

end EmulatorScout
