import EmulatorScout.Proofs.Config.Scanned
import EmulatorScout.Proofs.Pieces

/-!
# Directories for one run

A variable may give the directories for one run. What is scanned then, past the standard directories, is
what its segments name (`Home.segments`) and what the command line gives, whatever is in the file with
the configuration, and even if no segment names anything. The other way round, what is remembered is what
the file says, whatever the variable is. So neither shows through the other
(`CommandLine.override_apart_from_file`).
-/

set_option autoImplicit false

namespace EmulatorScout

namespace Home

/-- The directories that a list separated by colons names: its segments without the white space at their
ends, except those that have nothing else. -/
def segments (list : String) : List String :=
  ((list.toList.splitOn ':').map fun segment => Text.trimmed (String.ofList segment)).filter (· ≠ "")

/-- To leave out the empty entries before trimming makes no difference to what is left after it. -/
theorem filter_map_splitList (list : String) :
    ((splitList list).map Text.trimmed).filter (· ≠ "") = segments list := by
  rw [splitList, segments, List.map_map]
  induction list.toList.splitOn ':' with
  | nil => rfl
  | cons piece pieces ih =>
    by_cases hpiece : piece = []
    · -- an empty piece is left out here before and there after it is trimmed
      have hempty : Text.trimmed (String.ofList []) = "" := rfl
      simpa [hpiece, hempty] using ih
    · by_cases hblank : Text.trimmed (String.ofList piece) = ""
      · simpa [hpiece, hblank] using ih
      · simpa [hpiece, hblank] using ih

/-- A list names no directory exactly if it is made of colons and white space. -/
theorem segments_eq_nil_iff {list : String} :
    segments list = [] ↔ ∀ c ∈ list.toList, c = ':' ∨ Text.isBlank c = true := by
  have hpieces : segments list = [] ↔
      ∀ piece ∈ list.toList.splitOn ':', ∀ c ∈ piece, Text.isBlank c = true := by
    simp [segments, Text.trimmed_eq_empty_iff]
  rw [hpieces, List.splitOn_eq_splitOnP]
  constructor
  · intro hall c hc
    by_cases hcolon : c = ':'
    · exact .inl hcolon
    · obtain ⟨piece, hpiece, hin⟩ : ∃ piece ∈ list.toList.splitOnP (· == ':'), c ∈ piece :=
        exists_mem_splitOnP hc (beq_false_of_ne hcolon)
      exact .inr (hall piece hpiece c hin)
  · intro hall piece hpiece c hc
    obtain ⟨hmem, hmark⟩ := mem_of_mem_splitOnP hpiece hc
    exact (hall c hmem).resolve_left (beq_eq_false_iff_ne.1 hmark)

end Home

namespace Config

/-- Given directories for the run are the ones that are scanned, whatever is remembered. -/
theorem scannedDirs_override (config : Config) (value : String) :
    (config.override (some value)).scannedDirs = Home.segments value :=
  Home.filter_map_splitList value

end Config

namespace Host

/-- The host with another value of a variable, or without the variable. -/
def withSetting (host : Host) (key : String) (setting? : Option Bytes) : Host :=
  { host with settings := fun other => if other = key then setting? else host.settings other }

theorem value?_withSetting_of_ne (host : Host) {key other : String} (hne : other ≠ key)
    (setting? : Option Bytes) : (host.withSetting key setting?).value? other = host.value? other := by
  have hsettings : (host.withSetting key setting?).settings other = host.settings other :=
    if_neg hne
  rw [value?, hsettings, value?]

end Host

namespace CommandLine

variable {host other : Host} {value : String}

/-- What is scanned where the variable is set: the standard directories, the segments of its value,
and the directories of the command line. -/
theorem scanPaths_of_value (h : host.value? dirsVariable = some value) (dirs : List Path) :
    scanPaths host (loadConfig host).1 dirs
      = Directories.discovery host.environment
        ++ (Home.segments value).map (Home.expand host.home?) ++ dirs := by
  rw [scanPaths, loadConfig, h, Config.extraPaths_eq_map_scannedDirs, Config.load,
    Config.scannedDirs_override]

/-- What is remembered is what the file says, whatever the variables are. -/
theorem remembered_of_content_eq
    (h : other.toView.content (configPath other) = host.toView.content (configPath host)) :
    (loadConfig other).1.extraDirs = (loadConfig host).1.extraDirs ∧
      (loadConfig other).1.json = (loadConfig host).1.json := by
  rw [loadConfig, loadConfig, Config.load, Config.load, h]
  exact ⟨rfl, rfl⟩

theorem configPath_withSetting (host : Host) (setting? : Option Bytes) :
    configPath (host.withSetting dirsVariable setting?) = configPath host := by
  have hne : Directories.homeVariable ≠ dirsVariable := by decide
  rw [configPath, configPath, Host.home?, Host.home?, Host.value?_withSetting_of_ne host hne]

/-- The directories for one run and the remembered ones do not show through each other. Where the
variable is set, the directories to scan are the standard ones, what the segments of the variable's value
name, and those of the command line, so past the standard ones they are the same for every host with
these variables, whatever its files. There are none between exactly if the value is made of colons and
white space. And what is remembered is the same for all values of the variable, set or not, and for all
hosts whose files with the configuration read alike. -/
theorem override_apart_from_file (host : Host) :
    (∀ value, host.value? dirsVariable = some value → ∀ dirs,
      scanPaths host (loadConfig host).1 dirs
          = Directories.discovery host.environment
            ++ (Home.segments value).map (Home.expand host.home?) ++ dirs ∧
        (∀ other : Host, other.settings = host.settings →
          scanPaths other (loadConfig other).1 dirs
            = Directories.discovery other.environment
              ++ ((Home.segments value).map (Home.expand host.home?) ++ dirs)) ∧
        (scanPaths host (loadConfig host).1 dirs = Directories.discovery host.environment ++ dirs ↔
          ∀ c ∈ value.toList, c = ':' ∨ Text.isBlank c = true)) ∧
    (∀ setting?,
      (loadConfig (host.withSetting dirsVariable setting?)).1.extraDirs
          = (loadConfig host).1.extraDirs ∧
        (loadConfig (host.withSetting dirsVariable setting?)).1.json = (loadConfig host).1.json) ∧
    ∀ other : Host,
      other.toView.content (configPath other) = host.toView.content (configPath host) →
        (loadConfig other).1.extraDirs = (loadConfig host).1.extraDirs ∧
          (loadConfig other).1.json = (loadConfig host).1.json := by
  refine ⟨fun value hvalue dirs => ⟨scanPaths_of_value hvalue dirs, ?_, ?_⟩, ?_, ?_⟩
  · intro other hsettings
    have hsame : other.value? = host.value? := by
      funext key
      rw [Host.value?, hsettings, Host.value?]
    have hvalue' : other.value? dirsVariable = some value := by rw [hsame, hvalue]
    have hhome : other.home? = host.home? := by rw [Host.home?, hsame, Host.home?]
    rw [scanPaths_of_value hvalue', hhome, List.append_assoc]
  · rw [scanPaths_of_value hvalue, ← Home.segments_eq_nil_iff, List.append_cancel_right_eq,
      List.append_right_eq_self, List.map_eq_nil_iff]
  · intro setting?
    apply remembered_of_content_eq
    rw [configPath_withSetting]
    rfl
  · intro other hcontent
    exact remembered_of_content_eq hcontent

/-- A host with one remembered directory and the given directories for the run. -/
def overriddenHost (value : String) : Host :=
  configuredHost "\x7b\"extra_dirs\":[\"/f\"]\x7d" (some value)

/-- A host with a file that is no configuration and the same directories for the run. -/
def spoiltHost (value : String) : Host := configuredHost "\x7b" (some value)

/-- The remembered directory is scanned neither beside the segments nor in place of blank ones, whether the
file can be read or not, and it is still the one that is remembered. -/
theorem override_apart_from_file_blank :
    scanPaths (spoiltHost " :: /a :/b") (loadConfig (spoiltHost " :: /a :/b")).1 [Path.ofString "/c"]
        = ["/run/user/0/avd/running", "/a", "/b", "/c"].map Path.ofString ∧
      scanPaths (overriddenHost " : ") (loadConfig (overriddenHost " : ")).1 [Path.ofString "/c"]
        = ["/run/user/0/avd/running", "/c"].map Path.ofString ∧
      (loadConfig (overriddenHost " : ")).1.extraDirs = ["/f"] := by
  have hvalue : (overriddenHost " :: /a :/b").value? dirsVariable = some " :: /a :/b" := by
    decide
  have hblank : (overriddenHost " : ").value? dirsVariable = some " : " := by decide
  have hnone : ∀ c ∈ " : ".toList, c = ':' ∨ Text.isBlank c = true := by
    have hall : (" : ".toList.all fun c => c == ':' || Text.isBlank c) = true := by decide
    simpa using List.all_eq_true.1 hall
  refine ⟨?_, ?_, ?_⟩
  · rw [((override_apart_from_file (overriddenHost " :: /a :/b")).1 _ hvalue _).2.1
      (spoiltHost " :: /a :/b") rfl]
    decide
  · rw [((override_apart_from_file (overriddenHost " : ")).1 _ hblank _).2.2.2 hnone]
    decide
  · -- what is remembered is what would be without the variable
    rw [← ((override_apart_from_file (overriddenHost " : ")).2.1 none).1]
    decide

end CommandLine

end EmulatorScout
