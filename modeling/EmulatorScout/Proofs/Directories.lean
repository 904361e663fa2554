import EmulatorScout.Directories
import EmulatorScout.Proofs.Home
import EmulatorScout.Proofs.Text.Numeral
import Mathlib.Data.List.Basic
import Mathlib.Tactic.MkIffOfInductiveProp

/-!
# Where the directories come from

Each directory for marker files comes from one of five sources. `Directories.Leads` says for each source
when it gives a directory and how that is written, from the variables as they are, and
`Directories.entries` is the list of directories with their sources. Each source is built from at most
one variable, so environments that differ in one variable lead to the same directories but for those
that are built from it (`Directories.discovery_by_source`).
-/

set_option autoImplicit false

namespace EmulatorScout.Directories

/-! ## Places below a base -/

/-- What stands between a base and the way on from there: a slash, unless the base is empty or ends in
one. -/
def gap (base : String) : String :=
  if base = "" ∨ base.toList.getLast? = some '/' then "" else "/"

/-- The text of a place below a base: the base as it is written and the way on from there. -/
def placed (base way : String) : String := base ++ gap base ++ way

/-- A way below a base is joined to it. -/
theorem join_eq_placed {way : String} (hway : way.toList.head? ≠ some '/') (base : String) :
    (Path.ofString base).join (Path.ofString way) = Path.ofString (placed base way) := by
  by_cases hbase : base = ""
  · have hrelative : (Path.ofString way).isAbsolute = false := by
      rw [Bool.eq_false_iff, ne_eq, Home.isAbsolute_ofString_iff]
      exact hway
    have hplaced : placed base way = way := by
      rw [placed, gap, if_pos (.inl hbase), hbase, String.empty_append, String.empty_append]
    rw [hplaced, hbase, Path.join, hrelative, if_neg Bool.false_ne_true, if_pos (.inl rfl)]
    rfl
  · rw [Home.join_eq_inside hbase hway, Home.inside, placed, gap]
    by_cases hlast : base.toList.getLast? = some '/'
    · rw [if_pos hlast, if_pos (.inr hlast), String.append_empty]
    · rw [if_neg hlast, if_neg (not_or.2 ⟨hbase, hlast⟩)]

/-- One step of a way: it is not empty and has no slash at its ends. -/
def IsStep (step : String) : Prop :=
  step ≠ "" ∧ step.toList.head? ≠ some '/' ∧ step.toList.getLast? ≠ some '/'

instance (step : String) : Decidable (IsStep step) :=
  inferInstanceAs (Decidable (_ ∧ _ ∧ _))

/-- A place after a step below a base is one below the base. -/
theorem placed_placed {step : String} (hstep : IsStep step) (base way : String) :
    placed (placed base step) way = placed base (step ++ "/" ++ way) := by
  obtain ⟨hne, -, hlast⟩ := hstep
  have hlist : step.toList ≠ [] := fun h => hne (String.toList_eq_nil_iff.1 h)
  have hend : (placed base step).toList.getLast? = step.toList.getLast? := by
    rw [placed, String.toList_append, List.getLast?_append_of_ne_nil _ hlist]
  -- the place ends as the step does, so a slash has to follow it
  have hgap : gap (placed base step) = "/" := by
    refine if_neg (not_or.2 ⟨fun hempty => ?_, hend ▸ hlast⟩)
    rw [hempty] at hend
    exact hlist (List.getLast?_eq_none_iff.1 hend.symm)
  rw [placed, hgap, placed, placed]
  simp only [String.append_assoc]

/-- The place below a base that steps lead to is the base and the steps, with slashes between them. -/
theorem below_ofString {steps : List String} (hne : steps ≠ []) (hsteps : ∀ step ∈ steps, IsStep step)
    (base : String) :
    below (Path.ofString base) steps = Path.ofString (placed base ("/".intercalate steps)) := by
  induction steps generalizing base with
  | nil => exact absurd rfl hne
  | cons step rest ih =>
    have hstep := hsteps step List.mem_cons_self
    have hfirst : below (Path.ofString base) (step :: rest)
        = below (Path.ofString (placed base step)) rest :=
      congrArg (below · rest) (join_eq_placed hstep.2.1 base)
    cases rest with
    | nil => exact hfirst
    | cons next rest =>
      rw [hfirst, ih (by simp) (fun other hother => hsteps other (List.mem_cons_of_mem _ hother)),
        placed_placed hstep, String.intercalate_cons_cons]

/-! ## Sources -/

/-- What a directory may come from. -/
inductive Source where
  /-- The emulator's own base. -/
  | emulatorHome
  /-- The base of the development kit. -/
  | kitHome
  /-- The base of the virtual devices. -/
  | deviceHome
  /-- The user's home directory. -/
  | home
  /-- The platform. -/
  | platform
  deriving DecidableEq, Repr

namespace Source

/-- The sources, in the order of the directories that come from them. -/
def all : List Source := [.emulatorHome, .kitHome, .deviceHome, .home, .platform]

theorem mem_all (source : Source) : source ∈ all := by
  cases source <;> decide

/-- The variable that a source is built from. What the platform gives is built from one variable on each
platform but the last. -/
def key? (platform : Platform) : Source → Option String
  | .emulatorHome => some emulatorHomeVariable
  | .kitHome => some kitHomeVariable
  | .deviceHome => some deviceHomeVariable
  | .home => some homeVariable
  | .platform =>
    match platform with
    | .windows => some localDataVariable
    | .linux => some runtimeVariable
    | .macOS => some homeVariable
    | .other => none

/-- The base that a source gives. -/
def base? (environment : Environment) : Source → Option Path
  | .emulatorHome => Directories.base? environment emulatorHomeVariable []
  | .kitHome => Directories.base? environment kitHomeVariable [".android"]
  | .deviceHome => Directories.base? environment deviceHomeVariable []
  | .home => Directories.base? environment homeVariable [".android"]
  | .platform => platformBase? environment

end Source

/-- The bases are those that the sources give, in order. -/
theorem bases_eq_filterMap (environment : Environment) :
    bases environment = Source.all.filterMap (Source.base? environment) := by
  have hplatform : (platformBase? environment).toList = [platformBase? environment].filterMap id := by
    cases platformBase? environment <;> rfl
  have hall : Source.all.map (Source.base? environment)
      = [base? environment emulatorHomeVariable [], base? environment kitHomeVariable [".android"],
          base? environment deviceHomeVariable [], base? environment homeVariable [".android"]]
        ++ [platformBase? environment] := rfl
  rw [bases, userBases, hplatform, ← List.filterMap_append, ← hall, List.filterMap_map]
  rfl

/-- The directories with what they come from. -/
def entries (environment : Environment) : List (Source × Path) :=
  Source.all.filterMap fun source =>
    (source.base? environment).map fun base => (source, running base)

/-- The directories are those of the entries, in order. -/
theorem discovery_eq_map_entries (environment : Environment) :
    discovery environment = (entries environment).map (·.2) := by
  rw [discovery, bases_eq_filterMap, entries, List.map_filterMap, List.map_filterMap]
  simp only [Option.map_map, Function.comp_def]

/-- No source gives two directories, and they stand in the order of the sources. -/
theorem map_fst_entries (environment : Environment) :
    (entries environment).map (·.1)
      = Source.all.filter fun source => (source.base? environment).isSome := by
  rw [entries, List.map_filterMap, ← List.filterMap_eq_filter]
  refine congrArg (Source.all.filterMap ·) (funext fun source => ?_)
  cases hbase : source.base? environment <;> simp [hbase, Option.guard]

theorem mem_entries_iff_base? {environment : Environment} {source : Source} {path : Path} :
    (source, path) ∈ entries environment ↔
      ∃ base, source.base? environment = some base ∧ path = running base := by
  rw [entries, List.mem_filterMap]
  constructor
  · rintro ⟨source', -, hentry⟩
    obtain ⟨base, hbase, hpair⟩ := Option.map_eq_some_iff.1 hentry
    cases hpair
    exact ⟨base, hbase, rfl⟩
  · rintro ⟨base, hbase, rfl⟩
    exact ⟨source, source.mem_all, by rw [hbase]; rfl⟩

/-! ## What the sources give -/

/-- When a source gives a directory, and the text of that directory. -/
@[mk_iff leads_iff]
inductive Leads (environment : Environment) : Source → String → Prop where
  /-- The emulator's own base is a variable. -/
  | emulatorHome {value : String} (set : environment.value? "ANDROID_EMULATOR_HOME" = some value) :
      Leads environment .emulatorHome (placed value "avd/running")
  /-- The base of the development kit has a directory of its own below a variable. -/
  | kitHome {value : String} (set : environment.value? "ANDROID_SDK_HOME" = some value) :
      Leads environment .kitHome (placed value ".android/avd/running")
  /-- The base of the virtual devices is a variable. -/
  | deviceHome {value : String} (set : environment.value? "ANDROID_AVD_HOME" = some value) :
      Leads environment .deviceHome (placed value "avd/running")
  /-- The user has a directory below the home directory. -/
  | home {value : String} (set : environment.value? "HOME" = some value) :
      Leads environment .home (placed value ".android/avd/running")
  /-- Windows has a directory for temporary files below that for local data. -/
  | localData {value : String} (platform : environment.platform = .windows)
      (set : environment.value? "LOCALAPPDATA" = some value) :
      Leads environment .platform (placed value "Temp/avd/running")
  /-- Linux has a directory for runtime files, if the one that the variable names exists. -/
  | runtime {value : String} (platform : environment.platform = .linux)
      (set : environment.value? "XDG_RUNTIME_DIR" = some value)
      (there : environment.pathExists (Path.ofString value) = true) :
      Leads environment .platform (placed value "avd/running")
  /-- Otherwise the directory of the user takes its place, if the user is known. -/
  | user {number : Nat} (platform : environment.platform = .linux)
      (gone : ∀ value, environment.value? "XDG_RUNTIME_DIR" = some value →
        environment.pathExists (Path.ofString value) = false)
      (known : environment.user? = some number) :
      Leads environment .platform ("/run/user/" ++ toString number ++ "/avd/running")
  /-- macOS has a directory for temporary files below the home directory. -/
  | caches {value : String} (platform : environment.platform = .macOS)
      (set : environment.value? "HOME" = some value) :
      Leads environment .platform (placed value "Library/Caches/TemporaryItems/avd/running")

/-- The directory below a place below a base is one below the base. -/
theorem running_below (steps : List String) {way : String}
    (hway : "/".intercalate (steps ++ ["avd", "running"]) = way)
    (hsteps : ∀ step ∈ steps, IsStep step) (base : String) :
    running (below (Path.ofString base) steps) = Path.ofString (placed base way) := by
  have happend : running (below (Path.ofString base) steps)
      = below (Path.ofString base) (steps ++ ["avd", "running"]) := by
    rw [running, below, below, below, List.foldl_append]
  have hall : ∀ step ∈ steps ++ ["avd", "running"], IsStep step := by
    intro step hstep
    rcases List.mem_append.1 hstep with hstep | hstep
    · exact hsteps step hstep
    · have hlast : ∀ step ∈ ["avd", "running"], IsStep step := by decide
      exact hlast step hstep
  rw [happend, below_ofString (by simp) hall, hway]

theorem running_ofString (base : String) :
    running (Path.ofString base) = Path.ofString (placed base "avd/running") :=
  running_below [] rfl (List.forall_mem_nil _) base

/-- A variable gives the directory below its value, if it is set. -/
theorem exists_base?_iff (way : String) {environment : Environment} {key : String}
    {steps : List String} {path : Path}
    (hway : "/".intercalate (steps ++ ["avd", "running"]) = way)
    (hsteps : ∀ step ∈ steps, IsStep step) :
    (∃ base, base? environment key steps = some base ∧ path = running base) ↔
      ∃ value, environment.value? key = some value ∧ path = Path.ofString (placed value way) := by
  simp only [base?, Option.map_eq_some_iff]
  constructor
  · rintro ⟨_, ⟨value, hvalue, rfl⟩, rfl⟩
    exact ⟨value, hvalue, running_below steps hway hsteps value⟩
  · rintro ⟨value, hvalue, rfl⟩
    exact ⟨_, ⟨value, hvalue, rfl⟩, (running_below steps hway hsteps value).symm⟩

theorem isStep_toString (n : Nat) : IsStep (toString n) := by
  have hdigits : (toString n).toList = Nat.toDigits 10 n := Nat.toList_repr
  have hslash : '/' ∉ (toString n).toList := by
    intro hmem
    exact absurd (Text.Numeral.isDigit_of_mem_toDigits (hdigits ▸ hmem)) (by decide)
  refine ⟨fun hempty => ?_, fun h => hslash (List.mem_of_head? h),
    fun h => hslash (List.mem_of_getLast? h)⟩
  rw [hempty] at hdigits
  exact Nat.toDigits_ne_nil hdigits.symm

theorem running_runtimeOfUser (number : Nat) :
    running (runtimeOfUser number)
      = Path.ofString ("/run/user/" ++ toString number ++ "/avd/running") := by
  have hway : "/".intercalate ([toString number] ++ ["avd", "running"])
      = toString number ++ "/avd/running" := by
    simp [String.intercalate_cons_cons, String.append_assoc]
  have hstep : ∀ step ∈ [toString number], IsStep step := by
    simpa using isStep_toString number
  have hplaced : placed "/run/user" (toString number ++ "/avd/running")
      = "/run/user/" ++ toString number ++ "/avd/running" := by
    have hgap : gap "/run/user" = "/" := by decide
    rw [placed, hgap, ← String.append_assoc]
    rfl
  rw [runtimeOfUser, running_below _ hway hstep, hplaced]

/-- On Linux the directory that the variable names is the base, if it exists. -/
theorem filter_base?_eq_some_iff {environment : Environment} {base : Path} :
    (base? environment runtimeVariable []).filter environment.pathExists = some base ↔
      ∃ value, environment.value? runtimeVariable = some value ∧
        environment.pathExists (Path.ofString value) = true ∧ base = Path.ofString value := by
  rw [Option.filter_eq_some_iff, base?, Option.map_eq_some_iff]
  constructor
  · rintro ⟨⟨value, hvalue, rfl⟩, hthere⟩
    exact ⟨value, hvalue, hthere, rfl⟩
  · rintro ⟨value, hvalue, hthere, rfl⟩
    exact ⟨⟨value, hvalue, rfl⟩, hthere⟩

/-- On Linux the directory of the user is the base if the variable is not set, or names nothing that
exists. -/
theorem filter_base?_eq_none_iff {environment : Environment} :
    (base? environment runtimeVariable []).filter environment.pathExists = none ↔
      ∀ value, environment.value? runtimeVariable = some value →
        environment.pathExists (Path.ofString value) = false := by
  simp only [Option.eq_none_iff_forall_ne_some, ne_eq, filter_base?_eq_some_iff]
  constructor
  · intro hnone value hvalue
    by_contra hthere
    exact hnone _ ⟨value, hvalue, Bool.not_eq_false _ ▸ hthere, rfl⟩
  · rintro hgone base ⟨value, hvalue, hthere, -⟩
    rw [hgone value hvalue] at hthere
    cases hthere

/-- What the platform gives. -/
theorem exists_platformBase?_iff {environment : Environment} {path : Path} :
    (∃ base, platformBase? environment = some base ∧ path = running base) ↔
      ∃ text, Leads environment .platform text ∧ path = Path.ofString text := by
  constructor
  · rintro ⟨base, hbase, rfl⟩
    -- one case for each platform, and on Linux one more for each of the two directories
    unfold platformBase? at hbase
    split at hbase
    case h_1 hwindows =>
      obtain ⟨value, hvalue, hpath⟩ :=
        (exists_base?_iff "Temp/avd/running" rfl (by decide)).1 ⟨base, hbase, rfl⟩
      exact ⟨_, .localData hwindows hvalue, hpath⟩
    case h_2 hlinux =>
      split at hbase
      · rename_i found hfound
        obtain ⟨value, hvalue, hthere, rfl⟩ := filter_base?_eq_some_iff.1 hfound
        cases hbase
        exact ⟨_, .runtime hlinux hvalue hthere, running_ofString value⟩
      · rename_i hnone
        obtain ⟨number, hnumber, rfl⟩ := Option.map_eq_some_iff.1 hbase
        exact ⟨_, .user hlinux (filter_base?_eq_none_iff.1 hnone) hnumber,
          running_runtimeOfUser number⟩
    case h_3 hmacOS =>
      obtain ⟨value, hvalue, hpath⟩ :=
        (exists_base?_iff "Library/Caches/TemporaryItems/avd/running" rfl (by decide)).1
          ⟨base, hbase, rfl⟩
      exact ⟨_, .caches hmacOS hvalue, hpath⟩
    case h_4 => cases hbase
  · rintro ⟨text, hleads, rfl⟩
    cases hleads with
    | localData hwindows hvalue =>
      rw [platformBase?, hwindows]
      exact (exists_base?_iff _ rfl (by decide)).2 ⟨_, hvalue, rfl⟩
    | runtime hlinux hvalue hthere =>
      rw [platformBase?, hlinux]
      have hfound := filter_base?_eq_some_iff.2 ⟨_, hvalue, hthere, rfl⟩
      exact ⟨_, by simp only [hfound], (running_ofString _).symm⟩
    | user hlinux hgone hnumber =>
      rw [platformBase?, hlinux]
      have hnone := filter_base?_eq_none_iff.2 hgone
      exact ⟨_, by simp only [hnone, hnumber, Option.map_some], (running_runtimeOfUser _).symm⟩
    | caches hmacOS hvalue =>
      rw [platformBase?, hmacOS]
      exact (exists_base?_iff _ rfl (by decide)).2 ⟨_, hvalue, rfl⟩

/-- A source that is built from the value of a variable gives the directory below that value. -/
theorem exists_base?_iff_leads (key way : String) {environment : Environment} {source : Source}
    {steps : List String} {path : Path}
    (hleads : ∀ text, Leads environment source text ↔
      ∃ value, environment.value? key = some value ∧ text = placed value way)
    (hway : "/".intercalate (steps ++ ["avd", "running"]) = way)
    (hsteps : ∀ step ∈ steps, IsStep step) :
    (∃ base, base? environment key steps = some base ∧ path = running base) ↔
      ∃ text, Leads environment source text ∧ path = Path.ofString text := by
  rw [exists_base?_iff way hway hsteps]
  simp only [hleads]
  constructor
  · rintro ⟨value, hvalue, rfl⟩
    exact ⟨_, ⟨value, hvalue, rfl⟩, rfl⟩
  · rintro ⟨_, ⟨value, hvalue, rfl⟩, rfl⟩
    exact ⟨value, hvalue, rfl⟩

/-- A source has an entry exactly if it leads to a directory, and that is the one of the entry. -/
theorem mem_entries_iff {environment : Environment} {source : Source} {path : Path} :
    (source, path) ∈ entries environment ↔
      ∃ text, Leads environment source text ∧ path = Path.ofString text := by
  rw [mem_entries_iff_base?]
  cases source with
  | emulatorHome =>
    refine exists_base?_iff_leads emulatorHomeVariable "avd/running" ?_ rfl
      (List.forall_mem_nil _)
    simp [leads_iff, emulatorHomeVariable]
  | kitHome =>
    refine exists_base?_iff_leads kitHomeVariable ".android/avd/running" ?_ rfl
      (by decide)
    simp [leads_iff, kitHomeVariable]
  | deviceHome =>
    refine exists_base?_iff_leads deviceHomeVariable "avd/running" ?_ rfl
      (List.forall_mem_nil _)
    simp [leads_iff, deviceHomeVariable]
  | home =>
    refine exists_base?_iff_leads homeVariable ".android/avd/running" ?_ rfl
      (by decide)
    simp [leads_iff, homeVariable]
  | platform => exact exists_platformBase?_iff

/-! ## Environments that differ in one variable -/

/-- Two environments that differ at most in one variable. -/
structure AlikeBut (key : String) (environment other : Environment) : Prop where
  /-- The platform is the same. -/
  platform : other.platform = environment.platform
  /-- The user is the same. -/
  user : other.user? = environment.user?
  /-- The same paths exist. -/
  pathExists : other.pathExists = environment.pathExists
  /-- All other variables are the same. -/
  value : ∀ name, name ≠ key → other.value? name = environment.value? name

section AlikeBut

variable {key : String} {environment other : Environment}

theorem AlikeBut.base?_eq (alike : AlikeBut key environment other) {name : String} (hname : name ≠ key)
    (steps : List String) : base? other name steps = base? environment name steps := by
  rw [base?, base?, alike.value name hname]

/-- A source that is not built from the variable that may differ gives the same base. -/
theorem AlikeBut.source_base?_eq (alike : AlikeBut key environment other) {source : Source}
    (hsource : source.key? environment.platform ≠ some key) :
    source.base? other = source.base? environment := by
  have hname : ∀ name, some name ≠ some key → name ≠ key := fun name h heq => h (congrArg some heq)
  cases source with
  | emulatorHome => exact alike.base?_eq (hname _ hsource) _
  | kitHome => exact alike.base?_eq (hname _ hsource) _
  | deviceHome => exact alike.base?_eq (hname _ hsource) _
  | home => exact alike.base?_eq (hname _ hsource) _
  | platform =>
    -- which variable counts here depends on the platform, which is the same in both
    rw [Source.base?, Source.base?, platformBase?, platformBase?, alike.platform, alike.user,
      alike.pathExists]
    cases hplatform : environment.platform with
    | windows =>
      rw [hplatform] at hsource
      exact alike.base?_eq (hname _ hsource) _
    | linux =>
      rw [hplatform] at hsource
      simp only [alike.base?_eq (hname _ hsource) []]
    | macOS =>
      rw [hplatform] at hsource
      exact alike.base?_eq (hname _ hsource) _
    | other => rfl

/-- The entries that are not built from a variable. -/
def entriesApartFrom (key : String) (environment : Environment) : List (Source × Path) :=
  (entries environment).filter fun entry => entry.1.key? environment.platform ≠ some key

/-- The entries that are not built from the variable that may differ are the same. -/
theorem AlikeBut.entriesApartFrom_eq (alike : AlikeBut key environment other) :
    entriesApartFrom key other = entriesApartFrom key environment := by
  rw [entriesApartFrom, entriesApartFrom, entries, entries, List.filter_filterMap,
    List.filter_filterMap, alike.platform]
  refine List.filterMap_congr fun source _ => ?_
  by_cases hsource : source.key? environment.platform = some key
  · -- what the source gives is left out on both sides
    cases source.base? other <;> cases source.base? environment <;>
      simp [hsource, Option.filter_some]
  · rw [alike.source_base?_eq hsource]

/-- A variable that nothing is built from has no part in the directories. -/
theorem AlikeBut.discovery_eq (alike : AlikeBut key environment other)
    (hkey : ∀ source : Source, source.key? environment.platform ≠ some key) :
    discovery other = discovery environment := by
  have hall : ∀ environment : Environment,
      (∀ source : Source, source.key? environment.platform ≠ some key) →
        entriesApartFrom key environment = entries environment := by
    intro environment hkey
    exact List.filter_eq_self.2 fun entry _ => decide_eq_true (hkey entry.1)
  rw [discovery_eq_map_entries, discovery_eq_map_entries, ← hall environment hkey,
    ← hall other (alike.platform ▸ hkey), alike.entriesApartFrom_eq]

end AlikeBut

/-- Where each directory comes from. The directories are those of the entries, in order: of each
source at most one, in the order of the sources. A source has an entry exactly if it leads to a
directory, and the entry is for that directory. Two environments that differ at most in one variable
have the same entries but for those that are built from the variable, and the same directories if
nothing is built from it. -/
theorem discovery_by_source (environment : Environment) :
    discovery environment = (entries environment).map (·.2) ∧
    ((entries environment).map (·.1)).Sublist Source.all ∧
    (∀ source path, (source, path) ∈ entries environment ↔
      ∃ text, Leads environment source text ∧ path = Path.ofString text) ∧
    ∀ key other, AlikeBut key environment other →
      entriesApartFrom key other = entriesApartFrom key environment ∧
      ((∀ source : Source, source.key? environment.platform ≠ some key) →
        discovery other = discovery environment) := by
  refine ⟨discovery_eq_map_entries environment, ?_, fun _ _ => mem_entries_iff,
    fun _ _ alike => ⟨alike.entriesApartFrom_eq, alike.discovery_eq⟩⟩
  rw [map_fst_entries]
  exact List.filter_sublist

/-- An environment with an empty base, one with a slash at its end and one that the home directory has
too. -/
def variedEnvironment (platform : Platform) (home? runtime? : Option String) : Environment where
  platform := platform
  value? key :=
    if key = emulatorHomeVariable then some ""
    else if key = kitHomeVariable then some "rel/"
    else if key = deviceHomeVariable then some "/h/.android"
    else if key = homeVariable then home?
    else if key = runtimeVariable then runtime? else none
  user? := some 7
  pathExists path := path = Path.ofString "/x"

/-- On macOS two directories come from the home directory, one of them as from another source too. Without
the home directory the others stay, and the variable for runtime files has no part in any. On Linux the
directory of the user stands in for one that does not exist. -/
theorem discovery_by_source_varied :
    discovery (variedEnvironment .macOS (some "/h") none)
        = ["avd/running", "rel/.android/avd/running", "/h/.android/avd/running",
            "/h/.android/avd/running",
            "/h/Library/Caches/TemporaryItems/avd/running"].map Path.ofString ∧
      entriesApartFrom homeVariable (variedEnvironment .macOS none none)
        = entriesApartFrom homeVariable (variedEnvironment .macOS (some "/h") none) ∧
      discovery (variedEnvironment .macOS (some "/h") (some "/x"))
        = discovery (variedEnvironment .macOS (some "/h") none) ∧
      (.platform, Path.ofString "/run/user/7/avd/running")
        ∈ entries (variedEnvironment .linux none (some "/gone")) := by
  have hhome : AlikeBut homeVariable (variedEnvironment .macOS (some "/h") none)
      (variedEnvironment .macOS none none) :=
    ⟨rfl, rfl, rfl, fun name hname => by simp [variedEnvironment, hname]⟩
  have hruntime : AlikeBut runtimeVariable (variedEnvironment .macOS (some "/h") none)
      (variedEnvironment .macOS (some "/h") (some "/x")) :=
    ⟨rfl, rfl, rfl, fun name hname => by simp [variedEnvironment, hname]⟩
  refine ⟨by decide, ((discovery_by_source _).2.2.2 _ _ hhome).1,
    ((discovery_by_source _).2.2.2 _ _ hruntime).2 fun source => ?_, ?_⟩
  · cases source <;> decide
  · refine ((discovery_by_source _).2.2.1 _ _).2 ⟨_, .user rfl (fun value hvalue => ?_) rfl, by decide⟩
    obtain rfl : "/gone" = value := Option.some.inj hvalue
    decide

end EmulatorScout.Directories
