import EmulatorScout.Environment

/-!
# Directories of running emulators

An emulator leaves its marker file in `avd/running` below one of several bases. Each variable that is
set gives one base, and the platform gives at most one more. The bases are taken in a fixed order,
and a directory that two bases lead to is listed twice.
-/

set_option autoImplicit false

namespace EmulatorScout.Directories

/-- The variable with the emulator's own base. -/
def emulatorHomeVariable : String := "ANDROID_EMULATOR_HOME"

/-- The variable with the base of the development kit. -/
def kitHomeVariable : String := "ANDROID_SDK_HOME"

/-- The variable with the base of the virtual devices. -/
def deviceHomeVariable : String := "ANDROID_AVD_HOME"

/-- The variable with the user's home directory. -/
def homeVariable : String := "HOME"

/-- The variable with the directory for local data on Windows. -/
def localDataVariable : String := "LOCALAPPDATA"

/-- The variable with the directory for runtime files on Linux. -/
def runtimeVariable : String := "XDG_RUNTIME_DIR"

/-- The path with the given inner parts joined to it in order. -/
def below (base : Path) (parts : List String) : Path :=
  parts.foldl (fun path part => path.join (Path.ofString part)) base

/-- The directory for marker files below a base. -/
def running (base : Path) : Path := below base ["avd", "running"]

/-- The base that a variable gives, at the given place below its value. -/
def base? (environment : Environment) (key : String) (parts : List String) : Option Path :=
  (environment.value? key).map fun value => below (Path.ofString value) parts

/-- The bases that depend on the user, in order. -/
def userBases (environment : Environment) : List Path :=
  [base? environment emulatorHomeVariable [],
    base? environment kitHomeVariable [".android"],
    base? environment deviceHomeVariable [],
    base? environment homeVariable [".android"]].filterMap id

/-- The directory for runtime files that the host makes for a user. -/
def runtimeOfUser (user : Nat) : Path := below (Path.ofString "/run/user") [toString user]

/-- The base that depends on the platform. On Linux the directory named by the variable counts only
if it exists, and otherwise the one of the user takes its place. -/
def platformBase? (environment : Environment) : Option Path :=
  match environment.platform with
  | .windows => base? environment localDataVariable ["Temp"]
  | .linux =>
    match (base? environment runtimeVariable []).filter environment.pathExists with
    | some base => some base
    | none => environment.user?.map runtimeOfUser
  | .macOS => base? environment homeVariable ["Library", "Caches", "TemporaryItems"]
  | .other => none

/-- All bases, in order. -/
def bases (environment : Environment) : List Path :=
  userBases environment ++ (platformBase? environment).toList

/-- The directories in which to look for marker files, in order. -/
def discovery (environment : Environment) : List Path := (bases environment).map running

end EmulatorScout.Directories
