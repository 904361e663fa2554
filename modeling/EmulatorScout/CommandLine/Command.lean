import EmulatorScout.Path

/-!
# Commands

What a command line asks for, and the ways in which it can fail to ask for anything. A request for
help or for the version ends the reading of a command line as an error does, so it is counted among
them.
-/

set_option autoImplicit false

namespace EmulatorScout.CommandLine

/-- One argument, as the host hands it over. -/
abbrev Argument := Bytes

/-- What to do with the stored configuration. -/
inductive ConfigCommand where
  /-- Print it. -/
  | print
  /-- Remember a directory. -/
  | addDir (dir : String)
  /-- Forget a directory. -/
  | removeDir (dir : String)
  /-- Set whether output is JSON. -/
  | setJson (enabled : Bool)
  deriving DecidableEq, Repr

/-- What to do. -/
inductive Command where
  /-- Print the directories that are scanned. -/
  | dirs
  /-- Print every emulator. -/
  | list
  /-- Print an emulator with a given value of a property. -/
  | find (key value : String)
  /-- Print an emulator with a given process id. -/
  | pid (pid : UInt32)
  /-- Print some emulator. -/
  | first
  /-- Write all emulators to a file. -/
  | exportTo (out : Option Path)
  /-- Work on the configuration. -/
  | config (command : ConfigCommand)
  deriving DecidableEq, Repr

/-- A command line that was understood. -/
structure Invocation where
  /-- What to do. -/
  command : Command
  /-- Further directories to scan in this run. -/
  dirs : List Path
  /-- Whether JSON was asked for. -/
  json : Bool
  deriving DecidableEq, Repr

/-- Why a command line led to no invocation. -/
inductive UsageError where
  /-- A value is missing, empty where it must not be, or not one of the possible values. -/
  | badValue
  /-- An option is unknown, or there is an argument too many. -/
  | unexpectedArgument
  /-- A word stands where a command has to stand and is none. -/
  | unknownCommand
  /-- A value is no number, or one out of bounds. -/
  | badNumber
  /-- A flag was given a value. -/
  | unexpectedValue
  /-- An option that may stand once stands twice. -/
  | repeatedOption
  /-- An operand is missing. -/
  | missingOperand
  /-- A command is missing after options. -/
  | missingCommand
  /-- A value that has to be text is not. -/
  | notText
  /-- Help was asked for. -/
  | helpWanted
  /-- The version was asked for. -/
  | versionWanted
  /-- A command is missing and nothing else was given either. -/
  | nothingGiven
  deriving DecidableEq, Repr

/-- What the user is told about a command line that led to no invocation. -/
def UsageError.message : UsageError → String
  | badValue => "a value is missing, empty, or not one of the possible values"
  | unexpectedArgument => "unexpected argument"
  | unknownCommand => "unrecognized command"
  | badNumber => "a value is no process id"
  | unexpectedValue => "a flag takes no value"
  | repeatedOption => "an option is given twice"
  | missingOperand => "an operand is missing"
  | missingCommand => "a command is missing"
  | notText => "an argument is no text"
  | helpWanted => "help is wanted"
  | versionWanted => "the version is wanted"
  | nothingGiven => "a command is missing"

end EmulatorScout.CommandLine
