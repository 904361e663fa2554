import EmulatorScout.Path
import EmulatorScout.Text.Terminal

/-!
# Notices

What a run mentions beside its output: how much a scan found, and that the configuration file could
not be used. Each notice has a verbosity, the least one at which it is shown, and a source, the part
of the program that mentions it; `NoticeFilter` decides by them.
-/

set_option autoImplicit false

namespace EmulatorScout.CommandLine

/-- How much is shown. Each verbosity shows what the ones before it show, and more. -/
inductive Verbosity where
  /-- Nothing. -/
  | off
  /-- Errors. -/
  | error
  /-- Warnings as well. -/
  | warn
  /-- What happened as well. -/
  | info
  /-- How it happened as well. -/
  | debug
  /-- All there is. -/
  | trace
  deriving DecidableEq, Repr

namespace Verbosity

/-- The verbosities, from the one that shows nothing. -/
def all : List Verbosity := [.off, .error, .warn, .info, .debug, .trace]

/-- The place of a verbosity in their order, from zero. -/
def rank : Verbosity → Nat
  | .off => 0
  | .error => 1
  | .warn => 2
  | .info => 3
  | .debug => 4
  | .trace => 5

def word : Verbosity → String
  | .off => "off"
  | .error => "error"
  | .warn => "warn"
  | .info => "info"
  | .debug => "debug"
  | .trace => "trace"

end Verbosity

/-- Something that a run mentions beside its output. -/
inductive Notice where
  /-- A scan succeeded: how many emulators in how many directories. -/
  | found (emulators directories : Nat)
  /-- The configuration file could not be read. -/
  | configUnreadable (path : Path)
  /-- The configuration file holds no configuration. -/
  | configUnusable (path : Path)
  deriving DecidableEq, Repr

namespace Notice

/-- The least verbosity at which a notice is shown. -/
def verbosity : Notice → Verbosity
  | .found .. => .info
  | .configUnreadable _ => .warn
  | .configUnusable _ => .warn

/-- The part of the program that a notice comes from. -/
def source : Notice → String
  | .found .. => "aemu_cli"
  | .configUnreadable _ => "aemu_cli::config"
  | .configUnusable _ => "aemu_cli::config"

/-- The name of the one field that every notice has: its message. -/
def fieldName : String := "message"

/-- A notice with its kind, fit to be shown on a terminal. -/
def text : Notice → String
  | .found emulators directories =>
    "INFO Found " ++ toString emulators ++ " emulator(s) in " ++ toString directories
      ++ " director(ies)"
  | .configUnreadable path => "WARN Failed to read " ++ Text.Terminal.shown path.shown
  | .configUnusable path => "WARN Failed to parse " ++ Text.Terminal.shown path.shown

end Notice

end EmulatorScout.CommandLine
