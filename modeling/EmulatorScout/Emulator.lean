import EmulatorScout.Json.Value
import EmulatorScout.Properties
import EmulatorScout.Text.Blank
import EmulatorScout.Text.Numeral

/-!
# Descriptions of emulators

An emulator is known by the process id in the name of its marker file and by the properties in that
file. Two descriptions with one process id describe one emulator, whatever their properties.

A port is a property that reads as a number below 65536. A property that does not is treated as
absent, so no port is ever wrong.
-/

set_option autoImplicit false

namespace EmulatorScout

/-- The description of a running emulator. -/
structure Emulator where
  /-- The process id from the name of the marker file. -/
  pid : String
  /-- The properties in the marker file. -/
  properties : Properties
  deriving DecidableEq

namespace Emulator

/-! ## Names of properties -/

/-- The process id. -/
def pidKey : String := "pid"

/-- The name of the virtual device. -/
def nameKey : String := "avd.name"

/-- The directory of the virtual device. -/
def deviceDirectoryKey : String := "avd.dir"

/-- The identifier of the virtual device. -/
def deviceIdKey : String := "avd.id"

/-- The port of the console. -/
def consolePortKey : String := "port.serial"

/-- The port of the debug bridge. -/
def bridgePortKey : String := "port.adb"

/-- The port for remote calls. -/
def callPortKey : String := "grpc.port"

/-- The token for remote calls. -/
def callTokenKey : String := "grpc.token"

/-- The command line of the emulator. -/
def commandLineKey : String := "cmdline"

/-! ## Access -/

/-- The value of a property. The process id of the file name stands in for a missing one. -/
def get? (emulator : Emulator) (key : String) : Option String :=
  match emulator.properties.get? key with
  | some value => some value
  | none => if key = pidKey then some emulator.pid else none

def name? (emulator : Emulator) : Option String := emulator.get? nameKey

def deviceDirectory? (emulator : Emulator) : Option String := emulator.get? deviceDirectoryKey

def deviceId? (emulator : Emulator) : Option String := emulator.get? deviceIdKey

def commandLine? (emulator : Emulator) : Option String := emulator.get? commandLineKey

/-- The token for remote calls. An empty one counts as absent. -/
def callToken? (emulator : Emulator) : Option String :=
  (emulator.get? callTokenKey).filter (· ≠ "")

/-- The port that a text states, with white space around it allowed. -/
def readPort? (text : String) : Option UInt16 :=
  (Text.Numeral.upTo? 65535 (Text.trim text.toList)).map UInt16.ofNat

/-- The port that a property states. -/
def port? (emulator : Emulator) (key : String) : Option UInt16 :=
  (emulator.get? key).bind readPort?

def consolePort? (emulator : Emulator) : Option UInt16 := emulator.port? consolePortKey

def bridgePort? (emulator : Emulator) : Option UInt16 := emulator.port? bridgePortKey

def callPort? (emulator : Emulator) : Option UInt16 := emulator.port? callPortKey

/-- The decimal form of a port. -/
def portText (port : UInt16) : String := toString port.toNat

/-- The serial number under which the debug bridge knows the emulator. -/
def serial? (emulator : Emulator) : Option String :=
  emulator.consolePort?.map fun port => "emulator-" ++ portText port

/-! ## Identity -/

/-- Whether two descriptions are of one emulator. -/
def sameEmulator (e f : Emulator) : Bool := e.pid == f.pid

/-- One description of each emulator in a list. -/
def oneOfEach (emulators : List Emulator) : List Emulator := emulators.eraseDupsBy sameEmulator

/-! ## Written forms -/

/-- An emulator as a JSON value. -/
def toJson (emulator : Emulator) : Json :=
  .object
    [("pid", .string emulator.pid),
      ("properties",
        .object (emulator.properties.pairs.map fun pair => (pair.1, .string pair.2)))]

/-- An emulator on one line: process id, name, serial number and port for remote calls, separated by
tabs, with a dash for what is absent. -/
def line (emulator : Emulator) : String :=
  emulator.pid ++ "\t" ++ emulator.name?.getD "-" ++ "\t" ++ emulator.serial?.getD "-" ++ "\tgrpc="
    ++ (emulator.callPort?.map portText).getD "-"

end Emulator

end EmulatorScout
