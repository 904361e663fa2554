import EmulatorScout.CommandLine.Command
import EmulatorScout.Text.Numeral

/-!
# One level of a command line

A command line has levels: the options before the command word, the arguments after it, and for a
command with commands of its own one level more. Each level is read by the same rules, from a
description of what it takes.

The value of an option or operand is held back when it comes, and it is checked when the next option
or operand is taken in or the level ends. So of two faults the one that is reported need not be the
first: an unknown option or a word too many is reported whatever value is held, while help is shown
only if the held value is good.
-/

set_option autoImplicit false

namespace EmulatorScout.CommandLine

/-! ## Descriptions of levels -/

/-- The kinds of operands. -/
inductive OperandKind where
  /-- Any text. -/
  | text
  /-- A process id: a number of 32 bits. -/
  | pid
  /-- `true` or `false`. -/
  | truth
  deriving DecidableEq, Repr

/-- What a level of the command line takes, besides the options that every level takes. -/
structure Level where
  /-- The words that open a further level. -/
  subcommands : List String
  /-- The operands, all of which are needed. -/
  operands : List OperandKind
  /-- Whether there is an option for an output file. -/
  takesOut : Bool
  /-- Whether the version can be asked for. -/
  showsVersion : Bool
  deriving DecidableEq, Repr

/-! ## Values -/

/-- The value of an operand. -/
inductive Operand where
  /-- A text. -/
  | text (text : String)
  /-- A process id. -/
  | pid (pid : UInt32)
  /-- A truth value. -/
  | truth (value : Bool)
  deriving DecidableEq, Repr

/-- Reads a path, which must not be empty. -/
def readPath (value : Argument) : Except UsageError Path :=
  if value = [] then .error .badValue else .ok ⟨value⟩

def readText (value : Argument) : Except UsageError String :=
  match value.text? with
  | some text => .ok text
  | none => .error .notText

/-- The greatest process id. -/
def maxPid : Nat := 4294967295

/-- Reads a process id. A sign is allowed as long as the number is not below zero. -/
def readPid (value : Argument) : Except UsageError UInt32 :=
  match value.text? with
  | none => .error .notText
  | some text =>
    match Text.Numeral.signed? text.toList with
    | some (.ofNat pid) => if pid ≤ maxPid then .ok (UInt32.ofNat pid) else .error .badNumber
    | _ => .error .badNumber

def readTruth (value : Argument) : Except UsageError Bool :=
  if value = Bytes.ofString "true" then .ok true
  else if value = Bytes.ofString "false" then .ok false
  else .error .badValue

def OperandKind.read (value : Argument) : OperandKind → Except UsageError Operand
  | .text => (readText value).map .text
  | .pid => (readPid value).map .pid
  | .truth => (readTruth value).map .truth

/-! ## The state of reading -/

/-- The options that take a value. -/
inductive ValueOption where
  /-- A further directory; may be repeated. -/
  | dir
  /-- The output file. -/
  | out
  deriving DecidableEq, Repr

/-- What has come but has not been checked. -/
inductive Held where
  /-- Nothing. -/
  | nothing
  /-- An option whose value has to come next. -/
  | awaiting (option : ValueOption)
  /-- The value of an option. -/
  | optionValue (option : ValueOption) (value : Argument)
  /-- The value of an operand. -/
  | operandValue (kind : OperandKind) (value : Argument)
  deriving DecidableEq, Repr

/-- What has been read of a level. -/
structure Reading where
  /-- The directories, in order. -/
  dirs : List Path
  /-- Whether JSON was asked for. -/
  json : Bool
  /-- The output file. -/
  out : Option Path
  /-- The operands, in order. -/
  operands : List Operand
  /-- What is held back. -/
  held : Held
  /-- The kinds of the operands that are still to come. -/
  expected : List OperandKind
  /-- Whether a double dash has ended the options. -/
  onlyOperands : Bool
  deriving DecidableEq, Repr

/-- The start of a level. -/
def Level.begin (level : Level) : Reading := ⟨[], false, none, [], .nothing, level.operands, false⟩

namespace Reading

/-- Takes the value of an option in. An output file must not be given twice. -/
def setOption (reading : Reading) (value : Argument) : ValueOption → Except UsageError Reading
  | .dir => (readPath value).map fun path => { reading with dirs := reading.dirs ++ [path] }
  | .out =>
    if reading.out.isSome then .error .repeatedOption
    else (readPath value).map fun path => { reading with out := some path }

/-- Checks what is held and takes it in. -/
def settle (reading : Reading) : Except UsageError Reading :=
  match reading.held with
  | .nothing => .ok reading
  | .awaiting _ => .error .badValue
  | .optionValue option value => { reading with held := .nothing }.setOption value option
  | .operandValue kind value =>
    (kind.read value).map fun operand =>
      { reading with held := .nothing, operands := reading.operands ++ [operand] }

/-- Takes in the flag that asks for JSON, which must not be given twice. -/
def setJson (reading : Reading) : Except UsageError Reading :=
  reading.settle.bind fun reading =>
    if reading.json then .error .repeatedOption else .ok { reading with json := true }

/-- Ends the reading with a request for help or the version, if what is held is good. -/
def request (reading : Reading) (wanted : UsageError) : Except UsageError Reading :=
  reading.settle.bind fun _ => .error wanted

/-- Takes in an option that has a value, which stands in the same argument or comes next. -/
def takeOption (reading : Reading) (option : ValueOption) (attached? : Option Argument) :
    Except UsageError Reading :=
  reading.settle.bind fun reading =>
    match attached? with
    | some value => reading.setOption value option
    | none => .ok { reading with held := .awaiting option }

/-- Takes in a flag, which must not have a value. -/
def takeFlag (attached? : Option Argument) (effect : Except UsageError Reading) :
    Except UsageError Reading :=
  match attached? with
  | some _ => .error .unexpectedValue
  | none => effect

end Reading

/-! ## Arguments -/

def dash : UInt8 := 0x2D

/-- The byte between a long option and its value. -/
def equalsSign : UInt8 := 0x3D

/-- The parts of a long option: its name and the value after the first equals sign. -/
def splitLong (argument : Argument) : Argument × Option Argument :=
  (argument.takeWhile (· ≠ equalsSign),
    match argument.dropWhile (· ≠ equalsSign) with
    | _ :: value => some value
    | [] => none)

/-- Takes in a long option, given without its two dashes. -/
def Level.takeLong (level : Level) (reading : Reading) (argument : Argument) :
    Except UsageError Reading :=
  let name := (splitLong argument).1
  let attached? := (splitLong argument).2
  if name = Bytes.ofString "dir" then reading.takeOption .dir attached?
  else if name = Bytes.ofString "out" ∧ level.takesOut then reading.takeOption .out attached?
  else if name = Bytes.ofString "json" then Reading.takeFlag attached? reading.setJson
  else if name = Bytes.ofString "help" then Reading.takeFlag attached? (reading.request .helpWanted)
  else if name = Bytes.ofString "version" ∧ level.showsVersion then
    Reading.takeFlag attached? (reading.request .versionWanted)
  else .error .unexpectedArgument

/-- Takes in short options, given without their dash. The first letter decides, as every letter that
is known ends the reading. -/
def Level.takeShort (level : Level) (reading : Reading) (letters : Argument) :
    Except UsageError Reading :=
  if letters.head? = some 0x68 then reading.request .helpWanted
  else if letters.head? = some 0x56 ∧ level.showsVersion then reading.request .versionWanted
  else .error .unexpectedArgument

/-- The word that asks for help where commands are expected. -/
def helpWord : String := "help"

/-- The command word that an argument is. -/
def Level.subcommand? (level : Level) (argument : Argument) : Option String :=
  if level.subcommands = [] then none
  else (level.subcommands ++ [helpWord]).find? fun word => argument = Bytes.ofString word

/-- The error for a word that nothing is left to take. -/
def Level.excess (level : Level) (reading : Reading) (argument : Argument) : UsageError :=
  if level.subcommands = [] then .unexpectedArgument
  else if reading.onlyOperands ∧ (level.subcommand? argument).isSome then .unexpectedArgument
  else .unknownCommand

/-- Takes in a word that is neither an option nor a command. -/
def Level.takeWord (level : Level) (reading : Reading) (argument : Argument) :
    Except UsageError Reading :=
  match reading.held, reading.onlyOperands with
  | .awaiting option, false => .ok { reading with held := .optionValue option argument }
  | _, _ =>
    match reading.expected with
    | [] => .error (level.excess reading argument)
    | kind :: expected =>
      reading.settle.bind fun reading =>
        .ok { reading with held := .operandValue kind argument, expected := expected }

/-- Takes in an argument that is no command. -/
def Level.take (level : Level) (reading : Reading) (argument : Argument) :
    Except UsageError Reading :=
  if reading.onlyOperands then level.takeWord reading argument
  else
    match argument with
    | [d₁, d₂] =>
      if d₁ = dash ∧ d₂ = dash then .ok { reading with onlyOperands := true }
      else if d₁ = dash then level.takeShort reading [d₂]
      else level.takeWord reading argument
    | d₁ :: d₂ :: rest =>
      if d₁ = dash ∧ d₂ = dash then level.takeLong reading rest
      else if d₁ = dash then level.takeShort reading (d₂ :: rest)
      else level.takeWord reading argument
    | _ => level.takeWord reading argument

/-- The command that an argument is at this point of a level: after a double dash there are no
commands, and the value of an option is not taken for one. -/
def Level.command? (level : Level) (reading : Reading) (argument : Argument) : Option String :=
  match reading.held, reading.onlyOperands with
  | _, true => none
  | .awaiting _, false => none
  | _, false => level.subcommand? argument

/-- Reads a level up to its end or to a command, which comes with the arguments after it. -/
def Level.read (level : Level) :
    Reading → List Argument → Except UsageError (Reading × Option (String × List Argument))
  | reading, [] => .ok (reading, none)
  | reading, argument :: rest =>
    match level.command? reading argument with
    | some word => .ok (reading, some (word, rest))
    | none => (level.take reading argument).bind fun reading => level.read reading rest

end EmulatorScout.CommandLine
