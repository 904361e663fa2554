import EmulatorScout.CommandLine.Level

/-!
# Reading a command line

The levels of this program's command line and the invocation that their values make up. JSON counts
as asked for if any level asks for it. The further directories are those of the innermost level that
gives any.
-/

set_option autoImplicit false

namespace EmulatorScout.CommandLine

/-! ## The levels -/

/-- The words of the first level. -/
def topWords : List String := ["dirs", "list", "find", "pid", "first", "export", "config"]

/-- The words after `config`. -/
def configWords : List String := ["show", "add-dir", "remove-dir", "set-json"]

def topLevel : Level := ⟨topWords, [], false, true⟩

def configLevel : Level := ⟨configWords, [], false, false⟩

/-- A level with operands and nothing else of its own. -/
def plainLevel (operands : List OperandKind) : Level := ⟨[], operands, false, false⟩

/-- The level after a word of the first level that opens no further commands. -/
def leafLevel (word : String) : Level :=
  if word = "find" then plainLevel [.text, .text]
  else if word = "pid" then plainLevel [.pid]
  else if word = "export" then ⟨[], [], true, false⟩
  else plainLevel []

/-- The level after a word of the configuration level. -/
def configLeafLevel (word : String) : Level :=
  if word = "add-dir" ∨ word = "remove-dir" then plainLevel [.text]
  else if word = "set-json" then plainLevel [.truth]
  else plainLevel []

/-! ## Help -/

/-- The outcome of a request for help on the command that the given words lead to, from the level
with the given words. Only the configuration has commands of its own. -/
def helpOn (words : List String) (arguments : List Argument) : UsageError :=
  let known (words : List String) (argument : Argument) : Bool :=
    (words ++ [helpWord]).any fun word => argument = Bytes.ofString word
  match arguments with
  | [] => .helpWanted
  | [word] => if known words word then .helpWanted else .unknownCommand
  | [first, second] =>
    if words.contains "config" ∧ first = Bytes.ofString "config" ∧ known configWords second then
      .helpWanted
    else .unknownCommand
  | _ => .unknownCommand

/-! ## Invocations -/

/-- The end of a level that a command had to follow. -/
def withoutCommand (reading : Reading) : Except UsageError Invocation :=
  reading.settle.bind fun reading =>
    if reading.dirs = [] ∧ ¬ reading.json then .error .nothingGiven
    else .error .missingCommand

/-- Reads a level that opens no further one. -/
def readLeaf (level : Level) (arguments : List Argument) : Except UsageError Reading :=
  (level.read level.begin arguments).bind fun result =>
    result.1.settle.bind fun reading =>
      if reading.operands.length < level.operands.length then .error .missingOperand
      else .ok reading

/-- The command that a word of the first level and the level after it make up. -/
def commandOf (word : String) (reading : Reading) : Except UsageError Command :=
  match word, reading.operands with
  | "dirs", _ => .ok .dirs
  | "list", _ => .ok .list
  | "find", [.text key, .text value] => .ok (.find key value)
  | "pid", [.pid pid] => .ok (.pid pid)
  | "first", _ => .ok .first
  | "export", _ => .ok (.exportTo reading.out)
  | _, _ => .error .missingOperand

/-- The command that a word of the configuration level and the level after it make up. -/
def configCommandOf (word : String) (reading : Reading) : Except UsageError ConfigCommand :=
  match word, reading.operands with
  | "show", _ => .ok .print
  | "add-dir", [.text dir] => .ok (.addDir dir)
  | "remove-dir", [.text dir] => .ok (.removeDir dir)
  | "set-json", [.truth enabled] => .ok (.setJson enabled)
  | _, _ => .error .missingOperand

/-- The directories of the innermost level that gives any, from the levels, innermost first. -/
def innermostDirs (levels : List Reading) : List Path :=
  ((levels.map (·.dirs)).find? (· ≠ [])).getD []

/-- The invocation of a command, from the levels, innermost first. -/
def invocation (command : Command) (levels : List Reading) : Invocation :=
  ⟨command, innermostDirs levels, levels.any (·.json)⟩

/-- Reads what follows `config`. The levels are checked from the innermost outwards. -/
def parseConfig (top : Reading) (arguments : List Argument) : Except UsageError Invocation :=
  (configLevel.read configLevel.begin arguments).bind fun result =>
    match result.2 with
    | none => withoutCommand result.1
    | some (word, rest) =>
      if word = helpWord then .error (helpOn configWords rest)
      else do
        let leaf ← readLeaf (configLeafLevel word) rest
        let middle ← result.1.settle
        let top ← top.settle
        let command ← configCommandOf word leaf
        return invocation (.config command) [leaf, middle, top]

/-- Reads a command line, given without the name of the program. -/
def parse (arguments : List Argument) : Except UsageError Invocation :=
  (topLevel.read topLevel.begin arguments).bind fun result =>
    match result.2 with
    | none => withoutCommand result.1
    | some (word, rest) =>
      if word = helpWord then .error (helpOn topWords rest)
      else if word = "config" then parseConfig result.1 rest
      else do
        let leaf ← readLeaf (leafLevel word) rest
        let top ← result.1.settle
        let command ← commandOf word leaf
        return invocation command [leaf, top]

end EmulatorScout.CommandLine
