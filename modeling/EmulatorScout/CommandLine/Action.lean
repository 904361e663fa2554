import EmulatorScout.CommandLine.Notice
import EmulatorScout.CommandLine.Report
import EmulatorScout.FileSystem.AtomicWrite

/-!
# Steps of a run

A run goes on step by step: it prints a line, mentions something, replaces a file, or asks for something
that may not be there. A step that fails ends the run, and whatever was done before it stays done. In
particular what was printed stays printed, so a run that fails may well have an output; that no command of
this program prints before the last of its steps that can fail is a theorem about the commands.
-/

set_option autoImplicit false

namespace EmulatorScout.CommandLine

/-- What a run has done so far. -/
structure Trace where
  /-- The standard output. -/
  output : String
  /-- What was mentioned, in order. -/
  notices : List Notice
  /-- The changes to the file system. -/
  progress : Progress

namespace Trace

/-- Before the first step. -/
def start (files : FileSystem) : Trace := ⟨"", [], Progress.start files⟩

/-- With a text printed. -/
def printing (trace : Trace) (text : String) : Trace := { trace with output := trace.output ++ text }

/-- With something mentioned. -/
def mentioning (trace : Trace) (notice : Notice) : Trace :=
  { trace with notices := trace.notices ++ [notice] }

end Trace

/-- A part of a run, which goes on with a value or ends the run with a failure. -/
abbrev Action (α : Type) : Type := ExceptT Failure (StateM Trace) α

namespace Action

variable {α : Type}

/-- What a part of a run leads to after what was done before it. -/
def after (action : Action α) (trace : Trace) : Except Failure α × Trace := action.run.run trace

/-- Prints a line. -/
def print (line : String) : Action Unit := modify fun trace => trace.printing (printed line)

/-- Mentions something. -/
def mention (notice : Notice) : Action Unit := modify fun trace => trace.mentioning notice

/-- Asks for something. -/
def require : Except Failure α → Action α
  | .ok value => pure value
  | .error failure => throw failure

/-- Asks for something that there is or is not. -/
def requireSome (failure : Failure) (asked : Option α) : Action α :=
  require (asked.elim (.error failure) .ok)

/-- Makes the changes of an attempt, whose failure is that of the run. A run makes one attempt at most. -/
def attempt (made : Attempt) : Action Unit := do
  modify fun trace => { trace with progress := made.progress }
  if let some error := made.failure? then
    throw (.file error)

/-- The text of a value. In general such a step can fail, where a name in an object is no text or a part of
the value cannot be written at all. A `Json` has no such part. -/
def serialise (value : Json) : Action String := pure (value.write .indented)

/-- Prints a value. -/
def printJson (value : Json) : Action Unit := do
  let text ← serialise value
  print text

end Action

end EmulatorScout.CommandLine
