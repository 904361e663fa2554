import EmulatorScout.Config.Basic
import EmulatorScout.Json.Value
import EmulatorScout.Json.Written
import EmulatorScout.Text.Utf8

/-!
# The written form of a configuration

A configuration is written as a JSON object with two members. It is read back from an object with
these members in any order. Either may be missing and then has its default; other members are passed
over, whatever their values; a member of one of the two names that occurs twice or has a value of
another type makes the whole text unusable. An array of at most two items is read as the values of
the two members in their written order.
-/

set_option autoImplicit false

namespace EmulatorScout

open Json (Written)

namespace Config

/-- The name of the member with the directories. -/
def dirsMember : String := "extra_dirs"

/-- The name of the member that tells whether output is JSON. -/
def jsonMember : String := "json"

/-! ## Writing -/

/-- A configuration as a JSON value. The directories for one run are no part of it. -/
def toJson (config : Config) : Json :=
  .object
    [(dirsMember, .array (config.extraDirs.map .string)), (jsonMember, .truth config.json)]

def text (config : Config) : String := config.toJson.write .indented

/-! ## Reading -/

/-- The text that a string stands for. -/
def string? : Written → Option String
  | .string literal => (Json.Literal.decode literal).map String.ofList
  | _ => none

/-- The directories that a value stands for. -/
def dirs? : Written → Option (List String)
  | .array items => items.mapM string?
  | _ => none

def truth? : Written → Option Bool
  | .truth value => some value
  | _ => none

/-- The two members, as far as they have been found. -/
structure Found where
  /-- The directories. -/
  dirs : Option (List String)
  /-- Whether output is JSON. -/
  json : Option Bool
  deriving DecidableEq, Repr

/-- Takes one member into account. -/
def Found.add (found : Found) (member : List Char × Written) : Option Found :=
  match Json.Literal.decode member.1 with
  | none => none
  | some name =>
    if name = dirsMember.toList then
      if found.dirs.isSome then none
      else (dirs? member.2).map fun dirs => { found with dirs := some dirs }
    else if name = jsonMember.toList then
      if found.json.isSome then none
      else (truth? member.2).map fun json => { found with json := some json }
    else some found

/-- The configuration of the members found, with defaults for the others. -/
def Found.config (found : Found) : Config := ⟨found.dirs.getD [], found.json.getD false, none⟩

/-- The configuration that a JSON tree stands for. -/
def ofWritten? : Written → Option Config
  | .object members => (members.foldlM Found.add ⟨none, none⟩).map Found.config
  | .array [] => some default
  | .array [dirs] => (dirs? dirs).map fun dirs => ⟨dirs, false, none⟩
  | .array [dirs, json] =>
    (dirs? dirs).bind fun dirs => (truth? json).map fun json => ⟨dirs, json, none⟩
  | _ => none

/-- The configuration that a text stands for. -/
def ofText? (text : String) : Option Config := (Written.read? text.toList).bind ofWritten?

end Config

end EmulatorScout
