import EmulatorScout.Path

/-!
# Environments

What the choice of directories depends on: the platform, the variables, the user and which paths
exist. An environment answers questions, so two environments that answer alike are
interchangeable.
-/

set_option autoImplicit false

namespace EmulatorScout

/-- A host platform, as far as the conventions for directories differ. -/
inductive Platform where
  /-- Windows. -/
  | windows
  /-- Linux. -/
  | linux
  /-- macOS. -/
  | macOS
  /-- Any other platform. -/
  | other
  deriving DecidableEq, Repr

/-- The surroundings of a run. -/
structure Environment where
  /-- The platform. -/
  platform : Platform
  /-- The value of a variable, if it is set to a text. -/
  value? : String → Option String
  /-- The number of the user, if the platform has one. -/
  user? : Option Nat
  /-- Whether something exists at a path. -/
  pathExists : Path → Bool

end EmulatorScout
