import EmulatorScout.FileSystem.Basic

/-!
# Trails

A trail is a location together with what is held there and in every directory above, so that a step
up or down from it looks at one directory and not at the whole way from the root. It says nothing
that its location does not say: the trail to a location is `FileSystem.trail`, and steps from it lead
to the trails of the locations next to it (`up_trail`, `down_trail`), where the nodes of the file
system stand (`node?_trail`).
-/

set_option autoImplicit false

namespace EmulatorScout

/-- A location with what is held on the way to it. -/
structure Trail where
  /-- The location. -/
  location : Location
  /-- What is held there. -/
  held : Entries
  /-- What the directories above hold, the nearest first. -/
  above : List Entries

namespace Trail

/-- One level up; the root is above itself. -/
def up (trail : Trail) : Trail :=
  match trail.above with
  | [] => trail
  | held :: above => ⟨trail.location.tail, held, above⟩

/-- One level down. -/
def down (trail : Trail) (name : Name) : Trail :=
  ⟨name :: trail.location, (trail.held.find name).held, trail.held :: trail.above⟩

def node? (trail : Trail) (name : Name) : Option Node := (trail.held.find name).node?

end Trail

namespace FileSystem

/-- The trail to a location. -/
def trail (files : FileSystem) : Location → Trail
  | [] => ⟨[], files.entries, []⟩
  | name :: directory => (files.trail directory).down name

@[simp] theorem location_trail (files : FileSystem) (location : Location) :
    (files.trail location).location = location := by
  induction location with
  | nil => rfl
  | cons name directory ih => exact congrArg (name :: ·) ih

theorem held_trail (files : FileSystem) (location : Location) :
    (files.trail location).held = (files.branch location).held := by
  induction location with
  | nil => rfl
  | cons name directory ih => rw [branch_cons, ← ih]; rfl

@[simp] theorem up_trail (files : FileSystem) (location : Location) :
    (files.trail location).up = files.trail location.tail := by
  cases location <;> rfl

@[simp] theorem down_trail (files : FileSystem) (location : Location) (name : Name) :
    (files.trail location).down name = files.trail (name :: location) := rfl

/-- The nodes next to a trail are those of the file system. -/
@[simp] theorem node?_trail (files : FileSystem) (location : Location) (name : Name) :
    (files.trail location).node? name = files.node? (name :: location) := by
  rw [Trail.node?, held_trail, node?, branch_cons]

end FileSystem

end EmulatorScout
