import EmulatorScout.Text.Utf8

/-!
# Paths

A path is a text of bytes in which slashes separate names. The text is kept as it was given: joining
adds at most one slash, and nothing is simplified, so a path is shown as its owner wrote it.

Beside the text there is a reading of it as components. Repeated slashes, slashes at the end and
single dots other than a leading one do not count in that reading; double dots do. `Path.Same`
compares paths by it, and `fileName?` and `withExtension` are taken from it. The paths above a path
are beginnings of its text that end with a component, so they too are spelt as their owner wrote
them; `above` gives the places where they end.
-/

set_option autoImplicit false

namespace EmulatorScout

/-- The name of an entry of a directory. -/
abbrev Name := Bytes

/-- The byte that separates names. -/
def slash : UInt8 := 0x2F

/-- The byte that separates a file name from its extension. -/
def dot : UInt8 := 0x2E

/-- The name by which a directory calls itself. -/
def dotName : Name := [dot]

/-- The name by which a directory calls its parent. -/
def dotDotName : Name := [dot, dot]

/-- A path, as its text. -/
structure Path where
  /-- The text. -/
  bytes : Bytes
  deriving DecidableEq, Repr

namespace Path

/-- The path with the given text. -/
def ofString (text : String) : Path := ⟨Bytes.ofString text⟩

/-- The text of a path for display. -/
def shown (path : Path) : String := path.bytes.shown

/-- Whether a path starts at the root. -/
def isAbsolute (path : Path) : Bool := path.bytes.head? = some slash

/-- The stretches of a path's text between its slashes. A text that begins or ends with a slash has
an empty stretch there. -/
def segments (path : Path) : List Name := path.bytes.splitOn slash

/-- The path of `inner` seen from `base`. An absolute `inner` stands for itself; otherwise the texts
are put together with one slash between them, unless `base` is empty or brings the slash. -/
def join (base inner : Path) : Path :=
  if inner.isAbsolute then inner
  else if base.bytes = [] ∨ base.bytes.getLast? = some slash then ⟨base.bytes ++ inner.bytes⟩
  else ⟨base.bytes ++ slash :: inner.bytes⟩

/-- The path of the entry with the given name in a directory. -/
def child (directory : Path) (name : Name) : Path := directory.join ⟨name⟩

/-! ## Components -/

/-- One component of a path. -/
inductive Component where
  /-- The root, which only an absolute path begins with. -/
  | root
  /-- A leading dot. -/
  | here
  /-- Two dots: one level up. -/
  | up
  /-- A name. -/
  | name (name : Name)
  deriving DecidableEq, Repr

/-- The component that a stretch between slashes stands for, if it counts. -/
def Component.ofSegment? (segment : Name) : Option Component :=
  if segment = [] ∨ segment = dotName then none
  else if segment = dotDotName then some .up
  else some (.name segment)

/-- The components of a path. -/
def components (path : Path) : List Component :=
  let start : List Component :=
    if path.isAbsolute then [.root]
    else if path.segments.head? = some dotName then [.here] else []
  start ++ path.segments.filterMap Component.ofSegment?

/-- Whether two paths have the same components. -/
def Same (p q : Path) : Prop := p.components = q.components

instance : DecidableRel Same := fun p q => inferInstanceAs (Decidable (p.components = q.components))

/-- The last component of a path, if it is a name. -/
def fileName? (path : Path) : Option Name :=
  match path.components.getLast? with
  | some (.name name) => some name
  | _ => none

/-! ## The paths above a path -/

/-- Whether a stretch between slashes stands for a component. -/
def counts (segment : Name) : Bool := (Component.ofSegment? segment).isSome

/-- The component that a path's text begins with before any stretch that counts, as text: the root, a
leading dot, or nothing. -/
def lead (path : Path) : Bytes :=
  if path.isAbsolute then [slash]
  else if path.segments.head? = some dotName then dotName else []

/-- The text of a path after its lead. -/
def body (path : Path) : Bytes := path.bytes.drop path.lead.length

/-- Where the stretches that count end, if the first of the given stretches begins after `before`
bytes and each of the others one slash after the one before it. -/
def ends (before : Nat) : List Name → List Nat
  | [] => []
  | segment :: rest =>
    let place := before + segment.length
    if counts segment then place :: ends (place + 1) rest else ends (place + 1) rest

/-- The path that is the beginning of a path's text up to a place. -/
def cut (path : Path) (place : Nat) : Path := ⟨path.bytes.take place⟩

/-- Where what the paths above a path lead up to ends: the root, or the directory that relative paths
are seen from, whose path is empty. A leading dot is a component between that directory and the
rest. -/
def origins (path : Path) : List Nat :=
  if path.isAbsolute then [1] else if path.lead = [] then [0] else [1, 0]

/-- The places at which to cut a path to free it of what does not count at its end, and then to get
the paths above it, up to its origin. -/
def ancestry (path : Path) : List Nat :=
  (ends path.lead.length (path.body.splitOn slash)).reverse ++ path.origins

/-- The places at which to cut a path to get the paths above it, from the directory that it names its
last component in up to its origin. The root and the empty path have none. -/
def above (path : Path) : List Nat := path.ancestry.tail

/-! ## Extensions -/

/-- A file name split at its last dot. A dot at the start of the name begins no extension. -/
def splitExtension (name : Name) : Name × Option Name :=
  match name.reverse.dropWhile (· ≠ dot) with
  | [] => (name, none)
  | [_] => (name, none)
  | _ :: stem => (stem.reverse, some (name.reverse.takeWhile (· ≠ dot)).reverse)

/-- The extension of the last name of a path. -/
def extension? (path : Path) : Option Name :=
  path.fileName?.bind fun name => (splitExtension name).2

/-- The text of a path without its extension, counted from the end of the text. The dot stays. -/
def withoutExtension (path : Path) : Path :=
  match path.extension? with
  | none => path
  | some extension => ⟨path.bytes.take (path.bytes.length - extension.length)⟩

/-- The path whose last name has the given extension in place of its own. Whatever followed the name
in the text is dropped. A path whose text, freed of its extension, does not end in a name keeps that
text. -/
def withExtension (path : Path) (extension : Name) : Path :=
  let base := path.withoutExtension
  match base.segments.reverse.dropWhile fun segment => segment = [] || segment = dotName with
  | [] => base
  | name :: above =>
    if name = dotDotName then base
    else ⟨above.reverse.flatMap (· ++ [slash]) ++ (splitExtension name).1 ++ dot :: extension⟩

end Path

end EmulatorScout
