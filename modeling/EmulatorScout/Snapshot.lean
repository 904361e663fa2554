import EmulatorScout.Emulator

/-!
# Snapshots of running emulators

What one scan found: emulators, each under the process id of its marker file. An entry is kept once it is
there (`Snapshot.get?_insertNew`).

A snapshot is a map, which has no order of its own. Its entries are listed here in the order in which they
come when the map is gone through. A scan lists them as they were found, but any rearrangement may come,
another one in each process, and `Snapshot.arranged` is the snapshot as a process with a given order sees
it. What is looked up by process id and what is shown in the order for display (`sorted`) does not depend
on it; which one of several emulators comes first (`first?`, `find?`) does.
-/

set_option autoImplicit false

namespace EmulatorScout

/-- The emulators found by one scan, by process id. -/
structure Snapshot where
  /-- The entries, in the order in which they come when the map is gone through. -/
  entries : List (String × Emulator)
  deriving DecidableEq

/-- The orders in which a process goes through its maps. -/
structure EntryOrder where
  /-- The entries of a map, as they come. -/
  arrange : List (String × Emulator) → List (String × Emulator)
  /-- No entry is lost and none is invented. -/
  perm : ∀ entries, (arrange entries).Perm entries

/-- The order in which the entries are stored. -/
def EntryOrder.stored : EntryOrder := ⟨fun entries => entries, fun _ => .refl _⟩

namespace Snapshot

/-- The snapshot as it is gone through in a given order. -/
def arranged (snapshot : Snapshot) (order : EntryOrder) : Snapshot :=
  ⟨order.arrange snapshot.entries⟩

/-- The snapshot without an emulator. -/
def empty : Snapshot := ⟨[]⟩

/-- The emulator under a process id. -/
def get? (snapshot : Snapshot) (pid : String) : Option Emulator := snapshot.entries.lookup pid

def contains (snapshot : Snapshot) (pid : String) : Bool := (snapshot.get? pid).isSome

/-- The snapshot with an emulator added under a process id that is still free. -/
def insertNew (snapshot : Snapshot) (pid : String) (emulator : Emulator) : Snapshot :=
  if snapshot.contains pid then snapshot else ⟨snapshot.entries ++ [(pid, emulator)]⟩

/-- The first emulator under a process id stays. A later one counts only if the process id was
free. -/
theorem get?_insertNew (snapshot : Snapshot) (pid query : String) (emulator : Emulator) :
    (snapshot.insertNew pid emulator).get? query
      = (snapshot.get? query).or (if query = pid then some emulator else none) := by
  unfold insertNew
  split
  · rename_i htaken
    by_cases hq : query = pid
    · subst hq
      obtain ⟨found, hfound⟩ := Option.isSome_iff_exists.1 htaken
      simp [hfound]
    · simp [hq]
  · by_cases hq : query = pid <;> simp [get?, List.lookup_append, lookup_cons_of_ne, hq]

def emulators (snapshot : Snapshot) : List Emulator := snapshot.entries.map (·.2)

def size (snapshot : Snapshot) : Nat := snapshot.entries.length

def isEmpty (snapshot : Snapshot) : Bool := snapshot.entries.isEmpty

/-- The process ids, in the order of their characters by code. -/
def pids (snapshot : Snapshot) : List String :=
  (snapshot.entries.map (·.1)).mergeSort fun p q => p ≤ q

/-- The emulators with a given value of a property. -/
def candidates (snapshot : Snapshot) (key value : String) : List Emulator :=
  snapshot.emulators.filter fun emulator => emulator.get? key = some value

/-- The first emulator that comes with a given value of a property. -/
def find? (snapshot : Snapshot) (key value : String) : Option Emulator :=
  snapshot.emulators.find? fun emulator => emulator.get? key = some value

/-- Some emulator with a process id, given as a text. -/
def findPid? (snapshot : Snapshot) (pid : String) : Option Emulator :=
  snapshot.find? Emulator.pidKey pid

def findName? (snapshot : Snapshot) (name : String) : Option Emulator :=
  snapshot.find? Emulator.nameKey name

/-- Some emulator whose property for the port of remote calls is the decimal form of a number. -/
def findCallPort? (snapshot : Snapshot) (port : UInt16) : Option Emulator :=
  snapshot.find? Emulator.callPortKey (Emulator.portText port)

/-- The first emulator that comes. -/
def first? (snapshot : Snapshot) : Option Emulator := snapshot.emulators.head?

/-! ## The order for display -/

/-- The greatest number that orders a process id. -/
def maxRank : Nat := 18446744073709551615

/-- The number by which a process id is ordered: its value if it is one of 64 bits, and the greatest
such number otherwise. -/
def rank (pid : String) : Nat := (Text.Numeral.upTo? maxRank pid.toList).getD maxRank

/-- Whether one process id may stand before another: by rank, and by the text where that is
equal. -/
def precedes (p q : String) : Bool := rank p < rank q || (rank p = rank q && p ≤ q)

/-- The emulators in the order for display. -/
def sorted (snapshot : Snapshot) : List Emulator :=
  snapshot.emulators.mergeSort fun e f => precedes e.pid f.pid

end Snapshot

end EmulatorScout
