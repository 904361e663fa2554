import EmulatorScout.Path

/-!
# Nodes and what directories hold

A directory holds entries. An entry has a name, the node that stands under it, and what that node
holds in turn, so the entries of one directory carry everything below it. `find` and `put` concern
one name; a way down goes through several, and what stands at its end is read by `reach` and changed
by `alter`. What a change of one node does to every way down is said by `node?_reach_alter`.

A name may be kept after its node is gone; it is free then, and `names` leaves it out. No name is
kept twice in one directory (`Distinct`), so a directory lists exactly the names of the nodes in it
(`mem_names`).
-/

set_option autoImplicit false

namespace EmulatorScout

/-- What stands at a location. -/
inductive Node where
  /-- A file with its content. -/
  | file (content : Bytes)
  /-- A directory. -/
  | directory
  /-- A symbolic link with its text. -/
  | link (target : Path)
  deriving DecidableEq, Repr

/-- What a directory holds. -/
inductive Entries where
  /-- Nothing. -/
  | none
  /-- A name with the node under it, unless the name is free, and what is held there; then the other
  entries. -/
  | entry (name : Name) (node? : Option Node) (held : Entries) (others : Entries)

/-- What stands at one place: its node, if there is one, and what it holds. -/
structure Branch where
  /-- The node. -/
  node? : Option Node
  /-- What it holds. -/
  held : Entries

/-- A place where nothing stands. -/
def Branch.free : Branch := ⟨.none, .none⟩

/-- The same place with another node, or with none. -/
def Branch.setNode (node? : Option Node) (place : Branch) : Branch := ⟨node?, place.held⟩

namespace Entries

/-! ## One name -/

/-- What stands under a name. -/
def find : Entries → Name → Branch
  | none, _ => .free
  | entry first node? held others, name =>
    if first = name then ⟨node?, held⟩ else others.find name

/-- The entries with something put under a name, in place of what stood there. A new name comes
last. -/
def put : Entries → Name → Branch → Entries
  | none, name, branch => entry name branch.node? branch.held none
  | entry first node? held others, name, branch =>
    if first = name then entry first branch.node? branch.held others
    else entry first node? held (others.put name branch)

/-- Putting something under a name changes what stands under that name and nothing else. -/
theorem find_put (entries : Entries) (name other : Name) (branch : Branch) :
    (entries.put name branch).find other = if other = name then branch else entries.find other := by
  induction entries with
  | none =>
    by_cases h : other = name
    · simp [put, find, h]
    · simp [put, find, h, Ne.symm h]
  | entry first node? held others _ ih =>
    by_cases hf : first = name
    · subst hf
      by_cases h : other = first
      · simp [put, find, h]
      · simp [put, find, h, Ne.symm h]
    · by_cases h : first = other
      · subst h
        simp [put, find, hf]
      · simp [put, find, hf, h, ih]

/-! ## Names -/

/-- The names that are kept, free ones included. -/
def labels : Entries → List Name
  | none => []
  | entry name _ _ others => name :: others.labels

/-- No name is kept twice, here or anywhere below. -/
def Distinct : Entries → Prop
  | none => True
  | entry name _ held others => name ∉ others.labels ∧ held.Distinct ∧ others.Distinct

/-- The names under which a node stands, in the order in which they came. -/
def names : Entries → List Name
  | none => []
  | entry name node? _ others => if node?.isSome then name :: others.names else others.names

theorem mem_labels_of_mem_names {entries : Entries} {name : Name} (h : name ∈ entries.names) :
    name ∈ entries.labels := by
  induction entries with
  | none => exact h
  | entry first node? held others _ ih =>
    rw [names] at h
    split at h
    · rcases List.mem_cons.1 h with rfl | h
      · exact List.mem_cons_self
      · exact List.mem_cons_of_mem _ (ih h)
    · exact List.mem_cons_of_mem _ (ih h)

/-- The names are those under which a node stands. -/
theorem mem_names {entries : Entries} (distinct : entries.Distinct) {name : Name} :
    name ∈ entries.names ↔ (entries.find name).node?.isSome := by
  induction entries with
  | none => simp [names, find, Branch.free]
  | entry first node? held others _ ih =>
    have hothers := ih distinct.2.2
    by_cases h : first = name
    · subst h
      have hnot : first ∉ others.names := fun hmem => distinct.1 (mem_labels_of_mem_names hmem)
      cases node? <;> simp [names, find, hnot]
    · cases node? <;> simp [names, find, h, Ne.symm h, hothers]

theorem mem_labels_put {entries : Entries} {name other : Name} {branch : Branch} :
    other ∈ (entries.put name branch).labels ↔ other = name ∨ other ∈ entries.labels := by
  induction entries with
  | none => simp [put, labels]
  | entry first node? held others _ ih =>
    by_cases h : first = name
    · simp [put, labels, h]
    · simp only [put, labels, h, if_false, List.mem_cons, ih]
      exact or_left_comm

theorem Distinct.put {entries : Entries} {name : Name} {branch : Branch}
    (distinct : entries.Distinct) (held : branch.held.Distinct) :
    (entries.put name branch).Distinct := by
  induction entries with
  | none => exact ⟨List.not_mem_nil, held, trivial⟩
  | entry first node? inner others _ ih =>
    rw [Entries.put]
    split
    · exact ⟨distinct.1, held, distinct.2.2⟩
    · rename_i hne
      refine ⟨fun h => ?_, distinct.2.1, ih distinct.2.2⟩
      exact (mem_labels_put.1 h).elim hne distinct.1

theorem Distinct.find {entries : Entries} (distinct : entries.Distinct) (name : Name) :
    (entries.find name).held.Distinct := by
  induction entries with
  | none => trivial
  | entry first node? inner others _ ih =>
    rw [Entries.find]
    split
    · exact distinct.2.1
    · exact ih distinct.2.2

/-! ## All nodes -/

/-- The nodes that are held, each with the names that lead to it. -/
def nodes : Entries → List (List Name × Node)
  | none => []
  | entry name node? held others =>
    (node?.map fun node => ([name], node)).toList
      ++ held.nodes.map (fun below => (name :: below.1, below.2)) ++ others.nodes

end Entries

/-! ## Ways down -/

namespace Branch

/-- What stands at the end of a way down. -/
def reach : Branch → List Name → Branch
  | branch, [] => branch
  | branch, name :: rest => (branch.held.find name).reach rest

/-- The branch with a change made at the end of a way down. -/
def alter (change : Branch → Branch) : Branch → List Name → Branch
  | branch, [] => change branch
  | branch, name :: rest =>
    ⟨branch.node?, branch.held.put name ((branch.held.find name).alter change rest)⟩

theorem reach_append (branch : Branch) (above below : List Name) :
    branch.reach (above ++ below) = (branch.reach above).reach below := by
  induction above generalizing branch with
  | nil => rfl
  | cons name rest ih => exact ih _

/-- Beyond the place itself, only what it holds decides what is reached. -/
theorem reach_congr {branch other : Branch} (held : branch.held = other.held) {way : List Name}
    (down : way ≠ []) : branch.reach way = other.reach way := by
  cases way with
  | nil => exact absurd rfl down
  | cons name rest => rw [reach, reach, held]

theorem reach_free (way : List Name) : free.reach way = free := by
  induction way with
  | nil => rfl
  | cons name rest ih => exact ih

/-- Changing one node changes no other, however far down it stands. -/
theorem node?_reach_alter (branch : Branch) (changed way : List Name) (node? : Option Node) :
    ((branch.alter (setNode node?) changed).reach way).node?
      = if way = changed then node? else (branch.reach way).node? := by
  induction changed generalizing branch way with
  | nil => cases way <;> simp [alter, reach, setNode]
  | cons name rest ih =>
    cases way with
    | nil => simp [alter, reach]
    | cons first below =>
      by_cases h : first = name
      · subst h
        simp [alter, reach, Entries.find_put, ih]
      · simp [alter, reach, Entries.find_put, h]

theorem distinct_reach {branch : Branch} (distinct : branch.held.Distinct) (way : List Name) :
    (branch.reach way).held.Distinct := by
  induction way generalizing branch with
  | nil => exact distinct
  | cons name rest ih => exact ih (distinct.find name)

theorem distinct_free : free.held.Distinct := trivial

theorem distinct_setNode (node? : Option Node) (place : Branch) (distinct : place.held.Distinct) :
    (place.setNode node?).held.Distinct := distinct

/-- A change that keeps the names apart keeps them apart wherever it is made. -/
theorem distinct_alter {change : Branch → Branch} {branch : Branch}
    (kept : ∀ place : Branch, place.held.Distinct → (change place).held.Distinct)
    (distinct : branch.held.Distinct) (way : List Name) :
    (branch.alter change way).held.Distinct := by
  induction way generalizing branch with
  | nil => exact kept _ distinct
  | cons name rest ih => exact distinct.put (ih (distinct.find name))

end Branch

end EmulatorScout
