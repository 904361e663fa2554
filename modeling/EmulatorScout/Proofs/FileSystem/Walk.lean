import EmulatorScout.FileSystem.Operations

/-!
# Walks

What a walk does, said without its recursion. A walk that ends well goes on from each of its names
in one of five ways (`Step`, `step_of_walk_eq_ok`). The part of a walk that leads through
directories and links is a `Way`: every walk goes one up to its last name
(`exists_way_of_walk_eq_ok`), a walk along a way goes on from its end (`Way.walk_append`), and a way
stays one as long as no directory and no link is lost (`Way.mono`).
-/

set_option autoImplicit false

namespace EmulatorScout.FileSystem

/-- The file system with the given nodes, each at the place that the names of a path lead to from
the root. -/
def ofNodes (nodes : List (String × Node)) : FileSystem :=
  nodes.foldl (fun files node => files.insert (Path.ofString node.1).segments.reverse node.2) empty

/-- At a location without a name, and where a directory stands, there is a directory. -/
theorem isDirectoryAt_iff {files : FileSystem} {location : Location} :
    files.isDirectoryAt location = true
      ↔ isNameless location = true ∨ files.node? location = some .directory := by
  rw [isDirectoryAt, Bool.or_eq_true]
  split <;> simp_all

theorem isDirectoryAt_cons {files : FileSystem} {name : Name} {directory : Location}
    (h : name ≠ []) :
    files.isDirectoryAt (name :: directory) = true
      ↔ files.node? (name :: directory) = some .directory := by
  have hnamed : isNameless (name :: directory) = false := by
    simp [isNameless, h]
  simp [isDirectoryAt_iff, hnamed]

/-! ## One name -/

/-- A name that a walk looks up where it is: the name is no mark for the directory itself or the one
above it, it is not too long, and the directory has not lost its own name. -/
structure LooksUp (current : Location) (name : Name) : Prop where
  /-- The name is not empty. -/
  ne_nil : name ≠ []
  /-- The name is not a dot. -/
  ne_dot : name ≠ dotName
  /-- The name is not two dots. -/
  ne_dotDot : name ≠ dotDotName
  /-- The directory has a name. -/
  named : isNameless current = false
  /-- The name is short enough. -/
  short : name.length ≤ maxName

/-- What a walk does with a link when it may still follow the given number of links. -/
def follow (files : FileSystem) (purpose : Purpose) :
    Nat → Trail → List Name → Except FileError Location
  | 0 => fun _ _ => .error .tooManyLinks
  | links + 1 => files.walk purpose links

section Walk

variable {files : FileSystem} {purpose : Purpose} {links : Nat} {current location : Location}
  {name : Name} {rest : List Name}

/-- A walk goes through names and follows links. -/
theorem walk_eq_walkNames (files : FileSystem) (purpose : Purpose) (links : Nat) :
    files.walk purpose links = files.walkNames purpose (files.follow purpose links) := by
  cases links <;> rfl

@[simp] theorem walk_nil (files : FileSystem) (purpose : Purpose) (links : Nat)
    (current : Location) : files.walk purpose links (files.trail current) [] = .ok current := by
  rw [walk_eq_walkNames, walkNames_nil]

theorem walk_stay (h : name = [] ∨ name = dotName) :
    files.walk purpose links (files.trail current) (name :: rest)
      = files.walk purpose links (files.trail current) rest := by
  rw [walk_eq_walkNames, walkNames_cons, if_pos h]

theorem walk_up :
    files.walk purpose links (files.trail current) (dotDotName :: rest)
      = files.walk purpose links (files.trail current.tail) rest := by
  have hstay : ¬ (dotDotName = [] ∨ dotDotName = dotName) := by decide
  rw [walk_eq_walkNames, walkNames_cons, if_neg hstay, if_pos rfl]

/-- A name that is looked up decides by the node under it, except that a walk that creates a file
stops at a last name with a slash after it. -/
theorem walk_lookUp (h : LooksUp current name)
    (hguard : ¬ (purpose = .create ∧ rest ≠ [] ∧ rest.all (· = []))) :
    files.walk purpose links (files.trail current) (name :: rest) =
      match files.node? (name :: current) with
      | none =>
        if purpose = .create ∧ rest = [] then .ok (name :: current) else .error .notFound
      | some .directory => files.walk purpose links (files.trail (name :: current)) rest
      | some (.file _) => if rest = [] then .ok (name :: current) else .error .notADirectory
      | some (.link target) =>
        files.follow purpose links (files.trail (target.start current))
          (target.segments ++ rest) := by
  have hstay : ¬ (name = [] ∨ name = dotName) := not_or.2 ⟨h.ne_nil, h.ne_dot⟩
  have hshort : ¬ maxName < name.length := Nat.not_lt.2 h.short
  have hnamed : ¬ isNameless current = true := by simp [h.named]
  have hstep := walkNames_cons files purpose (files.follow purpose links) current name rest
  rw [if_neg hstay, if_neg h.ne_dotDot, if_neg hguard, if_neg hnamed, if_neg hshort,
    ← walk_eq_walkNames] at hstep
  exact hstep

/-- How a walk that ends well goes on from its next name. -/
inductive Step (files : FileSystem) (purpose : Purpose) (links : Nat) (current : Location)
    (name : Name) (rest : List Name) (location : Location) : Prop
  /-- The name stays where it is. -/
  | stay (mark : name = [] ∨ name = dotName)
    (on : files.walk purpose links (files.trail current) rest = .ok location)
  /-- The name goes one level up. -/
  | up (mark : name = dotDotName)
    (on : files.walk purpose links (files.trail current.tail) rest = .ok location)
  /-- The name is that of a directory. -/
  | down (looksUp : LooksUp current name) (node : files.node? (name :: current) = some .directory)
    (on : files.walk purpose links (files.trail (name :: current)) rest = .ok location)
  /-- The name is that of a link. -/
  | follow (target : Path) (left : Nat) (looksUp : LooksUp current name) (bound : links = left + 1)
    (node : files.node? (name :: current) = some (.link target))
    (on : files.walk purpose left (files.trail (target.start current)) (target.segments ++ rest)
      = .ok location)
  /-- The name is the last one, and that of a file or of nothing yet. -/
  | last (looksUp : LooksUp current name) (node : (∃ content, files.node? (name :: current)
      = some (.file content)) ∨ (purpose = .create ∧ files.node? (name :: current) = none))
    (done : rest = []) (reached : location = name :: current)

/-- A walk that ends well goes on from its next name in one of five ways. -/
theorem step_of_walk_eq_ok
    (h : files.walk purpose links (files.trail current) (name :: rest) = .ok location) :
    Step files purpose links current name rest location := by
  by_cases hstay : name = [] ∨ name = dotName
  · exact .stay hstay (by rwa [walk_stay hstay] at h)
  by_cases hup : name = dotDotName
  · subst hup
    exact .up rfl (by rwa [walk_up] at h)
  -- the name is not one of the marks, so it is looked up, unless one of three tests fails first
  rw [walk_eq_walkNames, walkNames_cons, if_neg hstay, if_neg hup] at h
  by_cases hguard : purpose = .create ∧ rest ≠ [] ∧ rest.all (· = [])
  · rw [if_pos hguard] at h
    cases h
  by_cases hnamed : isNameless current
  · rw [if_neg hguard, if_pos hnamed] at h
    cases h
  by_cases hshort : maxName < name.length
  · rw [if_neg hguard, if_neg hnamed, if_pos hshort] at h
    cases h
  rw [if_neg hguard, if_neg hnamed, if_neg hshort] at h
  have hlook : LooksUp current name :=
    ⟨fun hnil => hstay (.inl hnil), fun hdot => hstay (.inr hdot), hup, by simpa using hnamed,
      Nat.not_lt.1 hshort⟩
  cases hnode : files.node? (name :: current) with
  | none =>
    -- nothing stands there: a walk that creates may end here, and no other one
    rw [hnode] at h
    by_cases hdone : purpose = .create ∧ rest = []
    · simp only [if_pos hdone, Except.ok.injEq] at h
      exact .last hlook (.inr ⟨hdone.1, hnode⟩) hdone.2 h.symm
    · simp only [if_neg hdone, reduceCtorEq] at h
  | some node =>
    rw [hnode] at h
    cases node with
    | directory => exact .down hlook hnode (by rwa [walk_eq_walkNames])
    | file content =>
      by_cases hdone : rest = []
      · simp only [if_pos hdone, Except.ok.injEq] at h
        exact .last hlook (.inl ⟨content, hnode⟩) hdone h.symm
      · simp only [if_neg hdone, reduceCtorEq] at h
    | link target =>
      cases links with
      | zero => cases h
      | succ left => exact .follow target left hlook rfl hnode h

end Walk

/-! ## Ways -/

/-- A way through directories and links: from how many links may be followed and where it begins,
along its names, to how many links are left and where it ends. -/
inductive Way (files : FileSystem) : Nat → Location → List Name → Nat → Location → Prop
  /-- No name leads nowhere else. -/
  | here (links : Nat) (current : Location) : Way files links current [] links current
  /-- Empty stretches and single dots stay. -/
  | stay {links left : Nat} {current location : Location} {name : Name} {rest : List Name}
    (mark : name = [] ∨ name = dotName) (on : Way files links current rest left location) :
    Way files links current (name :: rest) left location
  /-- Two dots go up. -/
  | up {links left : Nat} {current location : Location} {rest : List Name}
    (on : Way files links current.tail rest left location) :
    Way files links current (dotDotName :: rest) left location
  /-- The name of a directory goes down. -/
  | down {links left : Nat} {current location : Location} {name : Name} {rest : List Name}
    (looksUp : LooksUp current name) (node : files.node? (name :: current) = some .directory)
    (on : Way files links (name :: current) rest left location) :
    Way files links current (name :: rest) left location
  /-- The name of a link leads where its text leads. -/
  | follow {links left : Nat} {current location : Location} {name : Name} {rest : List Name}
    {target : Path} (looksUp : LooksUp current name)
    (node : files.node? (name :: current) = some (.link target))
    (on : Way files links (target.start current) (target.segments ++ rest) left location) :
    Way files (links + 1) current (name :: rest) left location

section Way

variable {files : FileSystem} {links left : Nat} {current location : Location} {names : List Name}

/-- A walk that ends well goes a way as far as its last name, and to its end if that is a
directory: no file is passed before a name. -/
theorem exists_way_of_walk_eq_ok {purpose : Purpose} {rest : List Name}
    (h : files.walk purpose links (files.trail current) (names ++ rest) = .ok location)
    (hend : rest ≠ [] ∨ files.isDirectoryAt location) :
    ∃ left directory, Way files links current names left directory ∧
      files.walk purpose left (files.trail directory) rest = .ok location := by
  -- the outer induction is on the links, the inner one on the names before the next link
  induction links using Nat.strongRecOn generalizing current names with
  | ind links ihLinks =>
    induction names generalizing current with
    | nil => exact ⟨links, current, .here links current, h⟩
    | cons name more ih =>
      rw [List.cons_append] at h
      cases step_of_walk_eq_ok h with
      | stay mark on =>
        obtain ⟨left, directory, way, hwalk⟩ := ih on
        exact ⟨left, directory, .stay mark way, hwalk⟩
      | up mark on =>
        obtain ⟨left, directory, way, hwalk⟩ := ih on
        subst mark
        exact ⟨left, directory, .up way, hwalk⟩
      | down looksUp node on =>
        obtain ⟨left, directory, way, hwalk⟩ := ih on
        exact ⟨left, directory, .down looksUp node way, hwalk⟩
      | follow target fewer looksUp bound node on =>
        -- the names of the link come before those that are left, and one link fewer is to follow
        rw [← List.append_assoc] at on
        obtain ⟨left, directory, way, hwalk⟩ := ihLinks fewer (by omega) on
        subst bound
        exact ⟨left, directory, .follow looksUp node way, hwalk⟩
      | last looksUp node done reached =>
        -- nothing comes after the name, so a directory stands under it, no file and not nothing
        have hdirectory := hend.resolve_left (· (List.append_eq_nil_iff.1 done).2)
        rw [reached, isDirectoryAt_cons looksUp.ne_nil] at hdirectory
        rcases node with ⟨content, hfile⟩ | ⟨-, hfree⟩
        · rw [hfile] at hdirectory
          cases hdirectory
        · rw [hfree] at hdirectory
          cases hdirectory

/-- A walk along a way goes on from its end, if it looks for something or if a name comes after
the way. -/
theorem Way.walk_append (way : Way files links current names left location) {purpose : Purpose}
    {rest : List Name} (hrest : purpose = .find ∨ ∃ name ∈ rest, name ≠ []) :
    files.walk purpose links (files.trail current) (names ++ rest)
      = files.walk purpose left (files.trail location) rest := by
  -- a name comes after each step, so the slashes at the end stop no walk that creates
  have hguard : ∀ more : List Name,
      ¬ (purpose = .create ∧ more ++ rest ≠ [] ∧ (more ++ rest).all (· = [])) := by
    rintro more ⟨hcreate, -, hall⟩
    rcases hrest with hfind | ⟨name, hmem, hne⟩
    · rw [hcreate] at hfind
      cases hfind
    · exact hne (of_decide_eq_true (List.all_eq_true.1 hall name (List.mem_append_right more hmem)))
  induction way with
  | here => rfl
  | stay mark on ih => rw [List.cons_append, walk_stay mark, ih]
  | up on ih => rw [List.cons_append, walk_up, ih]
  | down looksUp node on ih =>
    rw [List.cons_append, walk_lookUp looksUp (hguard _), node]
    exact ih
  | follow looksUp node on ih =>
    rw [List.cons_append, walk_lookUp looksUp (hguard _), node]
    rw [List.append_assoc] at ih
    exact ih

/-- A walk along a way that looks for something ends where the way ends. -/
theorem Way.walk_eq_ok (way : Way files links current names left location) :
    files.walk .find links (files.trail current) names = .ok location := by
  have hwalk : files.walk .find links (files.trail current) (names ++ [])
      = files.walk .find left (files.trail location) [] := way.walk_append (.inl rfl)
  rwa [List.append_nil, walk_nil] at hwalk

/-- Every directory and every link of one file system stands in the other one too. -/
def Keeps (files other : FileSystem) : Prop :=
  ∀ location node, files.node? location = some node → (∀ content, node ≠ .file content) →
    other.node? location = some node

/-- A way stays a way as long as no directory and no link is lost. -/
theorem Way.mono {other : FileSystem} (keeps : Keeps files other)
    (way : Way files links current names left location) :
    Way other links current names left location := by
  induction way with
  | here links current => exact .here links current
  | stay mark on ih => exact .stay mark ih
  | up on ih => exact .up ih
  | down looksUp node on ih => exact .down looksUp (keeps _ _ node nofun) ih
  | follow looksUp node on ih => exact .follow looksUp (keeps _ _ node nofun) ih

end Way

/-! ## Directories that paths lead to -/

section Directory

variable {files other : FileSystem} {current location : Location} {path : Path}

/-- A path leads to a directory exactly if a way does, and its text is one that can be asked
for. -/
theorem directory?_eq_some_iff :
    files.directory? current path = some location ↔
      textError? path = none ∧
        (∃ left, Way files maxLinks (path.start current) path.segments left location) ∧
        files.isDirectoryAt location = true := by
  rw [directory?, locate]
  cases htext : textError? path with
  | some error => simp
  | none =>
    constructor
    · intro h
      cases hwalk : files.walk .find maxLinks (files.trail (path.start current)) path.segments with
      | error error => simp [hwalk] at h
      | ok reached =>
        simp only [hwalk, Option.ite_none_right_eq_some, Option.some.injEq] at h
        obtain ⟨hdirectory, rfl⟩ := h
        -- the whole path is the way, with no name after it
        rw [← List.append_nil path.segments] at hwalk
        obtain ⟨left, directory, way, hend⟩ := exists_way_of_walk_eq_ok hwalk (.inr hdirectory)
        rw [walk_nil, Except.ok.injEq] at hend
        exact ⟨rfl, ⟨left, hend ▸ way⟩, hdirectory⟩
    · rintro ⟨-, ⟨left, way⟩, hdirectory⟩
      simp [way.walk_eq_ok, hdirectory]

/-- A path leads to one directory for all that see it from the same place. -/
theorem directory?_of_start_eq (files : FileSystem) {current' : Location}
    (hstart : path.start current' = path.start current) :
    files.directory? current' path = files.directory? current path := by
  rw [directory?, directory?, locate, locate, hstart]

theorem Keeps.isDirectoryAt (keeps : Keeps files other) (h : files.isDirectoryAt location = true) :
    other.isDirectoryAt location = true := by
  rw [isDirectoryAt_iff] at h ⊢
  exact h.imp_right fun node => keeps _ _ node nofun

/-- A path leads to the same directory as long as no directory and no link is lost. -/
theorem Keeps.directory? (keeps : Keeps files other)
    (h : files.directory? current path = some location) :
    other.directory? current path = some location := by
  obtain ⟨htext, ⟨left, way⟩, hdirectory⟩ := directory?_eq_some_iff.1 h
  exact directory?_eq_some_iff.2 ⟨htext, ⟨left, way.mono keeps⟩, keeps.isDirectoryAt hdirectory⟩

end Directory

end EmulatorScout.FileSystem
