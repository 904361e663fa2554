import EmulatorScout.Proofs.FileSystem.Replacement

/-!
# Places where nothing stands

In a file system of which every node stands in a directory (`IsTree`) nothing stands below a free
place (`IsTree.vacant`). No path that leads through such a place can be read
(`content_ne_ok_of_free`). After the directories above a file were made, paths through it lead to
places below it (`exists_below_of_walk`).
-/

set_option autoImplicit false

namespace EmulatorScout.FileSystem

/-! ## Trees -/

/-- Every node stands in a directory. -/
def IsTree (files : FileSystem) : Prop :=
  ∀ name directory, (files.node? (name :: directory)).isSome →
    files.node? directory = some .directory

/-- Nothing stands at a place or below it. -/
def Vacant (files : FileSystem) (location : Location) : Prop :=
  ∀ below, files.node? (below ++ location) = none

theorem isTree_empty : IsTree empty := by
  intro name directory h
  have hfree : empty.node? (name :: directory) = none := by
    obtain ⟨first, rest, hreverse⟩ :=
      List.exists_cons_of_ne_nil (List.reverse_ne_nil_iff.2 (List.cons_ne_nil name directory))
    rw [node?, branch, hreverse]
    exact congrArg Branch.node? (Branch.reach_free rest)
  rw [hfree] at h
  cases h

section Tree

variable {files : FileSystem} {location : Location} {name : Name}

theorem IsTree.vacant (h : files.IsTree) (hfree : files.node? location = none) :
    files.Vacant location := by
  intro below
  -- the induction goes down: a node further below would stand in a directory
  induction below with
  | nil => exact hfree
  | cons name below ih =>
    rw [List.cons_append]
    cases hnode : files.node? (name :: (below ++ location)) with
    | none => rfl
    | some node =>
      have hdirectory := h name (below ++ location) (by rw [hnode]; rfl)
      rw [ih] at hdirectory
      cases hdirectory

theorem IsTree.insert (h : files.IsTree) (hfree : files.node? (name :: location) = none)
    (hdirectory : files.node? location = some .directory) (node : Node) :
    (files.insert (name :: location) node).IsTree := by
  intro child directory hchild
  have hne : directory ≠ name :: location → (files.insert (name :: location) node).node? directory
      = files.node? directory := fun hother => by
    rw [node?_insert, if_neg fun hboth => hother hboth.1]
  rw [node?_insert] at hchild
  split at hchild
  · rename_i hplace
    obtain ⟨rfl, rfl⟩ := List.cons.inj hplace.1
    rw [hne fun hcycle => absurd (congrArg List.length hcycle) (by simp)]
    exact hdirectory
  · have hparent := h child directory hchild
    have hother : directory ≠ name :: location := by
      intro hplace
      rw [hplace, hfree] at hparent
      cases hparent
    rw [hne hother]
    exact hparent

end Tree

/-! ## Paths into vacancy -/

section Vacancy

variable {files other : FileSystem} {links : Nat} {current location home directory : Location}
  {first name : Name} {rest names above : List Name} {path base : Path}

/-- A name that means something of its own: it is not empty, not a dot and not two dots. -/
def IsPlain (name : Name) : Prop := name ≠ [] ∧ name ≠ dotName ∧ name ≠ dotDotName

/-- A walk that looks for something gets past a place with nothing or a directory only if the
directory is there. -/
theorem walk_down_of_eq_ok (hplain : IsPlain name)
    (hnode : files.node? (name :: current) = none ∨ files.node? (name :: current) = some .directory)
    (h : files.walk .find links (files.trail current) (name :: rest) = .ok location) :
    files.node? (name :: current) = some .directory ∧
      files.walk .find links (files.trail (name :: current)) rest = .ok location := by
  cases step_of_walk_eq_ok h with
  | stay mark => exact absurd mark (not_or.2 ⟨hplain.1, hplain.2.1⟩)
  | up mark => exact absurd mark hplain.2.2
  | down looksUp node on => exact ⟨node, on⟩
  | follow target fewer looksUp bound node =>
    rw [node] at hnode
    rcases hnode with hnode | hnode <;> cases hnode
  | last looksUp node =>
    rcases node with ⟨content, hfile⟩ | ⟨hcreate, -⟩
    · rw [hfile] at hnode
      rcases hnode with hnode | hnode <;> cases hnode
    · cases hcreate

/-- A walk through a place where nothing but directories stands, there and below, ends there or
below. -/
theorem exists_below_of_walk (hplain : ∀ name ∈ first :: rest, IsPlain name)
    (hbelow : ∀ below, files.node? (below ++ first :: current) = none ∨
      files.node? (below ++ first :: current) = some .directory)
    (h : files.walk .find links (files.trail current) (first :: rest) = .ok location) :
    ∃ below, location = below ++ first :: current := by
  obtain ⟨-, hon⟩ := walk_down_of_eq_ok (hplain first List.mem_cons_self) (hbelow []) h
  -- each name goes one level down, and what is below that level is below the first place too
  induction rest generalizing first current with
  | nil =>
    rw [walk_nil, Except.ok.injEq] at hon
    exact ⟨[], hon.symm⟩
  | cons second rest ih =>
    have hrest : ∀ name ∈ second :: rest, IsPlain name := fun name hname =>
      hplain name (List.mem_cons_of_mem first hname)
    have hdeeper : ∀ below, files.node? (below ++ second :: first :: current) = none ∨
        files.node? (below ++ second :: first :: current) = some .directory := fun below => by
      simpa using hbelow (below ++ [second])
    obtain ⟨-, hmore⟩ := walk_down_of_eq_ok (hrest second List.mem_cons_self) (hdeeper []) hon
    obtain ⟨below, rfl⟩ := ih hrest hdeeper hon hmore
    exact ⟨below ++ [second], by simp⟩

/-- The segments that a path inside a directory begins with lead to that directory. -/
theorem exists_way_steps (h : files.directory? current base = some home) :
    ∃ left, Way files maxLinks (base.start current) base.steps left home := by
  obtain ⟨-, ⟨left, way⟩, -⟩ := directory?_eq_some_iff.1 h
  rcases base.segments_eq_steps with hsteps | hsteps
  · exact ⟨left, hsteps ▸ way⟩
  · -- the path ends in a slash: the empty name after it stays where it is
    have hwalk := way.walk_eq_ok
    rw [hsteps] at hwalk
    obtain ⟨left', directory, way', hend⟩ :=
      exists_way_of_walk_eq_ok hwalk (.inl (List.cons_ne_nil [] []))
    rw [walk_stay (.inl rfl), walk_nil, Except.ok.injEq] at hend
    exact ⟨left', hend ▸ way'⟩

/-- A path through a free place cannot be read. -/
theorem content_ne_ok_of_free {content : Bytes} (hhome : files.directory? current base = some home)
    (hpath : path.segments = base.steps ++ first :: rest)
    (hstart : path.start current = base.start current) (hplain : IsPlain first)
    (hfree : files.node? (first :: home) = none) : files.content current path ≠ .ok content := by
  intro h
  obtain ⟨left, way⟩ := exists_way_steps hhome
  rw [FileSystem.content, locate] at h
  cases htext : textError? path with
  | some error => simp [htext] at h
  | none =>
    cases hwalk : files.walk .find maxLinks (files.trail (path.start current)) path.segments with
    | error error => simp [htext, hwalk] at h
    | ok location =>
      rw [hpath, hstart, way.walk_append (.inl rfl)] at hwalk
      have hdirectory := (walk_down_of_eq_ok hplain (.inl hfree) hwalk).1
      rw [hfree] at hdirectory
      cases hdirectory

/-- A way through a place where nothing but directories stands, there and below, ends there or
below. -/
theorem Way.exists_below {left : Nat} (hhome : files.directory? current base = some home)
    (way : Way files maxLinks (base.start current) (base.steps ++ first :: rest) left directory)
    (hplain : ∀ name ∈ first :: rest, IsPlain name)
    (hbelow : ∀ below, files.node? (below ++ first :: home) = none ∨
      files.node? (below ++ first :: home) = some .directory) :
    ∃ below, directory = below ++ first :: home := by
  obtain ⟨left', way'⟩ := exists_way_steps hhome
  have hwalk := way.walk_eq_ok
  rw [way'.walk_append (.inl rfl)] at hwalk
  exact exists_below_of_walk hplain hbelow hwalk

end Vacancy

end EmulatorScout.FileSystem
