import EmulatorScout.FileSystem.Tree
import EmulatorScout.Proofs.FileSystem.Vacancy

/-!
# Ways in parts

A way may be gone in parts (`Way.append`, `Way.split`). In a tree it leads from directory to directory
(`Way.houses`), so a path that can be read ends in a name (`View.Sound.endsIn_of_content`). It does
without any one link, or it goes where that link leads (`Way.erase_or_follow`).

A walk that looks for something ends at the same place as long as no directory and no link is lost and
what stands at its end stays, however many more links it may follow (`Keeps.walk`). So such a change
changes nothing of what is read (`Keeps.content_eq_ok`).
-/

set_option autoImplicit false

namespace EmulatorScout

namespace FileSystem

/-! ## Walks in a file system that keeps directories and links -/

section Keeps

variable {files other : FileSystem} {links more : Nat} {current location place : Location}
  {names : List Name} {path : Path} {content : Bytes}

theorem Keeps.refl (files : FileSystem) : Keeps files files := fun _ _ node _ => node

theorem Keeps.trans {third : FileSystem} (keeps : Keeps files other) (keeps' : Keeps other third) :
    Keeps files third :=
  fun location node hnode hfile => keeps' location node (keeps location node hnode hfile) hfile

/-- Without one node a file system still keeps the directories and links that are left of another one. -/
theorem Keeps.erase (keeps : Keeps files other) (removed : Location) :
    Keeps (files.erase removed) (other.erase removed) := by
  intro location node hnode hfile
  rw [node?_erase] at hnode ⊢
  split at hnode
  · cases hnode
  · rename_i hother
    rw [if_neg hother]
    exact keeps location node hnode hfile

/-- A walk that looks for something ends where it ended, also with more links to follow, as long
as no directory and no link is lost and what stands at its end stays. -/
theorem Keeps.walk (keeps : Keeps files other)
    (hend : other.node? location = files.node? location) (hmore : links ≤ more)
    (h : files.walk .find links (files.trail current) names = .ok location) :
    other.walk .find more (other.trail current) names = .ok location := by
  have hguard : ∀ rest : List Name,
      ¬ (Purpose.find = .create ∧ rest ≠ [] ∧ rest.all (· = [])) := fun _ hall => nomatch hall.1
  -- the outer induction is on the links, the inner one on the names before the next link
  induction links using Nat.strongRecOn generalizing current names more with
  | ind links ihLinks =>
    induction names generalizing current with
    | nil =>
      rw [walk_nil] at h ⊢
      exact h
    | cons name rest ih =>
      cases step_of_walk_eq_ok h with
      | stay mark on =>
        rw [walk_stay mark]
        exact ih on
      | up mark on =>
        subst mark
        rw [walk_up]
        exact ih on
      | down looksUp node on =>
        rw [walk_lookUp looksUp (hguard rest), keeps _ _ node nofun]
        exact ih on
      | follow target left looksUp bound node on =>
        obtain ⟨fewer, rfl⟩ : ∃ fewer, more = fewer + 1 := ⟨more - 1, by omega⟩
        rw [walk_lookUp looksUp (hguard rest), keeps _ _ node nofun]
        exact ihLinks left (by omega) (by omega) on
      | last looksUp node done reached =>
        subst reached done
        rcases node with ⟨content, hfile⟩ | ⟨hcreate, -⟩
        · rw [walk_lookUp looksUp (hguard []), hend, hfile]
          rfl
        · cases hcreate

/-- Walks through the same names end at one place, however many links each may follow. -/
theorem walk_unique {links' : Nat}
    (h : files.walk .find links (files.trail current) names = .ok location)
    (h' : files.walk .find links' (files.trail current) names = .ok place) : location = place := by
  have hmost := (Keeps.refl files).walk rfl (Nat.le_max_left links links') h
  have hmost' := (Keeps.refl files).walk rfl (Nat.le_max_right links links') h'
  exact Except.ok.inj (hmost.symm.trans hmost')

/-- What can be read is the content of a file that the path leads to. -/
theorem content_eq_ok_iff :
    files.content current path = .ok content ↔
      ∃ location, files.locate .find current path = .ok location ∧
        isNameless location = false ∧ files.node? location = some (.file content) := by
  rw [FileSystem.content]
  cases hlocate : files.locate .find current path with
  | error error => simp
  | ok location =>
    by_cases hdirectory : files.isDirectoryAt location = true
    · have hnone : isNameless location = false → files.node? location ≠ some (.file content) := by
        intro hnamed hfile
        rw [isDirectoryAt_iff, hnamed, hfile] at hdirectory
        simp at hdirectory
      simpa [hdirectory] using hnone
    · have hnamed : isNameless location = false := by
        rw [isDirectoryAt_iff] at hdirectory
        simpa using fun h => hdirectory (.inl h)
      simp only [hdirectory, Bool.false_eq_true, if_false, Except.ok.injEq, exists_eq_left', hnamed,
        true_and]
      cases files.node? location with
      | none => simp
      | some node => cases node <;> simp

/-- What is read stays the same as long as no directory and no link is lost and the file that was
read stays. -/
theorem Keeps.content_eq_ok (keeps : Keeps files other)
    (hlocate : files.locate .find current path = .ok location)
    (hend : other.node? location = files.node? location)
    (h : files.content current path = .ok content) : other.content current path = .ok content := by
  obtain ⟨location', hlocate', hnamed, hfile⟩ := content_eq_ok_iff.1 h
  obtain rfl := Except.ok.inj (hlocate.symm.trans hlocate')
  refine content_eq_ok_iff.2 ⟨location, ?_, hnamed, hend.trans hfile⟩
  rw [locate] at hlocate ⊢
  cases htext : textError? path with
  | some error => simp [htext] at hlocate
  | none =>
    simp only [htext] at hlocate ⊢
    exact keeps.walk hend (Nat.le_refl _) hlocate

end Keeps

/-! ## Ways -/

section Way

variable {files : FileSystem} {links left left' : Nat} {current place location : Location}
  {names more : List Name}

theorem Way.append (way : Way files links current names left place)
    (way' : Way files left place more left' location) :
    Way files links current (names ++ more) left' location := by
  induction way with
  | here => exact way'
  | stay mark on ih => exact .stay mark (ih way')
  | up on ih => exact .up (ih way')
  | down looksUp node on ih => exact .down looksUp node (ih way')
  | follow looksUp node on ih =>
    have hon := ih way'
    rw [List.append_assoc] at hon
    exact .follow looksUp node hon

/-- A way may be gone in two parts. -/
theorem Way.split (way : Way files links current (names ++ more) left location) :
    ∃ middle place, Way files links current names middle place ∧
      Way files middle place more left location := by
  generalize hall : names ++ more = all at way
  -- the induction is on the way; the text of a link comes before the rest of the first part
  induction way generalizing names with
  | here links current =>
    obtain ⟨rfl, rfl⟩ := List.append_eq_nil_iff.1 hall
    exact ⟨links, current, .here links current, .here links current⟩
  | stay mark on ih =>
    rcases List.append_eq_cons_iff.1 hall with ⟨rfl, rfl⟩ | ⟨rest, rfl, rfl⟩
    · exact ⟨_, _, .here _ _, .stay mark on⟩
    · obtain ⟨middle, place, way, way'⟩ := ih rfl
      exact ⟨middle, place, .stay mark way, way'⟩
  | up on ih =>
    rcases List.append_eq_cons_iff.1 hall with ⟨rfl, rfl⟩ | ⟨rest, rfl, rfl⟩
    · exact ⟨_, _, .here _ _, .up on⟩
    · obtain ⟨middle, place, way, way'⟩ := ih rfl
      exact ⟨middle, place, .up way, way'⟩
  | down looksUp node on ih =>
    rcases List.append_eq_cons_iff.1 hall with ⟨rfl, rfl⟩ | ⟨rest, rfl, rfl⟩
    · exact ⟨_, _, .here _ _, .down looksUp node on⟩
    · obtain ⟨middle, place, way, way'⟩ := ih rfl
      exact ⟨middle, place, .down looksUp node way, way'⟩
  | follow looksUp node on ih =>
    rcases List.append_eq_cons_iff.1 hall with ⟨rfl, rfl⟩ | ⟨rest, rfl, rfl⟩
    · exact ⟨_, _, .here _ _, .follow looksUp node on⟩
    · obtain ⟨middle, place, way, way'⟩ := ih (List.append_assoc _ _ _)
      exact ⟨middle, place, .follow looksUp node way, way'⟩

/-- A way does without a link, or it goes where the link leads. -/
theorem Way.erase_or_follow {name : Name} {directory : Location} {link : Path}
    (hlink : files.node? (name :: directory) = some (.link link))
    (way : Way files links current names left location) :
    Way (files.erase (name :: directory)) links current names left location ∨
      ∃ links left place,
        Way files links (link.start directory) link.segments left place := by
  have hother : ∀ place, place ≠ name :: directory →
      (files.erase (name :: directory)).node? place = files.node? place := fun place hne => by
    rw [node?_erase, if_neg fun hboth => hne hboth.1]
  induction way with
  | here links current => exact .inl (.here links current)
  | stay mark on ih => exact ih.imp_left (.stay mark)
  | up on ih => exact ih.imp_left .up
  | down looksUp node on ih =>
    refine ih.imp_left (.down looksUp ?_)
    rw [hother _ fun hplace => ?_, node]
    rw [hplace, hlink] at node
    cases node
  | follow looksUp node on ih =>
    rename_i links left current location name' rest target
    by_cases hplace : name' :: current = name :: directory
    · obtain ⟨rfl, rfl⟩ := List.cons.inj hplace
      obtain rfl : target = link := by
        rw [hlink] at node
        cases node
        rfl
      obtain ⟨middle, place, way, -⟩ := on.split
      exact .inr ⟨_, _, _, way⟩
    · refine ih.imp_left (.follow looksUp ?_)
      rw [hother _ hplace, node]

/-- Whether a process can be at a location: a directory stands there, or one stood there that has lost
its name and the one above it is still there. -/
def Houses (files : FileSystem) (location : Location) : Prop :=
  files.node? location = some .directory ∨
    (isNameless location = true ∧ files.node? location.tail = some .directory)

theorem Houses.isDirectoryAt (h : files.Houses location) : files.isDirectoryAt location = true :=
  isDirectoryAt_iff.2 (h.elim .inr fun hnameless => .inl hnameless.1)

theorem Houses.mono {other : FileSystem} (keeps : Keeps files other) (h : files.Houses location) :
    other.Houses location :=
  h.imp (fun node => keeps _ _ node nofun) fun hnameless =>
    ⟨hnameless.1, keeps _ _ hnameless.2 nofun⟩

/-- Where a file stands no process can be. -/
theorem not_houses_of_file {content : Bytes} (hnamed : isNameless location = false)
    (hfile : files.node? location = some (.file content)) : ¬ files.Houses location := by
  rintro (hdirectory | ⟨hnameless, -⟩)
  · rw [hdirectory] at hfile
    cases hfile
  · rw [hnamed] at hnameless
    cases hnameless

theorem Houses.start (h : files.Houses location) (path : Path) :
    files.Houses (path.start location) := by
  rw [Path.start]
  split
  · exact .inl (node?_nil files)
  · exact h

theorem Houses.up (tree : files.IsTree) (h : files.Houses location) :
    files.Houses location.tail := by
  rcases h with hdirectory | ⟨-, habove⟩
  · cases location with
    | nil => exact .inl hdirectory
    | cons name directory => exact .inl (tree name directory (by rw [hdirectory]; rfl))
  · exact .inl habove

/-- In a tree a way leads from directory to directory. -/
theorem Way.houses (tree : files.IsTree) (way : Way files links current names left location)
    (h : files.Houses current) : files.Houses location := by
  induction way with
  | here => exact h
  | stay mark on ih => exact ih h
  | up on ih => exact ih (h.up tree)
  | down looksUp node on ih => exact ih (.inl node)
  | follow looksUp node on ih => exact ih (h.start _)

/-- A walk in a tree ends where a process can be, at a file, or at a free name if it may create
one. -/
theorem end_of_walk (tree : files.IsTree) (houses : files.Houses current) {purpose : Purpose}
    (h : files.walk purpose links (files.trail current) names = .ok location) :
    files.Houses location ∨ (∃ content, files.node? location = some (.file content)) ∨
      (purpose = .create ∧ files.node? location = none) := by
  -- the outer induction is on the links, the inner one on the names before the next link
  induction links using Nat.strongRecOn generalizing current names with
  | ind links ihLinks =>
    induction names generalizing current with
    | nil =>
      rw [walk_nil, Except.ok.injEq] at h
      exact .inl (h ▸ houses)
    | cons name rest ih =>
      cases step_of_walk_eq_ok h with
      | stay mark on => exact ih houses on
      | up mark on => exact ih (houses.up tree) on
      | down looksUp node on => exact ih (.inl node) on
      | follow target left looksUp bound node on =>
        exact ihLinks left (by omega) (houses.start target) on
      | last looksUp node done reached =>
        rw [reached]
        exact .inr node

end Way

end FileSystem

open FileSystem

/-! ## What a process sees -/

namespace View

/-- What holds of every view of a process: each node stands in a directory, and so does the process,
whose directory may have lost its name. -/
structure Sound (view : View) : Prop where
  /-- Each node stands in a directory. -/
  tree : view.files.IsTree
  /-- The process is where a process can be. -/
  houses : view.files.Houses view.current

section View

variable {view : View} {path : Path} {above : List Name} {name : Name} {place : Location}
  {content : Bytes}

theorem named?_eq_some :
    view.named? path = some place ↔ ∃ directory last slashed,
      view.files.locateLast view.current path = .ok (directory, .name last slashed) ∧
        last :: directory = place := by
  rw [named?]
  constructor
  · split
    · rename_i directory last slashed hlast
      intro h
      exact ⟨directory, last, slashed, hlast, Option.some.inj h⟩
    · exact nofun
  · rintro ⟨directory, last, slashed, hlast, rfl⟩
    rw [hlast]

/-- The location that a path names stands in the directory that the names above the last one lead
to. -/
theorem named?_eq_some_iff (h : path.EndsIn above name) :
    view.named? path = some place ↔
      textError? path = none ∧ ∃ directory, place = name :: directory ∧
        isNameless directory = false ∧
        ∃ left, Way view.files maxLinks (path.start view.current) above left directory := by
  rw [named?_eq_some]
  constructor
  · rintro ⟨directory, last, slashed, hlast, rfl⟩
    obtain ⟨htext, -, -, hnameless, rest, left, hdrop, way⟩ := locateLast_eq_name_iff.1 hlast
    rw [h.dropWhile_eq] at hdrop
    obtain ⟨rfl, rfl⟩ := List.cons.inj hdrop
    rw [List.reverse_reverse] at way
    exact ⟨htext, directory, rfl, hnameless, left, way⟩
  · rintro ⟨htext, directory, rfl, hnameless, left, way⟩
    exact ⟨directory, name, _, locateLast_eq_name_iff.2 ⟨htext, rfl, ⟨h.ne_dot, h.ne_dotDot⟩,
      hnameless, above.reverse, left, h.dropWhile_eq, by rwa [List.reverse_reverse]⟩, rfl⟩

/-- A path that can be read ends in a name: anything else leads to a directory. -/
theorem Sound.endsIn_of_content (sound : view.Sound) (h : view.content path = .ok content) :
    ∃ above name, path.EndsIn above name := by
  obtain ⟨location, hlocate, hnamed, hfile⟩ := content_eq_ok_iff.1 h
  have hdirectory := not_houses_of_file hnamed hfile
  rw [locate] at hlocate
  cases htext : textError? path with
  | some error => simp [htext] at hlocate
  | none =>
    obtain ⟨above, name, hsegments⟩ : ∃ above name, path.segments = above ++ [name] := by
      rcases List.eq_nil_or_concat path.segments with hnil | ⟨above, name, hconcat⟩
      · exact absurd hnil (List.splitOn_ne_nil slash path.bytes)
      · exact ⟨above, name, hconcat.trans (List.concat_eq_append ..)⟩
    simp only [htext, hsegments] at hlocate
    obtain ⟨left, directory, way, hwalk⟩ :=
      exists_way_of_walk_eq_ok hlocate (.inl (List.cons_ne_nil name []))
    have hhouses := way.houses sound.tree (sound.houses.start path)
    -- each of the three marks leads from a directory to a directory
    have hstay : ¬ (name = [] ∨ name = dotName) := by
      intro hmark
      rw [walk_stay hmark, walk_nil, Except.ok.injEq] at hwalk
      exact hdirectory (hwalk ▸ hhouses)
    refine ⟨above, name, hsegments, fun hnil => hstay (.inl hnil), fun hdot => hstay (.inr hdot),
      ?_⟩
    rintro rfl
    rw [walk_up, walk_nil, Except.ok.injEq] at hwalk
    exact hdirectory (hwalk ▸ hhouses.up sound.tree)

/-- The name that a path which can be read ends in is looked up in a directory. -/
theorem Sound.exists_looksUpIn_of_content (sound : view.Sound) (h : view.content path = .ok content) :
    ∃ above name directory, path.EndsIn above name ∧
      LooksUpIn view.files view.current path above name directory := by
  obtain ⟨above, name, hends⟩ := sound.endsIn_of_content h
  obtain ⟨location, hlocate, -, -⟩ := content_eq_ok_iff.1 h
  obtain ⟨-, directory, hin, -⟩ := exists_looksUpIn_of_locate hends hlocate
  exact ⟨above, name, directory, hends, hin⟩

end View

end View

end EmulatorScout
