import EmulatorScout.Proofs.FileSystem.Growth
import EmulatorScout.Proofs.Path

/-!
# Replacing a file as a whole

What a replacement that went well has done (`AtomicWrite.replaced_of_write`): the target is a file
with the new content, nothing stands under the name of the temporary file, and everything else is as
the first stage left it. A file that stands where the last name of a path is looked up is what the
path leads to (`LooksUpIn.content_eq`).
-/

set_option autoImplicit false

namespace EmulatorScout

namespace FileSystem

/-! ## The directory of a last name -/

/-- The last name of a path is looked up in the given directory. -/
structure LooksUpIn (files : FileSystem) (current : Location) (path : Path) (above : List Name)
    (name : Name) (directory : Location) : Prop where
  /-- The text of the path can be asked for. -/
  text : textError? path = none
  /-- The names above the last one lead to the directory. -/
  way : ∃ left, Way files maxLinks (path.start current) above left directory
  /-- The last name is one that is looked up there. -/
  looksUp : LooksUp directory name

section LastName

variable {files other after : FileSystem} {current directory location : Location} {path : Path}
  {above : List Name} {name : Name} {content : Bytes}

/-- Paths with the same segments above their last ones begin at the same place. -/
theorem start_eq_of_segments {twin : Path} {twinName : Name} (h : path.EndsIn above name)
    (h' : twin.segments = above ++ [twinName]) (hne : twinName ≠ []) :
    twin.start current = path.start current := by
  have hsame : twin.isAbsolute = path.isAbsolute :=
    Bool.eq_iff_iff.2 ((Path.isAbsolute_iff_of_segments h' hne).trans h.isAbsolute_iff.symm)
  rw [Path.start, Path.start, hsame]

theorem start_eq_of_endsIn {twin : Path} {twinName : Name} (h : path.EndsIn above name)
    (h' : twin.EndsIn above twinName) : twin.start current = path.start current :=
  start_eq_of_segments h h'.segments_eq h'.ne_nil

/-- A node other than a file does not stand where there is neither a directory nor a link. -/
theorem ne_of_node?_eq_some {place : Location} {node : Node}
    (hnode : files.node? place = some node) (hfile : ∀ content, node ≠ .file content)
    (hdirectory : files.node? location ≠ some .directory)
    (hlink : ∀ target, files.node? location ≠ some (.link target)) : place ≠ location := by
  rintro rfl
  cases node with
  | directory => exact hdirectory hnode
  | link target => exact hlink target hnode
  | file old => exact hfile old rfl

theorem keeps_insert_file (hdirectory : files.node? location ≠ some .directory)
    (hlink : ∀ target, files.node? location ≠ some (.link target)) :
    Keeps files (files.insert location (.file content)) := by
  intro place node hnode hfile
  have hother := ne_of_node?_eq_some hnode hfile hdirectory hlink
  rw [node?_insert, if_neg fun hboth => hother hboth.1]
  exact hnode

/-- The directory of a last name stays the same as long as no directory and no link is lost. -/
theorem LooksUpIn.mono (keeps : Keeps files other)
    (h : LooksUpIn files current path above name directory) :
    LooksUpIn other current path above name directory := by
  obtain ⟨left, way⟩ := h.way
  exact ⟨h.text, ⟨left, way.mono keeps⟩, h.looksUp⟩

/-- Names lead to one directory. -/
theorem Way.unique {links left left' : Nat} {names : List Name} {directory' : Location}
    (way : Way files links current names left directory)
    (way' : Way files links current names left' directory') : directory = directory' :=
  Except.ok.inj (way.walk_eq_ok.symm.trans way'.walk_eq_ok)

/-- Names beside one another are looked up in one directory. -/
theorem LooksUpIn.unique {twin : Path} {twinName : Name} {directory' : Location}
    (h : path.EndsIn above name) (h' : twin.EndsIn above twinName)
    (hin : LooksUpIn files current path above name directory)
    (hin' : LooksUpIn files current twin above twinName directory') : directory = directory' := by
  obtain ⟨left, way⟩ := hin.way
  obtain ⟨left', way'⟩ := hin'.way
  rw [start_eq_of_endsIn h h'] at way'
  exact way.unique way'

/-- A file under the last name of a path is what the path leads to. -/
theorem LooksUpIn.content_eq (h : path.EndsIn above name)
    (hin : LooksUpIn files current path above name directory)
    (hnode : files.node? (name :: directory) = some (.file content)) :
    files.content current path = .ok content := by
  obtain ⟨left, way⟩ := hin.way
  have hlocate : files.locate .find current path = .ok (name :: directory) := by
    rw [locate, hin.text, h.segments_eq]
    change files.walk .find maxLinks (files.trail (path.start current)) (above ++ [name]) = _
    rw [way.walk_append (.inl rfl), walk_lookUp hin.looksUp (by simp), hnode]
    rfl
  have hfile : ¬ files.isDirectoryAt (name :: directory) = true := by
    rw [isDirectoryAt_cons h.ne_nil, hnode]
    intro hdirectory
    cases hdirectory
  simp [FileSystem.content, hlocate, hfile, hnode]

/-- A path that leads anywhere has a last name that is looked up in a directory. -/
theorem exists_looksUpIn_of_locate {purpose : Purpose} (h : path.EndsIn above name)
    (hlocate : files.locate purpose current path = .ok location) :
    ∃ left directory, LooksUpIn files current path above name directory ∧
      files.walk purpose left (files.trail directory) [name] = .ok location := by
  rw [locate] at hlocate
  cases htext : textError? path with
  | some error => simp [htext] at hlocate
  | none =>
    simp only [htext, h.segments_eq] at hlocate
    obtain ⟨left, directory, way, hwalk⟩ :=
      exists_way_of_walk_eq_ok hlocate (.inl (List.cons_ne_nil name []))
    have hlooksUp : LooksUp directory name := by
      cases step_of_walk_eq_ok hwalk with
      | stay mark => exact absurd mark (not_or.2 ⟨h.ne_nil, h.ne_dot⟩)
      | up mark => exact absurd mark h.ne_dotDot
      | down looksUp => exact looksUp
      | follow target fewer looksUp => exact looksUp
      | last looksUp => exact looksUp
    exact ⟨left, directory, ⟨htext, ⟨left, way⟩, hlooksUp⟩, hwalk⟩

/-- What writing a file does, unless a link stands under the name. -/
theorem writeFile_eq_ok (h : path.EndsIn above name)
    (hwrite : files.writeFile current path content = .ok after) :
    ∃ directory, LooksUpIn files current path above name directory ∧
      ((∀ target, files.node? (name :: directory) ≠ some (.link target)) →
        files.node? (name :: directory) ≠ some .directory ∧
          after = files.insert (name :: directory) (.file content)) := by
  rw [writeFile] at hwrite
  cases hlocate : files.locate .create current path with
  | error error => simp [hlocate] at hwrite
  | ok location =>
    obtain ⟨left, directory, hin, hwalk⟩ := exists_looksUpIn_of_locate h hlocate
    refine ⟨directory, hin, ?_⟩
    intro hlink
    have hguard : ¬ (Purpose.create = .create ∧ ([] : List Name) ≠ [] ∧
        ([] : List Name).all (· = [])) := by simp
    rw [walk_lookUp hin.looksUp hguard] at hwalk
    -- without a link the walk ends at the name itself, whatever stands under it
    have hreached : location = name :: directory := by
      cases hnode : files.node? (name :: directory) with
      | none => simpa [hnode, eq_comm] using hwalk
      | some node =>
        cases node with
        | directory => simpa [hnode, eq_comm] using hwalk
        | file content => simpa [hnode, eq_comm] using hwalk
        | link target => exact absurd hnode (hlink target)
    subst hreached
    simp only [hlocate] at hwrite
    split at hwrite
    · cases hwrite
    · rename_i hdirectory
      rw [isDirectoryAt_cons h.ne_nil] at hdirectory
      exact ⟨hdirectory, (Except.ok.inj hwrite).symm⟩

/-- A path names a location with its last name if the names above it lead to a directory that has
not lost its own. -/
theorem locateLast_eq_name_iff {slashed : Bool} :
    files.locateLast current path = .ok (directory, .name name slashed) ↔
      textError? path = none ∧ slashed = decide (path.bytes.getLast? = some slash) ∧
        (name ≠ dotName ∧ name ≠ dotDotName) ∧ isNameless directory = false ∧
        ∃ above left, path.segments.reverse.dropWhile (· = []) = name :: above ∧
          Way files maxLinks (path.start current) above.reverse left directory := by
  rw [locateLast]
  cases htext : textError? path with
  | some error => simp
  | none =>
    cases hlast : path.segments.reverse.dropWhile (· = []) with
    | nil => simp
    | cons last rest =>
      simp only [true_and, List.cons.injEq]
      constructor
      · cases hwalk : files.walk .find maxLinks (files.trail (path.start current))
            (rest.reverse ++ [[]]) with
        | error error => exact nofun
        | ok reached =>
          intro h
          by_cases hmark : last = dotName ∨ last = dotDotName
          · simp [if_pos hmark] at h
          by_cases hnameless : isNameless reached = true
          · simp [if_neg hmark, hnameless] at h
          simp only [if_neg hmark, if_neg hnameless, Except.ok.injEq, Prod.mk.injEq,
            LastName.name.injEq] at h
          obtain ⟨rfl, rfl, hslashed⟩ := h
          -- the walk to the directory ends in a slash, and the empty name after it stays
          obtain ⟨left, place, way, hend⟩ :=
            exists_way_of_walk_eq_ok hwalk (.inl (List.cons_ne_nil [] []))
          rw [walk_stay (.inl rfl), walk_nil, Except.ok.injEq] at hend
          subst hend
          exact ⟨hslashed.symm, not_or.1 hmark, by simpa using hnameless, rest, left, ⟨rfl, rfl⟩, way⟩
      · rintro ⟨rfl, hmarks, hnamed, above, left, ⟨rfl, rfl⟩, way⟩
        have hwalk : files.walk .find maxLinks (files.trail (path.start current))
            (rest.reverse ++ [[]]) = .ok directory := by
          rw [way.walk_append (.inl rfl), walk_stay (.inl rfl), walk_nil]
        simp only [hwalk, if_neg (not_or.2 hmarks), hnamed, Bool.false_eq_true, if_false]

/-- A last name that stands in a directory is found there, if it is short enough to be looked up. -/
theorem looksUpIn_of_locateLast {slashed : Bool} {last : Name} (h : path.EndsIn above name)
    (hlocate : files.locateLast current path = .ok (directory, .name last slashed)) :
    last = name ∧ (name.length ≤ maxName → LooksUpIn files current path above name directory) := by
  obtain ⟨htext, -, -, hnamed, rest, left, hlast, way⟩ := locateLast_eq_name_iff.1 hlocate
  rw [h.dropWhile_eq] at hlast
  obtain ⟨rfl, rfl⟩ := List.cons.inj hlast
  rw [List.reverse_reverse] at way
  exact ⟨rfl, fun hshort => ⟨htext, ⟨left, way⟩, h.ne_nil, h.ne_dot, h.ne_dotDot, hnamed, hshort⟩⟩

/-- What a renaming that goes well finds: two last names, and a node under the one. A slash after
either is for a directory. -/
theorem exists_names_of_rename {source target : Path}
    (h : files.rename current source target = .ok after) :
    ∃ directory name slashed directory' name' slashed' node,
      files.locateLast current source = .ok (directory, .name name slashed) ∧
      files.locateLast current target = .ok (directory', .name name' slashed') ∧
      name.length ≤ maxName ∧ name'.length ≤ maxName ∧
      files.node? (name :: directory) = some node ∧
      (node ≠ .directory → slashed = false ∧ slashed' = false) ∧
      files.move (name :: directory) (name' :: directory') node = .ok after := by
  rw [rename] at h
  cases hfrom : files.locateLast current source with
  | error error => simp [hfrom] at h
  | ok found =>
    cases hto : files.locateLast current target with
    | error error => simp [hfrom, hto] at h
    | ok found' =>
      obtain ⟨directory, last⟩ := found
      obtain ⟨directory', last'⟩ := found'
      cases last with
      | fixed => simp [hfrom, hto] at h
      | name name slashed =>
        cases last' with
        | fixed => simp [hfrom, hto] at h
        | name name' slashed' =>
          simp only [hfrom, hto] at h
          by_cases hshort : maxName < name.length
          · simp [hshort] at h
          rw [if_neg hshort] at h
          cases hnode : files.node? (name :: directory) with
          | none => simp [hnode] at h
          | some node =>
            simp only [hnode] at h
            by_cases hshort' : maxName < name'.length
            · simp [hshort'] at h
            rw [if_neg hshort'] at h
            split at h
            · cases h
            rename_i hslashes
            -- two refusals are left, for directories inside one another
            split at h
            · cases h
            split at h
            · cases h
            refine ⟨directory, name, slashed, directory', name', slashed', node, rfl, rfl,
              Nat.not_lt.1 hshort, Nat.not_lt.1 hshort', hnode, fun hnot => ?_, h⟩
            simpa [hnot] using hslashes

/-- What renaming does to a name beside another one: it moves the node under the one to the
other. -/
theorem rename_eq_ok {twin : Path} {twinName : Name} (h : path.EndsIn above name)
    (h' : twin.EndsIn above twinName) (hrename : files.rename current path twin = .ok after) :
    ∃ directory node, LooksUpIn files current path above name directory ∧
      LooksUpIn files current twin above twinName directory ∧
      files.node? (name :: directory) = some node ∧
      files.move (name :: directory) (twinName :: directory) node = .ok after := by
  obtain ⟨directory, last, slashed, directory', last', slashed', node, hfrom, hto, hshort, hshort',
    hnode, -, hmove⟩ := exists_names_of_rename hrename
  obtain ⟨rfl, hin⟩ := looksUpIn_of_locateLast h hfrom
  obtain ⟨rfl, hin'⟩ := looksUpIn_of_locateLast h' hto
  -- both names are looked up in the directory that the names above them lead to
  obtain rfl := (hin hshort).unique h h' (hin' hshort')
  exact ⟨directory, node, hin hshort, hin' hshort', hnode, hmove⟩

/-- What is no directory does not take the place of one. -/
theorem ne_directory_of_move {source target : Location} {node : Node} (hne : source ≠ target)
    (hnode : node ≠ .directory) (hmove : files.move source target node = .ok after) :
    files.node? target ≠ some .directory := by
  intro hdirectory
  rw [move.eq_def, if_neg hne, hdirectory] at hmove
  cases node with
  | directory => exact hnode rfl
  | file content | link link => cases hmove

/-- A file takes another name unless that is the name of a directory. -/
theorem move_file_eq_ok {source target : Location} (hne : source ≠ target)
    (hmove : files.move source target (.file content) = .ok after) :
    files.node? target ≠ some .directory ∧
      after = (files.erase source).insert target (.file content) := by
  rw [move.eq_def, if_neg hne] at hmove
  cases hnode : files.node? target with
  | none =>
    rw [hnode] at hmove
    exact ⟨nofun, (Except.ok.inj hmove).symm⟩
  | some node =>
    rw [hnode] at hmove
    cases node with
    | directory => cases hmove
    | file old => exact ⟨nofun, (Except.ok.inj hmove).symm⟩
    | link target => exact ⟨nofun, (Except.ok.inj hmove).symm⟩

end LastName

end FileSystem

/-! ## Replacing a file -/

namespace AtomicWrite

open FileSystem

/-- What a replacement that went well has done, seen from the file system with the directories above
the target. -/
structure Replaced (before after : FileSystem) (directory : Location) (name temporaryName : Name)
    (content : Bytes) : Prop where
  /-- The target is a file with the new content. -/
  target_node : after.node? (name :: directory) = some (.file content)
  /-- Nothing stands under the name of the temporary file. -/
  temporary_node : after.node? (temporaryName :: directory) = none
  /-- All else is as it was. -/
  others : ∀ location, location ≠ name :: directory → location ≠ temporaryName :: directory →
    after.node? location = before.node? location
  /-- The target was no directory. -/
  target_before : before.node? (name :: directory) ≠ some .directory
  /-- Under the name of the temporary file there was no directory. -/
  temporary_before : before.node? (temporaryName :: directory) ≠ some .directory

section Replaced

variable {files : FileSystem} {current : Location} {target : Path} {above : List Name}
  {name temporaryName : Name} {content : Bytes}

/-- What a replacement that went well has done: the target is a file with the new content,
nothing stands under the name of the temporary file, and all else is as the first stage left it. A
link under the name of the temporary file would be followed and moved. -/
theorem replaced_of_write (h : target.EndsIn above name)
    (h' : (temporary target).EndsIn above temporaryName) (hne : temporaryName ≠ name)
    (hlink : ∀ directory, (∃ left, Way (ensureParents current files target).files maxLinks
        (target.start current) above left directory) → ∀ link,
      (ensureParents current files target).files.node? (temporaryName :: directory)
        ≠ some (.link link))
    (hwrite : (write current files target content).failure? = none) :
    ∃ directory,
      LooksUpIn (ensureParents current files target).files current target above name directory ∧
      LooksUpIn (ensureParents current files target).files current (temporary target) above
        temporaryName directory ∧
      Replaced (ensureParents current files target).files (write current files target content).files
        directory name temporaryName content := by
  obtain ⟨hmiddle, hrename⟩ := Attempt.perform_of_failure?_eq_none hwrite
  obtain ⟨-, hcreate⟩ := Attempt.perform_of_failure?_eq_none hmiddle
  change _ = Except.ok (write current files target content).files at hrename
  generalize (ensureParents current files target).perform current
    (.writeFile (temporary target) content) = middle at hmiddle hcreate hrename
  generalize (ensureParents current files target).files = parents at *
  generalize (write current files target content).files = after at *
  -- the write makes the temporary file beside the target, since no link is in the way
  obtain ⟨directory, hin, hwritten⟩ := writeFile_eq_ok h' hcreate
  obtain ⟨left, way⟩ := hin.way
  rw [start_eq_of_endsIn h h'] at way
  obtain ⟨hfree, hmade⟩ := hwritten (hlink directory ⟨left, way⟩)
  have keeps : Keeps parents middle.files := by
    rw [hmade]
    exact keeps_insert_file hfree (hlink directory ⟨left, way⟩)
  -- the renaming finds that file in the same directory
  obtain ⟨directory', node, hfrom, hto, hnode, hmove⟩ := rename_eq_ok h' h hrename
  obtain rfl := (hin.mono keeps).unique h' h' hfrom
  have hplaces : name :: directory ≠ temporaryName :: directory := fun heq =>
    hne (List.cons.inj heq).1.symm
  have hfile : node = .file content := by
    rw [hmade, node?_insert, if_pos ⟨rfl, List.cons_ne_nil _ _⟩] at hnode
    exact (Option.some.inj hnode).symm
  subst hfile
  obtain ⟨htarget, hafter⟩ := move_file_eq_ok hplaces.symm hmove
  -- between the two steps only the temporary file is new
  have hmiddleNode : ∀ location, location ≠ temporaryName :: directory →
      middle.files.node? location = parents.node? location := by
    intro location hother
    rw [hmade, node?_insert, if_neg fun hboth => hother hboth.1]
  refine ⟨directory, ⟨hto.text, ⟨left, way⟩, hto.looksUp⟩, hin, ?_, ?_, ?_, ?_, hfree⟩
  · rw [hafter, node?_insert, if_pos ⟨rfl, List.cons_ne_nil _ _⟩]
  · rw [hafter, node?_insert, if_neg fun hboth => hplaces hboth.1.symm, node?_erase,
      if_pos ⟨rfl, List.cons_ne_nil _ _⟩]
  · intro location hname htemporary
    rw [hafter, node?_insert, if_neg fun hboth => hname hboth.1, node?_erase,
      if_neg fun hboth => htemporary hboth.1, hmiddleNode location htemporary]
  · rw [← hmiddleNode _ hplaces]
    exact htarget

/-- A replacement keeps every directory, and every link but one that the target was. -/
theorem Replaced.keeps {before after : FileSystem} {directory : Location}
    (h : Replaced before after directory name temporaryName content)
    (htarget : ∀ link, before.node? (name :: directory) ≠ some (.link link))
    (htemporary : ∀ link, before.node? (temporaryName :: directory) ≠ some (.link link)) :
    Keeps before after := by
  intro location node hnode hfile
  rw [h.others location (ne_of_node?_eq_some hnode hfile h.target_before htarget)
    (ne_of_node?_eq_some hnode hfile h.temporary_before htemporary)]
  exact hnode

end Replaced

end AtomicWrite

end EmulatorScout
