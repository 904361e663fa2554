import EmulatorScout.Proofs.FileSystem.AllOrNothing

/-!
# Replacements that fail

A replacement that fails leaves what can be read at its target as it is, wherever the replacement
stops and whatever is at the temporary path (`AtomicWrite.content_of_failed_write`). A link there does
no harm: where the write through it succeeds the renaming does too, for both names stand in one
directory and neither is that of a directory (`FileSystem.exists_rename_of_looksUpIn`). All that this
needs of the target is a place that a file can take (`View.TakesFile`), and a target that can be read
has one. So a replacement of a file that can be read fails before it has touched any content
(`AtomicWrite.write_cases` tells where it may stop).
-/

set_option autoImplicit false

namespace EmulatorScout

open FileSystem

namespace Path

theorem EndsIn.getLast?_ne {path : Path} {above : List Name} {name : Name}
    (h : path.EndsIn above name) : path.bytes.getLast? ≠ some slash := by
  obtain ⟨last, hlast⟩ : ∃ last, name.getLast? = some last :=
    ⟨_, List.getLast?_eq_some_getLast h.ne_nil⟩
  rw [bytes_eq_flatMap h.segments_eq, List.getLast?_append, hlast, Option.some_or]
  intro heq
  rw [Option.some.inj heq] at hlast
  exact h.slash_notMem.2 (List.mem_of_getLast? hlast)

end Path

namespace FileSystem

section Rename

variable {files : FileSystem} {current directory : Location} {path twin : Path} {above : List Name}
  {name twinName : Name}

theorem locateLast_of_looksUpIn (h : path.EndsIn above name)
    (hin : LooksUpIn files current path above name directory) :
    files.locateLast current path = .ok (directory, .name name false) := by
  obtain ⟨left, way⟩ := hin.way
  have hslashed : false = decide (path.bytes.getLast? = some slash) :=
    (decide_eq_false h.getLast?_ne).symm
  refine locateLast_eq_name_iff.2 ⟨hin.text, hslashed, ⟨h.ne_dot, h.ne_dotDot⟩, hin.looksUp.named,
    above.reverse, left, h.dropWhile_eq, ?_⟩
  rwa [List.reverse_reverse]

/-- A file or a link can take the name of another one beside it. -/
theorem exists_rename_of_looksUpIn (h : path.EndsIn above name) (h' : twin.EndsIn above twinName)
    (hne : name ≠ twinName) (hin : LooksUpIn files current path above name directory)
    (hin' : LooksUpIn files current twin above twinName directory) {node : Node}
    (hnode : files.node? (name :: directory) = some node) (hfile : node ≠ .directory)
    (hfree : files.node? (twinName :: directory) ≠ some .directory) :
    ∃ after, files.rename current path twin = .ok after := by
  have hapart : ∀ last : Name, (last :: directory).isSuffixOf directory = false := by
    intro last
    rw [Bool.eq_false_iff, ne_eq, List.isSuffixOf_iff_suffix]
    intro hsuffix
    exact absurd hsuffix.length_le (by simp)
  have hplaces : name :: directory ≠ twinName :: directory := fun heq =>
    hne (List.cons.inj heq).1
  rw [rename, locateLast_of_looksUpIn h hin, locateLast_of_looksUpIn h' hin']
  simp only [if_neg (Nat.not_lt.2 hin.looksUp.short), if_neg (Nat.not_lt.2 hin'.looksUp.short), hnode,
    hapart, Bool.or_self, Bool.false_eq_true, and_false, if_false]
  rw [move.eq_def, if_neg hplaces]
  -- what is moved is no directory, and neither is what it takes the place of
  cases node with
  | directory => exact absurd rfl hfile
  | file content | link target =>
    cases htwin : files.node? (twinName :: directory) with
    | none => exact ⟨_, rfl⟩
    | some other =>
      cases other with
      | directory => exact absurd htwin hfree
      | file content | link target => exact ⟨_, rfl⟩

end Rename

end FileSystem

namespace View

/-- A path names a place that a file can take: its last name is short enough, no slash follows it, and
no directory stands there. -/
def TakesFile (view : View) (path : Path) : Prop :=
  ∃ directory name, view.files.locateLast view.current path = .ok (directory, .name name false) ∧
    name.length ≤ maxName ∧ view.files.node? (name :: directory) ≠ some .directory

/-- What there is against a file at the last name of a path: a slash after it, its length, or a
directory. -/
theorem takesFile_iff_of_locateLast {view : View} {path : Path} {directory : Location} {name : Name}
    {slashed : Bool}
    (h : view.files.locateLast view.current path = .ok (directory, .name name slashed)) :
    view.TakesFile path ↔ slashed = false ∧ name.length ≤ maxName ∧
      view.files.node? (name :: directory) ≠ some .directory := by
  constructor
  · rintro ⟨place, last, hlast, hshort, hfree⟩
    rw [h, Except.ok.injEq, Prod.mk.injEq, LastName.name.injEq] at hlast
    obtain ⟨rfl, rfl, rfl⟩ := hlast
    exact ⟨rfl, hshort, hfree⟩
  · rintro ⟨rfl, hshort, hfree⟩
    exact ⟨directory, name, h, hshort, hfree⟩

/-- A path names a place that a file can take exactly if it ends in a name that is looked up where
no directory stands under it. -/
theorem takesFile_iff {view : View} {path : Path} :
    view.TakesFile path ↔ ∃ above name directory, path.EndsIn above name ∧
      LooksUpIn view.files view.current path above name directory ∧
      view.files.node? (name :: directory) ≠ some .directory := by
  constructor
  · rintro ⟨directory, name, hlast, hshort, hfree⟩
    obtain ⟨-, hslashed, hmarks, -, rest, -, hdrop, -⟩ := locateLast_eq_name_iff.1 hlast
    have h : path.EndsIn rest.reverse name :=
      Path.endsIn_of_dropWhile hdrop hmarks.1 hmarks.2 (of_decide_eq_false hslashed.symm)
    exact ⟨rest.reverse, name, directory, h, (looksUpIn_of_locateLast h hlast).2 hshort, hfree⟩
  · rintro ⟨above, name, directory, h, hin, hfree⟩
    exact ⟨directory, name, locateLast_of_looksUpIn h hin, hin.looksUp.short, hfree⟩

end View

namespace AtomicWrite

/-- The first two stages of a replacement go well: the directories above the target are there, and the
temporary file is written. -/
def TemporaryWritten (view : View) (target : Path) (content : Bytes) : Prop :=
  (ensureParents view.current view.files target).failure? = none ∧
    ∃ middle, (madeView view target).files.writeFile view.current (temporary target) content
      = .ok middle

section Refusal

variable {view : View} {target : Path} {old content : Bytes}

/-- What can be read is no directory, and neither is what is under its last name. -/
theorem exists_node_of_content {above : List Name} {name : Name} {directory : Location}
    (hread : view.content target = .ok old) (h : target.EndsIn above name)
    (hin : LooksUpIn view.files view.current target above name directory) :
    ∃ node, view.files.node? (name :: directory) = some node ∧ node ≠ .directory := by
  obtain ⟨location, hlocate, hnamed, hfile⟩ := content_eq_ok_iff.1 hread
  obtain ⟨left, directory', hin', hwalk⟩ := exists_looksUpIn_of_locate h hlocate
  obtain rfl := hin.unique h h hin'
  cases step_of_walk_eq_ok hwalk with
  | stay mark => exact absurd mark (not_or.2 ⟨h.ne_nil, h.ne_dot⟩)
  | up mark => exact absurd mark h.ne_dotDot
  | down looksUp node on =>
    -- the walk would end at the directory
    rw [walk_nil, Except.ok.injEq] at on
    rw [← on, node] at hfile
    cases hfile
  | follow link fewer looksUp bound node on => exact ⟨.link link, node, nofun⟩
  | last looksUp node =>
    rcases node with ⟨content, node⟩ | ⟨hcreate, -⟩
    · exact ⟨.file content, node, nofun⟩
    · cases hcreate

/-- What can be read has a place that a file can take, also with the directories above it made. -/
theorem takesFile_of_content (sound : view.Sound) (hread : view.content target = .ok old) :
    (madeView view target).TakesFile target := by
  have grown := grown_ensureParents view.current view.files target
  obtain ⟨above, name, directory, h, hin⟩ := sound.exists_looksUpIn_of_content hread
  obtain ⟨node, hnode, hfile⟩ := exists_node_of_content hread h hin
  refine View.takesFile_iff.2 ⟨above, name, directory, h, hin.mono grown.keeps, ?_⟩
  have hmade : (madeView view target).files.node? (name :: directory) = some node :=
    grown.node?_eq_some hnode
  rw [hmade]
  exact fun hdirectory => hfile (Option.some.inj hdirectory)

/-- Where the temporary file can be written it can be renamed, if the target has a place that a file
can take. -/
theorem exists_rename_of_takesFile {middle : FileSystem} (sound : view.Sound)
    (takes : (madeView view target).TakesFile target)
    (hcreate : (madeView view target).files.writeFile view.current (temporary target) content
      = .ok middle) :
    ∃ after, middle.rename view.current (temporary target) target = .ok after := by
  obtain ⟨above, name, directory, h, hin, hfree⟩ := View.takesFile_iff.1 takes
  obtain ⟨temporaryName, h', hne, hin'⟩ := exists_looksUpIn_beside sound h hin hcreate
  obtain ⟨written, hmiddle, keeps⟩ := keeps_writeFile (sound_madeView sound target) hcreate
  -- under the temporary name is the link that was there, or else the file that was written
  have htemporary : ∃ node, middle.node? (temporaryName :: directory) = some node ∧
      node ≠ .directory := by
    by_cases hplain : ∀ link, (madeView view target).files.node? (temporaryName :: directory)
        ≠ some (.link link)
    · obtain ⟨place, hin'', hwritten⟩ := writeFile_eq_ok h' hcreate
      obtain rfl := hin'.unique h' h' hin''
      obtain ⟨-, rfl⟩ := hwritten hplain
      exact ⟨.file content, by rw [node?_insert, if_pos ⟨rfl, List.cons_ne_nil _ _⟩], nofun⟩
    · push Not at hplain
      obtain ⟨link, hlink⟩ := hplain
      exact ⟨.link link, keeps _ _ hlink nofun, nofun⟩
  -- under the name of the target is what was there, or a file in its place
  have htarget : middle.node? (name :: directory) ≠ some .directory := by
    rw [hmiddle, node?_insert]
    split
    · exact nofun
    · exact hfree
  obtain ⟨node, hnode, hfile⟩ := htemporary
  exact exists_rename_of_looksUpIn h' h hne (hin'.mono keeps) (hin.mono keeps) hnode hfile htarget

/-- Where a replacement stops: before the temporary file is written, or at the renaming, which leaves
the file system as it is, or at its end. -/
theorem write_cases (view : View) (target : Path) (content : Bytes) :
    (¬ TemporaryWritten view target content ∧
        (write view.current view.files target content).failure? ≠ none ∧
        (writtenView view target content).files = (madeView view target).files) ∨
      ∃ middle, TemporaryWritten view target content ∧
        (madeView view target).files.writeFile view.current (temporary target) content = .ok middle ∧
        ((∃ after, middle.rename view.current (temporary target) target = .ok after ∧
            (write view.current view.files target content).failure? = none) ∨
          ((∀ after, middle.rename view.current (temporary target) target ≠ .ok after) ∧
            (write view.current view.files target content).failure? ≠ none ∧
            (writtenView view target content).files = middle)) := by
  rw [writtenView, View.files_withFiles, write]
  rcases (ensureParents view.current view.files target).perform_cases view.current
      (.writeFile (temporary target) content) with
    ⟨hearly, hmiddle⟩ | ⟨hnone, ⟨middle, hcreate, hmiddle⟩ | ⟨error, hcreate, hmiddle⟩⟩
  · rw [hmiddle]
    left
    rcases (ensureParents view.current view.files target).perform_cases view.current
        (.rename (temporary target) target) with ⟨-, hend⟩ | ⟨hnone, -⟩
    · rw [hend]
      exact ⟨fun hwritten => hearly hwritten.1, hearly, rfl⟩
    · exact absurd hnone hearly
  · rw [hmiddle]
    refine .inr ⟨middle, ⟨hnone, middle, hcreate⟩, hcreate, ?_⟩
    rw [Attempt.perform, Progress.perform_eq_map]
    simp only [Change.perform]
    cases hrename : middle.rename view.current (temporary target) target with
    | ok after => exact .inl ⟨after, rfl, rfl⟩
    | error error =>
      refine .inr ⟨?_, Option.some_ne_none error, rfl⟩
      rintro after ⟨⟩
  · rw [hmiddle]
    refine .inl ⟨?_, Option.some_ne_none error, rfl⟩
    rintro ⟨-, middle, hwritten⟩
    have herror : (madeView view target).files.writeFile view.current (temporary target) content
        = .error error := hcreate
    rw [hwritten] at herror
    cases herror

/-- A replacement that fails leaves what can be read at its target, whatever is at the temporary
path. -/
theorem content_of_failed_write (sound : view.Sound) (hread : view.content target = .ok old)
    (hfailed : (write view.current view.files target content).failure? ≠ none) :
    (writtenView view target content).content target = .ok old := by
  rcases write_cases view target content with
    ⟨-, -, hfiles⟩ | ⟨middle, -, hcreate, ⟨-, -, hok⟩ | ⟨hrefused, -, -⟩⟩
  · have hmade : (write view.current view.files target content).files
        = (ensureParents view.current view.files target).files := hfiles
    rw [writtenView, hmade]
    exact content_of_grown hread (grown_ensureParents view.current view.files target)
  · exact absurd hok hfailed
  · -- the renaming cannot be what failed
    obtain ⟨after, hrename⟩ :=
      exists_rename_of_takesFile sound (takesFile_of_content sound hread) hcreate
    exact absurd hrename (hrefused after)

end Refusal

end AtomicWrite

end EmulatorScout
