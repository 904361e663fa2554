import EmulatorScout.Proofs.FileSystem.Outcome

/-!
# Old content or new

A file that could be read before a replacement can be read in every state that the replacement goes
through, and it has its old content in all of them but the last one of a replacement that went well,
where it has the new content (`AtomicWrite.write_json_all_or_nothing`). A replacement that fails leaves the old
content, wherever it stops.

What is read stays the same while nothing but directories is made, and while the temporary file is
written, for that is not the file that is read. The renaming then goes past any link that is replaced,
since a path that can be read does not go through it.
-/

set_option autoImplicit false

namespace EmulatorScout

open FileSystem

namespace AtomicWrite

section States

variable {view : View} {target : Path} {above : List Name} {name : Name} {directory : Location}
  {old content : Bytes}

/-- While directories are made nothing but directories is new, in every state. -/
theorem grown_of_mem_states {state : FileSystem}
    (h : state ∈ (ensureParents view.current view.files target).states view.files) :
    Grown view.files state := by
  have hrun : (∀ change ∈ (ensureParents view.current view.files target).progress.history,
      Grown view.files change.2) ∧
      Grown view.files (ensureParents view.current view.files target).progress.files := by
    refine ensureDirectories_induction
      (motive := fun after => (∀ change ∈ after.history, Grown view.files change.2) ∧
        Grown view.files after.files) ?_ ⟨nofun, Grown.refl view.files⟩
    intro place hplace before after hbefore hperform
    have hgrown : Grown view.files after.files :=
      hbefore.2.trans (grown_makeDirectory (Progress.of_perform_eq_ok hperform).1)
    refine ⟨fun change hchange => ?_, hgrown⟩
    rw [(Progress.of_perform_eq_ok hperform).2, List.mem_cons] at hchange
    rcases hchange with rfl | hchange
    · exact hgrown
    · exact hbefore.1 change hchange
  rw [Attempt.states, List.mem_cons, List.mem_reverse, List.mem_map] at h
  rcases h with rfl | ⟨change, hchange, rfl⟩
  · exact Grown.refl view.files
  · exact hrun.1 change hchange

/-- A path beside a target that stands names with the directories above made what it named before:
the names above the target lead where they led. -/
theorem named?_of_named?_madeView {twin : Path} {twinName : Name} {place : Location} {left : Nat}
    (h : target.EndsIn above name) (h' : twin.EndsIn above twinName)
    (way : Way view.files maxLinks (target.start view.current) above left directory)
    (hnamed : (madeView view target).named? twin = some place) : view.named? twin = some place := by
  obtain ⟨htext, directory', rfl, hnameless, left', way'⟩ := (View.named?_eq_some_iff h').1 hnamed
  have hstart : twin.start view.current = target.start view.current := start_eq_of_endsIn h h'
  have grown := grown_ensureParents view.current view.files target
  rw [current_madeView, hstart] at way'
  obtain rfl := (way.mono grown.keeps).unique way'
  rw [← hstart] at way
  exact (View.named?_eq_some_iff h').2 ⟨htext, directory, rfl, hnameless, left, way⟩

/-- What is read stays the same in growth. -/
theorem content_of_grown {files : FileSystem} (hread : view.content target = .ok old)
    (h : Grown view.files files) : (view.withFiles files).content target = .ok old := by
  obtain ⟨location, hlocate, -, hfile⟩ := content_eq_ok_iff.1 hread
  have hstays : files.node? location = view.files.node? location := by
    rw [hfile, h.node?_eq_some hfile]
  exact h.keeps.content_eq_ok hlocate hstays hread

/-- A temporary path that ends in two dots cannot be written. -/
theorem writeFile_ne_ok_of_up {path : Path} {after : FileSystem} {left : Nat} (sound : view.Sound)
    (hsegments : path.segments = above ++ [dotDotName])
    (way : Way view.files maxLinks (path.start view.current) above left directory) :
    view.files.writeFile view.current path content ≠ .ok after := by
  have hhouses := (way.houses sound.tree (sound.houses.start path)).up sound.tree
  have hwalk : view.files.walk .create maxLinks (view.files.trail (path.start view.current))
      path.segments = .ok directory.tail := by
    rw [hsegments, way.walk_append (.inr ⟨dotDotName, List.mem_singleton_self _, by decide⟩), walk_up,
      walk_nil]
  rw [writeFile, locate]
  cases textError? path with
  | some error => rintro ⟨⟩
  | none =>
    simp only [hwalk, hhouses.isDirectoryAt, if_true]
    rintro ⟨⟩

/-- Where the temporary file can be written beside a target that ends in a name, the temporary path
ends in another name, and that is looked up in the same directory. -/
theorem exists_looksUpIn_beside {middle : FileSystem} (sound : view.Sound)
    (h : target.EndsIn above name)
    (hin : LooksUpIn (madeView view target).files view.current target above name directory)
    (hcreate : (madeView view target).files.writeFile view.current (temporary target) content
      = .ok middle) :
    ∃ temporaryName, (temporary target).EndsIn above temporaryName ∧ temporaryName ≠ name ∧
      LooksUpIn (madeView view target).files view.current (temporary target) above temporaryName
        directory := by
  rcases h.withExtension_cases (by decide : slash ∉ temporaryExtension) (by decide) with
    ⟨temporaryName, h', hne⟩ | hup
  · obtain ⟨place, hin', -⟩ := writeFile_eq_ok h' hcreate
    obtain rfl := hin.unique h h' hin'
    exact ⟨temporaryName, h', hne, hin'⟩
  · -- a temporary path that ends in two dots is that of a directory
    obtain ⟨left, way⟩ := hin.way
    have hstart : (target.withExtension temporaryExtension).start view.current
        = target.start view.current :=
      start_eq_of_segments h hup (by decide)
    rw [← hstart] at way
    exact absurd hcreate (writeFile_ne_ok_of_up (sound_madeView sound target) hup way)

end States

section Reading

variable {view : View} {target : Path} {old content : Bytes}

/-- Where the temporary file can be written beside a target that can be read, both end in names,
and these are looked up in one directory. -/
theorem exists_looksUpIn_of_writeFile {middle : FileSystem} (sound : view.Sound)
    (hread : view.content target = .ok old)
    (hcreate : (madeView view target).files.writeFile view.current (temporary target) content
      = .ok middle) :
    ∃ above name temporaryName directory, target.EndsIn above name ∧
      (temporary target).EndsIn above temporaryName ∧ temporaryName ≠ name ∧
      LooksUpIn view.files view.current target above name directory ∧
      LooksUpIn (madeView view target).files view.current (temporary target) above temporaryName
        directory := by
  obtain ⟨above, name, directory, h, hin⟩ := sound.exists_looksUpIn_of_content hread
  have keeps := (grown_ensureParents view.current view.files target).keeps
  obtain ⟨temporaryName, h', hne, hin'⟩ :=
    exists_looksUpIn_beside sound h (hin.mono keeps) hcreate
  exact ⟨above, name, temporaryName, directory, h, h', hne, hin, hin'⟩

/-- Writing the temporary file does not touch what is read. -/
theorem content_of_writeFile {middle : FileSystem} (sound : view.Sound)
    (hread : view.content target = .ok old)
    (hlink : ∀ place link, view.named? (temporary target) = some place →
      view.files.node? place ≠ some (.link link))
    (hapart : ∀ place, view.named? (temporary target) = some place →
      view.files.locate .find view.current target ≠ .ok place)
    (hcreate : (madeView view target).files.writeFile view.current (temporary target) content
      = .ok middle) :
    (view.withFiles middle).content target = .ok old := by
  obtain ⟨above, name, temporaryName, directory, h, h', -, hin, hin'⟩ :=
    exists_looksUpIn_of_writeFile sound hread hcreate
  obtain ⟨location, hlocate, -, hfile⟩ := content_eq_ok_iff.1 hread
  have grown := grown_ensureParents view.current view.files target
  obtain ⟨left, way⟩ := hin.way
  have hnamed : view.named? (temporary target) = some (temporaryName :: directory) :=
    named?_of_named?_madeView h h' way (View.named?_of_looksUpIn h' hin')
  have hplain : ∀ link, (madeView view target).files.node? (temporaryName :: directory)
      ≠ some (.link link) := fun link hnode =>
    hlink _ link hnamed (grown.link_of_link hnode)
  obtain ⟨place, hin'', hwritten⟩ := writeFile_eq_ok h' hcreate
  obtain rfl := hin'.unique h' h' hin''
  obtain ⟨hfree, rfl⟩ := hwritten hplain
  -- the temporary path does not name the file that is read
  have hother : location ≠ temporaryName :: directory := by
    rintro rfl
    exact hapart _ hnamed hlocate
  have hstays : ((madeView view target).files.insert (temporaryName :: directory)
      (.file content)).node? location = view.files.node? location := by
    rw [node?_insert, if_neg fun hboth => hother hboth.1, hfile]
    exact grown.node?_eq_some hfile
  exact (grown.keeps.trans (keeps_insert_file hfree hplain)).content_eq_ok hlocate hstays hread

/-- After a replacement that went well the new content is read. -/
theorem content_of_write (sound : view.Sound) (hread : view.content target = .ok old)
    (hlink : ∀ place link, view.named? (temporary target) = some place →
      view.files.node? place ≠ some (.link link))
    (hok : (write view.current view.files target content).failure? = none) :
    (writtenView view target content).content target = .ok content := by
  have grown := grown_ensureParents view.current view.files target
  obtain ⟨location, hlocate, -, -⟩ := content_eq_ok_iff.1 hread
  have hplain : ∀ place link, (madeView view target).named? (temporary target) = some place →
      (madeView view target).files.node? place ≠ some (.link link) := by
    intro place link hnamed hnode
    obtain ⟨above, name, temporaryName, h, h', -⟩ := exists_endsIn_of_write sound hok
    obtain ⟨-, directory, hin, -⟩ := exists_looksUpIn_of_locate h hlocate
    obtain ⟨left, way⟩ := hin.way
    exact hlink place link (named?_of_named?_madeView h h' way hnamed) (grown.link_of_link hnode)
  obtain ⟨above, name, temporaryName, directory, h⟩ := exists_overwritten_of_write sound hplain hok
  obtain ⟨-, directory', hin, -⟩ := exists_looksUpIn_of_locate h.ends hlocate
  obtain rfl := (hin.mono grown.keeps).unique h.ends h.ends h.looksUpIn
  have hpast := h.looksUpIn_after fun link hnode => by
    obtain ⟨left, way⟩ := View.way_erase_of_not_passesItself h.ends (sound.not_passesItself hread)
      (View.named?_of_looksUpIn h.ends hin) (grown.link_of_link hnode)
    exact ⟨left, way.mono (grown.keeps.erase _)⟩
  exact hpast.content_eq h.ends h.replaced.target_node

/-- Whether the target has the old content in every state of a run, and at its end. -/
def Kept (view : View) (target : Path) (old : Bytes) (attempt : Attempt) : Prop :=
  ∀ state ∈ attempt.files :: attempt.states view.files,
    (view.withFiles state).content target = .ok old

theorem kept_ensureParents (hread : view.content target = .ok old) :
    Kept view target old (ensureParents view.current view.files target) := by
  intro state hstate
  apply content_of_grown hread
  rcases List.mem_cons.1 hstate with rfl | hstate
  · exact grown_ensureParents view.current view.files target
  · exact grown_of_mem_states hstate

/-- One more change keeps the old content if the state that it leaves does. -/
theorem Kept.perform {attempt : Attempt} {change : Change} (h : Kept view target old attempt)
    (hchange : ∀ files, change.perform view.current attempt.files = .ok files →
      (view.withFiles files).content target = .ok old) :
    Kept view target old (attempt.perform view.current change) := by
  rcases attempt.states_perform_cases view.current change view.files with
    ⟨-, hfiles, hstates⟩ | ⟨hok, hstates⟩
  · rw [Kept, hfiles, hstates]
    exact h
  · have hlast := hchange _ (Attempt.perform_of_failure?_eq_none hok).2
    intro state hstate
    rw [hstates, List.mem_cons, List.mem_append, List.mem_singleton] at hstate
    rcases hstate with rfl | hbefore | rfl
    · exact hlast
    · exact h state (List.mem_cons_of_mem _ hbefore)
    · exact hlast

/-- Up to the renaming the old content is kept. -/
theorem kept_middle (content : Bytes) (sound : view.Sound) (hread : view.content target = .ok old)
    (hlink : ∀ place link, view.named? (temporary target) = some place →
      view.files.node? place ≠ some (.link link))
    (hapart : ∀ place, view.named? (temporary target) = some place →
      view.files.locate .find view.current target ≠ .ok place) :
    Kept view target old ((ensureParents view.current view.files target).perform view.current
      (.writeFile (temporary target) content)) :=
  (kept_ensureParents hread).perform fun _ hcreate =>
    content_of_writeFile sound hread hlink hapart hcreate

/-- A replacement that fails keeps the old content. -/
theorem kept_of_write (sound : view.Sound) (hread : view.content target = .ok old)
    (hlink : ∀ place link, view.named? (temporary target) = some place →
      view.files.node? place ≠ some (.link link))
    (hapart : ∀ place, view.named? (temporary target) = some place →
      view.files.locate .find view.current target ≠ .ok place)
    (hfailed : (write view.current view.files target content).failure? ≠ none) :
    Kept view target old (write view.current view.files target content) := by
  have hmiddle := kept_middle content sound hread hlink hapart
  rw [write] at hfailed ⊢
  generalize (ensureParents view.current view.files target).perform view.current
    (.writeFile (temporary target) content) = middle at hmiddle hfailed ⊢
  rcases middle.states_perform_cases view.current (.rename (temporary target) target) view.files with
    ⟨-, hfiles, hstates⟩ | ⟨hok, -⟩
  · rw [Kept, hfiles, hstates]
    exact hmiddle
  · exact absurd hok hfailed

/-- A replacement happens as a whole or not at all, whatever the new content is, a JSON text or another
one, where a target can be read, no link is at the temporary path, and the target does not lead there. One
that fails has the old content in every state that it goes through. One that goes well has the old content
in every state but the last one, and the new content in that. -/
theorem write_json_all_or_nothing (sound : view.Sound) (hread : view.content target = .ok old)
    (hlink : ∀ place link, view.named? (temporary target) = some place →
      view.files.node? place ≠ some (.link link))
    (hapart : ∀ place, view.named? (temporary target) = some place →
      view.files.locate .find view.current target ≠ .ok place) (content : Bytes) :
    ((write view.current view.files target content).failure? ≠ none →
        Kept view target old (write view.current view.files target content)) ∧
      ((write view.current view.files target content).failure? = none →
        ∃ before, (write view.current view.files target content).states view.files
            = before ++ [(writtenView view target content).files] ∧
          (∀ state ∈ before, (view.withFiles state).content target = .ok old) ∧
          (writtenView view target content).content target = .ok content) := by
  refine ⟨kept_of_write sound hread hlink hapart, fun hok => ?_⟩
  have hnew := content_of_write sound hread hlink hok
  have hmiddle := kept_middle content sound hread hlink hapart
  rcases ((ensureParents view.current view.files target).perform view.current
      (.writeFile (temporary target) content)).states_perform_cases view.current
      (.rename (temporary target) target) view.files with ⟨hfailed, -, -⟩ | ⟨-, hstates⟩
  · exact absurd hok hfailed
  · -- the renaming adds the last state to those before it
    exact ⟨_, hstates, fun state hstate => hmiddle state (List.mem_cons_of_mem _ hstate), hnew⟩

end Reading

/-- A link to a file is read with the content of that file until it is replaced by another one. -/
theorem write_json_all_or_nothing_linked :
    ∃ before, (write linkedView.current linkedView.files (Path.ofString "l")
        (jsonContent (.integer 1))).states linkedView.files
        = before ++ [(writtenView linkedView (Path.ofString "l") (jsonContent (.integer 1))).files] ∧
      (∀ state ∈ before, (linkedView.withFiles state).content (Path.ofString "l") = .ok [0]) ∧
      (writtenView linkedView (Path.ofString "l") (jsonContent (.integer 1))).content
        (Path.ofString "l") = .ok (jsonContent (.integer 1)) := by
  have hread : linkedView.content (Path.ofString "l") = .ok [0] := by decide +kernel
  have hlocate : linkedView.files.locate .find linkedView.current (Path.ofString "l")
      = .ok [Bytes.ofString "f"] := by decide +kernel
  refine (write_json_all_or_nothing sound_linkedView hread ?_ ?_ (jsonContent (.integer 1))).2
    (by decide +kernel)
  · intro place link hplace hlink
    rw [free_temporary_linkedView hplace] at hlink
    cases hlink
  · intro place hplace hsame
    -- the link leads to a file, and at the temporary path there is nothing
    obtain rfl := Except.ok.inj (hlocate.symm.trans hsame)
    exact absurd (free_temporary_linkedView hplace) (by decide +kernel)

end AtomicWrite

end EmulatorScout
