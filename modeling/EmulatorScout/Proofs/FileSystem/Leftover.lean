import EmulatorScout.Proofs.FileSystem.Refusal

/-!
# What a failed replacement leaves behind

A replacement has three stages, and nothing is taken back when one of them fails. If one of the first two
fails, nothing but directories above the target is new (`Spared`). But the temporary file may be written
for a target that no file can take the place of: a directory, a path with a slash or a dot at its end, or
a name that is too long, while the temporary name is shorter. Then the renaming fails, and the temporary
file is left behind (`LeftBehind`).

These are all the ways to fail, and which one it is can be told before the last stage
(`AtomicWrite.failed_write_json_leftover`).
-/

set_option autoImplicit false

namespace EmulatorScout

open FileSystem

namespace AtomicWrite

/-- A location holds what it held, unless it was free and is now a directory that was made above the
target. -/
def Spared (view : View) (target : Path) (after : FileSystem) (location : Location) : Prop :=
  after.node? location = view.files.node? location ∨
    (view.files.node? location = none ∧ after.node? location = some .directory ∧
      ∃ place ∈ target.above, (madeView view target).directory? (target.cut place) = some location)

/-- A replacement has left its temporary file at a place. -/
structure LeftBehind (view : View) (target : Path) (content : Bytes) (place : Location) : Prop where
  /-- The place is the one that the temporary path leads to. -/
  reached : (madeView view target).files.locate .create view.current (temporary target) = .ok place
  /-- Before the replacement nothing or a file was there. -/
  stood : view.files.node? place = none ∨ ∃ old, view.files.node? place = some (.file old)
  /-- The content that was meant for the target is there. -/
  node : (writtenView view target content).files.node? place = some (.file content)
  /-- Everything else is spared. -/
  others : ∀ location, location ≠ place →
    Spared view target (writtenView view target content).files location

section Leftover

variable {view : View} {target : Path} {content : Bytes} {place : Location}

/-- A replacement that goes well finds a place that a file can take. -/
theorem takesFile_of_write (sound : view.Sound)
    (hok : (write view.current view.files target content).failure? = none) :
    (madeView view target).TakesFile target := by
  obtain ⟨above, name, temporaryName, h, h', hne⟩ := exists_endsIn_of_write sound hok
  have sound' := sound_madeView sound target
  rcases write_cases view target content with
    ⟨-, hfailed, -⟩ | ⟨middle, -, hcreate, ⟨after, hrename, -⟩ | ⟨-, hfailed, -⟩⟩
  · exact absurd hok hfailed
  · obtain ⟨directory, node, hfrom, hto, hnode, hmove⟩ := rename_eq_ok h' h hrename
    obtain ⟨written, hmiddle, keeps⟩ := keeps_writeFile sound' hcreate
    -- only a file is new since the directories were made, and no way goes through a file
    have back : Keeps middle (madeView view target).files := by
      intro location other hother hfile
      rw [hmiddle, node?_insert] at hother
      split at hother
      · exact absurd (Option.some.inj hother).symm (hfile content)
      · exact hother
    refine View.takesFile_iff.2 ⟨above, name, directory, h, hto.mono back, fun hdirectory => ?_⟩
    have hplaces : temporaryName :: directory ≠ name :: directory := fun heq =>
      hne (List.cons.inj heq).1
    have hfile : node ≠ .directory := by
      rintro rfl
      exact node?_ne_directory_of_writeFile sound' h' hcreate hfrom hnode
    exact ne_directory_of_move hplaces hfile hmove (keeps _ _ hdirectory nofun)
  · exact absurd hok hfailed

/-- Where the temporary file is not written everything is spared. -/
theorem spared_of_not_written (h : ¬ TemporaryWritten view target content) (location : Location) :
    Spared view target (writtenView view target content).files location := by
  rcases write_cases view target content with ⟨-, -, hfiles⟩ | ⟨middle, hwritten, -⟩
  · rw [hfiles]
    exact node?_madeView view target location
  · exact absurd hwritten h

/-- Where the temporary file is written and the target has no place for a file, the replacement fails
and leaves the temporary file behind. -/
theorem exists_leftBehind (sound : view.Sound) (h : TemporaryWritten view target content)
    (hnot : ¬ (madeView view target).TakesFile target) :
    (write view.current view.files target content).failure? ≠ none ∧
      ∃ place, LeftBehind view target content place := by
  rcases write_cases view target content with
    ⟨hnone, -, -⟩ | ⟨middle, -, hcreate, ⟨after, -, hok⟩ | ⟨-, hfailed, hfiles⟩⟩
  · exact absurd h hnone
  · exact absurd (takesFile_of_write sound hok) hnot
  · obtain ⟨place, hreached, hstood, hmiddle⟩ :=
      exists_place_of_writeFile (sound_madeView sound target) hcreate
    have hplace : place ≠ [] := by
      rintro rfl
      rcases hstood with hfree | ⟨old, hfile⟩
      · exact nomatch hfree
      · exact nomatch hfile
    refine ⟨hfailed, place, hreached, ?_, ?_, ?_⟩
    · -- what was made for the target is directories, so nothing has come to the place
      rcases node?_madeView view target place with hsame | ⟨hfree, -⟩
      · rwa [hsame] at hstood
      · exact .inl hfree
    · rw [hfiles, hmiddle, node?_insert, if_pos ⟨rfl, hplace⟩]
    · intro location hother
      rw [hfiles, hmiddle, Spared, node?_insert, if_neg fun hboth => hother hboth.1]
      exact node?_madeView view target location

/-- A replacement that leaves its temporary file behind spares everything only if that file was there
with the same content. -/
theorem LeftBehind.spared_iff (h : LeftBehind view target content place) :
    (∀ location, Spared view target (writtenView view target content).files location) ↔
      view.files.node? place = some (.file content) := by
  constructor
  · intro hspared
    rcases hspared place with hsame | ⟨-, hdirectory, -⟩
    · rw [← hsame, h.node]
    · rw [h.node] at hdirectory
      cases hdirectory
  · intro hstood location
    by_cases hplace : location = place
    · rw [hplace]
      exact .inl (h.node.trans hstood.symm)
    · exact h.others location hplace

/-- What a replacement leaves behind when it fails, whatever the new content is, a JSON text or another
one. It fails exactly if the temporary file cannot be written or the target has no place that a file can
take. In the first case everything is spared. In the second one the temporary file is left behind with the
new content, and everything is spared only if it was there with that content already. -/
theorem failed_write_json_leftover (sound : view.Sound) (target : Path) (content : Bytes) :
    ((write view.current view.files target content).failure? ≠ none ↔
      ¬ TemporaryWritten view target content ∨ ¬ (madeView view target).TakesFile target) ∧
    (¬ TemporaryWritten view target content →
      ∀ location, Spared view target (writtenView view target content).files location) ∧
    (TemporaryWritten view target content → ¬ (madeView view target).TakesFile target →
      ∃ place, LeftBehind view target content place ∧
        ((∀ location, Spared view target (writtenView view target content).files location) ↔
          view.files.node? place = some (.file content))) := by
  refine ⟨⟨fun hfailed => ?_, ?_⟩, spared_of_not_written, fun hwritten hnot => ?_⟩
  · rcases write_cases view target content with
      ⟨hnone, -, -⟩ | ⟨middle, -, hcreate, ⟨-, -, hok⟩ | ⟨hrefused, -, -⟩⟩
    · exact .inl hnone
    · exact absurd hok hfailed
    · right
      intro takes
      obtain ⟨after, hrename⟩ := exists_rename_of_takesFile sound takes hcreate
      exact hrefused after hrename
  · rintro (hnone | hnot) hok
    · rcases write_cases view target content with ⟨-, hfailed, -⟩ | ⟨middle, hwritten, -⟩
      · exact hfailed hok
      · exact hnone hwritten
    · exact hnot (takesFile_of_write sound hok)
  · obtain ⟨-, place, hleft⟩ := exists_leftBehind sound hwritten hnot
    exact ⟨place, hleft, hleft.spared_iff⟩

end Leftover

/-- A process at the root of a file system with one directory. -/
def directoryView : View where
  files := FileSystem.ofNodes [("d", .directory)]
  current := []
  order := ListingOrder.stored

theorem sound_directoryView : directoryView.Sound := ⟨isTree_empty.insert rfl rfl _, .inl rfl⟩

/-- The directory cannot be replaced by a file, and the temporary file beside it stays. -/
theorem failed_write_json_leftover_directory :
    (write directoryView.current directoryView.files (Path.ofString "d")
        (jsonContent (.integer 1))).failure? ≠ none ∧
      ∃ place, LeftBehind directoryView (Path.ofString "d") (jsonContent (.integer 1)) place := by
  have hlast : (madeView directoryView (Path.ofString "d")).files.locateLast
      (madeView directoryView (Path.ofString "d")).current (Path.ofString "d")
        = .ok ([], .name (Bytes.ofString "d") false) := by decide
  have hnot : ¬ (madeView directoryView (Path.ofString "d")).TakesFile (Path.ofString "d") := by
    rw [View.takesFile_iff_of_locateLast hlast]
    rintro ⟨-, -, hfree⟩
    exact hfree (by decide)
  have hleftover := failed_write_json_leftover sound_directoryView (Path.ofString "d")
    (jsonContent (.integer 1))
  obtain ⟨place, hleft, -⟩ := hleftover.2.2 ⟨by decide, _, rfl⟩ hnot
  exact ⟨hleftover.1.2 (.inr hnot), place, hleft⟩

/-- A replacement of a directory fails, and the temporary file, which was not there before, is there
afterwards. -/
theorem exists_left_behind :
    directoryView.Sound ∧
      (write directoryView.current directoryView.files (Path.ofString "d")
        (jsonContent (.integer 1))).failure? = some .isADirectory ∧
      directoryView.files.node? [Bytes.ofString "d.json.tmp"] = none ∧
      (writtenView directoryView (Path.ofString "d")
        (jsonContent (.integer 1))).files.node? [Bytes.ofString "d.json.tmp"]
          = some (.file (jsonContent (.integer 1))) ∧
      ¬ ∀ location, Spared directoryView (Path.ofString "d")
        (writtenView directoryView (Path.ofString "d") (jsonContent (.integer 1))).files location := by
  have hfree : directoryView.files.node? [Bytes.ofString "d.json.tmp"] = none := by decide
  have hfile : (writtenView directoryView (Path.ofString "d")
      (jsonContent (.integer 1))).files.node? [Bytes.ofString "d.json.tmp"]
        = some (.file (jsonContent (.integer 1))) := by decide
  refine ⟨sound_directoryView, by decide, hfree, hfile, fun hspared => ?_⟩
  rcases hspared [Bytes.ofString "d.json.tmp"] with hsame | ⟨-, hdirectory, -⟩
  · rw [hfree, hfile] at hsame
    cases hsame
  · rw [hfile] at hdirectory
    cases hdirectory

end AtomicWrite

end EmulatorScout
