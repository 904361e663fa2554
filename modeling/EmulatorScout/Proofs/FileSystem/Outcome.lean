import EmulatorScout.Json.Value
import EmulatorScout.Proofs.FileSystem.Parents

/-!
# What a replacement leaves

What a replacement that went well has done to the file system that it began with
(`AtomicWrite.exists_outcome_of_write`): the location that the target names holds the new content, nothing
is at the temporary path, directories are new where they were missing above the target, and every
other node is as it was.

A path may go through the very link that it names (`View.PassesItself`), as `l/l` does where `l` is a
link to its own directory. Replacing that link takes the way to it away. Every other target names the
new file afterwards, and what is read there is the new content.
-/

set_option autoImplicit false

namespace EmulatorScout

open FileSystem

namespace View

def withFiles (view : View) (files : FileSystem) : View := { view with files := files }

@[simp] theorem files_withFiles (view : View) (files : FileSystem) :
    (view.withFiles files).files = files := rfl

/-- Whether a path goes through the very link that it names: without the link it does not lead to the
place of the link. -/
def PassesItself (view : View) (path : Path) : Prop :=
  ∃ place link, view.named? path = some place ∧ view.files.node? place = some (.link link) ∧
    (view.withFiles (view.files.erase place)).named? path ≠ some place

section Named

variable {view : View} {path : Path} {above : List Name} {name : Name} {directory : Location}
  {files other : FileSystem}

theorem named?_of_looksUpIn (h : path.EndsIn above name)
    (hin : LooksUpIn files view.current path above name directory) :
    (view.withFiles files).named? path = some (name :: directory) :=
  (named?_eq_some_iff h).2 ⟨hin.text, directory, rfl, hin.looksUp.named, hin.way⟩

/-- A path that does not go through the link that it names has a way past that link. -/
theorem way_erase_of_not_passesItself (h : path.EndsIn above name) {link : Path}
    (hself : ¬ view.PassesItself path) (hnamed : view.named? path = some (name :: directory))
    (hlink : view.files.node? (name :: directory) = some (.link link)) :
    ∃ left, Way (view.files.erase (name :: directory)) maxLinks (path.start view.current) above left
      directory := by
  have hpast : (view.withFiles (view.files.erase (name :: directory))).named? path
      = some (name :: directory) := by
    by_contra hlost
    exact hself ⟨name :: directory, link, hnamed, hlink, hlost⟩
  obtain ⟨-, place, hplace, -, way⟩ := (named?_eq_some_iff h).1 hpast
  obtain ⟨-, rfl⟩ := List.cons.inj hplace
  exact way

/-- A path that can be read does not go through the link that it names: that link leads to a file,
and nothing is below a file. -/
theorem Sound.not_passesItself {content : Bytes} (sound : view.Sound)
    (h : view.content path = .ok content) : ¬ view.PassesItself path := by
  obtain ⟨above, name, hends⟩ := sound.endsIn_of_content h
  rintro ⟨place, link, hnamed, hlink, hlost⟩
  obtain ⟨htext, directory, rfl, hnameless, left, way⟩ := (named?_eq_some_iff hends).1 hnamed
  obtain ⟨location, hlocate, hnamedLocation, hfile⟩ := content_eq_ok_iff.1 h
  rcases way.erase_or_follow hlink with hpast | ⟨links, fewer, ends, way'⟩
  · exact hlost ((named?_eq_some_iff hends).2
      ⟨htext, directory, rfl, hnameless, left, hpast⟩)
  · -- the link leads to what is read, and along a way that could only be a directory
    obtain ⟨left', directory', hin, hwalk⟩ := exists_looksUpIn_of_locate hends hlocate
    obtain ⟨fewer', way''⟩ := hin.way
    obtain rfl := way.unique way''
    have hends' : ends = location := by
      cases step_of_walk_eq_ok hwalk with
      | stay mark => exact absurd mark (not_or.2 ⟨hends.ne_nil, hends.ne_dot⟩)
      | up mark => exact absurd mark hends.ne_dotDot
      | down looksUp node =>
        rw [hlink] at node
        cases node
      | follow target more looksUp bound node on =>
        rw [hlink] at node
        cases node
        rw [List.append_nil] at on
        exact walk_unique way'.walk_eq_ok on
      | last looksUp node =>
        rw [hlink] at node
        rcases node with ⟨content, hnode⟩ | ⟨hcreate, -⟩
        · cases hnode
        · cases hcreate
    have hhouses := way.houses sound.tree (sound.houses.start path)
    have hplace := way'.houses sound.tree (hhouses.start link)
    rw [hends'] at hplace
    exact not_houses_of_file hnamedLocation hfile hplace

end Named

end View

namespace AtomicWrite

section Outcome

variable {view : View} {target : Path} {above : List Name} {name temporaryName : Name}
  {directory place : Location} {content : Bytes}

/-- The view with the directories above a target made. -/
def madeView (view : View) (target : Path) : View :=
  view.withFiles (ensureParents view.current view.files target).files

/-- The view after a replacement. -/
def writtenView (view : View) (target : Path) (content : Bytes) : View :=
  view.withFiles (write view.current view.files target content).files

@[simp] theorem current_madeView (view : View) (target : Path) :
    (madeView view target).current = view.current := rfl

@[simp] theorem current_writtenView (view : View) (target : Path) (content : Bytes) :
    (writtenView view target content).current = view.current := rfl

theorem sound_madeView (sound : view.Sound) (target : Path) : (madeView view target).Sound :=
  ⟨isTree_ensureParents sound.tree sound.houses,
    sound.houses.mono (grown_ensureParents view.current view.files target).keeps⟩

/-- What the first stage does to a node: nothing, unless it was missing and is now a directory that a
path above the target leads to. -/
theorem node?_madeView (view : View) (target : Path) (location : Location) :
    (madeView view target).files.node? location = view.files.node? location ∨
      (view.files.node? location = none ∧
        (madeView view target).files.node? location = some .directory ∧
        ∃ place ∈ target.above,
          (madeView view target).directory? (target.cut place) = some location) := by
  rcases grown_ensureParents view.current view.files target location with hsame | ⟨hfree, hnew⟩
  · exact .inl hsame
  · have hstands : (ensureParents view.current view.files target).files.node? location ≠ none := by
      rw [hnew]
      exact nofun
    exact .inr ⟨hfree, hnew, exists_place_of_new hfree hstands⟩

/-- Where writing a file in a tree puts it: at a place where nothing or a file stood. -/
theorem exists_place_of_writeFile {path : Path} {after : FileSystem} (sound : view.Sound)
    (h : view.files.writeFile view.current path content = .ok after) :
    ∃ location, view.files.locate .create view.current path = .ok location ∧
      (view.files.node? location = none ∨
        ∃ old, view.files.node? location = some (.file old)) ∧
      after = view.files.insert location (.file content) := by
  rw [writeFile] at h
  cases hlocate : view.files.locate .create view.current path with
  | error error => simp [hlocate] at h
  | ok location =>
    simp only [hlocate] at h
    split at h
    · cases h
    rename_i hdirectory
    refine ⟨location, rfl, ?_, (Except.ok.inj h).symm⟩
    rw [locate] at hlocate
    split at hlocate
    · cases hlocate
    rcases end_of_walk sound.tree (sound.houses.start path) hlocate with
      hhouses | hfile | ⟨-, hfree⟩
    · exact absurd hhouses.isDirectoryAt hdirectory
    · exact .inr hfile
    · exact .inl hfree

/-- Writing a file in a tree takes no directory and no link away. -/
theorem keeps_writeFile {path : Path} {after : FileSystem} (sound : view.Sound)
    (h : view.files.writeFile view.current path content = .ok after) :
    ∃ location, after = view.files.insert location (.file content) ∧ Keeps view.files after := by
  obtain ⟨location, -, hstood, rfl⟩ := exists_place_of_writeFile sound h
  refine ⟨location, rfl, ?_⟩
  rcases hstood with hfree | ⟨old, hfile⟩
  · apply keeps_insert_file <;> simp [hfree]
  · apply keeps_insert_file <;> simp [hfile]

/-- What was written is no directory. -/
theorem node?_ne_directory_of_writeFile {path : Path} {after : FileSystem} (sound : view.Sound)
    (h : path.EndsIn above name)
    (hcreate : view.files.writeFile view.current path content = .ok after)
    (hin : LooksUpIn after view.current path above name directory) :
    after.node? (name :: directory) ≠ some .directory := by
  intro hnode
  obtain ⟨place, hin', hwritten⟩ := writeFile_eq_ok h hcreate
  obtain ⟨location, hinsert, keeps⟩ := keeps_writeFile sound hcreate
  obtain rfl := (hin'.mono keeps).unique h h hin
  -- a directory is not made by writing, so it stood there, and then nothing can be written
  have hstood : view.files.node? (name :: place) = some .directory := by
    rw [hinsert, node?_insert] at hnode
    split at hnode
    · cases hnode
    · exact hnode
  refine (hwritten fun link hlink => ?_).1 hstood
  rw [hstood] at hlink
  cases hlink

/-- A target that was replaced ends in a name, and the temporary path in another one beside it. -/
theorem exists_endsIn_of_write (sound : view.Sound)
    (hok : (write view.current view.files target content).failure? = none) :
    ∃ above name temporaryName, target.EndsIn above name ∧
      (temporary target).EndsIn above temporaryName ∧ temporaryName ≠ name := by
  obtain ⟨hmiddle, hrename⟩ := Attempt.perform_of_failure?_eq_none hok
  obtain ⟨-, hcreate⟩ := Attempt.perform_of_failure?_eq_none hmiddle
  obtain ⟨directory, last, slashed, directory', name, slashed', node, hfrom, hto, hshort, -, hnode,
    hslashes, -⟩ := exists_names_of_rename hrename
  -- the temporary file has a name, since it could be renamed
  obtain ⟨-, -, hmarks, -, rest, -, hdrop, -⟩ := locateLast_eq_name_iff.1 hfrom
  obtain ⟨above', h'⟩ := Path.endsIn_withExtension hdrop hmarks.1 hmarks.2
    (by decide : slash ∉ temporaryExtension)
  -- it is no directory, since it could be written, so no slash follows the name of the target
  have hfile : node ≠ .directory := by
    rintro rfl
    exact node?_ne_directory_of_writeFile (sound_madeView sound target) h' hcreate
      ((looksUpIn_of_locateLast h' hfrom).2 hshort) hnode
  obtain ⟨-, hslashed, hmarks', -, rest', left', hdrop', -⟩ := locateLast_eq_name_iff.1 hto
  have hunslashed : slashed' = false := (hslashes hfile).2
  have h : target.EndsIn rest'.reverse name := by
    apply Path.endsIn_of_dropWhile hdrop' hmarks'.1 hmarks'.2
    rw [hunslashed] at hslashed
    exact of_decide_eq_false hslashed.symm
  rcases h.withExtension_cases (by decide : slash ∉ temporaryExtension) (by decide) with
    ⟨temporaryName, hends, hne⟩ | hup
  · exact ⟨rest'.reverse, name, temporaryName, h, hends, hne⟩
  · -- two dots are no name, and the temporary path ends in one
    have hlast := List.append_inj_right' (h'.segments_eq.symm.trans hup) rfl
    exact absurd (List.cons.inj hlast).1 h'.ne_dotDot

/-- What a replacement that went well has found and done: the target and the temporary path name two
places in one directory, no link was at the temporary one, and the file was put at the other. -/
structure Overwritten (view : View) (target : Path) (content : Bytes) (above : List Name)
    (name temporaryName : Name) (directory : Location) : Prop where
  /-- The target ends in a name. -/
  ends : target.EndsIn above name
  /-- The temporary path ends in another name beside it. -/
  temporary_ends : (temporary target).EndsIn above temporaryName
  /-- The target is looked up in a directory. -/
  looksUpIn : LooksUpIn (madeView view target).files view.current target above name directory
  /-- The temporary path is looked up there too. -/
  temporary_looksUpIn : LooksUpIn (madeView view target).files view.current (temporary target) above
    temporaryName directory
  /-- No link was at the temporary place. -/
  no_link : ∀ link, (madeView view target).files.node? (temporaryName :: directory)
    ≠ some (.link link)
  /-- The file was put at the place of the target. -/
  replaced : Replaced (madeView view target).files (writtenView view target content).files directory
    name temporaryName content

/-- A replacement that went well was one beside the target. -/
theorem exists_overwritten_of_write (sound : view.Sound)
    (hlink : ∀ place link, (madeView view target).named? (temporary target) = some place →
      (madeView view target).files.node? place ≠ some (.link link))
    (hok : (write view.current view.files target content).failure? = none) :
    ∃ above name temporaryName directory,
      Overwritten view target content above name temporaryName directory := by
  obtain ⟨above, name, temporaryName, h, h', hne⟩ := exists_endsIn_of_write sound hok
  -- where the names above lead no link is, for the temporary path names that place
  have hplain : ∀ directory, (∃ left, Way (madeView view target).files maxLinks
      (target.start view.current) above left directory) → ∀ link,
      (madeView view target).files.node? (temporaryName :: directory) ≠ some (.link link) := by
    rintro directory ⟨left, way⟩ link
    obtain ⟨hmiddle, -⟩ := Attempt.perform_of_failure?_eq_none hok
    obtain ⟨-, hcreate⟩ := Attempt.perform_of_failure?_eq_none hmiddle
    obtain ⟨place, hin, -⟩ := writeFile_eq_ok h' hcreate
    obtain ⟨left', way'⟩ := hin.way
    rw [start_eq_of_endsIn h h'] at way'
    obtain rfl := way.unique way'
    exact hlink _ link (View.named?_of_looksUpIn h' hin)
  obtain ⟨directory, hin, hin', hreplaced⟩ := replaced_of_write h h' hne hplain hok
  exact ⟨above, name, temporaryName, directory, h, h', hin, hin', hplain directory hin.way, hreplaced⟩

namespace Overwritten

/-- After a replacement there is no directory and no link that was not there when the directories
above the target were made. -/
theorem keeps_back (h : Overwritten view target content above name temporaryName directory) :
    Keeps (writtenView view target content).files (madeView view target).files := by
  intro location node hnode hfile
  have htarget : location ≠ name :: directory := by
    rintro rfl
    rw [h.replaced.target_node] at hnode
    exact hfile content (Option.some.inj hnode).symm
  have htemporary : location ≠ temporaryName :: directory := by
    rintro rfl
    rw [h.replaced.temporary_node] at hnode
    cases hnode
  rw [← h.replaced.others location htarget htemporary]
  exact hnode

theorem temporary_place (h : Overwritten view target content above name temporaryName directory)
    (hnamed : (writtenView view target content).named? (temporary target) = some place) :
    place = temporaryName :: directory := by
  obtain ⟨-, directory', rfl, -, left, way⟩ := (View.named?_eq_some_iff h.temporary_ends).1 hnamed
  obtain ⟨left', way'⟩ := h.temporary_looksUpIn.way
  rw [current_writtenView] at way
  rw [(way.mono h.keeps_back).unique way']

/-- Nothing is at the temporary path after a replacement. -/
theorem temporary_gone (h : Overwritten view target content above name temporaryName directory) :
    (writtenView view target content).pathExists (temporary target) = false := by
  rw [View.pathExists, pathExists]
  cases hlocate : (writtenView view target content).files.locate .find
      (writtenView view target content).current (temporary target) with
  | error error => rfl
  | ok location =>
    exfalso
    obtain ⟨left, place, hin, hwalk⟩ := exists_looksUpIn_of_locate h.temporary_ends hlocate
    -- the temporary name could only be looked up where the file was, and there is nothing now
    have hplace := h.temporary_place (View.named?_of_looksUpIn h.temporary_ends hin)
    obtain ⟨-, rfl⟩ := List.cons.inj hplace
    rw [walk_lookUp hin.looksUp (by simp), h.replaced.temporary_node] at hwalk
    simp at hwalk

/-- The target is looked up where it was after a replacement, if there was a way past the link that
may have been there. -/
theorem looksUpIn_after (h : Overwritten view target content above name temporaryName directory)
    (hpast : ∀ link, (madeView view target).files.node? (name :: directory) = some (.link link) →
      ∃ left, Way ((madeView view target).files.erase (name :: directory)) maxLinks
        (target.start view.current) above left directory) :
    LooksUpIn (writtenView view target content).files view.current target above name directory := by
  by_cases hplain : ∀ link,
      (madeView view target).files.node? (name :: directory) ≠ some (.link link)
  · exact h.looksUpIn.mono (h.replaced.keeps hplain h.no_link)
  · -- only that link is lost, and the way does without it
    push Not at hplain
    obtain ⟨link, hlink⟩ := hplain
    obtain ⟨left, way⟩ := hpast link hlink
    have keeps : Keeps ((madeView view target).files.erase (name :: directory))
        (writtenView view target content).files := by
      intro location node hnode hfile
      rw [node?_erase] at hnode
      split at hnode
      · cases hnode
      rename_i hother
      have htarget : location ≠ name :: directory := by
        rintro rfl
        exact hother ⟨rfl, List.cons_ne_nil name directory⟩
      have htemporary := ne_of_node?_eq_some hnode hfile h.replaced.temporary_before h.no_link
      rw [h.replaced.others location htarget htemporary]
      exact hnode
    exact ⟨h.looksUpIn.text, ⟨left, way.mono keeps⟩, h.looksUpIn.looksUp⟩

/-- A view stays sound when a file is replaced in it. -/
theorem sound (h : Overwritten view target content above name temporaryName directory)
    (sound : (madeView view target).Sound) : (writtenView view target content).Sound := by
  have hdirectory : (madeView view target).files.node? directory = some .directory := by
    obtain ⟨left, way⟩ := h.looksUpIn.way
    rcases way.houses sound.tree (sound.houses.start target) with hstands | ⟨hnameless, -⟩
    · exact hstands
    · rw [h.looksUpIn.looksUp.named] at hnameless
      cases hnameless
  -- neither place was that of a directory, so every directory is left
  have hleft : ∀ location, (madeView view target).files.node? location = some .directory →
      (writtenView view target content).files.node? location = some .directory := by
    intro location hstands
    rw [h.replaced.others location, hstands]
    · rintro rfl
      exact h.replaced.target_before hstands
    · rintro rfl
      exact h.replaced.temporary_before hstands
  refine ⟨fun child parent hchild => hleft parent ?_, ?_⟩
  · by_cases htarget : child :: parent = name :: directory
    · rw [(List.cons.inj htarget).2]
      exact hdirectory
    by_cases htemporary : child :: parent = temporaryName :: directory
    · rw [(List.cons.inj htemporary).2]
      exact hdirectory
    rw [h.replaced.others _ htarget htemporary] at hchild
    exact sound.tree child parent hchild
  · exact sound.houses.imp (hleft _) fun hnameless => ⟨hnameless.1, hleft _ hnameless.2⟩

/-- Every other node is as it was, but for directories that were missing above the target. -/
theorem others (h : Overwritten view target content above name temporaryName directory)
    {location : Location} (htarget : location ≠ name :: directory)
    (htemporary : location ≠ temporaryName :: directory) :
    (writtenView view target content).files.node? location = view.files.node? location ∨
      (view.files.node? location = none ∧
        (writtenView view target content).files.node? location = some .directory ∧
        ∃ place ∈ target.above,
          (madeView view target).directory? (target.cut place) = some location) := by
  rw [h.replaced.others location htarget htemporary]
  exact node?_madeView view target location

end Overwritten

/-- A link that a path beside the target names with the directories above made is one that it named
before, if no two dots lead out of one that was made. -/
theorem named?_link_of_ensureParents {twin : Path} {twinName : Name} {link : Path}
    (tree : view.files.IsTree) (h : target.EndsIn above name) (h' : twin.EndsIn above twinName)
    (hup : dotDotName ∉ above)
    (hok : (ensureParents view.current view.files target).failure? = none)
    (hnamed : (madeView view target).named? twin = some place)
    (hlink : (madeView view target).files.node? place = some (.link link)) :
    view.named? twin = some place ∧ view.files.node? place = some (.link link) := by
  have hbefore := (grown_ensureParents view.current view.files target).link_of_link hlink
  obtain ⟨htext, directory, rfl, hnameless, left, way⟩ := (View.named?_eq_some_iff h').1 hnamed
  have hstood := tree twinName directory (by rw [hbefore]; rfl)
  have hstart : twin.start view.current = target.start view.current := start_eq_of_endsIn h h'
  rw [current_madeView, hstart] at way
  obtain ⟨left, way⟩ := way_of_ensureParents tree h hup hok way hstood
  rw [← hstart] at way
  exact ⟨(View.named?_eq_some_iff h').2 ⟨htext, directory, rfl, hnameless, left, way⟩, hbefore⟩

/-- What a replacement that went well leaves, said of the places that the target and the temporary path
name once the directories above them are made. -/
structure Outcome (view : View) (target : Path) (content : Bytes) (place temporaryPlace : Location) :
    Prop where
  /-- The target names one place. -/
  named : (madeView view target).named? target = some place
  /-- The temporary path names the other one. -/
  temporary_named : (madeView view target).named? (temporary target) = some temporaryPlace
  /-- At the place of the target there is a file with the new content. -/
  node : (writtenView view target content).files.node? place = some (.file content)
  /-- At the temporary place there is nothing. -/
  temporary_node : (writtenView view target content).files.node? temporaryPlace = none
  /-- The temporary path names no other place afterwards. -/
  temporary_place : ∀ other,
    (writtenView view target content).named? (temporary target) = some other →
      other = temporaryPlace
  /-- The temporary path leads to nothing. -/
  temporary_gone : (writtenView view target content).pathExists (temporary target) = false
  /-- Every other node is as it was, but for directories that were missing above the target. -/
  others : ∀ location, location ≠ place → location ≠ temporaryPlace →
    (writtenView view target content).files.node? location = view.files.node? location ∨
      (view.files.node? location = none ∧
        (writtenView view target content).files.node? location = some .directory ∧
        ∃ above ∈ target.above,
          (madeView view target).directory? (target.cut above) = some location)
  /-- The view is sound. -/
  sound : (writtenView view target content).Sound
  /-- The target still names its place, where what is read is the new content, unless it went through
  the link that was there. -/
  leads : ¬ view.PassesItself target →
    (writtenView view target content).named? target = some place ∧
      (writtenView view target content).content target = .ok content

/-- What a replacement that went well leaves. -/
theorem exists_outcome_of_write (sound : view.Sound) (hup : Path.Component.up ∉ target.components)
    (hlink : ∀ place link, view.named? (temporary target) = some place →
      view.files.node? place ≠ some (.link link))
    (hok : (write view.current view.files target content).failure? = none) :
    ∃ place temporaryPlace, Outcome view target content place temporaryPlace := by
  have hparents : (ensureParents view.current view.files target).failure? = none :=
    (Attempt.perform_of_failure?_eq_none (Attempt.perform_of_failure?_eq_none hok).1).1
  -- no link is at the temporary path: one that was out of reach has not come into it
  have hplain : ∀ place link, (madeView view target).named? (temporary target) = some place →
      (madeView view target).files.node? place ≠ some (.link link) := by
    intro place link hnamed hnode
    obtain ⟨above, name, temporaryName, h, h', -⟩ := exists_endsIn_of_write sound hok
    obtain ⟨hbefore, hstood⟩ := named?_link_of_ensureParents sound.tree h h'
      (h.dotDotName_notMem hup) hparents hnamed hnode
    exact hlink place link hbefore hstood
  obtain ⟨above, name, temporaryName, directory, h⟩ := exists_overwritten_of_write sound hplain hok
  refine ⟨name :: directory, temporaryName :: directory, ?_⟩
  have hnamed := View.named?_of_looksUpIn h.ends h.looksUpIn
  constructor
  case named => exact hnamed
  case temporary_named => exact View.named?_of_looksUpIn h.temporary_ends h.temporary_looksUpIn
  case node => exact h.replaced.target_node
  case temporary_node => exact h.replaced.temporary_node
  case temporary_place => exact fun _ hother => h.temporary_place hother
  case temporary_gone => exact h.temporary_gone
  case others =>
    intro location htarget htemporary
    exact h.others htarget htemporary
  case sound => exact h.sound (sound_madeView sound target)
  case leads =>
    intro hself
    have hin := h.looksUpIn_after fun link hnode => by
      obtain ⟨hbefore, hstood⟩ := named?_link_of_ensureParents sound.tree h.ends h.ends
        (h.ends.dotDotName_notMem hup) hparents hnamed hnode
      obtain ⟨left, way⟩ := View.way_erase_of_not_passesItself h.ends hself hbefore hstood
      have keeps := (grown_ensureParents view.current view.files target).keeps.erase
        (name :: directory)
      exact ⟨left, way.mono keeps⟩
    exact ⟨View.named?_of_looksUpIn h.ends hin, hin.content_eq h.ends h.replaced.target_node⟩

/-- What a replacement leaves, whatever the new content is, a JSON text or another one, if nothing or a
file was at the temporary path: the file with that content, nothing at the temporary path, and directories
that were missing above the target. The target names that file still, unless it went through the link
that it named. -/
theorem exists_outcome_of_write_json (sound : view.Sound)
    (hup : Path.Component.up ∉ target.components)
    (hsibling : ∀ place node, view.named? (temporary target) = some place →
      view.files.node? place = some node → ∃ content, node = .file content)
    (content : Bytes) (hok : (write view.current view.files target content).failure? = none) :
    ∃ place temporaryPlace, Outcome view target content place temporaryPlace := by
  apply exists_outcome_of_write sound hup ?_ hok
  intro place link hnamed hlink
  obtain ⟨content, hfile⟩ := hsibling place (.link link) hnamed hlink
  cases hfile

end Outcome

/-- The content of a file with the text of a JSON value. -/
def jsonContent (value : Json) : Bytes := Bytes.ofString (value.write .indented)

/-- A process at the root of a file system with a file and a link to it. -/
def linkedView : View where
  files := FileSystem.ofNodes [("f", .file [0]), ("l", .link (Path.ofString "f"))]
  current := []
  order := ListingOrder.stored

theorem sound_linkedView : linkedView.Sound :=
  ⟨(isTree_empty.insert rfl rfl _).insert (by decide +kernel) rfl _, .inl rfl⟩

theorem free_temporary_linkedView {place : Location}
    (h : linkedView.named? (temporary (Path.ofString "l")) = some place) :
    linkedView.files.node? place = none := by
  have hnamed : linkedView.named? (temporary (Path.ofString "l"))
      = some [Bytes.ofString "l.json.tmp"] := by decide +kernel
  obtain rfl := Option.some.inj (hnamed.symm.trans h)
  decide +kernel

/-- A link is replaced by a file, and the file that it led to stays. -/
theorem exists_outcome_linked :
    (∃ place temporaryPlace, Outcome linkedView (Path.ofString "l")
        (jsonContent (.integer 1)) place temporaryPlace) ∧
      (writtenView linkedView (Path.ofString "l")
        (jsonContent (.integer 1))).files.node? [Bytes.ofString "f"]
        = some (.file [0]) := by
  refine ⟨exists_outcome_of_write_json sound_linkedView (by decide +kernel) ?_
    (jsonContent (.integer 1)) (by decide +kernel), by decide +kernel⟩
  intro place node hplace hnode
  rw [free_temporary_linkedView hplace] at hnode
  cases hnode

/-- A process at the root of a file system with a link to that root. -/
def loopView : View where
  files := FileSystem.ofNodes [("l", .link (Path.ofString "."))]
  current := []
  order := ListingOrder.stored

theorem sound_loopView : loopView.Sound := ⟨isTree_empty.insert rfl rfl _, .inl rfl⟩

theorem free_temporary_loopView {place : Location}
    (h : loopView.named? (temporary (Path.ofString "l/l")) = some place) :
    loopView.files.node? place = none := by
  have hnamed : loopView.named? (temporary (Path.ofString "l/l"))
      = some [Bytes.ofString "l.json.tmp"] := by decide +kernel
  obtain rfl := Option.some.inj (hnamed.symm.trans h)
  decide +kernel

/-- A target that goes through the link that it names is replaced, and then it names nothing: the way
to it went through the link. -/
theorem write_json_through_itself :
    loopView.Sound ∧ Path.Component.up ∉ (Path.ofString "l/l").components ∧
      (∀ place, loopView.named? (temporary (Path.ofString "l/l")) = some place →
        loopView.files.node? place = none) ∧
      (write loopView.current loopView.files (Path.ofString "l/l")
        (jsonContent (.integer 1))).failure? = none ∧
      (writtenView loopView (Path.ofString "l/l")
        (jsonContent (.integer 1))).named? (Path.ofString "l/l") = none ∧
      (writtenView loopView (Path.ofString "l/l")
        (jsonContent (.integer 1))).content (Path.ofString "l/l")
        = .error .notADirectory := by
  exact ⟨sound_loopView, by decide +kernel, fun _ => free_temporary_loopView, by decide +kernel,
    by decide +kernel, by decide +kernel⟩

end AtomicWrite

end EmulatorScout
