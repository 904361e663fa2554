import EmulatorScout.Proofs.FileSystem.Ways
import EmulatorScout.Proofs.Path.Surroundings
import Mathlib.Data.List.Induction

/-!
# Which directories are made above a file

A directory that is new after the first stage of a replacement is one that a path above the target
leads to (`exists_place_of_new`). A path without two dots comes to the new ones last: a way to a
directory that stood before led there before, too (`way_of_ensureParents`).
-/

set_option autoImplicit false

namespace EmulatorScout

open FileSystem

namespace FileSystem

/-! ## One directory -/

section Directory

variable {files after : FileSystem} {current location directory : Location} {path : Path}
  {above : List Name} {name : Name} {links left : Nat}

theorem way_of_slashes (files : FileSystem) (links : Nat) (current : Location) {names : List Name}
    (h : ∀ name ∈ names, name = []) : Way files links current names links current := by
  induction names with
  | nil => exact .here links current
  | cons name rest ih =>
    exact .stay (.inl (h name List.mem_cons_self))
      (ih fun other hother => h other (List.mem_cons_of_mem name hother))

/-- A way along one name that counts, and is not two dots, goes through the directory or the link under
it. -/
theorem Way.looksUp_of_counts (way : Way files links current [name] left location)
    (hcounts : Path.counts name = true) (hup : name ≠ dotDotName) :
    LooksUp current name ∧
      ((files.node? (name :: current) = some .directory ∧ location = name :: current) ∨
        ∃ link, files.node? (name :: current) = some (.link link)) := by
  generalize hone : [name] = names at way
  cases way with
  | here => cases hone
  | stay mark =>
    obtain ⟨rfl, -⟩ := List.cons.inj hone
    rw [Path.counts_eq_false_iff.2 mark] at hcounts
    cases hcounts
  | up =>
    obtain ⟨rfl, -⟩ := List.cons.inj hone
    exact absurd rfl hup
  | down looksUp node on =>
    obtain ⟨rfl, rfl⟩ := List.cons.inj hone
    cases on
    exact ⟨looksUp, .inl ⟨node, rfl⟩⟩
  | follow looksUp node =>
    obtain ⟨rfl, rfl⟩ := List.cons.inj hone
    exact ⟨looksUp, .inr ⟨_, node⟩⟩

/-- A new directory stands where nothing stood, and its path leads to it. -/
theorem exists_of_makeDirectory (h : files.makeDirectory current path = .ok after) :
    ∃ location, files.node? location = none ∧ after = files.insert location .directory ∧
      after.directory? current path = some location := by
  have keeps := (grown_makeDirectory h).keeps
  obtain ⟨directory, name, slashed, hlast, hshort, hfree, hafter⟩ := makeDirectory_eq_ok h
  obtain ⟨htext, -, hmarks, hnamed, above, left, hdrop, way⟩ := locateLast_eq_name_iff.1 hlast
  obtain ⟨hnil, slashes, hsegments, hslashes⟩ := Path.exists_segments_eq hdrop
  have hnew : after.node? (name :: directory) = some .directory := by
    rw [hafter, node?_insert, if_pos ⟨rfl, List.cons_ne_nil name directory⟩]
  refine ⟨name :: directory, hfree, hafter, directory?_eq_some_iff.2 ⟨htext, ?_, ?_⟩⟩
  · -- the way to the directory goes on to the new one, and slashes after it change nothing
    rw [hsegments]
    exact ⟨left, (way.mono keeps).append (.down ⟨hnil, hmarks.1, hmarks.2, hnamed, hshort⟩ hnew
      (way_of_slashes _ _ _ hslashes))⟩
  · exact isDirectoryAt_iff.2 (.inr hnew)

/-- A tree stays one when a directory is made. -/
theorem IsTree.makeDirectory (tree : files.IsTree) (houses : files.Houses current)
    (h : files.makeDirectory current path = .ok after) : after.IsTree := by
  obtain ⟨directory, name, slashed, hlast, -, hfree, rfl⟩ := makeDirectory_eq_ok h
  obtain ⟨-, -, -, hnamed, above, left, -, way⟩ := locateLast_eq_name_iff.1 hlast
  have hdirectory : files.node? directory = some .directory := by
    rcases way.houses tree (houses.start path) with hdirectory | ⟨hnameless, -⟩
    · exact hdirectory
    · rw [hnamed] at hnameless
      cases hnameless
  exact tree.insert hfree hdirectory .directory

/-- A directory that lacks nothing but its last name can be made, or something stands there. -/
theorem makeDirectory_ne_notFound (h : path.EndsIn above name) (htext : textError? path = none)
    (way : Way files maxLinks (path.start current) above left directory)
    (hlooksUp : LooksUp directory name) :
    files.makeDirectory current path ≠ .error .notFound := by
  have hlast := locateLast_eq_name_iff.2 ⟨htext, rfl, ⟨h.ne_dot, h.ne_dotDot⟩, hlooksUp.named,
    above.reverse, left, h.dropWhile_eq, by rwa [List.reverse_reverse]⟩
  rw [makeDirectory, hlast]
  simp only [if_neg (Nat.not_lt.2 hlooksUp.short)]
  cases files.node? (name :: directory) <;> rintro ⟨⟩

end Directory

end FileSystem

/-! ## The directories above a file -/

namespace AtomicWrite

section Attempts

variable {current : Location} {progress : Progress} {path : Path} {files : FileSystem}

/-- What making a directory that may exist comes to: it is new, or nothing has changed, and then
the attempt ends well only if the path leads to a directory. -/
theorem ensureDirectory_cases (current : Location) (progress : Progress) (path : Path) :
    progress.files.makeDirectory current path
        = .ok (ensureDirectory current progress path).files ∨
      ((ensureDirectory current progress path).progress = progress ∧
        ((ensureDirectory current progress path).failure? = none →
          progress.files.isDirectory current path = true)) := by
  rw [ensureDirectory]
  cases hmake : progress.perform current (.makeDirectory path) with
  | ok after => exact .inl (Progress.of_perform_eq_ok hmake).1
  | error error =>
    right
    by_cases hdirectory : progress.files.isDirectory current path = true <;> simp [hdirectory]

/-- What making directories from the innermost one out comes to: the innermost one is made, if it
can be tried without those above it. Otherwise those above it are made first, and if that fails, the
attempt has failed with them. -/
theorem ensureDirectories_cons {place : Nat} (above : List Nat)
    (hplace : (path.cut place).bytes ≠ []) :
    (progress.files.makeDirectory current (path.cut place) ≠ .error .notFound ∧
        ensureDirectories current progress path (place :: above)
          = ensureDirectory current progress (path.cut place)) ∨
      (progress.files.makeDirectory current (path.cut place) = .error .notFound ∧
        (((ensureDirectories current progress path above).failure? ≠ none ∧
            ensureDirectories current progress path (place :: above)
              = ensureDirectories current progress path above) ∨
          ((ensureDirectories current progress path above).failure? = none ∧
            ensureDirectories current progress path (place :: above)
              = ensureDirectory current (ensureDirectories current progress path above).progress
                (path.cut place)))) := by
  rw [ensureDirectories, if_neg hplace]
  have hperform := Progress.perform_eq_map current progress (.makeDirectory (path.cut place))
  rw [Change.perform] at hperform
  generalize ensureDirectories current progress path above = attempt
  cases hmake : progress.files.makeDirectory current (path.cut place) with
  | ok files =>
    simp only [hperform, hmake, Except.map]
    exact .inl ⟨by rintro ⟨⟩, trivial⟩
  | error error =>
    simp only [hperform, hmake, Except.map]
    by_cases hmissing : error = .notFound
    · subst hmissing
      cases attempt.failure? <;> simp
    · left
      cases error <;> first | exact absurd rfl hmissing | exact ⟨by rintro ⟨⟩, rfl⟩

/-- Where the attempt to make a directory ends well the path leads to one. -/
theorem exists_directory?_of_ensureDirectory
    (h : (ensureDirectory current progress path).failure? = none) :
    ∃ location, (ensureDirectory current progress path).files.directory? current path
      = some location := by
  rcases ensureDirectory_cases current progress path with hmake | ⟨hsame, hdirectory⟩
  · obtain ⟨location, -, -, hleads⟩ := exists_of_makeDirectory hmake
    exact ⟨location, hleads⟩
  · rw [Attempt.files, hsame]
    exact Option.isSome_iff_exists.1 (hdirectory h)

/-- What is new after directories were made is a directory that one of their paths leads to. -/
theorem exists_place_of_new {places : List Nat} {location : Location}
    (hfree : progress.files.node? location = none)
    (hnew : (ensureDirectories current progress path places).files.node? location ≠ none) :
    ∃ place ∈ places, (ensureDirectories current progress path places).files.directory? current
      (path.cut place) = some location := by
  refine ensureDirectories_induction
    (motive := fun after => after.files.node? location ≠ none →
      ∃ place ∈ places, after.files.directory? current (path.cut place) = some location)
    ?_ (fun hstood => absurd hfree hstood) hnew
  intro place hplace before after hbefore hperform hstands
  have hmake := (Progress.of_perform_eq_ok hperform).1
  obtain ⟨made, -, hafter, hleads⟩ := exists_of_makeDirectory hmake
  by_cases hsame : location = made
  · exact ⟨place, hplace, hsame ▸ hleads⟩
  · -- it was new before, and the path that led to it leads to it still
    rw [hafter, node?_insert, if_neg fun hboth => hsame hboth.1] at hstands
    obtain ⟨other, hother, hled⟩ := hbefore hstands
    exact ⟨other, hother, (grown_makeDirectory hmake).keeps.directory? hled⟩

/-- A tree stays one when the directories above a file are made. -/
theorem isTree_ensureParents {target : Path} (tree : files.IsTree) (houses : files.Houses current) :
    (ensureParents current files target).files.IsTree := by
  have hrun : (ensureParents current files target).files.IsTree ∧
      (ensureParents current files target).files.Houses current := by
    refine ensureDirectories_induction
      (motive := fun after => after.files.IsTree ∧ after.files.Houses current) ?_ ⟨tree, houses⟩
    intro place hplace before after hbefore hperform
    have hmake := (Progress.of_perform_eq_ok hperform).1
    exact ⟨hbefore.1.makeDirectory hbefore.2 hmake,
      hbefore.2.mono (grown_makeDirectory hmake).keeps⟩
  exact hrun.1

end Attempts

/-! ## The ways to the directories -/

section Ways

variable {current location : Location} {progress : Progress} {path : Path} {files : FileSystem}
  {front back : List Name} {segment : Name} {left : Nat}

theorem start_cut (hsegments : path.segments = front ++ segment :: back)
    (hcounts : Path.counts segment = true) :
    (path.cut (Path.textOf front segment).length).start current = path.start current := by
  rw [Path.start, Path.start, Path.isAbsolute_cut (Path.bytes_cut_ne_nil hsegments hcounts)]

/-- A way along a beginning of a path's segments is one along the path cut there. -/
theorem exists_way_of_directory?_cut (hsegments : path.segments = front ++ segment :: back)
    (hcounts : Path.counts segment = true)
    (h : files.directory? current (path.cut (Path.textOf front segment).length) = some location) :
    ∃ left, Way files maxLinks (path.start current) (front ++ [segment]) left location := by
  obtain ⟨-, ⟨left, way⟩, -⟩ := directory?_eq_some_iff.1 h
  rw [start_cut hsegments hcounts, Path.segments_cut hsegments] at way
  exact ⟨left, way⟩

/-- The places at which to cut a path to get the directories that its first segments lead to. -/
def placesOf (path : Path) (front : List Name) : List Nat :=
  (Path.ends 0 front).reverse ++ path.origins

theorem placesOf_concat (path : Path) (front : List Name) (hcounts : Path.counts segment = true) :
    placesOf path (front ++ [segment])
      = (Path.textOf front segment).length :: placesOf path front := by
  rw [placesOf, Path.ends_concat, if_pos hcounts, List.reverse_append, List.reverse_singleton,
    List.append_assoc, List.singleton_append, placesOf]

theorem placesOf_concat_of_not_counts (path : Path) (front : List Name)
    (hcounts : ¬ Path.counts segment = true) :
    placesOf path (front ++ [segment]) = placesOf path front := by
  rw [placesOf, Path.ends_concat, if_neg hcounts, List.append_nil, placesOf]

/-- Where the attempt to make the directory of a segment goes well a way leads there. -/
theorem exists_way_of_ensureDirectory (hsegments : path.segments = front ++ segment :: back)
    (hcounts : Path.counts segment = true)
    (hok : (ensureDirectory current progress
      (path.cut (Path.textOf front segment).length)).failure? = none) :
    ∃ left location, Way (ensureDirectory current progress
        (path.cut (Path.textOf front segment).length)).files maxLinks (path.start current)
      (front ++ [segment]) left location := by
  obtain ⟨location, hleads⟩ := exists_directory?_of_ensureDirectory hok
  obtain ⟨left, way⟩ := exists_way_of_directory?_cut hsegments hcounts hleads
  exact ⟨left, location, way⟩

/-- Where directories were made a way leads to them. -/
theorem exists_way_of_ensureDirectories (hsegments : path.segments = front ++ back)
    (hok : (ensureDirectories current progress path (placesOf path front)).failure? = none) :
    ∃ left location,
      Way (ensureDirectories current progress path (placesOf path front)).files maxLinks
        (path.start current) front left location := by
  induction front using List.reverseRecOn generalizing back with
  | nil => exact ⟨maxLinks, path.start current, .here maxLinks (path.start current)⟩
  | append_singleton front segment ih =>
    rw [List.append_assoc, List.singleton_append] at hsegments
    by_cases hcounts : Path.counts segment = true
    · rw [placesOf_concat path front hcounts] at hok ⊢
      -- the last attempt is the one for this segment, after those for the others or at once
      rcases ensureDirectories_cons (placesOf path front)
        (Path.bytes_cut_ne_nil hsegments hcounts) with
        ⟨-, heq⟩ | ⟨-, ⟨hfailed, heq⟩ | ⟨-, heq⟩⟩
      · rw [heq] at hok ⊢
        exact exists_way_of_ensureDirectory hsegments hcounts hok
      · rw [heq] at hok
        exact absurd hok hfailed
      · rw [heq] at hok ⊢
        exact exists_way_of_ensureDirectory hsegments hcounts hok
    · rw [placesOf_concat_of_not_counts path front hcounts] at hok ⊢
      obtain ⟨left, location, way⟩ := ih hsegments hok
      have hmark := Path.counts_eq_false_iff.1 (Bool.not_eq_true _ ▸ hcounts)
      exact ⟨left, location, way.append (.stay hmark (.here left location))⟩

/-- A name that leads to a directory that stood was one that stood itself. -/
theorem isSome_node?_of_step {before after : FileSystem} {place : Location} {links : Nat}
    (grown : Grown before after) (step : Way after links place [segment] left location)
    (hcounts : Path.counts segment = true) (hup : segment ≠ dotDotName)
    (hstood : before.node? location = some .directory) :
    LooksUp place segment ∧ (before.node? (segment :: place)).isSome := by
  obtain ⟨looksUp, hnode⟩ := step.looksUp_of_counts hcounts hup
  refine ⟨looksUp, ?_⟩
  rcases hnode with ⟨-, rfl⟩ | ⟨link, hlink⟩
  · rw [hstood]
    rfl
  · rw [grown.link_of_link hlink]
    rfl

/-- A way to a directory that stood before led there before, if no two dots lead out of one that
was made. -/
theorem way_of_ensureDirectories (tree : progress.files.IsTree)
    (hsegments : path.segments = front ++ back) (hup : dotDotName ∉ front)
    (hok : (ensureDirectories current progress path (placesOf path front)).failure? = none)
    (way : Way (ensureDirectories current progress path (placesOf path front)).files maxLinks
      (path.start current) front left location)
    (hstood : progress.files.node? location = some .directory) :
    ∃ left, Way progress.files maxLinks (path.start current) front left location := by
  induction front using List.reverseRecOn generalizing back left location with
  | nil =>
    cases way
    exact ⟨maxLinks, .here maxLinks (path.start current)⟩
  | append_singleton front segment ih =>
    rw [List.append_assoc, List.singleton_append] at hsegments
    rw [List.mem_append, not_or] at hup
    by_cases hcounts : Path.counts segment = true
    · rw [placesOf_concat path front hcounts] at hok way
      rcases ensureDirectories_cons (placesOf path front)
        (Path.bytes_cut_ne_nil hsegments hcounts) with
        ⟨-, heq⟩ | ⟨hmissing, ⟨hfailed, heq⟩ | ⟨hbefore, heq⟩⟩
      · -- the directory of this segment was tried at once: what was made had not stood
        rw [heq] at way
        rcases ensureDirectory_cases current progress _ with hmake | ⟨hsame, -⟩
        · obtain ⟨made, hfree, -, hleads⟩ := exists_of_makeDirectory hmake
          obtain ⟨left', way'⟩ := exists_way_of_directory?_cut hsegments hcounts hleads
          rw [way.unique way', hfree] at hstood
          cases hstood
        · rw [Attempt.files, hsame] at way
          exact ⟨left, way⟩
      · rw [heq] at hok
        exact absurd hok hfailed
      · -- the way to the segment's directory was missing, so that directory was missing too
        exfalso
        rw [heq] at hok way
        obtain ⟨made, hleads⟩ := exists_directory?_of_ensureDirectory hok
        have htext := (directory?_eq_some_iff.1 hleads).1
        have grown := grown_ensureDirectory current
          (ensureDirectories current progress path (placesOf path front)).progress
          (path.cut (Path.textOf front segment).length)
        obtain ⟨middle, place, way, step⟩ := way.split
        obtain ⟨left', place', way'⟩ := exists_way_of_ensureDirectories hsegments hbefore
        obtain rfl := way.unique (way'.mono grown.keeps)
        have hlast := Path.segments_cut hsegments
        have hup' : segment ≠ dotDotName := fun heq => hup.2 (List.mem_singleton.2 heq.symm)
        obtain ⟨looksUp, hplace⟩ := isSome_node?_of_step
          ((grown_ensureDirectories current progress path _).trans grown) step hcounts hup' hstood
        obtain ⟨left, way⟩ := ih hsegments hup.1 hbefore way' (tree segment place hplace)
        rw [← start_cut hsegments hcounts] at way
        exact makeDirectory_ne_notFound
          ⟨hlast, looksUp.ne_nil, looksUp.ne_dot, looksUp.ne_dotDot⟩ htext way looksUp hmissing
    · rw [placesOf_concat_of_not_counts path front hcounts] at hok way
      have hmark := Path.counts_eq_false_iff.1 (Bool.not_eq_true _ ▸ hcounts)
      obtain ⟨middle, place, way, step⟩ := way.split
      have hend := step.walk_eq_ok
      rw [walk_stay hmark, walk_nil, Except.ok.injEq] at hend
      obtain ⟨left, way⟩ := ih hsegments hup.1 hok way (hend ▸ hstood)
      exact ⟨left, way.append (.stay hmark (hend ▸ .here left place))⟩

/-- A way to a directory that stood before the first stage of a replacement led there before, if no
two dots lead out of one that was made. -/
theorem way_of_ensureParents {target : Path} {above : List Name} {name : Name}
    (tree : files.IsTree) (h : target.EndsIn above name) (hup : dotDotName ∉ above)
    (hok : (ensureParents current files target).failure? = none)
    (way : Way (ensureParents current files target).files maxLinks (target.start current) above left
      location)
    (hstood : files.node? location = some .directory) :
    ∃ left, Way files maxLinks (target.start current) above left location := by
  have tree' : (Progress.start files).files.IsTree := tree
  rw [ensureParents, h.above_eq] at hok way
  exact way_of_ensureDirectories tree' h.segments_eq hup hok way hstood

end Ways

end AtomicWrite

end EmulatorScout
