import EmulatorScout.Proofs.Config.ReadBack
import EmulatorScout.Proofs.FileSystem.AllOrNothing

/-!
# Loading what was saved

A configuration that was saved at a path is loaded from there (`Config.load_saved`): the remembered
directories and the choice of output are those that were saved, and the directories for one run are
those given for the run that loads. Saving once more what was loaded leaves the file as it is.
-/

set_option autoImplicit false

namespace EmulatorScout

open AtomicWrite

namespace Config

/-- A file with the text of a configuration is loaded as what of it outlasts a run, with the
directories given for the run that loads. -/
theorem load_of_content {view : View} {path : Path} {config : Config}
    (h : view.content path = .ok (Bytes.ofString config.text)) (dirs? : Option String) :
    load view path dirs? = (config.lasting.override dirs?, none) := by
  rw [load, h, ofReading, ofContent_text]

section Saving

variable {view : View} {path : Path} {content old : Bytes}

/-- Replacing a file by its own content leaves its content, whether the attempt goes well or not. -/
theorem content_rewritten (sound : view.Sound) (hread : view.content path = .ok content)
    (hfree : ∀ place, view.named? (temporary path) = some place → view.files.node? place = none) :
    (writtenView view path content).content path = .ok content := by
  have hlink : ∀ place link, view.named? (temporary path) = some place →
      view.files.node? place ≠ some (.link link) := by
    intro place link hnamed
    rw [hfree place hnamed]
    exact nofun
  have hapart : ∀ place, view.named? (temporary path) = some place →
      view.files.locate .find view.current path ≠ .ok place := by
    intro place hnamed hlocate
    obtain ⟨location, hfound, -, hfile⟩ := FileSystem.content_eq_ok_iff.1 hread
    obtain rfl := Except.ok.inj (hlocate.symm.trans hfound)
    rw [hfree place hnamed] at hfile
    cases hfile
  by_cases hok : (write view.current view.files path content).failure? = none
  · exact content_of_write sound hread hlink hok
  · exact kept_of_write sound hread hlink hapart hok _ List.mem_cons_self

/-- The view after a configuration was saved. -/
def saved (config : Config) (view : View) (path : Path) : View :=
  view.withFiles (config.save view path).files

/-- A configuration that was saved is loaded, for every path without two dots that does not go through
the link that it names, if no link was at the temporary path: its directories in their order and its
choice of output, with the directories for one run that are given to the loading. Saving what was
loaded leaves the content of the file. -/
theorem load_saved (sound : view.Sound) (hup : Path.Component.up ∉ path.components)
    (hlink : ∀ place link, view.named? (temporary path) = some place →
      view.files.node? place ≠ some (.link link))
    (hself : ¬ view.PassesItself path) (config : Config)
    (hok : (config.save view path).failure? = none) (dirs? : Option String) :
    load (config.saved view path) path dirs?
        = (⟨config.extraDirs, config.json, dirs?.map Home.splitList⟩, none) ∧
      ((load (config.saved view path) path dirs?).1.saved (config.saved view path) path).content path
        = (config.saved view path).content path := by
  obtain ⟨place, temporaryPlace, outcome⟩ := exists_outcome_of_write sound hup hlink hok
  have hcontent : (config.saved view path).content path = .ok (Bytes.ofString config.text) :=
    (outcome.leads hself).2
  have hloaded := load_of_content hcontent dirs?
  refine ⟨hloaded, ?_⟩
  -- the second saving writes the text that is there, and nothing is at the temporary path
  have hfree : ∀ other, (config.saved view path).named? (temporary path) = some other →
      (config.saved view path).files.node? other = none := by
    intro other hother
    rw [outcome.temporary_place other hother]
    exact outcome.temporary_node
  rw [hloaded, hcontent]
  exact content_rewritten outcome.sound hcontent hfree

end Saving

/-- A configuration with a directory whose text needs escapes. -/
def quotedConfig : Config := ⟨["/a \"b\" \\", ""], true, some ["/once"]⟩

/-- A configuration that was saved over a link is loaded from there, and stays when it is saved again. -/
theorem load_saved_linked :
    load (quotedConfig.saved linkedView (Path.ofString "l")) (Path.ofString "l") (some "/now")
        = (⟨["/a \"b\" \\", ""], true, some ["/now"]⟩, none) ∧
      ((load (quotedConfig.saved linkedView (Path.ofString "l")) (Path.ofString "l")
          (some "/now")).1.saved (quotedConfig.saved linkedView (Path.ofString "l"))
          (Path.ofString "l")).content (Path.ofString "l")
        = (quotedConfig.saved linkedView (Path.ofString "l")).content (Path.ofString "l") := by
  have hread : linkedView.content (Path.ofString "l") = .ok [0] := by decide +kernel
  have hnow : (some "/now").map Home.splitList = some ["/now"] := by decide +kernel
  have hloaded := load_saved sound_linkedView (by decide +kernel) ?_
    (sound_linkedView.not_passesItself hread) quotedConfig (by decide +kernel) (some "/now")
  · rw [hnow] at hloaded
    exact hloaded
  · intro place link hplace hlink
    rw [free_temporary_linkedView hplace] at hlink
    cases hlink

/-- A path that goes through the link that it names is saved to without a failure, and a configuration
without the saved directory is loaded from there. -/
theorem load_saved_through_itself :
    loopView.Sound ∧ Path.Component.up ∉ (Path.ofString "l/l").components ∧
      (∀ place, loopView.named? (temporary (Path.ofString "l/l")) = some place →
        loopView.files.node? place = none) ∧
      ((⟨["/x"], false, none⟩ : Config).save loopView (Path.ofString "l/l")).failure? = none ∧
      (load ((⟨["/x"], false, none⟩ : Config).saved loopView (Path.ofString "l/l"))
        (Path.ofString "l/l") none).1.extraDirs = [] := by
  exact ⟨sound_loopView, by decide +kernel, fun _ => free_temporary_loopView, by decide +kernel,
    by decide +kernel⟩

end Config

end EmulatorScout
