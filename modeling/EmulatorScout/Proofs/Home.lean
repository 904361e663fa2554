import EmulatorScout.Config.Basic
import EmulatorScout.Proofs.Text.Separation

/-!
# Tildes and the home directory

A text that begins with a tilde stands for a place in the home directory: the home directory as it is
written, a slash unless it brings one, and what follows the tilde (`Home.inside`). The reader of such
texts joins the two as paths, and a path that begins with a slash is not joined to anything. So the
reader leads to that place exactly if what follows `~/` does not begin with a slash, and otherwise it
drops the home directory (`Home.expand_eq_inside_iff`). Every other text stands for itself.
-/

set_option autoImplicit false

namespace EmulatorScout.Home

/-! ## Slashes at the ends of texts -/

section Slashes

variable {text : String}

theorem bytes_append (text more : String) :
    Bytes.ofString (text ++ more) = Bytes.ofString text ++ Bytes.ofString more := by
  simp [Bytes.ofString, Text.Utf8.encode]

theorem bytes_head?_iff :
    (Bytes.ofString text).head? = some slash ↔ text.toList.head? = some '/' := by
  have hplain : slash.toNat < 128 := by decide
  constructor
  · intro h
    obtain ⟨after, hafter⟩ := List.head?_eq_some_iff.1 h
    have hshown := Text.Utf8.lossy_append_cons [] after hplain
    rw [List.nil_append, ← hafter, Bytes.ofString, Text.Utf8.lossy_encode] at hshown
    rw [hshown]
    rfl
  · intro h
    obtain ⟨after, hafter⟩ := List.head?_eq_some_iff.1 h
    rw [Bytes.ofString, hafter]
    rfl

theorem bytes_getLast?_iff :
    (Bytes.ofString text).getLast? = some slash ↔ text.toList.getLast? = some '/' := by
  have hplain : slash.toNat < 128 := by decide
  constructor
  · intro h
    obtain ⟨before, hbefore⟩ := List.getLast?_eq_some_iff.1 h
    have hshown := Text.Utf8.lossy_append_cons before [] hplain
    rw [← hbefore, Bytes.ofString, Text.Utf8.lossy_encode] at hshown
    rw [hshown]
    exact List.getLast?_concat
  · intro h
    obtain ⟨before, hbefore⟩ := List.getLast?_eq_some_iff.1 h
    rw [Bytes.ofString, hbefore, Text.Utf8.encode, List.flatMap_append]
    exact List.getLast?_concat

theorem isAbsolute_ofString_iff :
    (Path.ofString text).isAbsolute = true ↔ text.toList.head? = some '/' := by
  rw [Path.isAbsolute, decide_eq_true_iff]
  exact bytes_head?_iff

end Slashes

/-! ## Places in the home directory -/

/-- The text of a place in the home directory: the home directory as it is written, a slash unless it
ends in one, and the way on from there. -/
def inside (home rest : String) : String :=
  if home.toList.getLast? = some '/' then home ++ rest else home ++ "/" ++ rest

/-- The text of a place in the home directory begins with the home directory and ends with the way. -/
theorem exists_inside_eq (home rest : String) : ∃ gap, inside home rest = home ++ gap ++ rest := by
  rw [inside]
  split
  · exact ⟨"", by simp⟩
  · exact ⟨"/", rfl⟩

theorem inside_ne {home : String} (hne : home ≠ "") (rest : String) : inside home rest ≠ rest := by
  intro h
  obtain ⟨gap, hgap⟩ := exists_inside_eq home rest
  have hlength := congrArg (fun text => text.toList.length) (hgap.symm.trans h)
  have hpositive : home.toList ≠ [] := fun hnil => hne (String.toList_eq_nil_iff.1 hnil)
  simp only [String.toList_append, List.length_append] at hlength
  exact hpositive (List.length_eq_zero_iff.1 (by omega))

/-- A way that does not begin with a slash leads into the home directory. -/
theorem join_eq_inside {home rest : String} (hne : home ≠ "")
    (hrest : rest.toList.head? ≠ some '/') :
    (Path.ofString home).join (Path.ofString rest) = Path.ofString (inside home rest) := by
  have hrelative : (Path.ofString rest).isAbsolute = false := by
    rw [Bool.eq_false_iff, ne_eq, isAbsolute_ofString_iff]
    exact hrest
  have hbytes : (Path.ofString home).bytes ≠ [] := fun h => hne (Bytes.ofString_inj.1 (h.trans rfl))
  have hslash : (Path.ofString home).bytes.getLast? = some slash ↔ home.toList.getLast? = some '/' :=
    bytes_getLast?_iff
  rw [Path.join, hrelative, if_neg Bool.false_ne_true, inside]
  by_cases hlast : home.toList.getLast? = some '/'
  · rw [if_pos (.inr (hslash.2 hlast)), if_pos hlast, Path.ofString, Path.ofString, Path.ofString,
      bytes_append]
  · rw [if_neg (not_or.2 ⟨hbytes, fun h => hlast (hslash.1 h)⟩), if_neg hlast, Path.ofString,
      Path.ofString, Path.ofString, bytes_append, bytes_append, List.append_assoc]
    rfl

theorem join_eq_of_slash (home : String) {rest : String} (hrest : rest.toList.head? = some '/') :
    (Path.ofString home).join (Path.ofString rest) = Path.ofString rest := by
  rw [Path.join, if_pos (isAbsolute_ofString_iff.2 hrest)]

/-! ## Texts with a tilde -/

theorem afterTilde?_append (rest : String) : afterTilde? ("~/" ++ rest).toList = some rest.toList := by
  rw [String.toList_append]
  rfl

/-- Only a tilde, alone or before a slash, stands for the home directory. -/
theorem afterTilde?_eq_none {text : String} (hne : text ≠ "~")
    (hstart : ¬ "~/".toList <+: text.toList) : afterTilde? text.toList = none := by
  rw [afterTilde?.eq_def]
  split
  · rename_i h
    exact absurd (String.toList_inj.1 h) hne
  · rename_i rest h
    exact absurd ⟨rest, h.symm⟩ hstart
  · rfl

theorem expand_append (home rest : String) :
    expand (some home) ("~/" ++ rest) = (Path.ofString home).join (Path.ofString rest) := by
  simp only [expand, afterTilde?_append, String.ofList_toList]

/-- Where a tilde leads. A text that begins with a tilde and a slash stands for the place in the home
directory exactly if no other slash follows; if one follows, the text after the first slash stands for
itself, and the home directory is dropped. A tilde alone stands for the home directory with a slash
at its end. Every other text stands for itself, and so does every text if the home directory is not
known. -/
theorem expand_eq_inside_iff {home : String} (hne : home ≠ "") :
    (∀ rest, expand (some home) ("~/" ++ rest) = Path.ofString (inside home rest) ↔
      rest.toList.head? ≠ some '/') ∧
    (∀ rest, rest.toList.head? = some '/' →
      expand (some home) ("~/" ++ rest) = Path.ofString rest) ∧
    expand (some home) "~" = Path.ofString (inside home "") ∧
    (∀ home? text, text ≠ "~" → ¬ "~/".toList <+: text.toList →
      expand home? text = Path.ofString text) ∧
    ∀ text, expand none text = Path.ofString text := by
  have hdropped : ∀ rest : String, rest.toList.head? = some '/' →
      expand (some home) ("~/" ++ rest) = Path.ofString rest := by
    intro rest hrest
    rw [expand_append, join_eq_of_slash home hrest]
  refine ⟨fun rest => ⟨?_, ?_⟩, hdropped, ?_, ?_, ?_⟩
  · intro h hrest
    rw [hdropped rest hrest] at h
    exact inside_ne hne rest (Bytes.ofString_inj.1 (congrArg Path.bytes h)).symm
  · intro hrest
    rw [expand_append, join_eq_inside hne hrest]
  · exact join_eq_inside hne nofun
  · intro home? text htext hstart
    simp only [expand, afterTilde?_eq_none htext hstart]
  · intro text
    rw [expand]
    exact nofun

/-- A way that begins with a slash leads out of the home directory: the place in it is `/h//x`, and the
reader goes to `/x` instead, also for a directory of the configuration. -/
theorem expand_slash_not_inside :
    inside "/h" "/x" = "/h//x" ∧
      expand (some "/h") "~//x" ≠ Path.ofString (inside "/h" "/x") ∧
      ¬ (Path.ofString "/h").bytes <+: (expand (some "/h") "~//x").bytes ∧
      (⟨["~//x"], false, none⟩ : Config).extraPaths (some "/h") = [Path.ofString "/x"] := by
  decide

/-- A tilde before a name leads into the home directory, whether that ends in a slash or not. -/
theorem expand_eq_inside_twice :
    expand (some "/h") "~/x" = Path.ofString "/h/x" ∧
      expand (some "/h/") "~/x" = Path.ofString "/h/x" :=
  ⟨((@expand_eq_inside_iff "/h" (by decide)).1 "x").2 (by decide),
    ((@expand_eq_inside_iff "/h/" (by decide)).1 "x").2 (by decide)⟩

end EmulatorScout.Home
