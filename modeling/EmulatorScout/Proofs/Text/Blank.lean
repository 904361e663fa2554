import EmulatorScout.Text.Blank
import Mathlib.Data.List.DropRight

/-!
# Trimmed texts

A trimmed text has no white space at its ends (`isBlank_of_mem_head?_trim`,
`isBlank_of_mem_getLast?_trim`), so trimming it again changes nothing (`trimmed_trimmed`). A text that
has none there is what trimming leaves of it with any white space around it (`trim_surrounded`). Every
text is what trimming leaves of it with white space around (`exists_around_trim`), and nothing is left
of a text that is all white space (`trim_eq_nil_iff`).
-/

set_option autoImplicit false

namespace EmulatorScout.Text

theorem trimEnd_trimEnd (text : List Char) : trimEnd (trimEnd text) = trimEnd text :=
  List.rdropWhile_idempotent isBlank text

/-- Trimming the end of a text leaves its beginning alone. -/
theorem trimStart_trimEnd {text : List Char} (h : trimStart text = text) :
    trimStart (trimEnd text) = trimEnd text := by
  have hprefix : trimEnd text <+: text := List.rdropWhile_prefix isBlank text
  cases hend : trimEnd text with
  | nil => rfl
  | cons c rest =>
    obtain ⟨more, htext⟩ := hprefix
    rw [hend] at htext
    -- the first character that is left is the first one of the text, which is not blank
    have hblank : isBlank c = false := by
      rw [← htext, trimStart, List.dropWhile_eq_self_iff] at h
      simpa using h (by simp)
    exact List.dropWhile_cons_of_neg (by simp [hblank])

theorem trimStart_trim (text : List Char) : trimStart (trim text) = trim text := by
  have hstart : trimStart (trimStart text) = trimStart text :=
    List.dropWhile_idempotent isBlank text
  exact trimStart_trimEnd hstart

theorem mem_of_mem_trim {text : List Char} {c : Char} (h : c ∈ trim text) : c ∈ text := by
  have hend : c ∈ trimStart text := (List.rdropWhile_prefix isBlank _).subset h
  exact (List.dropWhile_suffix isBlank).subset hend

theorem isBlank_of_mem_head?_trim {text : List Char} {c : Char} (h : c ∈ (trim text).head?) :
    isBlank c = false := by
  have hhead := List.head?_dropWhile_not isBlank (trim text)
  rw [← trimStart, trimStart_trim, h] at hhead
  simpa using hhead

theorem isBlank_of_mem_getLast?_trim {text : List Char} {c : Char} (h : c ∈ (trim text).getLast?) :
    isBlank c = false := by
  have hhead := List.head?_dropWhile_not isBlank (trimStart text).reverse
  rw [trim, trimEnd, List.getLast?_reverse] at h
  rw [h] at hhead
  simpa using hhead

theorem trimStart_append {before : List Char} (hbefore : ∀ c ∈ before, isBlank c = true)
    (text : List Char) : trimStart (before ++ text) = trimStart text :=
  List.dropWhile_append_of_pos hbefore

theorem trimEnd_append {after : List Char} (hafter : ∀ c ∈ after, isBlank c = true)
    (text : List Char) : trimEnd (text ++ after) = trimEnd text := by
  have hreverse : ∀ c ∈ after.reverse, isBlank c = true :=
    fun c hc => hafter c (List.mem_reverse.1 hc)
  rw [trimEnd, List.reverse_append, List.dropWhile_append_of_pos hreverse, ← trimEnd]

theorem trimStart_eq_self {text : List Char} (h : ∀ c ∈ text.head?, isBlank c = false) :
    trimStart text = text := by
  cases text with
  | nil => rfl
  | cons c text => exact List.dropWhile_cons_of_neg (by simp [h c rfl])

theorem trimEnd_eq_self {text : List Char} (h : ∀ c ∈ text.getLast?, isBlank c = false) :
    trimEnd text = text := by
  have hreverse : trimStart text.reverse = text.reverse := by
    apply trimStart_eq_self
    rwa [List.head?_reverse]
  rw [trimEnd, ← trimStart, hreverse, List.reverse_reverse]

/-- Trimming takes away the white space around a text that neither begins nor ends with any. -/
theorem trim_surrounded {before text after : List Char} (hbefore : ∀ c ∈ before, isBlank c = true)
    (hafter : ∀ c ∈ after, isBlank c = true) (hne : text ≠ [])
    (hstart : ∀ c ∈ text.head?, isBlank c = false)
    (hend : ∀ c ∈ text.getLast?, isBlank c = false) :
    trim (before ++ text ++ after) = text := by
  have hhead : ∀ c ∈ (text ++ after).head?, isBlank c = false := by
    rwa [List.head?_append_of_ne_nil text hne]
  rw [trim, List.append_assoc, trimStart_append hbefore, trimStart_eq_self hhead,
    trimEnd_append hafter, trimEnd_eq_self hend]

/-- Trimming takes away nothing but white space: a text is what is left of it with white space
around. -/
theorem exists_around_trim (text : List Char) :
    ∃ before after, (∀ c ∈ before, isBlank c = true) ∧ (∀ c ∈ after, isBlank c = true) ∧
      text = before ++ trim text ++ after := by
  refine ⟨text.takeWhile isBlank, ((trimStart text).reverse.takeWhile isBlank).reverse, ?_, ?_, ?_⟩
  · exact fun c hc => List.mem_takeWhile_imp hc
  · exact fun c hc => List.mem_takeWhile_imp (List.mem_reverse.1 hc)
  · have hend : trim text ++ ((trimStart text).reverse.takeWhile isBlank).reverse = trimStart text := by
      rw [trim, trimEnd, ← List.reverse_append, List.takeWhile_append_dropWhile, List.reverse_reverse]
    rw [List.append_assoc, hend, trimStart, List.takeWhile_append_dropWhile]

/-- Nothing is left of a text by trimming exactly if it is all white space. -/
theorem trim_eq_nil_iff {text : List Char} : trim text = [] ↔ ∀ c ∈ text, isBlank c = true := by
  rw [← List.dropWhile_eq_nil_iff, ← trimStart]
  constructor
  · intro h
    cases hstart : trimStart text with
    | nil => rfl
    | cons first rest =>
      -- the text without the white space at its start does not begin with any
      have hhead := List.head?_dropWhile_not isBlank text
      rw [← trimStart, hstart] at hhead
      have hall := List.rdropWhile_eq_nil_iff.1 h first (hstart ▸ List.mem_cons_self)
      simp [hall] at hhead
  · intro h
    rw [trim, h]
    rfl

theorem trimmed_eq_empty_iff {text : String} :
    trimmed text = "" ↔ ∀ c ∈ text.toList, isBlank c = true := by
  rw [trimmed, String.ofList_eq_empty_iff, trim_eq_nil_iff]

theorem trimmed_trimmed (text : String) : trimmed (trimmed text) = trimmed text := by
  have hend : trimEnd (trim text.toList) = trim text.toList := trimEnd_trimEnd _
  rw [trimmed, trimmed, String.toList_ofList, trim, trimStart_trim, hend]

end EmulatorScout.Text
