import Mathlib.Data.List.DropRight

/-!
# Pieces of lists

Texts and paths are cut at marks: at the first mark of a kind (`takeWhile_ne_append_cons`), at the last
one (`rtakeWhile_ne_append_cons`) or at all of them. When they are cut at all of them, no piece holds a
mark (`mem_of_mem_splitOnP`), and everything else is in some piece (`exists_mem_splitOnP`).
-/

set_option autoImplicit false

namespace EmulatorScout

/-- What a search for a mark stops at is the mark. -/
theorem eq_of_dropWhile_ne {α : Type} [DecidableEq α] {mark first : α} {list rest : List α}
    (h : list.dropWhile (· ≠ mark) = first :: rest) : first = mark := by
  have hhead := List.head?_dropWhile_not (· ≠ mark) list
  rw [h] at hhead
  simpa using hhead

section Cut

variable {α : Type} [DecidableEq α] {mark : α} {before after : List α}

/-- A list is cut at its first mark: what stands before it, if that holds no mark. -/
theorem takeWhile_ne_append_cons (h : mark ∉ before) :
    (before ++ mark :: after).takeWhile (· ≠ mark) = before := by
  have hbefore : ∀ a ∈ before, decide (a ≠ mark) = true := by
    intro a ha
    simp only [decide_eq_true_iff]
    rintro rfl
    exact h ha
  rw [List.takeWhile_append_of_pos hbefore, List.takeWhile_cons_of_neg (by simp), List.append_nil]

/-- The mark at which a list is cut, and what stands after it. -/
theorem dropWhile_ne_append_cons (h : mark ∉ before) :
    (before ++ mark :: after).dropWhile (· ≠ mark) = mark :: after := by
  have hwhole := @List.takeWhile_append_dropWhile _ (· ≠ mark) (before ++ mark :: after)
  rw [takeWhile_ne_append_cons h] at hwhole
  exact List.append_cancel_left hwhole

/-- A list is cut at its last mark: what stands after it, if that holds no mark. -/
theorem rtakeWhile_ne_append_cons (h : mark ∉ after) :
    (before ++ mark :: after).rtakeWhile (· ≠ mark) = after := by
  have hreverse : (before ++ mark :: after).reverse = after.reverse ++ mark :: before.reverse := by
    simp
  rw [List.rtakeWhile, hreverse, takeWhile_ne_append_cons (by simpa using h), List.reverse_reverse]

theorem rdropWhile_ne_append_cons (h : mark ∉ after) :
    (before ++ mark :: after).rdropWhile (· ≠ mark) = before ++ [mark] := by
  have hreverse : (before ++ mark :: after).reverse = after.reverse ++ mark :: before.reverse := by
    simp
  rw [List.rdropWhile, hreverse, dropWhile_ne_append_cons (by simpa using h), List.reverse_cons,
    List.reverse_reverse]

end Cut

/-- What stands in a piece stands in the whole, and is nothing that the whole was split at. -/
theorem mem_of_mem_splitOnP {α : Type} {isMark : α → Bool} {list piece : List α} {element : α}
    (hpiece : piece ∈ list.splitOnP isMark) (helement : element ∈ piece) :
    element ∈ list ∧ isMark element = false := by
  induction list generalizing piece with
  | nil =>
    rw [List.splitOnP_nil, List.mem_singleton] at hpiece
    rw [hpiece] at helement
    cases helement
  | cons first list ih =>
    rw [List.splitOnP_cons_eq_if_modifyHead] at hpiece
    split at hpiece
    · rcases List.mem_cons.1 hpiece with rfl | hpiece
      · cases helement
      · exact (ih hpiece helement).imp_left (List.mem_cons_of_mem first)
    · rename_i hfirst
      -- an element that is no mark stands at the front of the first piece of the rest
      obtain ⟨piece', others, hsplit⟩ :=
        List.exists_cons_of_ne_nil (List.splitOnP_ne_nil isMark list)
      rw [hsplit] at hpiece ih
      rw [List.modifyHead_cons] at hpiece
      rcases List.mem_cons.1 hpiece with rfl | hpiece
      · rcases List.mem_cons.1 helement with rfl | helement
        · exact ⟨List.mem_cons_self, by simpa using hfirst⟩
        · exact (ih List.mem_cons_self helement).imp_left (List.mem_cons_of_mem first)
      · exact (ih (List.mem_cons_of_mem _ hpiece) helement).imp_left (List.mem_cons_of_mem first)

/-- Everything that is no mark stands in some piece. -/
theorem exists_mem_splitOnP {α : Type} {isMark : α → Bool} {list : List α} {element : α}
    (hmem : element ∈ list) (helement : isMark element = false) :
    ∃ piece ∈ list.splitOnP isMark, element ∈ piece := by
  induction list with
  | nil => cases hmem
  | cons first list ih =>
    rw [List.splitOnP_cons_eq_if_modifyHead]
    split
    · rename_i hfirst
      rcases List.mem_cons.1 hmem with rfl | hmem
      · rw [helement] at hfirst
        cases hfirst
      · obtain ⟨piece, hpiece, hin⟩ := ih hmem
        exact ⟨piece, List.mem_cons_of_mem _ hpiece, hin⟩
    · obtain ⟨piece, others, hsplit⟩ :=
        List.exists_cons_of_ne_nil (List.splitOnP_ne_nil isMark list)
      rw [hsplit] at ih ⊢
      rw [List.modifyHead_cons]
      rcases List.mem_cons.1 hmem with rfl | hmem
      · exact ⟨_, List.mem_cons_self, List.mem_cons_self⟩
      · -- the first piece of the rest has grown by one element, and the others are what they were
        obtain ⟨piece', hpiece, hin⟩ := ih hmem
        rcases List.mem_cons.1 hpiece with rfl | hpiece
        · exact ⟨_, List.mem_cons_self, List.mem_cons_of_mem first hin⟩
        · exact ⟨piece', List.mem_cons_of_mem _ hpiece, hin⟩

end EmulatorScout
