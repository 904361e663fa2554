import EmulatorScout.Proofs.Path
import Mathlib.Data.List.TakeWhile

/-!
# The paths around a path

The paths above one that ends in a name are the beginnings of its text that end with a segment that
counts (`EndsIn.above_eq`), and the segments of such a beginning are the first segments of the path
(`segments_cut`).

Beside a path stands the one with another extension. It ends in another name, if the extension holds
a dot (`stem_append_ne`). A name that begins with two dots and has no other one is an exception: its
stem is a dot, and the path without the extension leads to the directory above
(`EndsIn.withExtension_up`). A path with an extension that ends in a name ends in nothing else, so no
slash follows the name (`endsIn_withExtension`).
-/

set_option autoImplicit false

namespace EmulatorScout.Path

/-! ## The end of a path -/

/-- The last segment that is not empty has only empty ones after it. -/
theorem exists_segments_eq {path : Path} {last : Name} {rest : List Name}
    (h : path.segments.reverse.dropWhile (· = []) = last :: rest) :
    last ≠ [] ∧ ∃ slashes, path.segments = rest.reverse ++ last :: slashes ∧
      ∀ segment ∈ slashes, segment = [] := by
  refine ⟨?_, (path.segments.reverse.takeWhile (· = [])).reverse, ?_, ?_⟩
  · rintro rfl
    have hhead := List.head?_dropWhile_not (fun segment : Name => decide (segment = []))
      path.segments.reverse
    rw [h] at hhead
    simp at hhead
  · have hwhole := congrArg List.reverse (List.takeWhile_append_dropWhile
      (p := fun segment : Name => decide (segment = [])) (l := path.segments.reverse))
    rw [h, List.reverse_append, List.reverse_reverse, List.reverse_cons, List.append_assoc,
      List.singleton_append] at hwhole
    exact hwhole.symm
  · intro segment hsegment
    simpa using List.mem_takeWhile_imp (List.mem_reverse.1 hsegment)

/-- A path with a last name ends in it unless a slash follows. -/
theorem endsIn_of_dropWhile {path : Path} {last : Name} {rest : List Name}
    (h : path.segments.reverse.dropWhile (· = []) = last :: rest) (hdot : last ≠ dotName)
    (hdotDot : last ≠ dotDotName) (hslash : path.bytes.getLast? ≠ some slash) :
    path.EndsIn rest.reverse last := by
  obtain ⟨hnil, slashes, hsegments, hslashes⟩ := exists_segments_eq h
  rcases List.eq_nil_or_concat slashes with rfl | ⟨more, final, rfl⟩
  · exact ⟨hsegments, hnil, hdot, hdotDot⟩
  · -- an empty segment at the end is what a slash leaves there
    exfalso
    apply hslash
    have hfinal : final = [] := hslashes final (by simp)
    have hall : path.segments = (rest.reverse ++ last :: more) ++ [[]] := by
      rw [hsegments, hfinal, List.concat_eq_append, List.append_assoc, List.cons_append]
    rcases List.eq_nil_or_concat (rest.reverse ++ last :: more) with hnone | ⟨front, part, hfront⟩
    · simp at hnone
    · rw [hfront, List.concat_eq_append] at hall
      rw [bytes_eq_flatMap hall]
      simp

/-! ## Beginnings of a path -/

/-- The text of segments with a slash after each of them but the last. -/
def textOf (above : List Name) (name : Name) : Bytes := above.flatMap (· ++ [slash]) ++ name

section Cut

variable {path : Path} {front back : List Name} {segment : Name}

/-- The ends of segments are those of the first ones and those of the others, which begin after
them. -/
theorem ends_append (before : Nat) (front back : List Name) :
    ends before (front ++ back)
      = ends before front ++ ends (before + (front.flatMap (· ++ [slash])).length) back := by
  induction front generalizing before with
  | nil => rfl
  | cons first others ih =>
    have hlength : before + ((first :: others).flatMap (· ++ [slash])).length
        = before + first.length + 1 + (others.flatMap (· ++ [slash])).length := by
      simp only [List.flatMap_cons, List.length_append, List.length_singleton]
      omega
    rw [List.cons_append, ends, ends, ih, hlength]
    split <;> rfl

theorem ends_concat (front : List Name) (segment : Name) :
    ends 0 (front ++ [segment])
      = ends 0 front ++ if counts segment then [(textOf front segment).length] else [] := by
  rw [ends_append, textOf, List.length_append, Nat.zero_add]
  split
  · rename_i hcounts
    rw [ends, if_pos hcounts, ends]
  · rename_i hcounts
    rw [ends, if_neg hcounts, ends]

theorem exists_bytes_eq (h : path.segments = front ++ segment :: back) :
    ∃ more, path.bytes = textOf front segment ++ more := by
  rcases List.eq_nil_or_concat back with rfl | ⟨middle, last, rfl⟩
  · exact ⟨[], by rw [List.append_nil, bytes_eq_flatMap h, textOf]⟩
  · refine ⟨slash :: (middle.flatMap (· ++ [slash]) ++ last), ?_⟩
    have hsegments : path.segments = (front ++ segment :: middle) ++ [last] := by
      rw [h, List.concat_eq_append, List.append_assoc, List.cons_append]
    rw [bytes_eq_flatMap hsegments, textOf]
    simp

/-- Cut at the end of a segment a path has the segments up to that one. -/
theorem segments_cut (h : path.segments = front ++ segment :: back) :
    (path.cut (textOf front segment).length).segments = front ++ [segment] := by
  obtain ⟨more, hbytes⟩ := exists_bytes_eq h
  have hfree : ∀ part ∈ front ++ segment :: back, slash ∉ part := fun part hpart =>
    slash_notMem_of_mem_segments (h ▸ hpart)
  rw [cut, hbytes, List.take_left, textOf]
  exact segments_flatMap (fun part hpart => hfree part (List.mem_append_left _ hpart))
    (hfree segment (by simp))

theorem ne_nil_of_counts (h : counts segment = true) : segment ≠ [] := by
  rintro rfl
  cases h

theorem counts_eq_false_iff : counts segment = false ↔ segment = [] ∨ segment = dotName := by
  rw [counts, Option.isSome_eq_false_iff, Option.isNone_iff_eq_none, Component.ofSegment?]
  by_cases hstay : segment = [] ∨ segment = dotName
  · simp [hstay]
  · rw [if_neg hstay]
    split <;> simp [hstay]

/-- Cut at the end of a segment that counts a path is not empty. -/
theorem bytes_cut_ne_nil (h : path.segments = front ++ segment :: back)
    (hcounts : counts segment = true) :
    (path.cut (textOf front segment).length).bytes ≠ [] := by
  obtain ⟨more, hbytes⟩ := exists_bytes_eq h
  rw [cut, hbytes, List.take_left, textOf]
  exact List.append_ne_nil_of_right_ne_nil _ (ne_nil_of_counts hcounts)

theorem isAbsolute_cut {place : Nat} (h : (path.cut place).bytes ≠ []) :
    (path.cut place).isAbsolute = path.isAbsolute := by
  have hpositive : place ≠ 0 := by
    rintro rfl
    exact h rfl
  rw [isAbsolute, isAbsolute, cut, List.head?_take, if_neg hpositive]

end Cut

/-! ## The places above a last name -/

theorem ends_cons_of_not_counts {before : Nat} {segment : Name} {rest : List Name}
    (h : counts segment = false) :
    ends before (segment :: rest) = ends (before + segment.length + 1) rest := by
  simp [ends, h]

/-- The ends after the lead of a path are those of its segments: what leads does not count. -/
theorem ends_lead (path : Path) :
    ends path.lead.length (path.body.splitOn slash) = ends 0 path.segments := by
  obtain ⟨bytes⟩ := path
  cases bytes with
  | nil => rfl
  | cons byte more =>
    obtain ⟨first, others, hmore⟩ := List.exists_cons_of_ne_nil (List.splitOn_ne_nil slash more)
    by_cases hslash : byte = slash
    · -- before a first slash there is an empty segment
      subst hslash
      have hsegments : (⟨slash :: more⟩ : Path).segments = [] :: first :: others := by
        simp [segments, List.splitOn_cons_eq_if_modifyHead, hmore]
      have hlead : (⟨slash :: more⟩ : Path).lead = [slash] := by simp [lead, isAbsolute]
      rw [hsegments, body, hlead, ends_cons_of_not_counts rfl]
      exact congrArg (ends 1) hmore
    · have hsegments : (⟨byte :: more⟩ : Path).segments = (byte :: first) :: others := by
        simp [segments, List.splitOn_cons_eq_if_modifyHead, hslash, hmore]
      have hlead : (⟨byte :: more⟩ : Path).lead
          = if byte :: first = dotName then dotName else [] := by
        simp [lead, isAbsolute, hslash, hsegments]
      rw [body, hlead]
      by_cases hdot : byte :: first = dotName
      · -- between a leading dot and the slash after it there is an empty text
        rw [if_pos hdot, hsegments, hdot, ends_cons_of_not_counts rfl]
        obtain ⟨rfl, rfl⟩ := List.cons.inj hdot
        have hbody : List.splitOn slash (List.drop dotName.length (dot :: more)) = [] :: others :=
          hmore
        rw [hbody, ends_cons_of_not_counts rfl]
        rfl
      · rw [if_neg hdot]
        rfl

/-- The places at which to cut a path are the ends of its segments and its origins. -/
theorem ancestry_eq (path : Path) :
    path.ancestry = (ends 0 path.segments).reverse ++ path.origins := by
  rw [ancestry, ends_lead]

/-- The paths above one that ends in a name end with the segments above that name. -/
theorem EndsIn.above_eq {path : Path} {above : List Name} {name : Name}
    (h : path.EndsIn above name) : path.above = (ends 0 above).reverse ++ path.origins := by
  have hcounts : counts name = true := by
    rw [← Bool.not_eq_false, counts_eq_false_iff]
    exact not_or.2 ⟨h.ne_nil, h.ne_dot⟩
  rw [Path.above, ancestry_eq, h.segments_eq, ends_concat, if_pos hcounts, List.reverse_append,
    List.reverse_singleton, List.append_assoc, List.singleton_append, List.tail_cons]

theorem EndsIn.dotDotName_notMem {path : Path} {above : List Name} {name : Name}
    (h : path.EndsIn above name) (hup : Component.up ∉ path.components) : dotDotName ∉ above := by
  intro hmem
  apply hup
  rw [components, List.mem_append, List.mem_filterMap]
  refine .inr ⟨dotDotName, ?_, by decide⟩
  rw [h.segments_eq]
  exact List.mem_append_left _ hmem

/-! ## Another extension -/

section Extension

variable {path : Path} {above : List Name} {name extension : Name}

/-- A new extension that holds a dot makes another name. -/
theorem stem_append_ne (hdot : dot ∈ extension) :
    (splitExtension name).1 ++ dot :: extension ≠ name := by
  intro heq
  cases hsplit : splitExtension name with
  | mk stem old? =>
    rw [hsplit] at heq
    cases old? with
    | none =>
      rw [splitExtension_eq_none hsplit] at heq
      simp at heq
    | some old =>
      -- the old extension is what follows the last dot, so it holds none
      have hold : dot ∉ old := by
        rw [splitExtension] at hsplit
        split at hsplit
        · cases hsplit
        · cases hsplit
        · cases hsplit
          rw [List.mem_reverse]
          intro hmem
          simpa using List.mem_takeWhile_imp hmem
      have hname := (splitExtension_eq_some hsplit).2.symm
      have hsame := List.append_cancel_left (heq.trans hname.symm)
      exact hold ((List.cons.inj hsame).2 ▸ hdot)

/-- A stem that is a dot leaves no name: without its extension the path ends in two dots. -/
theorem EndsIn.withExtension_up (h : path.EndsIn above name)
    (hstem : (splitExtension name).1 = [dot]) (extension : Name) :
    (path.withExtension extension).segments = above ++ [dotDotName] := by
  obtain ⟨habove, -⟩ := h.slash_notMem
  cases hsplit : splitExtension name with
  | mk stem old? =>
    rw [hsplit] at hstem
    subst hstem
    cases old? with
    | none => exact absurd (splitExtension_eq_none hsplit).symm h.ne_dot
    | some old =>
      have hbytes : path.bytes = textOf above dotDotName ++ old := by
        rw [bytes_eq_flatMap h.segments_eq, (splitExtension_eq_some hsplit).2, textOf]
        simp [dotDotName]
      have hcut : path.withoutExtension = ⟨textOf above dotDotName⟩ := by
        rw [Path.withoutExtension, h.extension?_eq, hsplit]
        change (⟨path.bytes.take (path.bytes.length - old.length)⟩ : Path) = _
        rw [hbytes, List.length_append, Nat.add_sub_cancel, List.take_left]
      have hsegments : path.withoutExtension.segments = above ++ [dotDotName] := by
        rw [hcut]
        exact segments_flatMap habove (by decide)
      have hlast : path.withoutExtension.segments.reverse.dropWhile
          (fun segment => segment = [] || segment = dotName) = dotDotName :: above.reverse := by
        rw [hsegments, List.reverse_append]
        rfl
      rw [Path.withExtension, hlast]
      exact hsegments

/-- With another extension that holds a dot a path that ends in a name ends in another one beside
it, or in two dots. -/
theorem EndsIn.withExtension_cases (h : path.EndsIn above name) (hslash : slash ∉ extension)
    (hdot : dot ∈ extension) :
    (∃ other, (path.withExtension extension).EndsIn above other ∧ other ≠ name) ∨
      (path.withExtension extension).segments = above ++ [dotDotName] := by
  by_cases hstem : (splitExtension name).1 = [dot]
  · exact .inr (h.withExtension_up hstem extension)
  · exact .inl ⟨_, h.withExtension hstem hslash, stem_append_ne hdot⟩

/-- With another extension the last name of a path is the stem of the old one with the extension. -/
theorem segments_withExtension {more : List Name}
    (hbase : path.withoutExtension.segments.reverse.dropWhile
      (fun segment => segment = [] || segment = dotName) = name :: more)
    (hup : name ≠ dotDotName) (hslash : slash ∉ extension) :
    (path.withExtension extension).segments
      = more.reverse ++ [(splitExtension name).1 ++ dot :: extension] := by
  have hmem : ∀ part ∈ name :: more, slash ∉ part := by
    intro part hpart
    rw [← hbase] at hpart
    exact slash_notMem_of_mem_segments
      (List.mem_reverse.1 ((List.dropWhile_sublist _).subset hpart))
  rw [withExtension, hbase]
  simp only [if_neg hup, List.append_assoc]
  apply segments_flatMap
  · intro part hpart
    exact hmem part (List.mem_cons_of_mem name (List.mem_reverse.1 hpart))
  · exact slash_notMem_stem_append (hmem name List.mem_cons_self) hslash

/-- A path with an extension ends in the last name that it has, with no slash after it. -/
theorem endsIn_withExtension {last : Name} {rest : List Name}
    (h : (path.withExtension extension).segments.reverse.dropWhile (· = []) = last :: rest)
    (hdot : last ≠ dotName) (hdotDot : last ≠ dotDotName) (hslash : slash ∉ extension) :
    ∃ above, (path.withExtension extension).EndsIn above last := by
  have hnil := (exists_segments_eq h).1
  -- where the text keeps its end, its last name is searched past slashes and dots
  have hkept : path.withExtension extension = path.withoutExtension →
      path.withoutExtension.segments.reverse.dropWhile
        (fun segment => segment = [] || segment = dotName) = last :: rest := by
    intro hsame
    rw [hsame] at h
    rw [← List.takeWhile_append_dropWhile (p := fun segment : Name => decide (segment = []))
      (l := path.withoutExtension.segments.reverse), h, List.dropWhile_append_of_pos]
    · simp [hnil, hdot]
    · intro segment hsegment
      have hempty : segment = [] := by simpa using List.mem_takeWhile_imp hsegment
      simp [hempty]
  cases hbase : path.withoutExtension.segments.reverse.dropWhile
      (fun segment => segment = [] || segment = dotName) with
  | nil =>
    have hsame : path.withExtension extension = path.withoutExtension := by
      rw [withExtension, hbase]
    rw [hkept hsame] at hbase
    cases hbase
  | cons name more =>
    by_cases hup : name = dotDotName
    · have hsame : path.withExtension extension = path.withoutExtension := by
        rw [withExtension, hbase]
        simp [hup]
      rw [hkept hsame] at hbase
      exact absurd ((List.cons.inj hbase).1.trans hup) hdotDot
    · have hpath := segments_withExtension hbase hup hslash
      have hlast : (splitExtension name).1 ++ dot :: extension = last := by
        rw [hpath, List.reverse_append, List.reverse_singleton, List.singleton_append,
          List.dropWhile_cons_of_neg (by simp)] at h
        exact (List.cons.inj h).1
      exact ⟨more.reverse, hlast ▸ hpath, hnil, hdot, hdotDot⟩

end Extension

end EmulatorScout.Path
