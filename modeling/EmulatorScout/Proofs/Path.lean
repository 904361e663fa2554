import EmulatorScout.Home
import EmulatorScout.Proofs.Pieces

/-!
# The names of joined paths

What a walk along a path meets is the list of the path's segments. This module says what they are
for a path inside another one (`segments_join`) and for a path whose last name has another extension
(`EndsIn.withExtension`): the names above the last one stay what they are.
-/

set_option autoImplicit false

namespace EmulatorScout.Path

/-! ## Segments and bytes -/

theorem slash_notMem_of_mem_segments {path : Path} {segment : Name} (h : segment ∈ path.segments) :
    slash ∉ segment := by
  intro hslash
  rw [segments, List.splitOn_eq_splitOnP] at h
  simpa using (mem_of_mem_splitOnP h hslash).2

/-- Names without slashes, with a slash after each of them but the last, are the segments of the
text that they make. -/
theorem segments_flatMap {above : List Name} {name : Name} (habove : ∀ part ∈ above, slash ∉ part)
    (hname : slash ∉ name) :
    (⟨above.flatMap (· ++ [slash]) ++ name⟩ : Path).segments = above ++ [name] := by
  induction above with
  | nil => exact List.splitOn_eq_singleton hname
  | cons first others ih =>
    have hsplit : (first :: others).flatMap (· ++ [slash]) ++ name
        = first ++ slash :: (others.flatMap (· ++ [slash]) ++ name) := by
      simp
    have hothers : ∀ part ∈ others, slash ∉ part := fun part h =>
      habove part (List.mem_cons_of_mem first h)
    have hfirst := habove first List.mem_cons_self
    rw [segments, hsplit, List.splitOn_append_cons_self_of_not_mem hfirst]
    exact congrArg (first :: ·) (ih hothers)

/-- The segments of a path make its text, with a slash after each of them but the last. -/
theorem bytes_eq_flatMap {path : Path} {above : List Name} {name : Name}
    (h : path.segments = above ++ [name]) : path.bytes = above.flatMap (· ++ [slash]) ++ name := by
  have hjoined : ∀ above : List Name,
      [slash].intercalate (above ++ [name]) = above.flatMap (· ++ [slash]) ++ name := by
    intro above
    induction above with
    | nil => simp
    | cons first others ih =>
      rw [List.cons_append, List.intercalate_cons_of_ne_nil (by simp), ih]
      simp
  rw [← hjoined, ← h, segments, List.intercalate_splitOn]

/-! ## Joining -/

/-- The segments that a path inside the given one begins with: the empty one after a last slash is
not among them. -/
def steps (base : Path) : List Name :=
  if base.bytes.getLast? = some slash then base.segments.dropLast else base.segments

theorem segments_of_slash {bytes : Bytes} :
    (⟨bytes ++ [slash]⟩ : Path).segments = bytes.splitOn slash ++ [[]] := by
  rw [segments, List.splitOn_append_cons_self, List.splitOn_nil]

/-- A path has the segments that a path inside it begins with, and at most an empty one after them. -/
theorem segments_eq_steps (base : Path) :
    base.segments = base.steps ∨ base.segments = base.steps ++ [[]] := by
  by_cases hlast : base.bytes.getLast? = some slash
  · obtain ⟨bytes, hbytes⟩ := List.getLast?_eq_some_iff.1 hlast
    have hsegments : base.segments = bytes.splitOn slash ++ [[]] := by
      rw [← segments_of_slash, ← hbytes]
    exact .inr (by rw [steps, if_pos hlast, hsegments, List.dropLast_concat])
  · exact .inl (by rw [steps, if_neg hlast])

/-- The segments of a path inside another one are those of the two in order. -/
theorem segments_join {base inner : Path} (hbase : base.bytes ≠ [])
    (hinner : inner.isAbsolute = false) :
    (base.join inner).segments = base.steps ++ inner.segments := by
  -- a base with a slash at its end is joined as it is, and any other one with a slash after it
  rw [join, hinner]
  by_cases hlast : base.bytes.getLast? = some slash
  · obtain ⟨bytes, hbytes⟩ := List.getLast?_eq_some_iff.1 hlast
    have hsegments : base.segments = bytes.splitOn slash ++ [[]] := by
      rw [← segments_of_slash, ← hbytes]
    rw [if_neg Bool.false_ne_true, if_pos (.inr hlast), steps, if_pos hlast, hsegments,
      List.dropLast_concat, segments, hbytes, List.append_assoc, List.singleton_append,
      List.splitOn_append_cons_self, segments]
  · rw [if_neg Bool.false_ne_true, if_neg (not_or.2 ⟨hbase, hlast⟩), steps, if_neg hlast, segments,
      List.splitOn_append_cons_self, segments, segments]

/-- A path inside an absolute path is absolute, and one inside a relative path is relative. -/
theorem isAbsolute_join {base inner : Path} (hbase : base.bytes ≠ [])
    (hinner : inner.isAbsolute = false) : (base.join inner).isAbsolute = base.isAbsolute := by
  have hhead : ∀ more, (base.bytes ++ more).head? = base.bytes.head? := by
    obtain ⟨first, others, hbytes⟩ := List.exists_cons_of_ne_nil hbase
    rw [hbytes]
    exact fun _ => rfl
  rw [join, hinner, if_neg Bool.false_ne_true]
  split <;> rw [isAbsolute, hhead, isAbsolute]

theorem bytes_join_ne_nil {base inner : Path} (hbase : base.bytes ≠ [])
    (hinner : inner.isAbsolute = false) : (base.join inner).bytes ≠ [] := by
  rw [join, hinner, if_neg Bool.false_ne_true]
  split <;> exact List.append_ne_nil_of_left_ne_nil hbase _

theorem steps_join {base inner : Path} (hbase : base.bytes ≠ []) (hinner : inner.isAbsolute = false)
    (hne : inner.bytes ≠ []) (hlast : inner.bytes.getLast? ≠ some slash) :
    (base.join inner).steps = base.steps ++ inner.segments := by
  have hend : (base.join inner).bytes.getLast? = inner.bytes.getLast? := by
    obtain ⟨last, hsome⟩ : ∃ last, inner.bytes.getLast? = some last :=
      ⟨_, List.getLast?_eq_some_getLast hne⟩
    rw [join, hinner, if_neg Bool.false_ne_true]
    split
    · rw [List.getLast?_append, hsome, Option.some_or]
    · rw [List.append_cons, List.getLast?_append, hsome, Option.some_or]
  rw [steps, hend, if_neg hlast, segments_join hbase hinner]

/-! ## Last names -/

/-- A path that ends in a name, with the given segments above it. -/
structure EndsIn (path : Path) (above : List Name) (name : Name) : Prop where
  /-- The name is the last segment. -/
  segments_eq : path.segments = above ++ [name]
  /-- The name is not empty. -/
  ne_nil : name ≠ []
  /-- The name is not a dot. -/
  ne_dot : name ≠ dotName
  /-- The name is not two dots. -/
  ne_dotDot : name ≠ dotDotName

section EndsIn

variable {path : Path} {above : List Name} {name : Name}

/-- A name without its extension, and what the extension adds to it. -/
theorem splitExtension_eq_some {stem extension : Name}
    (h : splitExtension name = (stem, some extension)) :
    stem ≠ [] ∧ name = stem ++ dot :: extension := by
  rw [splitExtension] at h
  have hwhole : name.reverse.takeWhile (· ≠ dot) ++ name.reverse.dropWhile (· ≠ dot)
      = name.reverse := List.takeWhile_append_dropWhile
  -- the name is searched from its end, as far as the last dot
  split at h
  · cases h
  · cases h
  · rename_i byte rest hne hrest
    obtain rfl := eq_of_dropWhile_ne hrest
    cases h
    refine ⟨by simpa using hne, ?_⟩
    rw [hrest] at hwhole
    have hname := congrArg List.reverse hwhole
    simpa using hname.symm

theorem splitExtension_eq_none {stem : Name} (h : splitExtension name = (stem, none)) :
    stem = name := by
  rw [splitExtension] at h
  split at h <;> cases h <;> rfl

theorem splitExtension_concat_dot {stem : Name} (h : stem ≠ []) :
    splitExtension (stem ++ [dot]) = (stem, some []) := by
  have hreverse : stem.reverse ≠ [] := List.reverse_ne_nil_iff.2 h
  obtain ⟨first, others, hstem⟩ := List.exists_cons_of_ne_nil hreverse
  have hback : others.reverse ++ [first] = stem := by
    simpa using (List.reverse_eq_iff.1 hstem).symm
  rw [splitExtension, List.reverse_append, List.reverse_singleton, List.singleton_append]
  simp [hstem, hback]

theorem EndsIn.fileName?_eq (h : path.EndsIn above name) : path.fileName? = some name := by
  have hlast : Component.ofSegment? name = some (.name name) := by
    simp [Component.ofSegment?, h.ne_nil, h.ne_dot, h.ne_dotDot]
  simp [fileName?, components, h.segments_eq, hlast]

/-- Nothing but that name and those above it is left without the slashes at the end. -/
theorem EndsIn.dropWhile_eq (h : path.EndsIn above name) :
    path.segments.reverse.dropWhile (· = []) = name :: above.reverse := by
  rw [h.segments_eq, List.reverse_append]
  simp [h.ne_nil]

theorem EndsIn.extension?_eq (h : path.EndsIn above name) :
    path.extension? = (splitExtension name).2 := by
  rw [extension?, h.fileName?_eq, Option.bind_some]

theorem endsIn_flatMap (habove : ∀ part ∈ above, slash ∉ part) (hname : slash ∉ name)
    (hnil : name ≠ []) (hdot : name ≠ dotName) (hdotDot : name ≠ dotDotName) :
    (⟨above.flatMap (· ++ [slash]) ++ name⟩ : Path).EndsIn above name :=
  ⟨segments_flatMap habove hname, hnil, hdot, hdotDot⟩

theorem EndsIn.slash_notMem (h : path.EndsIn above name) :
    (∀ part ∈ above, slash ∉ part) ∧ slash ∉ name := by
  have hall : ∀ part ∈ above ++ [name], slash ∉ part := fun part hpart =>
    slash_notMem_of_mem_segments (h.segments_eq ▸ hpart)
  exact ⟨fun part hpart => hall part (List.mem_append_left _ hpart),
    hall name (List.mem_append_right _ (List.mem_singleton_self name))⟩

/-- The new extension goes to the last name that is left without the old one. -/
theorem withExtension_eq_of_endsIn {extension : Name}
    (h : path.withoutExtension.EndsIn above name) :
    path.withExtension extension
      = ⟨above.flatMap (· ++ [slash]) ++ ((splitExtension name).1 ++ dot :: extension)⟩ := by
  have hlast : path.withoutExtension.segments.reverse.dropWhile
      (fun segment => segment = [] || segment = dotName) = name :: above.reverse := by
    rw [h.segments_eq, List.reverse_append]
    simp [h.ne_nil, h.ne_dot]
  rw [withExtension, hlast]
  simp [h.ne_dotDot]

/-- Without its extension a name ends in the dot before it. -/
theorem EndsIn.withoutExtension {stem extension : Name} (h : path.EndsIn above name)
    (hsplit : splitExtension name = (stem, some extension)) (hstem : stem ≠ [dot]) :
    path.withoutExtension.EndsIn above (stem ++ [dot]) := by
  obtain ⟨hne, hname⟩ := splitExtension_eq_some hsplit
  have hbytes : path.bytes = (above.flatMap (· ++ [slash]) ++ (stem ++ [dot])) ++ extension := by
    rw [bytes_eq_flatMap h.segments_eq, hname]
    simp
  have hcut : path.withoutExtension = ⟨above.flatMap (· ++ [slash]) ++ (stem ++ [dot])⟩ := by
    rw [Path.withoutExtension, h.extension?_eq, hsplit]
    change (⟨path.bytes.take (path.bytes.length - extension.length)⟩ : Path) = _
    rw [hbytes, List.length_append, Nat.add_sub_cancel, List.take_left]
  obtain ⟨habove, hfree⟩ := h.slash_notMem
  have hslash : slash ∉ stem ++ [dot] := by
    intro hmem
    rcases List.mem_append.1 hmem with hmem | hmem
    · exact hfree (hname ▸ List.mem_append_left _ hmem)
    · exact absurd hmem (by decide)
  -- the stem is not empty, and it is no dot, so with a dot after it it is neither mark
  rw [hcut]
  refine endsIn_flatMap habove hslash (by simp) ?_ ?_
  · exact fun hdot => hne (List.append_cancel_right (hdot : stem ++ [dot] = [] ++ [dot]))
  · exact fun hdots => hstem (List.append_cancel_right (hdots : stem ++ [dot] = [dot] ++ [dot]))

/-- Another extension leaves the names above the last one alone. -/
theorem EndsIn.withExtension_eq (h : path.EndsIn above name)
    (hstem : (splitExtension name).1 ≠ [dot]) (extension : Name) :
    path.withExtension extension
      = ⟨above.flatMap (· ++ [slash]) ++ ((splitExtension name).1 ++ dot :: extension)⟩ := by
  cases hsplit : splitExtension name with
  | mk stem old? =>
    rw [hsplit] at hstem
    cases old? with
    | none =>
      have hwhole : path.withoutExtension = path := by
        rw [Path.withoutExtension, h.extension?_eq, hsplit]
      rw [withExtension_eq_of_endsIn (hwhole ▸ h), hsplit]
    | some old =>
      have hne := (splitExtension_eq_some hsplit).1
      rw [withExtension_eq_of_endsIn (h.withoutExtension hsplit hstem),
        splitExtension_concat_dot hne]

theorem slash_notMem_stem (h : slash ∉ name) : slash ∉ (splitExtension name).1 := by
  cases hsplit : splitExtension name with
  | mk stem old? =>
    cases old? with
    | none =>
      rw [splitExtension_eq_none hsplit]
      exact h
    | some old =>
      rw [(splitExtension_eq_some hsplit).2] at h
      exact fun hmem => h (List.mem_append_left _ hmem)

theorem slash_notMem_stem_append {extension : Name} (h : slash ∉ name) (hextension : slash ∉ extension) :
    slash ∉ (splitExtension name).1 ++ dot :: extension := by
  rw [List.mem_append, List.mem_cons]
  rintro (hmem | hmem | hmem)
  · exact slash_notMem_stem h hmem
  · exact absurd hmem (by decide)
  · exact hextension hmem

/-- The path with another extension ends in a name, below the same names. -/
theorem EndsIn.withExtension (h : path.EndsIn above name) (hstem : (splitExtension name).1 ≠ [dot])
    {extension : Name} (hextension : slash ∉ extension) :
    (path.withExtension extension).EndsIn above ((splitExtension name).1 ++ dot :: extension) := by
  obtain ⟨habove, hfree⟩ := h.slash_notMem
  have hne : (splitExtension name).1 ≠ [] := by
    cases hsplit : splitExtension name with
    | mk stem old? =>
      cases old? with
      | none =>
        obtain rfl := splitExtension_eq_none hsplit
        exact h.ne_nil
      | some old => exact (splitExtension_eq_some hsplit).1
  rw [h.withExtension_eq hstem]
  obtain ⟨first, others, hfirst⟩ := List.exists_cons_of_ne_nil hne
  refine endsIn_flatMap habove (slash_notMem_stem_append hfree hextension) (by simp) ?_ ?_
  · intro hdot
    rw [hfirst] at hdot
    simp [dotName] at hdot
  · intro hdots
    rw [hfirst] at hdots hstem
    simp [dotDotName, List.append_eq_singleton_iff] at hdots
    exact hstem (by rw [hdots.1, hdots.2.1])

theorem isAbsolute_iff_of_segments (h : path.segments = above ++ [name]) (hne : name ≠ []) :
    path.isAbsolute = true ↔ above.head? = some [] := by
  have hfree : ∀ part ∈ above ++ [name], slash ∉ part := fun part hpart =>
    slash_notMem_of_mem_segments (h ▸ hpart)
  have hhead : ∀ (part : Name) (more : Bytes), slash ∉ part → part ≠ [] →
      (part ++ more).head? ≠ some slash := by
    intro part more hpart hne
    obtain ⟨first, others, rfl⟩ := List.exists_cons_of_ne_nil hne
    intro hfirst
    exact hpart (by simp [Option.some.inj hfirst])
  rw [isAbsolute, decide_eq_true_iff, bytes_eq_flatMap h]
  cases above with
  | nil => simpa using hhead name [] (hfree name List.mem_cons_self) hne
  | cons first others =>
    by_cases hnil : first = []
    · simp [hnil]
    · have hne := hhead first (slash :: (others.flatMap (· ++ [slash]) ++ name))
        (hfree first List.mem_cons_self) hnil
      simpa [hnil] using hne

theorem EndsIn.isAbsolute_iff (h : path.EndsIn above name) :
    path.isAbsolute = true ↔ above.head? = some [] :=
  isAbsolute_iff_of_segments h.segments_eq h.ne_nil

end EndsIn

end EmulatorScout.Path
