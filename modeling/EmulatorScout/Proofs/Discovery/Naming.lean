import EmulatorScout.Proofs.Discovery.Rescan

/-!
# Names of marker files, character by character

What the group of the expression for names catches is the process id, and by what the expression means the
name is `pid_`, that process id and `.ini`, and nothing else: no other text is read as a process id, and no
text around such a name is (`MarkerFile.eq_empty_of_surrounded`). So in one directory at most one entry
speaks for a process, and it makes no difference in which order the entries come
(`Scan.directory_relisted`). `MarkerFile.pid?_iff_whole_name` puts this together.
-/

set_option autoImplicit false

namespace EmulatorScout

open Text (Expression)

namespace MarkerFile

variable {pid : String}

theorem name_eq (pid : String) : name pid = "pid_" ++ pid ++ ".ini" := by
  apply String.toList_inj.1
  simp [name, opening, closing]

/-- A character that is no digit occurs in the name of a marker file as often as around the digits. -/
theorem count_name (h : IsPid pid) {c : Char} (hc : Text.isDecimalDigit c = false) :
    (name pid).toList.count c = opening.count c + closing.count c := by
  have hnone : pid.toList.count c = 0 := by
    rw [List.count_eq_zero]
    intro hmem
    rw [h.2 c hmem] at hc
    cases hc
  rw [name, String.toList_ofList, List.count_append, List.count_append, hnone, Nat.add_zero]

/-- A marker file's name with anything before or after it is no marker file's name. -/
theorem eq_empty_of_surrounded {inner : String} (h : IsPid pid) (hinner : IsPid inner)
    {before after : String} (hname : name pid = before ++ name inner ++ after) :
    before = "" ∧ after = "" := by
  have hlist : (name pid).toList = before.toList ++ (name inner).toList ++ after.toList := by
    rw [hname, String.toList_append, String.toList_append]
  -- what is no digit occurs equally often in both names, so it does not occur around the inner one
  have hnone : ∀ c, Text.isDecimalDigit c = false → c ∉ before.toList ∧ c ∉ after.toList := by
    intro c hc
    have hcount := congrArg (List.count c) hlist
    rw [List.count_append, List.count_append, count_name h hc, count_name hinner hc] at hcount
    rw [← List.count_eq_zero, ← List.count_eq_zero]
    omega
  have hspelt : (name pid).toList = opening ++ pid.toList ++ closing := by
    rw [name, String.toList_ofList]
  constructor
  · cases hbefore : before.toList with
    | nil => exact String.toList_eq_nil_iff.1 hbefore
    | cons first rest =>
      have hfirst : 'p' = first := by
        rw [hspelt, hbefore] at hlist
        exact (List.cons.inj hlist).1
      exact absurd (hbefore ▸ hfirst ▸ List.mem_cons_self) (hnone 'p' (by decide)).1
  · cases hafter : after.toList.getLast? with
    | none => exact String.toList_eq_nil_iff.1 (List.getLast?_eq_none_iff.1 hafter)
    | some last =>
      have hlast : (name pid).toList.getLast? = some last := by
        rw [hlist, List.getLast?_append, hafter, Option.some_or]
      rw [hspelt, List.getLast?_append] at hlast
      have hi : 'i' = last := Option.some.inj hlast
      exact absurd (List.mem_of_getLast? (hi ▸ hafter)) (hnone 'i' (by decide)).2

end MarkerFile

/-- One directory says the same in every order in which it is listed, whatever was found before. -/
theorem Scan.directory_relisted {view : View} {found snapshot : Snapshot} {path : Path}
    (h : Scan.directory view found path = .ok snapshot) (order : ListingOrder) :
    ∃ other, Scan.directory (view.relisted order) found path = .ok other ∧
      ∀ pid, other.get? pid = snapshot.get? pid := by
  cases hother : Scan.directory (view.relisted order) found path with
  | error error =>
    -- what cannot be read in the other order cannot be read in this one
    obtain ⟨error', herror⟩ := (Scan.exists_directory_eq_error_iff view found path).2
      ((Scan.exists_directory_eq_error_iff (view.relisted order) found path).1 ⟨error, hother⟩)
    rw [h] at herror
    cases herror
  | ok other =>
    refine ⟨other, rfl, fun pid => ?_⟩
    rw [Scan.get?_directory hother, Scan.get?_directory h, Discovery.directoryStates_relisted]

/-- What the names of marker files are. A text is read as the process id that the group of the expression
catches in a match somewhere in it, and that is so exactly if the text is `pid_`, the process id and
`.ini`, one after the other, with digits for the process id; otherwise it is read as none. So two names
are never read as one process id, and a name that is read as one is not read as any with a text before or
after it, as a line end. And so the order in which one directory is listed has no part in what a scan of
it finds. -/
theorem MarkerFile.pid?_iff_whole_name :
    (∃ expression, Expression.ofText? "^pid_(\\d+)\\.ini$" = some expression ∧
      ∀ name pid, pid? name = some pid ↔ expression.Catches 1 name pid) ∧
    (∀ name pid, pid? name = some pid ↔
      name = "pid_" ++ pid ++ ".ini" ∧ pid ≠ "" ∧
        ∀ c ∈ pid.toList, Text.isDecimalDigit c = true) ∧
    (∀ name, pid? name = none ↔
      ∀ pid, name = "pid_" ++ pid ++ ".ini" →
        pid = "" ∨ ∃ c ∈ pid.toList, Text.isDecimalDigit c = false) ∧
    (∀ name other pid, pid? name = some pid → pid? other = some pid → name = other) ∧
    (∀ name before after, (pid? name).isSome = true → (before ≠ "" ∨ after ≠ "") →
      pid? (before ++ name ++ after) = none) ∧
    ∀ view found path snapshot, Scan.directory view found path = .ok snapshot →
      ∀ order, ∃ other, Scan.directory (view.relisted order) found path = .ok other ∧
        ∀ pid, other.get? pid = snapshot.get? pid := by
  have hread : ∀ text pid, pid? text = some pid ↔
      text = "pid_" ++ pid ++ ".ini" ∧ pid ≠ "" ∧
        ∀ c ∈ pid.toList, Text.isDecimalDigit c = true := by
    intro text pid
    rw [pid?_eq_some_iff_name, name_eq]
    exact and_comm
  refine ⟨⟨expression, ofText?_pattern, fun _ _ => pid?_eq_some_iff_catches⟩, hread, ?_, ?_, ?_,
    fun _ _ _ _ h order => Scan.directory_relisted h order⟩
  · intro text
    rw [Option.eq_none_iff_forall_ne_some]
    refine forall_congr' fun pid => ?_
    rw [ne_eq, hread, not_and, not_and_or, ne_eq, not_not]
    simp only [not_forall, Bool.not_eq_true, exists_prop]
  · intro text other pid htext hother
    rw [((hread text pid).1 htext).1, ((hread other pid).1 hother).1]
  · intro text before after hsome haround
    obtain ⟨inner, hinner⟩ := Option.isSome_iff_exists.1 hsome
    obtain ⟨hpid, rfl⟩ := pid?_eq_some_iff_name.1 hinner
    rw [Option.eq_none_iff_forall_ne_some]
    intro pid hwhole
    obtain ⟨hdigits, hname⟩ := pid?_eq_some_iff_name.1 hwhole
    obtain ⟨hbefore, hafter⟩ := eq_empty_of_surrounded hdigits hpid hname.symm
    exact haround.elim (· hbefore) (· hafter)

/-- A directory with one number in the digits of two scripts, and with that name before a line end. -/
def scriptsView : View :=
  ⟨.ofNodes
    [("a", .directory), ("a/pid_5.ini", .file (Bytes.ofString "a=1")),
      ("a/pid_٥.ini", .file (Bytes.ofString "a=2")),
      ("a/pid_5.ini\n", .file (Bytes.ofString "a=3"))], [], .stored⟩

/-- The two numbers are two process ids, the name before a line end is none, and both are found from
the other end of the listing too. -/
theorem MarkerFile.pid?_iff_whole_name_scripts :
    pid? "pid_٥.ini" = some "٥" ∧ pid? "pid_5.ini\n" = none ∧
      (∃ expression, Expression.ofText? pattern = some expression ∧
        expression.Catches 1 "pid_٥.ini" "٥") ∧
      ∃ other, Scan.directory (scriptsView.relisted ⟨fun _ names => names.reverse,
          fun _ names => names.reverse_perm⟩) .empty (Path.ofString "a") = .ok other ∧
        other.get? "٥" = some ⟨"٥", .single "a" "2"⟩ := by
  have hdigits : ∀ c ∈ "٥".toList, Text.isDecimalDigit c = true :=
    List.all_eq_true.1 (by decide)
  have hfive : (pid? "pid_5.ini").isSome = true := by decide
  have hscan : Scan.directory scriptsView .empty (Path.ofString "a")
      = .ok ⟨[("5", ⟨"5", .single "a" "1"⟩), ("٥", ⟨"٥", .single "a" "2"⟩)]⟩ := by
    decide +kernel
  have hread : pid? "pid_٥.ini" = some "٥" :=
    (pid?_iff_whole_name.2.1 _ _).2 ⟨by decide, by decide, hdigits⟩
  obtain ⟨expression, hpattern, hcatches⟩ := pid?_iff_whole_name.1
  refine ⟨hread, pid?_iff_whole_name.2.2.2.2.1 "pid_5.ini" "" "\n" hfive (.inr (by decide)),
    ⟨expression, hpattern, (hcatches _ _).1 hread⟩, ?_⟩
  obtain ⟨other, hother, hget⟩ := pid?_iff_whole_name.2.2.2.2.2 _ _ _ _ hscan _
  exact ⟨other, hother, (hget "٥").trans (by decide)⟩

end EmulatorScout
