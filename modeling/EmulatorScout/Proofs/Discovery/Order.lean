import EmulatorScout.Proofs.Discovery.Reachable
import EmulatorScout.Proofs.Text.Numeral

/-!
# The order for display

Emulators are displayed by the numbers that their process ids denote, as far as these are numbers of
64 bits. Process ids that denote greater numbers, or are written with other digits, share the greatest
rank, and process ids of one rank are ordered as texts (`Snapshot.Before`). No two emulators have one
process id, so the order is strict (`Snapshot.Proper.pairwise_before_sorted`).

Process ids of the digits 0 to 9 are thus in the order of their numbers if the smaller number is below
the greatest rank, and are in the order of their texts otherwise
(`Discovery.Reachable.pair_sorted_iff`).
-/

set_option autoImplicit false

namespace EmulatorScout

/-- Of two things in a list along a relation that leads one way only, one stands before the other
exactly if the relation leads from it to the other. -/
theorem pair_sublist_iff {α : Type} {relation : α → α → Prop} {list : List α}
    (hpairs : list.Pairwise relation) (oneWay : ∀ a b, relation a b → ¬ relation b a) {a b : α}
    (ha : a ∈ list) (hb : b ∈ list) : [a, b].Sublist list ↔ relation a b := by
  constructor
  · intro h
    exact List.rel_of_pairwise_cons (hpairs.sublist h) List.mem_cons_self
  · intro h
    obtain ⟨before, after, rfl⟩ := List.append_of_mem ha
    obtain ⟨-, -, hacross⟩ := List.pairwise_append.1 hpairs
    rcases List.mem_append.1 hb with hb | hb
    · exact absurd (hacross b hb a List.mem_cons_self) (oneWay a b h)
    · rcases List.mem_cons.1 hb with rfl | hb
      · exact absurd h (oneWay b b h)
      · have htail : [b].Sublist after := List.singleton_sublist.2 hb
        exact (htail.cons_cons a).trans (List.sublist_append_right before _)

namespace Snapshot

/-- Whether one process id stands before another: by rank, and by the text where that is equal. -/
def Before (p q : String) : Prop := rank p < rank q ∨ rank p = rank q ∧ p < q

instance (p q : String) : Decidable (Before p q) :=
  inferInstanceAs (Decidable (rank p < rank q ∨ rank p = rank q ∧ p < q))

/-- A process id stands before those that it may stand before and is not equal to. -/
theorem before_of_precedes {p q : String} (h : precedes p q = true) (hne : p ≠ q) : Before p q := by
  simp only [precedes, Bool.or_eq_true, Bool.and_eq_true, decide_eq_true_eq] at h
  rcases h with hlt | ⟨heq, hle⟩
  · exact .inl hlt
  · have hlt : p < q :=
      Decidable.byContradiction fun h => hne (String.le_antisymm hle (String.not_lt.1 h))
    exact .inr ⟨heq, hlt⟩

theorem not_before_of_before {p q : String} (h : Before p q) : ¬ Before q p := by
  rintro (hlt | ⟨heq, hlt⟩)
  · rcases h with hlt' | ⟨heq, -⟩ <;> omega
  · rcases h with hlt' | ⟨-, hlt'⟩
    · omega
    · exact String.lt_irrefl p (String.lt_trans hlt' hlt)

/-! ## Process ids as numbers -/

/-- Whether a process id is written with the digits 0 to 9. -/
def IsPlain (pid : String) : Prop := ∀ c ∈ pid.toList, Text.Numeral.isDigit c = true

instance (pid : String) : Decidable (IsPlain pid) :=
  decidable_of_iff (pid.toList.all Text.Numeral.isDigit = true) List.all_eq_true

/-- The number that a process id of the digits 0 to 9 denotes. -/
def number (pid : String) : Nat := Text.Numeral.value pid.toList

/-- A process id is ranked by its number, as far as the ranks go. -/
theorem rank_of_isPlain {pid : String} (hne : pid ≠ "") (hplain : IsPlain pid) :
    rank pid = min (number pid) maxRank := by
  have hlist : pid.toList ≠ [] := fun h => hne (String.toList_eq_nil_iff.1 h)
  rw [rank, Text.Numeral.upTo?_of_digits hlist hplain, number]
  split
  · rename_i hle
    rw [Option.getD_some, Nat.min_eq_left hle]
  · rename_i hgt
    rw [Option.getD_none, Nat.min_eq_right (by omega)]

/-- Of two numbers the smaller one stands first if it is below the greatest rank, and otherwise the
texts decide. -/
theorem before_iff_of_number_lt {p q : String} (hp : p ≠ "" ∧ IsPlain p) (hq : q ≠ "" ∧ IsPlain q)
    (hlt : number p < number q) : Before p q ↔ number p < maxRank ∨ p < q := by
  rw [Before, rank_of_isPlain hp.1 hp.2, rank_of_isPlain hq.1 hq.2]
  constructor
  · rintro (h | ⟨-, h⟩)
    · exact .inl (by omega)
    · exact .inr h
  · rintro (h | h)
    · exact .inl (by omega)
    · by_cases hmax : number p < maxRank
      · exact .inl (by omega)
      · exact .inr ⟨by omega, h⟩

/-! ## What is displayed -/

namespace Proper

variable {snapshot : Snapshot} (proper : snapshot.Proper)
include proper

theorem pid_ne_empty {emulator : Emulator} (h : emulator ∈ snapshot.emulators) :
    emulator.pid ≠ "" := by
  obtain ⟨entry, hentry, rfl⟩ := List.mem_map.1 h
  rw [proper.keyed entry hentry]
  exact (proper.digits entry hentry).1

/-- Emulators are displayed in strict order. -/
theorem pairwise_before_sorted : snapshot.sorted.Pairwise fun e f => Before e.pid f.pid := by
  have hperm : snapshot.sorted.Perm snapshot.emulators := List.mergeSort_perm _ _
  have hdifferent : snapshot.sorted.Pairwise fun e f => e.pid ≠ f.pid :=
    hperm.symm.pairwise proper.pairwise_pid_ne Ne.symm
  exact (pairwise_precedes_sorted snapshot).imp₂ (fun _ _ => before_of_precedes) hdifferent

theorem pair_sorted_iff_before {e f : Emulator} (he : e ∈ snapshot.emulators)
    (hf : f ∈ snapshot.emulators) : [e, f].Sublist snapshot.sorted ↔ Before e.pid f.pid :=
  pair_sublist_iff proper.pairwise_before_sorted (fun _ _ => not_before_of_before)
    (mem_sorted.2 he) (mem_sorted.2 hf)

/-- Of two emulators the one with the smaller number is displayed first exactly if the number is
below the greatest rank or the texts are in that order too. -/
theorem pair_sorted_iff_number {e f : Emulator} (he : e ∈ snapshot.emulators)
    (hf : f ∈ snapshot.emulators) (hplain : IsPlain e.pid) (hplain' : IsPlain f.pid)
    (hlt : number e.pid < number f.pid) :
    [e, f].Sublist snapshot.sorted ↔ number e.pid < maxRank ∨ e.pid < f.pid :=
  (proper.pair_sorted_iff_before he hf).trans (before_iff_of_number_lt
    ⟨proper.pid_ne_empty he, hplain⟩ ⟨proper.pid_ne_empty hf, hplain'⟩ hlt)

end Proper

end Snapshot

namespace Discovery

/-- Where the numbers decide. Of two emulators of a discovery whose process ids are written with the
digits 0 to 9, the one with the smaller number is displayed first exactly if that number is below the
greatest rank or its text is below the other's. -/
theorem Reachable.pair_sorted_iff {discovery : Discovery} (h : discovery.Reachable) {e f : Emulator}
    (he : e ∈ discovery.snapshot.emulators) (hf : f ∈ discovery.snapshot.emulators)
    (hplain : Snapshot.IsPlain e.pid) (hplain' : Snapshot.IsPlain f.pid)
    (hlt : Snapshot.number e.pid < Snapshot.number f.pid) :
    [e, f].Sublist discovery.snapshot.sorted ↔
      Snapshot.number e.pid < Snapshot.maxRank ∨ e.pid < f.pid :=
  h.proper.pair_sorted_iff_number he hf hplain hplain' hlt

/-- A directory with the marker files of three processes, two of which have numbers of more than 64
bits. -/
def vastView : View :=
  ⟨.ofNodes
    [("a", .directory), ("a/pid_100000000000000000000.ini", .file (Bytes.ofString "k=v")),
      ("a/pid_99999999999999999999.ini", .file (Bytes.ofString "k=v")),
      ("a/pid_9.ini", .file (Bytes.ofString "k=v"))], [], .stored⟩

def vastEmulator (pid : String) : Emulator := ⟨pid, .single "k" "v"⟩

def openedVast : Discovery :=
  ⟨[Path.ofString "a"],
    ⟨["100000000000000000000", "99999999999999999999", "9"].map fun pid =>
      (pid, vastEmulator pid)⟩⟩

theorem reachable_openedVast : openedVast.Reachable := by
  have hscan : rescan vastView ⟨[Path.ofString "a"], .empty⟩ = (openedVast, none) := by
    decide +kernel
  exact .inDirectories (inDirectories_eq_ok_iff_rescan.2 hscan)

theorem vastEmulator_mem : ∀ pid ∈ ["100000000000000000000", "99999999999999999999", "9"],
    vastEmulator pid ∈ openedVast.snapshot.emulators := by
  decide +kernel

/-- The number decides between 9 and a greater number, although the texts are in the other order. -/
theorem pair_sorted_vast :
    [vastEmulator "9", vastEmulator "100000000000000000000"].Sublist openedVast.snapshot.sorted :=
  (reachable_openedVast.pair_sorted_iff (vastEmulator_mem "9" (by simp))
    (vastEmulator_mem "100000000000000000000" (by simp)) (by decide +kernel) (by decide +kernel)
    (by decide +kernel)).2 (.inl (by decide +kernel))

/-- Where the numbers do not decide: of two numbers of more than 64 bits the greater one is displayed
first. -/
theorem exists_greater_first :
    openedVast.Reachable ∧
      Snapshot.IsPlain "99999999999999999999" ∧ Snapshot.IsPlain "100000000000000000000" ∧
      Snapshot.number "99999999999999999999" < Snapshot.number "100000000000000000000" ∧
      [vastEmulator "100000000000000000000", vastEmulator "99999999999999999999"].Sublist
        openedVast.snapshot.sorted ∧
      ¬ [vastEmulator "99999999999999999999", vastEmulator "100000000000000000000"].Sublist
        openedVast.snapshot.sorted := by
  have proper := reachable_openedVast.proper
  have hsmall := vastEmulator_mem "99999999999999999999" (by simp)
  have hgreat := vastEmulator_mem "100000000000000000000" (by simp)
  refine ⟨reachable_openedVast, by decide +kernel, by decide +kernel, by decide +kernel, ?_, ?_⟩
  · rw [proper.pair_sorted_iff_before hgreat hsmall]
    decide +kernel
  · rw [proper.pair_sorted_iff_before hsmall hgreat]
    decide +kernel

end Discovery

end EmulatorScout
