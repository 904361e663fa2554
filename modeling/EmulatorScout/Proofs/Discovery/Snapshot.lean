import EmulatorScout.Proofs.Properties
import EmulatorScout.Snapshot

/-!
# Snapshots as maps

A snapshot keeps its entries in the order in which they were found, and that order is not part of
what it says. As long as no process id is kept twice (`Distinct`, which every insertion keeps), the
entries are determined by the look-ups up to their order (`perm_entries`), and what is said of a
snapshot as a whole is determined by the entries up to their order.
-/

set_option autoImplicit false

namespace EmulatorScout

/-- The order in which a given emulator comes before all others. -/
def EntryOrder.favouring (emulator : Emulator) : EntryOrder where
  arrange entries :=
    entries.filter (fun entry => decide (entry.2 = emulator))
      ++ entries.filter (fun entry => !decide (entry.2 = emulator))
  perm entries := List.filter_append_perm _ entries

namespace Snapshot

/-- No process id is kept twice. -/
def Distinct (snapshot : Snapshot) : Prop := (snapshot.entries.map (·.1)).Nodup

theorem distinct_empty : Distinct empty := List.nodup_nil

/-- The entries are what the look-ups give. -/
theorem mem_entries_iff {snapshot : Snapshot} (distinct : snapshot.Distinct) {pid : String}
    {emulator : Emulator} :
    (pid, emulator) ∈ snapshot.entries ↔ snapshot.get? pid = some emulator :=
  (lookup_eq_some_iff_mem distinct).symm

/-- A process id that leads nowhere is not kept. -/
theorem notMem_keys_of_get?_eq_none {snapshot : Snapshot} (distinct : snapshot.Distinct)
    {pid : String} (h : snapshot.get? pid = none) : pid ∉ snapshot.entries.map (·.1) := by
  intro hmem
  obtain ⟨⟨key, emulator⟩, hentry, rfl⟩ := List.mem_map.1 hmem
  rw [(mem_entries_iff distinct).1 hentry] at h
  cases h

/-- Adding under a process id that is free keeps nothing twice. -/
theorem Distinct.insertNew {snapshot : Snapshot} (distinct : snapshot.Distinct) (pid : String)
    (emulator : Emulator) : (snapshot.insertNew pid emulator).Distinct := by
  unfold Snapshot.insertNew
  split
  · exact distinct
  · rename_i hfree
    have hnone : snapshot.get? pid = none := by
      simpa [Snapshot.contains] using hfree
    rw [Distinct, List.map_append, List.nodup_append]
    refine ⟨distinct, List.nodup_singleton _, ?_⟩
    rintro key hkey _ hpid rfl
    rw [List.map_cons, List.map_nil, List.mem_singleton] at hpid
    subst hpid
    exact notMem_keys_of_get?_eq_none distinct hnone hkey

/-- Snapshots that answer every look-up alike have the same entries, up to their order. -/
theorem perm_entries {s t : Snapshot} (hs : s.Distinct) (ht : t.Distinct)
    (h : ∀ pid, s.get? pid = t.get? pid) : s.entries.Perm t.entries := by
  apply (List.perm_ext_iff_of_nodup (List.Nodup.of_map _ hs) (List.Nodup.of_map _ ht)).2
  rintro ⟨pid, emulator⟩
  rw [mem_entries_iff hs, mem_entries_iff ht, h pid]

section SameEntries

variable {s t : Snapshot}

theorem size_eq_of_perm (h : s.entries.Perm t.entries) : s.size = t.size := h.length_eq

theorem candidates_perm_of_perm (h : s.entries.Perm t.entries) (key value : String) :
    (s.candidates key value).Perm (t.candidates key value) := by
  have hemulators : s.emulators.Perm t.emulators := h.map _
  exact hemulators.filter _

theorem pids_eq_of_perm (h : s.entries.Perm t.entries) : s.pids = t.pids := by
  -- both lists are sorted, and sorted lists of the same texts are equal
  have hsorted : ∀ snapshot : Snapshot, snapshot.pids.Pairwise fun p q => p ≤ q := by
    intro snapshot
    have hpairs : snapshot.pids.Pairwise fun p q => decide (p ≤ q) = true := by
      refine List.pairwise_mergeSort ?_ ?_ _
      · intro p q r hpq hqr
        exact decide_eq_true (String.le_trans (of_decide_eq_true hpq) (of_decide_eq_true hqr))
      · intro p q
        simpa using String.le_total p q
    exact hpairs.imp fun hle => of_decide_eq_true hle
  refine List.Perm.eq_of_pairwise (fun p q _ _ hpq hqp => String.le_antisymm hpq hqp) (hsorted s)
    (hsorted t) ?_
  exact (List.mergeSort_perm _ _).trans
    ((h.map _).trans (List.mergeSort_perm (t.entries.map (·.1)) _).symm)

end SameEntries

/-! ## Looking for a property -/

/-- An emulator with a value of a property is found exactly if there is one. -/
theorem isSome_find?_iff {snapshot : Snapshot} {key value : String} :
    (snapshot.find? key value).isSome = true ↔
      ∃ emulator ∈ snapshot.emulators, emulator.get? key = some value := by
  rw [find?, List.find?_isSome]
  simp only [decide_eq_true_iff]

theorem of_find?_eq_some {snapshot : Snapshot} {key value : String} {emulator : Emulator}
    (h : snapshot.find? key value = some emulator) :
    emulator ∈ snapshot.emulators ∧ emulator.get? key = some value := by
  rw [find?] at h
  have hvalue := List.find?_some h
  exact ⟨List.mem_of_find?_eq_some h, of_decide_eq_true hvalue⟩

/-! ## The order for display -/

theorem precedes_total (p q : String) : (precedes p q || precedes q p) = true := by
  have htotal := String.le_total p q
  simp only [precedes, Bool.or_eq_true, Bool.and_eq_true, decide_eq_true_eq]
  rcases Nat.lt_trichotomy (rank p) (rank q) with hlt | heq | hgt
  · exact .inl (.inl hlt)
  · rcases htotal with hle | hle
    · exact .inl (.inr ⟨heq, hle⟩)
    · exact .inr (.inr ⟨heq.symm, hle⟩)
  · exact .inr (.inl hgt)

theorem precedes_trans {p q r : String} (hpq : precedes p q = true) (hqr : precedes q r = true) :
    precedes p r = true := by
  simp only [precedes, Bool.or_eq_true, Bool.and_eq_true, decide_eq_true_eq] at *
  rcases hpq with hpq | ⟨hpq, hle⟩ <;> rcases hqr with hqr | ⟨hqr, hle'⟩
  · exact .inl (Nat.lt_trans hpq hqr)
  · exact .inl (hqr ▸ hpq)
  · exact .inl (hpq ▸ hqr)
  · exact .inr ⟨hpq.trans hqr, String.le_trans hle hle'⟩

/-- Process ids each of which may stand before the other are equal. -/
theorem eq_of_precedes {p q : String} (hpq : precedes p q = true) (hqp : precedes q p = true) :
    p = q := by
  simp only [precedes, Bool.or_eq_true, Bool.and_eq_true, decide_eq_true_eq] at *
  rcases hpq with hpq | ⟨hpq, hle⟩ <;> rcases hqp with hqp | ⟨hqp, hle'⟩
  · omega
  · omega
  · omega
  · exact String.le_antisymm hle hle'

/-- Whether each emulator is kept under its own process id. -/
def Keyed (snapshot : Snapshot) : Prop := ∀ entry ∈ snapshot.entries, entry.2.pid = entry.1

theorem mem_sorted {snapshot : Snapshot} {emulator : Emulator} :
    emulator ∈ snapshot.sorted ↔ emulator ∈ snapshot.emulators :=
  (List.mergeSort_perm _ _).mem_iff

theorem pairwise_precedes_sorted (snapshot : Snapshot) :
    snapshot.sorted.Pairwise fun e f => precedes e.pid f.pid = true := by
  apply List.pairwise_mergeSort
  · intro e f g
    exact precedes_trans
  · intro e f
    exact precedes_total e.pid f.pid

/-- Of two emulators that are kept only one may stand before the other. -/
theorem eq_of_precedes_of_mem {snapshot : Snapshot} (distinct : snapshot.Distinct)
    (keyed : snapshot.Keyed) {e f : Emulator} (he : e ∈ snapshot.emulators)
    (hf : f ∈ snapshot.emulators) (hef : precedes e.pid f.pid = true)
    (hfe : precedes f.pid e.pid = true) : e = f := by
  obtain ⟨⟨pid, emulator⟩, hentry, rfl⟩ := List.mem_map.1 he
  obtain ⟨⟨pid', emulator'⟩, hentry', rfl⟩ := List.mem_map.1 hf
  -- they have one process id, which only one of them is kept under
  have hpid : pid = pid' :=
    (keyed _ hentry).symm.trans ((eq_of_precedes hef hfe).trans (keyed _ hentry'))
  subst hpid
  have hget := (mem_entries_iff distinct).1 hentry
  rw [(mem_entries_iff distinct).1 hentry'] at hget
  exact (Option.some.inj hget).symm

/-- The emulators in any order in which none stands before an earlier one are displayed in that order. -/
theorem sorted_eq_of_pairwise {snapshot : Snapshot} {display : List Emulator}
    (distinct : snapshot.Distinct) (keyed : snapshot.Keyed)
    (hperm : display.Perm snapshot.emulators)
    (ordered : display.Pairwise fun e f => precedes e.pid f.pid = true) :
    snapshot.sorted = display := by
  have hsame : snapshot.sorted.Perm display := (List.mergeSort_perm _ _).trans hperm.symm
  refine hsame.eq_of_pairwise (fun e f he hf hef hfe => ?_) (pairwise_precedes_sorted snapshot) ordered
  exact eq_of_precedes_of_mem distinct keyed (mem_sorted.1 he) (hperm.mem_iff.1 hf) hef hfe

theorem sorted_eq_of_perm {s t : Snapshot} (h : s.entries.Perm t.entries) (distinct : t.Distinct)
    (keyed : t.Keyed) : s.sorted = t.sorted := by
  have hemulators : s.emulators.Perm t.emulators := h.map _
  exact (sorted_eq_of_pairwise distinct keyed ((List.mergeSort_perm _ _).trans hemulators)
    (pairwise_precedes_sorted s)).symm

/-! ## Orders of a map -/

section Arranged

variable {snapshot : Snapshot} {emulator : Emulator}

/-- However a map is gone through, the same emulators come. -/
theorem mem_emulators_arranged (order : EntryOrder) :
    emulator ∈ (snapshot.arranged order).emulators ↔ emulator ∈ snapshot.emulators :=
  ((order.perm snapshot.entries).map _).mem_iff

theorem sorted_arranged (distinct : snapshot.Distinct) (keyed : snapshot.Keyed) (order : EntryOrder) :
    (snapshot.arranged order).sorted = snapshot.sorted :=
  sorted_eq_of_perm (order.perm snapshot.entries) distinct keyed

/-- An emulator that comes first is found first by whatever holds of it. -/
theorem find?_emulators_favouring {p : Emulator → Bool} (hmem : emulator ∈ snapshot.emulators)
    (holds : p emulator = true) :
    (snapshot.arranged (.favouring emulator)).emulators.find? p = some emulator := by
  obtain ⟨entry, hentry, rfl⟩ := List.mem_map.1 hmem
  have hkept : entry ∈ snapshot.entries.filter fun other => decide (other.2 = entry.2) :=
    List.mem_filter.2 ⟨hentry, decide_eq_true rfl⟩
  have hfront : ((snapshot.entries.filter fun other => decide (other.2 = entry.2)).map (·.2)).find? p
      = some entry.2 := by
    cases hfilter : snapshot.entries.filter fun other => decide (other.2 = entry.2) with
    | nil =>
      rw [hfilter] at hkept
      cases hkept
    | cons first rest =>
      have hfirst : first ∈ snapshot.entries.filter fun other => decide (other.2 = entry.2) :=
        hfilter ▸ List.mem_cons_self
      have hsame : first.2 = entry.2 := of_decide_eq_true (List.mem_filter.1 hfirst).2
      rw [List.map_cons, hsame, List.find?_cons_of_pos holds]
  rw [emulators, arranged, EntryOrder.favouring, List.map_append, List.find?_append, hfront,
    Option.some_or]

end Arranged

end Snapshot

end EmulatorScout
