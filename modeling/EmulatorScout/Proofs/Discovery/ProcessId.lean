import EmulatorScout.Proofs.Discovery.Reachable

/-!
# Looking for an emulator by its process id

There are two ways to an emulator by a process id. The map of a snapshot is keyed by the process ids in
the names of the marker files, while a search for the property goes by what a file states, and by the
name of the file only where it states nothing (`Emulator.GoesBy`). A file may state anything, so the two
can lead to different emulators, and then the order of the entries may decide what the search finds.

They lead to the same emulator, in every order of the entries, exactly if no file states a process id
other than that of its name (`Discovery.Reachable.findPid?_iff_goesBy`).
-/

set_option autoImplicit false

namespace EmulatorScout

namespace Emulator

/-- An emulator goes by the process id that its marker file states, and by that of the file's name if it
states none. -/
def GoesBy (emulator : Emulator) (pid : String) : Prop :=
  emulator.properties.get? pidKey = some pid ∨
    emulator.properties.get? pidKey = none ∧ emulator.pid = pid

/-- The marker file states no process id, or that of its name. -/
def StatesNoOther (emulator : Emulator) : Prop :=
  ∀ stated, emulator.properties.get? pidKey = some stated → stated = emulator.pid

/-- The value for the process id is the one that the emulator goes by. -/
theorem get?_pidKey_eq_some_iff {emulator : Emulator} {pid : String} :
    emulator.get? pidKey = some pid ↔ emulator.GoesBy pid := by
  rw [get?, GoesBy]
  cases emulator.properties.get? pidKey with
  | none => simp
  | some stated => simp

/-- An emulator whose file states no other process id goes by the one of its name alone. -/
theorem StatesNoOther.goesBy_iff {emulator : Emulator} (h : emulator.StatesNoOther) {pid : String} :
    emulator.GoesBy pid ↔ emulator.pid = pid := by
  constructor
  · rintro (hstated | ⟨-, hpid⟩)
    · exact (h pid hstated).symm
    · exact hpid
  · rintro rfl
    cases hget : emulator.properties.get? pidKey with
    | none => exact .inr ⟨hget, rfl⟩
    | some stated => exact .inl (h stated hget ▸ hget)

/-- An emulator that goes by the process id of its file's name states no other. -/
theorem GoesBy.statesNoOther {emulator : Emulator} (h : emulator.GoesBy emulator.pid) :
    emulator.StatesNoOther := by
  intro stated hstated
  obtain hown | ⟨hnone, -⟩ := h
  · exact Option.some.inj (hstated.symm.trans hown)
  · rw [hnone] at hstated
    cases hstated

end Emulator

namespace Snapshot

variable {snapshot : Snapshot} {pid : String} {emulator : Emulator}

/-- A search finds an emulator exactly if one goes by the process id. -/
theorem isSome_findPid?_iff :
    (snapshot.findPid? pid).isSome = true ↔ ∃ e ∈ snapshot.emulators, e.GoesBy pid := by
  rw [findPid?, isSome_find?_iff]
  exact exists_congr fun e => and_congr_right fun _ => Emulator.get?_pidKey_eq_some_iff

/-- What a search finds is an emulator that goes by the process id. -/
theorem goesBy_of_findPid?_eq_some (h : snapshot.findPid? pid = some emulator) :
    emulator ∈ snapshot.emulators ∧ emulator.GoesBy pid := by
  obtain ⟨hmem, hget⟩ := of_find?_eq_some h
  exact ⟨hmem, Emulator.get?_pidKey_eq_some_iff.1 hget⟩

/-- Where no two emulators go by a process id, a search finds the one that does, whatever stands
before it. -/
theorem findPid?_eq_some_iff
    (unique : ∀ e ∈ snapshot.emulators, ∀ f ∈ snapshot.emulators,
      e.GoesBy pid → f.GoesBy pid → e = f) :
    snapshot.findPid? pid = some emulator ↔
      emulator ∈ snapshot.emulators ∧ emulator.GoesBy pid := by
  refine ⟨goesBy_of_findPid?_eq_some, ?_⟩
  rintro ⟨hmem, hgoes⟩
  have hsome : (snapshot.findPid? pid).isSome = true :=
    isSome_findPid?_iff.2 ⟨emulator, hmem, hgoes⟩
  obtain ⟨found, hfound⟩ := Option.isSome_iff_exists.1 hsome
  obtain ⟨hmem', hgoes'⟩ := goesBy_of_findPid?_eq_some hfound
  rw [hfound, unique found hmem' emulator hmem hgoes' hgoes]

/-- The map leads from a process id to the emulator with that process id. -/
theorem Proper.get?_eq_some_iff (proper : snapshot.Proper) :
    snapshot.get? pid = some emulator ↔ emulator ∈ snapshot.emulators ∧ emulator.pid = pid := by
  rw [← mem_entries_iff proper.distinct, emulators, List.mem_map]
  constructor
  · intro hentry
    exact ⟨⟨_, hentry, rfl⟩, proper.keyed _ hentry⟩
  · rintro ⟨⟨⟨key, found⟩, hentry, rfl⟩, rfl⟩
    have hkey : found.pid = key := proper.keyed _ hentry
    rwa [hkey]

theorem mem_emulators_iff_of_perm {s t : Snapshot} (order : s.entries.Perm t.entries) :
    emulator ∈ s.emulators ↔ emulator ∈ t.emulators :=
  (order.map _).mem_iff

/-- A search in any order agrees with the map exactly if no marker file states a process id other than
that of its name. -/
theorem Proper.findPid?_eq_get?_iff {other : Snapshot} (proper : snapshot.Proper)
    (order : other.entries.Perm snapshot.entries) :
    (∀ pid, other.findPid? pid = snapshot.get? pid) ↔
      ∀ e ∈ snapshot.emulators, e.StatesNoOther := by
  have hsame : ∀ e, e ∈ other.emulators ↔ e ∈ snapshot.emulators := fun e =>
    mem_emulators_iff_of_perm order
  constructor
  · intro hagree e he
    -- the map leads from its process id to the emulator, so the search for it must do so too
    have hfind : other.findPid? e.pid = some e :=
      (hagree e.pid).trans (proper.get?_eq_some_iff.2 ⟨he, rfl⟩)
    exact (goesBy_of_findPid?_eq_some hfind).2.statesNoOther
  · intro hstates pid
    have hget : ∀ e, snapshot.get? pid = some e ↔ e ∈ snapshot.emulators ∧ e.GoesBy pid := by
      intro e
      rw [proper.get?_eq_some_iff]
      exact and_congr_right fun he => (hstates e he).goesBy_iff.symm
    have hunique : ∀ e ∈ other.emulators, ∀ f ∈ other.emulators,
        e.GoesBy pid → f.GoesBy pid → e = f := by
      intro e he f hf hgoes hgoes'
      have hfirst := (hget e).2 ⟨(hsame e).1 he, hgoes⟩
      have hsecond := (hget f).2 ⟨(hsame f).1 hf, hgoes'⟩
      exact Option.some.inj (hfirst.symm.trans hsecond)
    apply Option.ext
    intro e
    rw [findPid?_eq_some_iff hunique, hget, hsame]

end Snapshot

namespace Discovery

/-- What a search by process id finds, in whatever order the entries of a discovery are gone
through. It finds an emulator exactly if one goes by the process id, and only such a one. And it agrees
with the map for every process id exactly if no marker file states one other than that of its name. -/
theorem Reachable.findPid?_iff_goesBy {discovery : Discovery} (h : discovery.Reachable)
    {snapshot : Snapshot} (order : snapshot.entries.Perm discovery.snapshot.entries) :
    (∀ pid,
      ((snapshot.findPid? pid).isSome = true ↔
        ∃ emulator ∈ discovery.snapshot.emulators, emulator.GoesBy pid) ∧
      ∀ emulator, snapshot.findPid? pid = some emulator →
        emulator ∈ discovery.snapshot.emulators ∧ emulator.GoesBy pid) ∧
    ((∀ emulator ∈ discovery.snapshot.emulators, emulator.StatesNoOther) ↔
      ∀ pid, snapshot.findPid? pid = discovery.snapshot.get? pid) := by
  have hsame : ∀ e, e ∈ snapshot.emulators ↔ e ∈ discovery.snapshot.emulators := fun e =>
    Snapshot.mem_emulators_iff_of_perm order
  refine ⟨fun pid => ⟨?_, fun emulator hfind => ?_⟩, (h.proper.findPid?_eq_get?_iff order).symm⟩
  · rw [Snapshot.isSome_findPid?_iff]
    exact exists_congr fun e => and_congr_left fun _ => hsame e
  · obtain ⟨hmem, hgoes⟩ := Snapshot.goesBy_of_findPid?_eq_some hfind
    exact ⟨(hsame emulator).1 hmem, hgoes⟩

/-- A directory with two marker files, one of which states the process id of its name and the other
none. -/
def namedView : View :=
  ⟨.ofNodes
    [("a", .directory), ("a/pid_5.ini", .file (Bytes.ofString "pid=5")),
      ("a/pid_6.ini", .file (Bytes.ofString "avd.name=x"))], [], .stored⟩

def statedFive : Emulator := ⟨"5", .single "pid" "5"⟩

def namedSix : Emulator := ⟨"6", .single "avd.name" "x"⟩

def openedNamed : Discovery := ⟨[Path.ofString "a"], ⟨[("5", statedFive), ("6", namedSix)]⟩⟩

/-- Over that directory the two ways agree in the other order too, and where two files state the process
id of neither the search finds one of them, which the map does not lead to. -/
theorem findPid?_named_and_twins :
    (openedNamed.Reachable ∧
      ∀ pid, (⟨[("6", namedSix), ("5", statedFive)]⟩ : Snapshot).findPid? pid
        = openedNamed.snapshot.get? pid) ∧
      openedTwins.Reachable ∧ (openedTwins.snapshot.findPid? "7").isSome = true ∧
        openedTwins.snapshot.get? "7" = none := by
  have hscan : rescan namedView ⟨[Path.ofString "a"], .empty⟩ = (openedNamed, none) := by
    decide +kernel
  have htwins : rescan twinView ⟨[Path.ofString "a"], .empty⟩ = (openedTwins, none) := by
    decide +kernel
  have named : openedNamed.Reachable := reachable_of_rescan hscan
  have twins : openedTwins.Reachable := reachable_of_rescan htwins
  have hstates : ∀ emulator ∈ openedNamed.snapshot.emulators, emulator.StatesNoOther := by
    intro emulator hmem
    obtain rfl | rfl : emulator = statedFive ∨ emulator = namedSix := by
      simpa [openedNamed, Snapshot.emulators] using hmem
    · intro stated hstated
      have hfive : statedFive.properties.get? Emulator.pidKey = some "5" := by decide
      exact Option.some.inj (hstated.symm.trans hfive)
    · intro stated hstated
      have hnone : namedSix.properties.get? Emulator.pidKey = none := by decide
      rw [hnone] at hstated
      cases hstated
  refine ⟨⟨named, ?_⟩, twins, ?_, by decide⟩
  · exact (named.findPid?_iff_goesBy (List.Perm.swap _ _ _)).2.1 hstates
  · refine ((twins.findPid?_iff_goesBy (List.Perm.refl _)).1 "7").1.2 ?_
    exact ⟨_, List.mem_cons_self, .inl (by decide)⟩

end Discovery

end EmulatorScout
