/-!
# Property maps

A map from texts to texts, kept as a list of pairs whose keys increase. The order is part of the
type, so a map has one representation: two maps that answer every look-up alike are equal, whatever
the order in which their pairs came (`Properties.ext_get?`). The order of the keys is the order of
their characters by code, and it is the order in which a map is written out.

Maps are put together by `Properties.override`, in which the later map wins
(`Properties.get?_override`). The map of a list of pairs is made of the maps of its parts, and of
several pairs with one key the last counts (`Properties.get?_ofList`).
-/

set_option autoImplicit false

namespace EmulatorScout

/-! ## Look-up in lists of pairs -/

theorem lookup_cons_of_ne {α : Type} {query key : String} {value : α}
    {rest : List (String × α)} (h : query ≠ key) :
    ((key, value) :: rest).lookup query = rest.lookup query := by
  have hbeq : (query == key) = false := beq_eq_false_iff_ne.2 h
  rw [List.lookup_cons, hbeq]

theorem lookup_eq_none_of_lt {query : String} {pairs : List (String × String)}
    (h : ∀ pair ∈ pairs, query < pair.1) : pairs.lookup query = none := by
  induction pairs with
  | nil => rfl
  | cons first rest ih =>
    have hne : query ≠ first.1 := String.ne_of_lt (h first List.mem_cons_self)
    rw [lookup_cons_of_ne hne]
    exact ih fun pair hpair => h pair (List.mem_cons_of_mem _ hpair)

/-- Lists with increasing keys that answer every look-up alike are equal. -/
theorem eq_of_lookup_eq {p q : List (String × String)}
    (hp : p.Pairwise fun a b => a.1 < b.1) (hq : q.Pairwise fun a b => a.1 < b.1)
    (h : ∀ key, p.lookup key = q.lookup key) : p = q := by
  induction p generalizing q with
  | nil =>
    cases q with
    | nil => rfl
    | cons second others =>
      obtain ⟨name, value⟩ := second
      exact absurd (h name) (by simp)
  | cons first rest ih =>
    cases q with
    | nil => exact absurd (h first.1) (by simp)
    | cons second others =>
      have ⟨hfirst, hrest⟩ := List.pairwise_cons.1 hp
      have ⟨hsecond, hothers⟩ := List.pairwise_cons.1 hq
      -- If one of the first keys were smaller, it would be found in its own list only.
      have hle : ¬ first.1 < second.1 := by
        intro hlt
        have hnone : (second :: others).lookup first.1 = none := by
          refine lookup_eq_none_of_lt fun pair hpair => ?_
          rcases List.mem_cons.1 hpair with rfl | hpair
          · exact hlt
          · exact String.lt_trans hlt (hsecond pair hpair)
        simpa [List.lookup_cons] using (h first.1).trans hnone
      have hge : ¬ second.1 < first.1 := by
        intro hlt
        have hnone : (first :: rest).lookup second.1 = none := by
          refine lookup_eq_none_of_lt fun pair hpair => ?_
          rcases List.mem_cons.1 hpair with rfl | hpair
          · exact hlt
          · exact String.lt_trans hlt (hfirst pair hpair)
        simpa [List.lookup_cons] using (h second.1).symm.trans hnone
      have hkey : first.1 = second.1 :=
        String.le_antisymm (String.not_lt.1 hge) (String.not_lt.1 hle)
      obtain ⟨name, value⟩ := first
      obtain ⟨name', value'⟩ := second
      subst hkey
      have hvalue : value = value' := by simpa [List.lookup_cons] using h name
      subst hvalue
      congr 1
      -- The key in front occurs in neither rest, so the rests answer alike too.
      refine ih hrest hothers fun key => ?_
      by_cases hk : key = name
      · subst hk
        rw [lookup_eq_none_of_lt hfirst, lookup_eq_none_of_lt hsecond]
      · simpa [lookup_cons_of_ne hk] using h key

/-! ## Putting lists of pairs together -/

/-- Puts a pair in front of a list of pairs, after those of them with smaller keys and unless the key
is there. What follows the place of the pair is left to `merge`. -/
def mergePair (pair : String × String) (merge : List (String × String) → List (String × String)) :
    List (String × String) → List (String × String)
  | [] => pair :: merge []
  | next :: later =>
    if pair.1 < next.1 then pair :: merge (next :: later)
    else if pair.1 = next.1 then next :: merge later
    else next :: mergePair pair merge later

/-- Two lists with increasing keys as one. Of two pairs with one key the second list's is kept. -/
def mergePairs : List (String × String) → List (String × String) → List (String × String)
  | [], later => later
  | pair :: earlier, later => mergePair pair (mergePairs earlier) later

theorem mem_mergePairs {earlier later : List (String × String)} {pair : String × String}
    (h : pair ∈ mergePairs earlier later) : pair ∈ earlier ∨ pair ∈ later := by
  induction earlier generalizing later with
  | nil => exact Or.inr h
  | cons first rest ih =>
    rw [mergePairs] at h
    induction later with
    | nil =>
      rcases List.mem_cons.1 h with rfl | h
      · exact Or.inl List.mem_cons_self
      · exact (ih h).imp_left (List.mem_cons_of_mem _)
    | cons next others ih' =>
      rw [mergePair] at h
      split at h
      · rcases List.mem_cons.1 h with rfl | h
        · exact Or.inl List.mem_cons_self
        · exact (ih h).imp_left (List.mem_cons_of_mem _)
      · split at h
        · rcases List.mem_cons.1 h with rfl | h
          · exact Or.inr List.mem_cons_self
          · exact (ih h).imp (List.mem_cons_of_mem _) (List.mem_cons_of_mem _)
        · rcases List.mem_cons.1 h with rfl | h
          · exact Or.inr List.mem_cons_self
          · exact (ih' h).imp_right (List.mem_cons_of_mem _)

theorem lt_of_not_lt_of_ne {key other : String} (hlt : ¬ key < other) (hne : key ≠ other) :
    other < key :=
  Decidable.byContradiction fun h =>
    hne (String.le_antisymm (String.not_lt.1 h) (String.not_lt.1 hlt))

theorem pairwise_mergePairs {earlier later : List (String × String)}
    (hearlier : earlier.Pairwise fun p q => p.1 < q.1)
    (hlater : later.Pairwise fun p q => p.1 < q.1) :
    (mergePairs earlier later).Pairwise fun p q => p.1 < q.1 := by
  induction earlier generalizing later with
  | nil => exact hlater
  | cons first rest ih =>
    have ⟨hfirst, hrest⟩ := List.pairwise_cons.1 hearlier
    rw [mergePairs]
    induction later with
    | nil =>
      refine List.pairwise_cons.2 ⟨fun pair hpair => ?_, ih hrest hlater⟩
      exact (mem_mergePairs hpair).elim (hfirst pair) (absurd · List.not_mem_nil)
    | cons next others ih' =>
      have ⟨hnext, hothers⟩ := List.pairwise_cons.1 hlater
      rw [mergePair]
      split
      · rename_i hlt
        refine List.pairwise_cons.2 ⟨fun pair hpair => ?_, ih hrest hlater⟩
        rcases mem_mergePairs hpair with hpair | hpair
        · exact hfirst pair hpair
        · rcases List.mem_cons.1 hpair with rfl | hpair
          · exact hlt
          · exact String.lt_trans hlt (hnext pair hpair)
      · split
        · rename_i heq
          refine List.pairwise_cons.2 ⟨fun pair hpair => ?_, ih hrest hothers⟩
          exact (mem_mergePairs hpair).elim (fun h => heq ▸ hfirst pair h) (hnext pair)
        · rename_i hnlt hne
          have hlt := lt_of_not_lt_of_ne hnlt hne
          refine List.pairwise_cons.2 ⟨fun pair hpair => ?_, ih' hothers⟩
          have hmem : pair ∈ mergePairs (first :: rest) others := hpair
          rcases mem_mergePairs hmem with hpair | hpair
          · rcases List.mem_cons.1 hpair with rfl | hpair
            · exact hlt
            · exact String.lt_trans hlt (hfirst pair hpair)
          · exact hnext pair hpair

/-- A key leads to what it leads to in the second list, and else to what it leads to in the first. -/
theorem lookup_mergePairs {earlier later : List (String × String)}
    (hearlier : earlier.Pairwise fun p q => p.1 < q.1)
    (hlater : later.Pairwise fun p q => p.1 < q.1) (query : String) :
    (mergePairs earlier later).lookup query
      = (later.lookup query).or (earlier.lookup query) := by
  induction earlier generalizing later with
  | nil => simp [mergePairs]
  | cons first rest ih =>
    obtain ⟨key, value⟩ := first
    have ⟨hfirst, hrest⟩ := List.pairwise_cons.1 hearlier
    rw [mergePairs]
    induction later with
    | nil =>
      by_cases hq : query = key
      · simp [mergePair, hq]
      · simp [mergePair, lookup_cons_of_ne hq, ih hrest hlater]
    | cons next others ih' =>
      obtain ⟨key', value'⟩ := next
      have ⟨hnext, hothers⟩ := List.pairwise_cons.1 hlater
      rw [mergePair]
      split
      · rename_i hlt
        by_cases hq : query = key
        · subst hq
          have hnone : ((key', value') :: others).lookup query = none := by
            refine lookup_eq_none_of_lt fun pair hpair => ?_
            rcases List.mem_cons.1 hpair with rfl | hpair
            · exact hlt
            · exact String.lt_trans hlt (hnext pair hpair)
          simp [hnone]
        · rw [lookup_cons_of_ne hq, ih hrest hlater, lookup_cons_of_ne hq]
      · split
        · rename_i heq
          simp only at heq
          subst heq
          by_cases hq : query = key
          · simp [hq]
          · simp [lookup_cons_of_ne hq, ih hrest hothers]
        · by_cases hq : query = key'
          · simp [hq]
          · simp only [lookup_cons_of_ne hq]
            exact ih' hothers

/-! ## Maps -/

/-- A map from property names to values. -/
structure Properties where
  /-- The pairs, in the order of their keys. -/
  pairs : List (String × String)
  /-- Each key stands once, and the keys increase. -/
  increasing : pairs.Pairwise fun p q => p.1 < q.1

namespace Properties

def empty : Properties := ⟨[], List.Pairwise.nil⟩

/-- The map of one property. -/
def single (key value : String) : Properties := ⟨[(key, value)], List.pairwise_singleton _ _⟩

/-- Two maps as one. Where both have a property, the later map's value is kept. -/
def override (earlier later : Properties) : Properties :=
  ⟨mergePairs earlier.pairs later.pairs,
    pairwise_mergePairs earlier.increasing later.increasing⟩

/-- The map of pairs from the front of a list, and the pairs that are left. One pair is taken at
depth zero, and at every other depth what the depth below takes twice, so that the maps that are put
together are of like size. -/
def gather : Nat → List (String × String) → Properties × List (String × String)
  | _, [] => (empty, [])
  | 0, pair :: rest => (single pair.1 pair.2, rest)
  | depth + 1, pairs =>
    match gather depth pairs with
    | (first, []) => (first, [])
    | (first, rest) => (first.override (gather depth rest).1, (gather depth rest).2)

/-- The map of a list of pairs. Of several pairs with one key the last counts. -/
def ofList (pairs : List (String × String)) : Properties := (gather pairs.length pairs).1

/-- The value of a property. -/
def get? (properties : Properties) (key : String) : Option String :=
  properties.pairs.lookup key

def isEmpty (properties : Properties) : Bool := properties.pairs.isEmpty

@[ext] theorem ext {p q : Properties} (h : p.pairs = q.pairs) : p = q := by
  cases p; cases q; cases h; rfl

/-- Of two maps put together the later wins, and the earlier says the rest. -/
theorem get?_override (earlier later : Properties) (query : String) :
    (earlier.override later).get? query = (later.get? query).or (earlier.get? query) :=
  lookup_mergePairs earlier.increasing later.increasing query

/-- Maps that answer every look-up alike are equal. -/
theorem ext_get? {p q : Properties} (h : ∀ key, p.get? key = q.get? key) : p = q :=
  ext (eq_of_lookup_eq p.increasing q.increasing h)

/-! ## The map of a list -/

/-- What is gathered says what the pairs taken say, the last of them first. -/
theorem gather_eq (depth : Nat) (pairs : List (String × String)) :
    ∃ taken, pairs = taken ++ (gather depth pairs).2 ∧
      ∀ query, (gather depth pairs).1.get? query = taken.reverse.lookup query := by
  induction depth generalizing pairs with
  | zero =>
    cases pairs with
    | nil => exact ⟨[], rfl, fun _ => rfl⟩
    | cons pair rest => exact ⟨[pair], rfl, fun _ => rfl⟩
  | succ depth ih =>
    cases pairs with
    | nil => exact ⟨[], rfl, fun _ => rfl⟩
    | cons pair others =>
      obtain ⟨taken, htaken, hget⟩ := ih (pair :: others)
      rw [gather]
      · split
        · rename_i heq
          rw [heq] at htaken hget
          exact ⟨taken, htaken, hget⟩
        · rename_i first rest _ heq
          rw [heq] at htaken hget
          obtain ⟨more, hmore, hget'⟩ := ih rest
          refine ⟨taken ++ more, ?_, fun query => ?_⟩
          · rw [List.append_assoc, ← hmore, ← htaken]
          · rw [get?_override, hget, hget', List.reverse_append, List.lookup_append]
      · simp

/-- At every depth more pairs are taken than the depth says, as long as there are any. -/
theorem length_gather (depth : Nat) (pairs : List (String × String)) :
    (gather depth pairs).2.length ≤ pairs.length - (depth + 1) := by
  induction depth generalizing pairs with
  | zero => cases pairs <;> simp [gather]
  | succ depth ih =>
    cases pairs with
    | nil => simp [gather]
    | cons pair others =>
      have hfirst := ih (pair :: others)
      rw [gather]
      · split
        · simp
        · rename_i first rest hrest heq
          rw [heq] at hfirst
          have hsecond := ih rest
          simp only at hfirst ⊢
          omega
      · simp

/-- Of several pairs with one key the last counts. -/
theorem get?_ofList (pairs : List (String × String)) (query : String) :
    (ofList pairs).get? query = pairs.reverse.lookup query := by
  obtain ⟨taken, htaken, hget⟩ := gather_eq pairs.length pairs
  have hleft : (gather pairs.length pairs).2 = [] := by
    have hlength := length_gather pairs.length pairs
    exact List.length_eq_zero_iff.1 (by omega)
  rw [hleft, List.append_nil] at htaken
  rw [ofList, hget, ← htaken]

/-- The map of a list is the map of its front part overridden by that of the rest. -/
theorem ofList_append (front rest : List (String × String)) :
    ofList (front ++ rest) = (ofList front).override (ofList rest) := by
  refine ext_get? fun key => ?_
  rw [get?_override, get?_ofList, get?_ofList, get?_ofList, List.reverse_append,
    List.lookup_append]

instance : DecidableEq Properties := fun p q =>
  decidable_of_iff (p.pairs = q.pairs) ⟨Properties.ext, fun h => h ▸ rfl⟩

end Properties

end EmulatorScout
