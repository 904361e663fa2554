import EmulatorScout.Properties
import Mathlib.Data.List.Nodup

/-!
# Property maps and their pairs

A map holds a pair exactly if the key of the pair leads to its value (`Properties.get?_eq_some_iff`).
So the map of a list holds nothing that is not in the list (`Properties.mem_of_mem_ofList`), and the
pairs of a map make that map again in whatever order they come (`Properties.ofList_eq_of_perm`).
-/

set_option autoImplicit false

namespace EmulatorScout

/-- A pair with a key that is not kept twice is the one that the key leads to. -/
theorem lookup_eq_some_iff_mem {α : Type} {pairs : List (String × α)} {key : String} {value : α}
    (distinct : (pairs.map (·.1)).Nodup) :
    pairs.lookup key = some value ↔ (key, value) ∈ pairs := by
  induction pairs with
  | nil => simp
  | cons first rest ih =>
    -- if the key is the first one, it is not among the others
    obtain ⟨name, entry⟩ := first
    rw [List.map_cons, List.nodup_cons] at distinct
    by_cases hkey : key = name
    · subst hkey
      rw [List.lookup_cons_self, List.mem_cons]
      constructor
      · intro h
        exact Or.inl (congrArg (Prod.mk key) (Option.some.inj h).symm)
      · rintro (h | h)
        · exact congrArg some (Prod.mk.inj h).2.symm
        · exact absurd (List.mem_map_of_mem h) distinct.1
    · rw [lookup_cons_of_ne hkey, ih distinct.2, List.mem_cons]
      constructor
      · exact Or.inr
      · rintro (h | h)
        · exact absurd (Prod.mk.inj h).1 hkey
        · exact h

namespace Properties

theorem empty_override (properties : Properties) : empty.override properties = properties := by
  refine ext_get? fun key => ?_
  rw [get?_override]
  exact Option.or_none

theorem nodup_keys (properties : Properties) : (properties.pairs.map (·.1)).Nodup := by
  rw [List.Nodup, List.pairwise_map]
  exact properties.increasing.imp String.ne_of_lt

/-- A map holds the pairs that its look-ups give. -/
theorem get?_eq_some_iff {properties : Properties} {key value : String} :
    properties.get? key = some value ↔ (key, value) ∈ properties.pairs :=
  lookup_eq_some_iff_mem properties.nodup_keys

/-- The map of a list holds nothing that is not in the list. -/
theorem mem_of_mem_ofList {pairs : List (String × String)} {pair : String × String}
    (h : pair ∈ (ofList pairs).pairs) : pair ∈ pairs := by
  rw [← get?_eq_some_iff, get?_ofList] at h
  obtain ⟨before, after, hpairs, -⟩ := List.lookup_eq_some_iff.1 h
  rw [← List.mem_reverse, hpairs]
  exact List.mem_append_right _ List.mem_cons_self

/-- The map of pairs with different keys does not depend on their order. -/
theorem ofList_congr_of_perm {pairs others : List (String × String)}
    (distinct : (pairs.map (·.1)).Nodup) (h : pairs.Perm others) : ofList pairs = ofList others := by
  have hreverse : pairs.reverse.Perm others.reverse :=
    (List.reverse_perm pairs).trans (h.trans (List.reverse_perm others).symm)
  have hpairs : (pairs.reverse.map (·.1)).Nodup :=
    ((List.reverse_perm pairs).map (·.1)).nodup_iff.2 distinct
  have hothers : (others.reverse.map (·.1)).Nodup := (hreverse.map (·.1)).nodup_iff.1 hpairs
  refine ext_get? fun key => Option.ext fun value => ?_
  rw [get?_ofList, get?_ofList, lookup_eq_some_iff_mem hpairs, lookup_eq_some_iff_mem hothers,
    hreverse.mem_iff]

theorem ofList_pairs (properties : Properties) : ofList properties.pairs = properties := by
  have hreverse := List.reverse_perm properties.pairs
  have hdistinct : (properties.pairs.reverse.map (·.1)).Nodup :=
    (hreverse.map (·.1)).nodup_iff.2 properties.nodup_keys
  refine ext_get? fun key => Option.ext fun value => ?_
  rw [get?_ofList, lookup_eq_some_iff_mem hdistinct, get?_eq_some_iff, hreverse.mem_iff]

/-- The pairs of a map make the map, in whatever order they come. -/
theorem ofList_eq_of_perm {properties : Properties} {pairs : List (String × String)}
    (h : pairs.Perm properties.pairs) : ofList pairs = properties := by
  rw [← ofList_congr_of_perm properties.nodup_keys h.symm, ofList_pairs]

end Properties

end EmulatorScout
