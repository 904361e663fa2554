import EmulatorScout.CommandLine.Report
import EmulatorScout.Proofs.Json.Injective
import EmulatorScout.Proofs.Properties
import Mathlib.Data.List.Forall2

/-!
# Listings tell emulators apart

Descriptions of one emulator count as the same whatever their properties. What is printed as JSON does
not: two lists of descriptions are printed alike exactly if they agree position by position in the
process id and in every property (`CommandLine.listings_eq_iff`). The order in which the properties
were found has no part in it, as a property map has one order of its own.
-/

set_option autoImplicit false

namespace EmulatorScout

namespace Emulator

/-- Two descriptions have the same process id and the same properties. -/
def Alike (e f : Emulator) : Prop :=
  e.pid = f.pid ∧ ∀ key, e.properties.get? key = f.properties.get? key

/-- Descriptions that agree in everything that can be asked are equal. -/
theorem alike_iff {e f : Emulator} : Alike e f ↔ e = f := by
  constructor
  · rintro ⟨hpid, hproperties⟩
    cases e
    cases f
    cases hpid
    cases Properties.ext_get? hproperties
    rfl
  · rintro rfl
    exact ⟨rfl, fun _ => rfl⟩

theorem forall₂_alike_iff {es fs : List Emulator} : List.Forall₂ Alike es fs ↔ es = fs := by
  have halike : Alike = Eq := by
    funext e f
    exact propext alike_iff
  rw [halike, List.forall₂_eq_eq_eq]

theorem toJson_inj {e f : Emulator} : e.toJson = f.toJson ↔ e = f := by
  constructor
  · intro h
    have hstring : Function.Injective fun pair : String × String => (pair.1, Json.string pair.2) := by
      intro pair other hpair
      simp only [Prod.mk.injEq, Json.string.injEq] at hpair
      exact Prod.ext hpair.1 hpair.2
    simp only [toJson, Json.object.injEq, List.cons.injEq, Prod.mk.injEq, Json.string.injEq,
      true_and, and_true] at h
    cases e
    cases f
    cases h.1
    cases Properties.ext (List.map_injective_iff.2 hstring h.2)
    rfl
  · rintro rfl
    rfl

end Emulator

namespace CommandLine

open Emulator (Alike toJson)

theorem printedJson_inj {value other : Json} :
    printedJson value = printedJson other ↔ value = other := by
  have hwrite : value.write .indented = other.write .indented ↔ value = other := Json.write_inj
  rw [← hwrite, printedJson, printedJson, printed, printed]
  constructor
  · intro h
    have hlist := congrArg String.toList h
    rw [String.toList_append, String.toList_append] at hlist
    exact String.toList_inj.1 (List.append_cancel_right hlist)
  · intro h
    rw [h]

theorem emulatorsText_inj {es fs : List Emulator} :
    emulatorsText true es = emulatorsText true fs ↔ es = fs := by
  simp only [emulatorsText, if_true]
  rw [printedJson_inj, Json.array.injEq]
  constructor
  · intro h
    exact List.map_injective_iff.2 (fun e f => Emulator.toJson_inj.1) h
  · intro h
    rw [h]

/-- What is printed as JSON loses nothing. Lists of descriptions are printed alike exactly if they
have the same length and agree position by position, and so are two single descriptions in the compact
layout. The order in which different properties were found does not matter. Descriptions of one
emulator are the same emulator all the while, whether they are printed alike or not. -/
theorem listings_eq_iff :
    (∀ es fs : List Emulator,
      emulatorsText true es = emulatorsText true fs ↔ List.Forall₂ Alike es fs) ∧
    (∀ e f : Emulator, e.toJson.write .compact = f.toJson.write .compact ↔ Alike e f) ∧
    (∀ (pid : String) (pairs others : List (String × String)) (layout : Json.Layout),
      (pairs.map (·.1)).Nodup → pairs.Perm others →
        (toJson ⟨pid, .ofList pairs⟩).write layout = (toJson ⟨pid, .ofList others⟩).write layout) ∧
    ∀ (pid : String) (p q : Properties), Emulator.sameEmulator ⟨pid, p⟩ ⟨pid, q⟩ = true ∧
      (emulatorsText true [⟨pid, p⟩] = emulatorsText true [⟨pid, q⟩] ↔ p = q) := by
  refine ⟨?_, ?_, ?_, ?_⟩
  · intro es fs
    rw [emulatorsText_inj, Emulator.forall₂_alike_iff]
  · intro e f
    rw [Json.write_inj, Emulator.toJson_inj, Emulator.alike_iff]
  · intro pid pairs others layout distinct hperm
    rw [Properties.ofList_congr_of_perm distinct hperm]
  · intro pid p q
    refine ⟨beq_self_eq_true pid, ?_⟩
    rw [emulatorsText_inj]
    simp

/-- Two properties are printed in the order of their keys, in whatever order they were found. -/
theorem listings_eq_swapped :
    (toJson ⟨"9", .ofList [("z", "1"), ("a", "2")]⟩).write .compact
        = (toJson ⟨"9", .ofList [("a", "2"), ("z", "1")]⟩).write .compact ∧
      (toJson ⟨"9", .ofList [("a", "2"), ("z", "1")]⟩).write .compact
        = "\x7b\"pid\":\"9\",\"properties\":\x7b\"a\":\"2\",\"z\":\"1\"\x7d\x7d" :=
  ⟨listings_eq_iff.2.2.1 "9" _ _ .compact (by decide) (.swap _ _ []), by decide⟩

end CommandLine

end EmulatorScout
