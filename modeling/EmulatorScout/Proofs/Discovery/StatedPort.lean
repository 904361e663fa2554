import EmulatorScout.Proofs.Discovery.CallPort
import EmulatorScout.Proofs.Text.Decimal

/-!
# Ports and what properties say of them

A property states a port if it denotes a number of 16 bits, and then that number is the port; any other
property is treated as if it were missing (`Emulator.ReadsPort`). The serial number is made of the
digits of the port of the console, so it says which port that is and nothing of how the property is
written (`Emulator.serial?_eq_iff`). `Emulator.ports_read_as_stated` puts this together.
-/

set_option autoImplicit false

namespace EmulatorScout.Emulator

open Text.Numeral (Denotes IsCanonical isDigit positional withoutPlus)

/-! ## Reading -/

theorem map_toNat_readPort? (text : String) :
    (readPort? text).map UInt16.toNat = Text.Numeral.upTo? 65535 (Text.trim text.toList) := by
  rw [readPort?]
  cases hread : Text.Numeral.upTo? 65535 (Text.trim text.toList) with
  | none => rfl
  | some n =>
    have hbound : n < UInt16.size := Nat.lt_succ_of_le (Text.Numeral.upTo?_eq_some_iff.1 hread).2.2.2
    exact congrArg some (UInt16.toNat_ofNat_of_lt hbound)

/-- A port is read exactly from the texts that denote its number. -/
theorem map_toNat_readPort?_eq_some_iff {text : String} {n : Nat} :
    (readPort? text).map UInt16.toNat = some n ↔ Denotes text.toList n ∧ n ≤ 65535 := by
  rw [map_toNat_readPort?, Text.Numeral.upTo?_trim_eq_some_iff]

/-- A text that states no port: apart from white space and a plus sign it is empty, or has a character
that is no digit, or denotes a number of more than 16 bits. -/
def StatesNoPort (text : String) : Prop :=
  withoutPlus (Text.trim text.toList) = [] ∨
    (∃ c ∈ withoutPlus (Text.trim text.toList), isDigit c = false) ∨
    65535 < positional (withoutPlus (Text.trim text.toList))

/-- No port is read exactly from the texts that state none. -/
theorem readPort?_eq_none_iff {text : String} : readPort? text = none ↔ StatesNoPort text := by
  rw [← Option.map_eq_none_iff (f := UInt16.toNat), map_toNat_readPort?,
    Text.Numeral.upTo?_eq_none_iff, StatesNoPort]

/-- Whether a port, if any, is the one that a property states. -/
structure ReadsPort (emulator : Emulator) (key : String) (port? : Option UInt16) : Prop where
  /-- The port has a number exactly if the property is there and denotes the number, and it is one of 16
  bits. -/
  some_iff : ∀ n, port?.map UInt16.toNat = some n ↔
    ∃ text, emulator.properties.get? key = some text ∧ Denotes text.toList n ∧ n ≤ 65535
  /-- There is none exactly if the property is missing or states no port. -/
  none_iff : port? = none ↔ emulator.properties.get? key = none ∨
    ∃ text, emulator.properties.get? key = some text ∧ StatesNoPort text

/-- Nothing but its own value stands in for a property other than the process id. -/
theorem get?_eq_properties {key : String} (hkey : key ≠ pidKey) (emulator : Emulator) :
    emulator.get? key = emulator.properties.get? key := by
  rw [get?, if_neg hkey]
  cases emulator.properties.get? key <;> rfl

/-- The port that is read from a property is the one that the property states. -/
theorem readsPort_port? {key : String} (hkey : key ≠ pidKey) (emulator : Emulator) :
    emulator.ReadsPort key (emulator.port? key) := by
  rw [port?, get?_eq_properties hkey]
  cases hget : emulator.properties.get? key with
  | none => exact ⟨fun n => by simp [hget], by simp [hget]⟩
  | some text =>
    refine ⟨fun n => ?_, ?_⟩
    · rw [Option.bind_some, map_toNat_readPort?_eq_some_iff]
      simp [hget]
    · rw [Option.bind_some, readPort?_eq_none_iff]
      simp [hget]

/-! ## Serial numbers -/

/-- Serial numbers are equal exactly if the ports are. -/
theorem serial?_eq_iff {emulator other : Emulator} :
    emulator.serial? = other.serial? ↔ emulator.consolePort? = other.consolePort? :=
  Option.map_inj_right fun p q h => portText_inj p q ((String.append_right_inj "emulator-").1 h)

/-- The serial number ends in the canonical numeral of the port. -/
theorem exists_serial?_eq {emulator : Emulator} {port : UInt16}
    (h : emulator.consolePort? = some port) :
    ∃ digits, emulator.serial? = some ("emulator-" ++ String.ofList digits) ∧
      IsCanonical digits ∧ positional digits = port.toNat := by
  refine ⟨Nat.toDigits 10 port.toNat, ?_, Text.Numeral.isCanonical_toDigits _, ?_⟩
  · rw [serial?, h, Option.map_some, ← toList_portText, String.ofList_toList]
  · rw [← Text.Numeral.value_eq_positional, Text.Numeral.value_toDigits]

/-- Texts that denote one number state one port, or none of them states any. -/
theorem readPort?_congr {text text' : String} {n : Nat} (h : Denotes text.toList n)
    (h' : Denotes text'.toList n) : readPort? text = readPort? text' := by
  apply Option.map_injective (f := UInt16.toNat) fun _ _ => UInt16.toNat_inj.1
  apply Option.ext
  intro m
  rw [map_toNat_readPort?_eq_some_iff, map_toNat_readPort?_eq_some_iff]
  -- a text denotes one number only
  constructor
  · rintro ⟨hm, hbound⟩
    exact ⟨h.unique hm ▸ h', hbound⟩
  · rintro ⟨hm, hbound⟩
    exact ⟨h'.unique hm ▸ h, hbound⟩

/-- Ports are read as they are stated. The port of the console, of the debug bridge and for remote
calls is the number that the property for it denotes, with white space around, a plus sign and any
number of zeros allowed, if that is a number of 16 bits; for any other property, and for none, there is
no port. There is a serial number exactly if there is a port of the console, and then it is made of the
canonical numeral of the port. So two emulators have one serial number exactly if they have one port or
none, and always if their properties denote one number, in whatever form. -/
theorem ports_read_as_stated (emulator : Emulator) :
    emulator.ReadsPort consolePortKey emulator.consolePort? ∧
    emulator.ReadsPort bridgePortKey emulator.bridgePort? ∧
    emulator.ReadsPort callPortKey emulator.callPort? ∧
    emulator.serial?.isSome = emulator.consolePort?.isSome ∧
    (∀ port, emulator.consolePort? = some port → ∃ digits,
      emulator.serial? = some ("emulator-" ++ String.ofList digits) ∧
        IsCanonical digits ∧ positional digits = port.toNat) ∧
    ∀ other : Emulator,
      (emulator.serial? = other.serial? ↔ emulator.consolePort? = other.consolePort?) ∧
      ∀ text text' n, emulator.properties.get? consolePortKey = some text →
        other.properties.get? consolePortKey = some text' →
        Denotes text.toList n → Denotes text'.toList n → emulator.serial? = other.serial? := by
  have hconsole : consolePortKey ≠ pidKey := by decide
  refine ⟨readsPort_port? hconsole emulator, readsPort_port? (by decide) emulator,
    readsPort_port? (by decide) emulator, Option.isSome_map, fun port => exists_serial?_eq, ?_⟩
  intro other
  refine ⟨serial?_eq_iff, fun text text' n htext htext' hn hn' => ?_⟩
  rw [serial?_eq_iff, consolePort?, consolePort?, port?, port?, get?_eq_properties hconsole,
    get?_eq_properties hconsole, htext, htext', Option.bind_some, Option.bind_some,
    readPort?_congr hn hn']

/-- An emulator with the given text as the port of its console. -/
def withConsole (text : String) : Emulator := ⟨"1", .single consolePortKey text⟩

/-- White space, a sign and zeros have no part in the serial number, and with the first number that is
too great there is none, however it is written. -/
theorem ports_read_as_stated_padded :
    (withConsole "\t +0005554\u3000").serial? = some "emulator-5554" ∧
      (withConsole "+000065536").consolePort? = none ∧ (withConsole "-1").consolePort? = none := by
  have hpadded : Denotes "\t +0005554\u3000".toList 5554 :=
    ⟨['\t', ' '], ['+'], "0005554".toList, ['\u3000'], by decide, List.all_eq_true.1 (by decide),
      List.all_eq_true.1 (by decide), .inr rfl, by decide, List.all_eq_true.1 (by decide), by decide⟩
  have hplain : Denotes "5554".toList 5554 :=
    ⟨[], [], "5554".toList, [], by decide, nofun, nofun, .inl rfl, by decide,
      List.all_eq_true.1 (by decide), by decide⟩
  refine ⟨?_, ?_, ?_⟩
  · rw [((ports_read_as_stated (withConsole "\t +0005554\u3000")).2.2.2.2.2
      (withConsole "5554")).2 _ _ 5554 (by decide) (by decide) hpadded hplain]
    decide
  · refine (ports_read_as_stated _).1.none_iff.2 (.inr ⟨"+000065536", by decide, ?_⟩)
    exact .inr (.inr (by decide))
  · refine (ports_read_as_stated _).1.none_iff.2 (.inr ⟨"-1", by decide, ?_⟩)
    exact .inr (.inl ⟨'-', by decide, by decide⟩)

end EmulatorScout.Emulator
