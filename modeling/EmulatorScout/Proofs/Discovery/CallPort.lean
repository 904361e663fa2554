import EmulatorScout.Proofs.Discovery.Reachable
import EmulatorScout.Proofs.Text.Numeral

/-!
# Looking for an emulator by its port

An emulator's port is read from a text that may have white space around it, a plus sign and needless
zeros, but an emulator is looked for by the digits of a port alone. So an emulator with a port is found
exactly if some emulator with that port states it canonically
(`Snapshot.findCallPort?_iff_canonical`), and one that states it in another form is displayed with a
port by which it is not found (`Discovery.exists_port_not_found`).
-/

set_option autoImplicit false

namespace EmulatorScout

namespace Emulator

/-- Whether a property is stated as a canonical numeral. -/
def StatesCanonically (emulator : Emulator) (key : String) : Prop :=
  ∃ text, emulator.get? key = some text ∧ Text.Numeral.IsCanonical text.toList

theorem toList_portText (port : UInt16) : (portText port).toList = Nat.toDigits 10 port.toNat :=
  Nat.toList_repr

/-- A text of digits is read as a port exactly if its value is one. -/
theorem readPort?_of_digits {text : String} (hne : text.toList ≠ [])
    (hdigits : ∀ c ∈ text.toList, Text.Numeral.isDigit c = true) :
    readPort? text =
      if Text.Numeral.value text.toList ≤ 65535 then
        some (UInt16.ofNat (Text.Numeral.value text.toList))
      else none := by
  rw [readPort?, Text.Numeral.trim_of_digits hdigits,
    Text.Numeral.upTo?_of_digits hne hdigits]
  split <;> rfl

theorem readPort?_portText (port : UInt16) : readPort? (portText port) = some port := by
  have hcanonical := Text.Numeral.isCanonical_toDigits port.toNat
  rw [← toList_portText] at hcanonical
  have hvalue : Text.Numeral.value (portText port).toList = port.toNat := by
    rw [toList_portText, Text.Numeral.value_toDigits]
  have hbound : port.toNat ≤ 65535 := Nat.le_of_lt_succ port.toNat_lt
  rw [readPort?_of_digits hcanonical.1 hcanonical.2.1, hvalue, if_pos hbound, UInt16.ofNat_toNat]

theorem portText_inj (port other : UInt16) (h : portText port = portText other) : port = other := by
  have hread := congrArg readPort? h
  rw [readPort?_portText, readPort?_portText] at hread
  exact Option.some.inj hread

/-- Of the canonical numerals a port is read from its decimal form only. -/
theorem eq_portText_of_readPort? {text : String} {port : UInt16}
    (hcanonical : Text.Numeral.IsCanonical text.toList) (h : readPort? text = some port) :
    text = portText port := by
  rw [readPort?_of_digits hcanonical.1 hcanonical.2.1] at h
  split at h
  · rename_i hbound
    have hvalue : port.toNat = Text.Numeral.value text.toList := by
      rw [← Option.some.inj h]
      exact UInt16.toNat_ofNat_of_lt (Nat.lt_succ_of_le hbound)
    apply String.toList_inj.1
    rw [toList_portText, hvalue, Text.Numeral.toDigits_value hcanonical]
  · cases h

/-- A property is the decimal form of a port exactly if it states the port canonically. -/
theorem get?_eq_portText_iff {emulator : Emulator} {key : String} {port : UInt16} :
    emulator.get? key = some (portText port) ↔
      emulator.port? key = some port ∧ emulator.StatesCanonically key := by
  constructor
  · intro h
    have hcanonical := Text.Numeral.isCanonical_toDigits port.toNat
    rw [← toList_portText] at hcanonical
    exact ⟨by rw [port?, h, Option.bind_some, readPort?_portText], portText port, h, hcanonical⟩
  · rintro ⟨hport, text, htext, hcanonical⟩
    rw [port?, htext, Option.bind_some] at hport
    rw [htext, eq_portText_of_readPort? hcanonical hport]

end Emulator

/-- Where a look-up by port finds an emulator. It finds one exactly if some emulator has the port and
states it canonically, and what it finds is an emulator with the port. -/
theorem Snapshot.findCallPort?_iff_canonical (snapshot : Snapshot) (port : UInt16) :
    ((snapshot.findCallPort? port).isSome = true ↔
      ∃ emulator ∈ snapshot.emulators, emulator.callPort? = some port ∧
        emulator.StatesCanonically Emulator.callPortKey) ∧
      ∀ emulator, snapshot.findCallPort? port = some emulator →
        emulator ∈ snapshot.emulators ∧ emulator.callPort? = some port := by
  constructor
  · rw [findCallPort?, isSome_find?_iff]
    exact exists_congr fun emulator => and_congr_right fun _ => Emulator.get?_eq_portText_iff
  · intro emulator h
    obtain ⟨hmem, hvalue⟩ := of_find?_eq_some h
    exact ⟨hmem, (Emulator.get?_eq_portText_iff.1 hvalue).1⟩

namespace Discovery

/-- A directory with the marker files of two processes that state one port, one of them after a blank and
with a needless zero. -/
def portView : View :=
  ⟨.ofNodes
    [("a", .directory), ("a/pid_1.ini", .file (Bytes.ofString "grpc.port= 08554")),
      ("b", .directory), ("b/pid_2.ini", .file (Bytes.ofString "grpc.port=8554"))], [], .stored⟩

/-- The emulator that states the port with a blank and a zero. -/
def paddedEmulator : Emulator := ⟨"1", .single Emulator.callPortKey " 08554"⟩

/-- The emulator that states the port canonically. -/
def canonicalEmulator : Emulator := ⟨"2", .single Emulator.callPortKey "8554"⟩

/-- Of two emulators with the port the one that states it canonically is found. -/
theorem findCallPort?_canonicalEmulator :
    (rescan portView ⟨[Path.ofString "a", Path.ofString "b"], .empty⟩).1.snapshot.findCallPort? 8554
        = some canonicalEmulator ∧
      canonicalEmulator.callPort? = some 8554 := by
  have hfind : (rescan portView
      ⟨[Path.ofString "a", Path.ofString "b"], .empty⟩).1.snapshot.findCallPort? 8554
        = some canonicalEmulator := by decide +kernel
  exact ⟨hfind, ((Snapshot.findCallPort?_iff_canonical _ 8554).2 canonicalEmulator hfind).2⟩

/-- A discovery with the other emulator alone, which is displayed with the port and not found by it. -/
theorem exists_port_not_found :
    Reachable ⟨[Path.ofString "a"], ⟨[("1", paddedEmulator)]⟩⟩ ∧
      paddedEmulator.callPort? = some 8554 ∧ paddedEmulator.line = "1\t-\t-\tgrpc=8554" ∧
      (⟨[("1", paddedEmulator)]⟩ : Snapshot).findCallPort? 8554 = none := by
  have hscan : rescan portView ⟨[Path.ofString "a"], .empty⟩
      = (⟨[Path.ofString "a"], ⟨[("1", paddedEmulator)]⟩⟩, none) := by decide +kernel
  exact ⟨.inDirectories (inDirectories_eq_ok_iff_rescan.2 hscan), by decide +kernel⟩

end Discovery

end EmulatorScout
