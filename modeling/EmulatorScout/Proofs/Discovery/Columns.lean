import EmulatorScout.Proofs.Discovery.CallPort
import EmulatorScout.Proofs.PropertyFile.Layout

/-!
# The columns of a line

A line shows four things of an emulator with tabs between them, and one of them, the name, is any text
that a marker file can state, tabs included. The others hold no tab, so a line is read from both ends
(`Columns.ofLine`): the process id ends at the first tab, the port and the serial number begin at the
last two, and the name is what is left. A line is read back as what it shows (`Columns.ofLine_line`), so
emulators with equal lines agree in all of it (`Emulator.Legible.eq_of_line`).
-/

set_option autoImplicit false

namespace EmulatorScout

/-- The columns of a line. -/
structure Columns where
  /-- The process id. -/
  pid : List Char
  /-- The name of the virtual device. -/
  name : List Char
  /-- The serial number. -/
  serial : List Char
  /-- The port for remote calls. -/
  port : List Char
  deriving DecidableEq, Repr

/-- A line read from both ends: what stands before the first tab, after the last one, between the last
two, and what is left in the middle. -/
def Columns.ofLine (line : List Char) : Columns :=
  let rest := (line.dropWhile (· ≠ '\t')).tail
  let inner := (rest.rdropWhile (· ≠ '\t')).dropLast
  { pid := line.takeWhile (· ≠ '\t')
    name := (inner.rdropWhile (· ≠ '\t')).dropLast
    serial := inner.rtakeWhile (· ≠ '\t')
    port := rest.rtakeWhile (· ≠ '\t') }

/-- Columns in a row, with tabs between them. -/
def Columns.text (columns : Columns) : List Char :=
  columns.pid ++ '\t' :: (columns.name ++ '\t' :: (columns.serial ++ '\t' :: columns.port))

/-- Columns are read back from their row, whatever the name holds, if the others hold no tab. -/
theorem Columns.ofLine_text {columns : Columns} (hpid : '\t' ∉ columns.pid)
    (hserial : '\t' ∉ columns.serial) (hport : '\t' ∉ columns.port) :
    ofLine columns.text = columns := by
  have hrest : (columns.text.dropWhile (· ≠ '\t')).tail
      = (columns.name ++ '\t' :: columns.serial) ++ '\t' :: columns.port := by
    rw [text, dropWhile_ne_append_cons hpid, List.tail_cons, List.append_assoc, List.cons_append]
  have hinner : (((columns.text.dropWhile (· ≠ '\t')).tail).rdropWhile (· ≠ '\t')).dropLast
      = columns.name ++ '\t' :: columns.serial := by
    rw [hrest, rdropWhile_ne_append_cons hport, List.dropLast_concat]
  simp only [ofLine, hinner]
  rw [hrest, rtakeWhile_ne_append_cons hport, rtakeWhile_ne_append_cons hserial,
    rdropWhile_ne_append_cons hserial, List.dropLast_concat, text, takeWhile_ne_append_cons hpid]

namespace Emulator

def absent : String := "-"

/-- What a line shows of an emulator: its process id, the name and the serial number or what is shown for
them, and the port for remote calls after its label. -/
def columns (emulator : Emulator) : Columns where
  pid := emulator.pid.toList
  name := (emulator.name?.getD absent).toList
  serial := ((emulator.consolePort?.map fun port => "emulator-" ++ portText port).getD absent).toList
  port := "grpc=".toList ++ ((emulator.callPort?.map portText).getD absent).toList

/-- A line is the row of these columns. -/
theorem toList_line (emulator : Emulator) : emulator.line.toList = emulator.columns.text := by
  simp [line, Columns.text, columns, absent, serial?]

/-- A text within a line that has no columns and no lines of its own. -/
def Unbroken (text : List Char) : Prop := '\t' ∉ text ∧ '\n' ∉ text

theorem Unbroken.append {text more : List Char} (h : Unbroken text) (hmore : Unbroken more) :
    Unbroken (text ++ more) := by
  simp only [Unbroken, List.mem_append, not_or]
  exact ⟨⟨h.1, hmore.1⟩, ⟨h.2, hmore.2⟩⟩

theorem unbroken_portText (port : UInt16) : Unbroken (portText port).toList := by
  have hdigit : ∀ c, c ∈ (portText port).toList → Text.Numeral.isDigit c = true := by
    intro c hc
    rw [toList_portText] at hc
    exact Text.Numeral.isDigit_of_mem_toDigits hc
  constructor <;> intro hmem <;> exact absurd (hdigit _ hmem) (by decide)

theorem unbroken_pid {pid : String} (h : MarkerFile.IsPid pid) : Unbroken pid.toList := by
  constructor <;> intro hmem <;> exact absurd (h.2 _ hmem) (by decide)

theorem unbroken_serial (emulator : Emulator) : Unbroken emulator.columns.serial := by
  simp only [columns]
  cases emulator.consolePort? with
  | none => simp [Unbroken, absent]
  | some port =>
    have hlabel : Unbroken "emulator-".toList := by simp [Unbroken]
    simpa using hlabel.append (unbroken_portText port)

theorem unbroken_port (emulator : Emulator) : Unbroken emulator.columns.port := by
  have hlabel : Unbroken "grpc=".toList := by simp [Unbroken]
  refine hlabel.append ?_
  cases emulator.callPort? with
  | none => simp [Unbroken, absent]
  | some port => exact unbroken_portText port

/-! ## Emulators of marker files -/

/-- What a marker file can state of an emulator: its name has the digits of the process id, and its lines
state the properties. -/
structure Legible (emulator : Emulator) : Prop where
  /-- The process id is one or more digits. -/
  pid : MarkerFile.IsPid emulator.pid
  /-- The properties are pairs that lines can state. -/
  properties : PropertyFile.WellFormed emulator.properties

namespace Legible

variable {e f : Emulator}

theorem feed_notMem_name (legible : e.Legible) : '\n' ∉ e.columns.name := by
  simp only [columns, name?, get?]
  cases hname : e.properties.get? nameKey with
  | none => simp [nameKey, pidKey, absent]
  | some name =>
    have hpair := legible.properties _ (Properties.get?_eq_some_iff.1 hname)
    intro hmem
    exact absurd (hpair.value _ hmem) (by decide)

/-- A line of an emulator is one line. -/
theorem feed_notMem_line (legible : e.Legible) : '\n' ∉ e.line.toList := by
  have hpid := (unbroken_pid legible.pid).2
  have hserial := (unbroken_serial e).2
  have hport := (unbroken_port e).2
  have hname := legible.feed_notMem_name
  rw [toList_line, Columns.text]
  simp only [List.mem_append, List.mem_cons, not_or]
  exact ⟨hpid, by decide, hname, by decide, hserial, by decide, hport⟩

/-- A line is read back as what it shows. -/
theorem ofLine_line (legible : e.Legible) : Columns.ofLine e.line.toList = e.columns := by
  rw [toList_line]
  exact Columns.ofLine_text (unbroken_pid legible.pid).1 (unbroken_serial e).1 (unbroken_port e).1

end Legible

/-! ## What columns tell -/

/-- What is shown of a port tells which port it is, or that there is none, if different ports are shown
differently and none is shown as an absent one. -/
theorem eq_of_shown {form : UInt16 → String} (hform : ∀ port other, form port = form other → port = other)
    (hpresent : ∀ port, form port ≠ absent) {port? other? : Option UInt16}
    (h : (port?.map form).getD absent = (other?.map form).getD absent) : port? = other? := by
  cases port? with
  | none =>
    cases other? with
    | none => rfl
    | some other => exact absurd h.symm (hpresent other)
  | some port =>
    cases other? with
    | none => exact absurd h (hpresent port)
    | some other => exact congrArg some (hform port other h)

theorem portText_ne_absent (port : UInt16) : portText port ≠ absent := by
  intro h
  have hread := congrArg readPort? h
  have habsent : readPort? absent = none := by decide
  rw [readPort?_portText, habsent] at hread
  cases hread

/-- Emulators with equal lines agree in all that a line shows: in the process id, in the name as far
as it is shown, in the serial number and in the port for remote calls. -/
theorem Legible.eq_of_line {e f : Emulator} (he : e.Legible) (hf : f.Legible) (h : e.line = f.line) :
    e.pid = f.pid ∧ e.name?.getD absent = f.name?.getD absent ∧ e.serial? = f.serial? ∧
      e.callPort? = f.callPort? := by
  have hcolumns : e.columns = f.columns := by
    rw [← he.ofLine_line, ← hf.ofLine_line, h]
  simp only [columns, Columns.mk.injEq, String.toList_inj] at hcolumns
  obtain ⟨hpid, hname, hserial, hport⟩ := hcolumns
  have hconsole : e.consolePort? = f.consolePort? := by
    refine eq_of_shown ?_ ?_ hserial
    · intro port other hform
      have hlist := congrArg String.toList hform
      simp only [String.toList_append] at hlist
      exact portText_inj port other (String.toList_inj.1 (List.append_cancel_left hlist))
    · intro port hform
      have hhead := congrArg (fun text => text.toList.head?) hform
      simp [absent] at hhead
  have hcall : e.callPort? = f.callPort? :=
    eq_of_shown portText_inj portText_ne_absent (String.toList_inj.1 (List.append_cancel_left hport))
  exact ⟨hpid, hname, by rw [serial?, hconsole, serial?], hcall⟩

end Emulator

end EmulatorScout
