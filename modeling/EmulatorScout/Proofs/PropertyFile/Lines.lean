import EmulatorScout.Proofs.Properties
import EmulatorScout.Proofs.Text.Separation
import EmulatorScout.PropertyFile

/-!
# Property files line by line

A line end separates what stands before it from what stands after it, as bytes and as statements:
the file states what the part before it states, overridden by what the part after it states
(`PropertyFile.read_append`). So each line is read as it would be alone, however damaged the lines
around it are, and a property has the value that the last line that states it gives to it
(`PropertyFile.get?_read_joined`).
-/

set_option autoImplicit false

namespace EmulatorScout

namespace PropertyFile

/-- The ends that a line can have. -/
inductive LineEnd where
  /-- A line feed. -/
  | feed
  /-- A carriage return. -/
  | carriage
  /-- A carriage return and a line feed. -/
  | both
  deriving DecidableEq, Repr

def LineEnd.bytes : LineEnd → Bytes
  | .feed => [0x0A]
  | .carriage => [0x0D]
  | .both => [0x0D, 0x0A]

/-- A file of lines, each with its end, and a last line without one. -/
def joined (ended : List (Bytes × LineEnd)) (last : Bytes) : Bytes :=
  ended.flatMap (fun line => line.1 ++ line.2.bytes) ++ last

/-- Statements split at a line end. -/
theorem statements_append_cons {c : Char} (hc : isLineEnd c = true) (before after : List Char) :
    statements (before ++ c :: after) = statements before ++ statements after := by
  rw [statements, lines, List.splitOnP_append_cons before after hc, List.filterMap_append]
  rfl

/-- A file splits at a byte that ends a line, whatever its parts hold. -/
theorem read_append_cons {separator : UInt8} (hseparator : separator.toNat < 128)
    (hend : isLineEnd (Char.ofNat separator.toNat) = true) (before after : Bytes) :
    read (before ++ separator :: after) = (read before).override (read after) := by
  have hshown : (Bytes.shown (before ++ separator :: after)).toList
      = Text.Utf8.lossy before ++ Char.ofNat separator.toNat :: Text.Utf8.lossy after := by
    rw [Bytes.shown, String.toList_ofList, Text.Utf8.lossy_append_cons before after hseparator]
  rw [read, parse, hshown, statements_append_cons hend, Properties.ofList_append, read, read, parse,
    parse, Bytes.shown, Bytes.shown, String.toList_ofList, String.toList_ofList]

/-- A file states what the part before a line end states, overridden by what the part after it
states, whatever bytes the parts are made of. -/
theorem read_append (ending : LineEnd) (before after : Bytes) :
    read (before ++ ending.bytes ++ after) = (read before).override (read after) := by
  rw [List.append_assoc]
  cases ending with
  | feed => exact read_append_cons (by decide) (by decide) before after
  | carriage => exact read_append_cons (by decide) (by decide) before after
  | both =>
    -- the line feed ends one more line, which is empty and states nothing
    have hempty : read ([] ++ 0x0A :: after) = read after := by
      rw [read_append_cons (by decide) (by decide) [] after]
      exact Properties.empty_override _
    rw [LineEnd.bytes, List.cons_append, read_append_cons (by decide) (by decide)]
    exact congrArg _ hempty

/-- A property has the value that the last line gives to it of those lines that state it. The other
lines have no part in it, whatever bytes they are made of. -/
theorem get?_read_joined (ended : List (Bytes × LineEnd)) (last : Bytes) (key : String) :
    (read (joined ended last)).get? key
      = (last :: (ended.map (·.1)).reverse).findSome? fun line => (read line).get? key := by
  induction ended with
  | nil =>
    rw [joined, List.flatMap_nil, List.nil_append, List.map_nil, List.reverse_nil]
    cases hlast : (read last).get? key <;> simp [hlast]
  | cons line ended ih =>
    -- the first line is what the rest of the file overrides, so it is asked after all others
    have hjoined : joined (line :: ended) last = line.1 ++ line.2.bytes ++ joined ended last := by
      rw [joined, List.flatMap_cons, List.append_assoc, joined]
    rw [hjoined, read_append, Properties.get?_override, ih, List.map_cons, List.reverse_cons,
      ← List.cons_append, List.findSome?_append]
    cases hline : (read line.1).get? key <;> simp [hline]

/-- A file is read line by line. At every end of a line it splits into two files, the second of
which overrides the first, and a property has the value that the last line stating it gives to it. -/
theorem read_line_by_line (before : Bytes) (ending : LineEnd) (after : Bytes) :
    read (before ++ ending.bytes ++ after) = (read before).override (read after) ∧
      ∀ ended last key, (read (joined ended last)).get? key
        = (last :: (ended.map (·.1)).reverse).findSome? fun line => (read line).get? key :=
  ⟨read_append ending before after, get?_read_joined⟩

/-- A character that a line end cuts off does not take the line end with it. -/
example :
    read ([0x61, 0x3D, 0xE2, 0x82] ++ LineEnd.both.bytes ++ [0x82, 0x3D, 0x62])
      = ((Properties.single "a" "\uFFFD").override (.single "\uFFFD" "b")) := by
  decide +kernel

end PropertyFile

end EmulatorScout
