import EmulatorScout.Proofs.Text.Undamaged

/-!
# Separators among bytes

A byte below 0x80 is a character of its own and never continues one that was begun. So it separates
the bytes before it from those after it: each side is read as it would be alone, whatever damage
there is on it (`decodeAfter_append_cons`, `lossy_append_cons`). A character that is cut off by the
separator is a damaged stretch before it and takes nothing away from what follows.
-/

set_option autoImplicit false

namespace EmulatorScout.Text.Utf8

/-- A byte that cannot continue what was begun ends a damaged stretch and is read anew. -/
theorem decodeAfter_of_refused {held : Bytes} {b : UInt8} (h : progress (held ++ [b]) = .refused)
    (rest : Bytes) :
    decodeAfter held (b :: rest) = damage held ++ decodeAfter [] (b :: rest) := by
  rw [decodeAfter, h]
  -- on both sides the byte begins anew, whatever it begins
  cases hfirst : progress [b] with
  | whole c | begun | refused => simp [decodeAfter, hfirst, damage]

section Separator

variable {separator : UInt8}

theorem progress_separator (h : separator.toNat < 128) :
    progress [separator] = .whole (Char.ofNat separator.toNat) := by
  simp [progress, UInt8.lt_iff_toNat_lt, h]

/-- A byte below 0x80 continues no character that was begun. -/
theorem progress_concat_separator {held : Bytes} (hheld : held ≠ []) (h : separator.toNat < 128) :
    progress (held ++ [separator]) = .refused := by
  have htail : isTail separator = false := by
    rw [Bool.eq_false_iff, ne_eq, isTail_iff]
    omega
  -- one case for each number of bytes that may be held; with more of them no byte is taken
  match held, hheld with
  | [a], _ => simp [progress, isSecond, htail]
  | [a, b], _ => simp [progress, htail]
  | [a, b, c], _ => simp [progress, htail]
  | _ :: _ :: _ :: _ :: _, _ => simp [progress]

/-- A byte below 0x80 separates what stands before it from what stands after it. What is held is
damaged if the separator comes too early for it, and nothing is held after the separator. -/
theorem decodeAfter_append_cons (held before after : Bytes) (h : separator.toNat < 128) :
    decodeAfter held (before ++ separator :: after)
      = decodeAfter held before ++ .char (Char.ofNat separator.toNat) :: decodeAfter [] after := by
  induction before generalizing held with
  | nil =>
    cases held with
    | nil => exact decodeAfter_of_whole (progress_separator h) after
    | cons a rest =>
      have hrefused := progress_concat_separator (List.cons_ne_nil a rest) h
      rw [List.nil_append, decodeAfter_of_refused hrefused,
        decodeAfter_of_whole (progress_separator h)]
      rfl
  | cons b before ih =>
    -- the reader does with this byte what it does without the separator, and is then held to `ih`
    rw [List.cons_append, decodeAfter, decodeAfter]
    split
    · rw [ih, List.cons_append]
    · exact ih _
    · split <;> rw [ih] <;> simp

/-- The shown text of bytes is cut where the bytes are cut, at every byte below 0x80. -/
theorem lossy_append_cons (before after : Bytes) (h : separator.toNat < 128) :
    lossy (before ++ separator :: after)
      = lossy before ++ Char.ofNat separator.toNat :: lossy after := by
  rw [lossy, decode, decodeAfter_append_cons [] before after h, List.map_append, List.map_cons]
  rfl

end Separator

end EmulatorScout.Text.Utf8
