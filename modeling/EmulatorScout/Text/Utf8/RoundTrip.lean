import EmulatorScout.Text.Utf8

/-!
# Reading what was written

The bytes of a text are read back as that text (`decode_encode`), also where other bytes follow
(`decodeAfter_encodeChar`). So a written text has no damaged stretch, and the two ways to read bytes,
with and without tolerance for damage, agree on it (`read?_encode`, `lossy_encode`).
-/

set_option autoImplicit false

namespace EmulatorScout

namespace Text.Utf8

/-! ## Bounds of bytes and codes -/

theorem isTail_iff {b : UInt8} : isTail b = true ↔ 128 ≤ b.toNat ∧ b.toNat ≤ 191 := by
  simp [isTail, UInt8.le_iff_toNat_le]

theorem isSecond_iff {lead b : UInt8} :
    isSecond lead b = true ↔
      isTail b = true ∧ (lead.toNat = 224 → 160 ≤ b.toNat) ∧ (lead.toNat = 237 → b.toNat ≤ 159) ∧
        (lead.toNat = 240 → 144 ≤ b.toNat) ∧ (lead.toNat = 244 → b.toNat ≤ 143) := by
  simp only [isSecond, Bool.and_eq_true, UInt8.le_iff_toNat_le, ← UInt8.toNat_inj]
  grind

theorem toNat_ofNat_byte {n : Nat} (h : n < 256) : (UInt8.ofNat n).toNat = n :=
  UInt8.toNat_ofNat_of_lt h

/-- The codes of characters leave out the surrogates and end at 0x10FFFF. -/
theorem code_bounds (c : Char) : c.toNat < 55296 ∨ 57343 < c.toNat ∧ c.toNat < 1114112 := by
  simpa [UInt32.isValidChar, Nat.isValidChar] using c.valid

/-! ## Single steps of the reader -/

/-- A first byte that is not ASCII has more bytes to follow. -/
theorem progress_first {a : UInt8} (hlow : 194 ≤ a.toNat) (hhigh : a.toNat ≤ 244) :
    progress [a] = .begun := by
  have hascii : ¬ a.toNat < 128 := by omega
  simp [progress, UInt8.lt_iff_toNat_lt, UInt8.le_iff_toNat_le, hascii, hlow, hhigh]

/-- A byte that continues what was begun is held too. -/
theorem decodeAfter_of_begun {held : Bytes} {b : UInt8} (h : progress (held ++ [b]) = .begun)
    (rest : Bytes) : decodeAfter held (b :: rest) = decodeAfter (held ++ [b]) rest := by
  rw [decodeAfter, h]

theorem decodeAfter_of_whole {held : Bytes} {b : UInt8} {c : Char}
    (h : progress (held ++ [b]) = .whole c) (rest : Bytes) :
    decodeAfter held (b :: rest) = .char c :: decodeAfter [] rest := by
  rw [decodeAfter, h]

/-! ## Whole characters and texts -/

/-- The bytes of a character are read as that character, whatever follows them. -/
theorem decodeAfter_encodeChar (c : Char) (rest : Bytes) :
    decodeAfter [] (encodeChar c ++ rest) = .char c :: decodeAfter [] rest := by
  have hcode := code_bounds c
  have htail (n : Nat) : (UInt8.ofNat (128 + n % 64)).toNat = 128 + n % 64 :=
    toNat_ofNat_byte (by omega)
  unfold encodeChar
  simp only
  split
  · rename_i h
    have ha : (UInt8.ofNat c.toNat).toNat = c.toNat := toNat_ofNat_byte (by omega)
    have hwhole : progress [UInt8.ofNat c.toNat] = .whole c := by
      simp [progress, UInt8.lt_iff_toNat_lt, ha, h, Char.ofNat_toNat]
    exact decodeAfter_of_whole hwhole rest
  · split
    · rename_i hone htwo
      have ha : (UInt8.ofNat (192 + c.toNat / 64)).toNat = 192 + c.toNat / 64 :=
        toNat_ofNat_byte (by omega)
      generalize UInt8.ofNat (192 + c.toNat / 64) = a at ha ⊢
      have hb := htail c.toNat
      generalize UInt8.ofNat (128 + c.toNat % 64) = b at hb ⊢
      have hsecond : isSecond a b = true := by rw [isSecond_iff, isTail_iff]; omega
      have hshort : a.toNat ≤ 223 := by omega
      have hvalue : a.toNat % 32 * 64 + b.toNat % 64 = c.toNat := by omega
      have hbegun : progress [a] = .begun := progress_first (by omega) (by omega)
      have hwhole : progress [a, b] = .whole c := by
        simp [progress, hsecond, UInt8.le_iff_toNat_le, hshort, tailValue, hvalue, Char.ofNat_toNat]
      exact (decodeAfter_of_begun hbegun _).trans (decodeAfter_of_whole hwhole rest)
    · split
      · rename_i hone htwo hthree
        have ha : (UInt8.ofNat (224 + c.toNat / 4096)).toNat = 224 + c.toNat / 4096 :=
          toNat_ofNat_byte (by omega)
        generalize UInt8.ofNat (224 + c.toNat / 4096) = a at ha ⊢
        have hb := htail (c.toNat / 64)
        generalize UInt8.ofNat (128 + c.toNat / 64 % 64) = b at hb ⊢
        have hd := htail c.toNat
        generalize UInt8.ofNat (128 + c.toNat % 64) = d at hd ⊢
        have hsecond : isSecond a b = true := by rw [isSecond_iff, isTail_iff]; omega
        have hthird : isTail d = true := by rw [isTail_iff]; omega
        have hlong : ¬ a.toNat ≤ 223 := by omega
        have hshort : a.toNat ≤ 239 := by omega
        have hvalue :
            a.toNat % 16 * 4096 + b.toNat % 64 * 64 + d.toNat % 64 = c.toNat := by omega
        have hbegun : progress [a] = .begun := progress_first (by omega) (by omega)
        have hmore : progress [a, b] = .begun := by
          simp [progress, hsecond, UInt8.le_iff_toNat_le, hlong]
        have hwhole : progress [a, b, d] = .whole c := by
          simp [progress, hthird, UInt8.le_iff_toNat_le, hshort, tailValue, hvalue,
            Char.ofNat_toNat]
        exact (decodeAfter_of_begun hbegun _).trans
          ((decodeAfter_of_begun hmore _).trans (decodeAfter_of_whole hwhole rest))
      · rename_i hone htwo hthree
        have ha : (UInt8.ofNat (240 + c.toNat / 262144)).toNat = 240 + c.toNat / 262144 :=
          toNat_ofNat_byte (by omega)
        generalize UInt8.ofNat (240 + c.toNat / 262144) = a at ha ⊢
        have hb := htail (c.toNat / 4096)
        generalize UInt8.ofNat (128 + c.toNat / 4096 % 64) = b at hb ⊢
        have hd := htail (c.toNat / 64)
        generalize UInt8.ofNat (128 + c.toNat / 64 % 64) = d at hd ⊢
        have he := htail c.toNat
        generalize UInt8.ofNat (128 + c.toNat % 64) = e at he ⊢
        have hsecond : isSecond a b = true := by rw [isSecond_iff, isTail_iff]; omega
        have hthird : isTail d = true := by rw [isTail_iff]; omega
        have hfourth : isTail e = true := by rw [isTail_iff]; omega
        have hlong : ¬ a.toNat ≤ 223 := by omega
        have hlonger : ¬ a.toNat ≤ 239 := by omega
        have hvalue :
            a.toNat % 8 * 262144 + b.toNat % 64 * 4096 + d.toNat % 64 * 64 + e.toNat % 64
              = c.toNat := by omega
        have hbegun : progress [a] = .begun := progress_first (by omega) (by omega)
        have hmore : progress [a, b] = .begun := by
          simp [progress, hsecond, UInt8.le_iff_toNat_le, hlong]
        have hlast : progress [a, b, d] = .begun := by
          simp [progress, hthird, UInt8.le_iff_toNat_le, hlonger]
        have hwhole : progress [a, b, d, e] = .whole c := by
          simp [progress, hfourth, tailValue, hvalue, Char.ofNat_toNat]
        exact (decodeAfter_of_begun hbegun _).trans
          ((decodeAfter_of_begun hmore _).trans
            ((decodeAfter_of_begun hlast _).trans (decodeAfter_of_whole hwhole rest)))

/-- Written text is read back without damage. -/
theorem decode_encode (text : List Char) : decode (encode text) = text.map .char := by
  induction text with
  | nil => rfl
  | cons c rest ih =>
    rw [encode, List.flatMap_cons, decode, decodeAfter_encodeChar, List.map_cons]
    exact congrArg _ ih

theorem read?_encode (text : List Char) : read? (encode text) = some text := by
  rw [read?, decode_encode]
  induction text with
  | nil => rfl
  | cons c rest ih => simp only [List.map_cons, List.mapM_cons, ih]; rfl

/-- Written text shows no replacement character that was not in it. -/
theorem lossy_encode (text : List Char) : lossy (encode text) = text := by
  simp [lossy, decode_encode, Piece.shown, Function.comp_def]

end Text.Utf8

theorem Bytes.text?_ofString (text : String) : Bytes.text? (Bytes.ofString text) = some text := by
  simp [Bytes.text?, Bytes.ofString, Text.Utf8.read?_encode]

end EmulatorScout
