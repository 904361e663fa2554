import EmulatorScout.Text.Utf8.RoundTrip

/-!
# Undamaged bytes

A byte string without a damaged stretch is the written form of the text that it is read as, so bytes
and texts determine each other (`Bytes.text?_eq_some_iff`). This is where the bounds on the bytes of
a character matter: without them a character could be spelt in a longer form, and two names of files
could be read as one text.
-/

set_option autoImplicit false

namespace EmulatorScout

namespace Text.Utf8

/-! ## Characters by their bytes -/

/-- A number outside the gap of the surrogates and below the end of the codes is a character's. -/
theorem toNat_ofNat_code {n : Nat} (h : n < 55296 ∨ 57343 < n ∧ n < 1114112) :
    (Char.ofNat n).toNat = n := by
  have hvalid : n.isValidChar := h
  rw [Char.ofNat, dif_pos hvalid]
  rfl

theorem encodeChar_of_one {a : UInt8} (ha : a.toNat < 128) :
    encodeChar (Char.ofNat a.toNat) = [a] := by
  have hcode : (Char.ofNat a.toNat).toNat = a.toNat := toNat_ofNat_code (by omega)
  simp only [encodeChar, hcode]
  rw [if_pos ha, UInt8.ofNat_toNat]

theorem encodeChar_of_two {a b : UInt8} {n : Nat} (hlow : 128 ≤ n) (hhigh : n < 2048)
    (ha : a.toNat = 192 + n / 64) (hb : b.toNat = 128 + n % 64) :
    encodeChar (Char.ofNat n) = [a, b] := by
  have hcode : (Char.ofNat n).toNat = n := toNat_ofNat_code (by omega)
  simp only [encodeChar, hcode]
  rw [if_neg (by omega), if_pos hhigh, ← ha, ← hb, UInt8.ofNat_toNat, UInt8.ofNat_toNat]

/-- Three bytes are the written form of a code below 0x10000. -/
theorem encodeChar_of_three {a b c : UInt8} {n : Nat} (hlow : 2048 ≤ n) (hhigh : n < 65536)
    (hgap : n < 55296 ∨ 57343 < n) (ha : a.toNat = 224 + n / 4096)
    (hb : b.toNat = 128 + n / 64 % 64) (hc : c.toNat = 128 + n % 64) :
    encodeChar (Char.ofNat n) = [a, b, c] := by
  have hcode : (Char.ofNat n).toNat = n := toNat_ofNat_code (by omega)
  simp only [encodeChar, hcode]
  rw [if_neg (by omega), if_neg (by omega), if_pos hhigh, ← ha, ← hb, ← hc, UInt8.ofNat_toNat,
    UInt8.ofNat_toNat, UInt8.ofNat_toNat]

/-- Four bytes are the written form of a code from 0x10000 on. -/
theorem encodeChar_of_four {a b c d : UInt8} {n : Nat} (hlow : 65536 ≤ n) (hhigh : n < 1114112)
    (ha : a.toNat = 240 + n / 262144) (hb : b.toNat = 128 + n / 4096 % 64)
    (hc : c.toNat = 128 + n / 64 % 64) (hd : d.toNat = 128 + n % 64) :
    encodeChar (Char.ofNat n) = [a, b, c, d] := by
  have hcode : (Char.ofNat n).toNat = n := toNat_ofNat_code (by omega)
  simp only [encodeChar, hcode]
  rw [if_neg (by omega), if_neg (by omega), if_neg (by omega), ← ha, ← hb, ← hc, ← hd,
    UInt8.ofNat_toNat, UInt8.ofNat_toNat, UInt8.ofNat_toNat, UInt8.ofNat_toNat]

/-! ## Characters that were begun -/

/-- Bytes that the reader can hold: each beginning of them was found to begin a character. -/
def Begun : Bytes → Prop
  | [] => True
  | [a] => progress [a] = .begun
  | [a, b] => progress [a] = .begun ∧ progress [a, b] = .begun
  | [a, b, c] => progress [a] = .begun ∧ progress [a, b] = .begun ∧ progress [a, b, c] = .begun
  | _ => False

theorem progress_one_begun_iff {a : UInt8} :
    progress [a] = .begun ↔ 194 ≤ a.toNat ∧ a.toNat ≤ 244 := by
  simp only [progress, UInt8.lt_iff_toNat_lt, UInt8.le_iff_toNat_le, Bool.and_eq_true,
    decide_eq_true_eq]
  constructor
  · intro h
    split at h
    · cases h
    · split at h
      · assumption
      · cases h
  · rintro ⟨hlow, hhigh⟩
    have hascii : ¬ a.toNat < 128 := by omega
    exact (if_neg hascii).trans (if_pos ⟨hlow, hhigh⟩)

/-- The second byte of a character that needs more than two. -/
theorem progress_two_begun_iff {a b : UInt8} :
    progress [a, b] = .begun ↔ isSecond a b = true ∧ 224 ≤ a.toNat := by
  simp only [progress, UInt8.le_iff_toNat_le]
  by_cases hsecond : isSecond a b = true
  · by_cases hshort : a.toNat ≤ 223
    · simp [hsecond, hshort]
      omega
    · simp [hsecond, hshort]
      omega
  · simp [hsecond]

theorem progress_three_begun_iff {a b c : UInt8} :
    progress [a, b, c] = .begun ↔ isTail c = true ∧ 240 ≤ a.toNat := by
  simp only [progress, UInt8.le_iff_toNat_le]
  by_cases htail : isTail c = true
  · by_cases hshort : a.toNat ≤ 239
    · simp [htail, hshort]
      omega
    · simp [htail, hshort]
      omega
  · simp [htail]

/-- A byte that continues what was begun leaves bytes that can be held. -/
theorem Begun.append {held : Bytes} {b : UInt8} (hheld : Begun held)
    (hb : progress (held ++ [b]) = .begun) : Begun (held ++ [b]) := by
  match held, hheld, hb with
  | [], _, hb => exact hb
  | [a], ha, hb => exact ⟨ha, hb⟩
  | [a, b'], hab, hb => exact ⟨hab.1, hab.2, hb⟩
  | [a, b', c], _, hb =>
    -- no character needs a fifth byte
    have hnever : progress [a, b', c, b] ≠ .begun := by
      simp only [progress]
      split <;> simp
    exact absurd hb hnever
  | _ :: _ :: _ :: _ :: _, hfalse, _ => exact hfalse.elim

/-- A character that was completed is written as the bytes that it was read from. -/
theorem encodeChar_of_progress {held : Bytes} {b : UInt8} {c : Char} (hheld : Begun held)
    (hwhole : progress (held ++ [b]) = .whole c) : encodeChar c = held ++ [b] := by
  -- one case for each length of a character, each with the bounds on the bytes before the last
  match held, hheld, hwhole with
  | [], _, hwhole =>
    simp only [List.nil_append, progress, UInt8.lt_iff_toNat_lt] at hwhole
    split at hwhole
    · rename_i hascii
      cases hwhole
      exact encodeChar_of_one hascii
    · split at hwhole <;> cases hwhole
  | [a], ha, hwhole =>
    have hbounds := progress_one_begun_iff.1 ha
    simp only [List.cons_append, List.nil_append, progress, UInt8.le_iff_toNat_le] at hwhole
    split at hwhole
    · rename_i hsecond
      have htail := isTail_iff.1 (isSecond_iff.1 hsecond).1
      split at hwhole
      · rename_i hshort
        have hshort' : a.toNat ≤ 223 := hshort
        cases hwhole
        exact encodeChar_of_two (by simp only [tailValue]; omega) (by simp only [tailValue]; omega)
          (by simp only [tailValue]; omega) (by simp only [tailValue]; omega)
      · cases hwhole
    · cases hwhole
  | [a, b'], hab, hwhole =>
    have hfirst := progress_one_begun_iff.1 hab.1
    obtain ⟨hsecond, hlong⟩ := progress_two_begun_iff.1 hab.2
    obtain ⟨hinner, hshortest, hsurrogate, -, -⟩ := isSecond_iff.1 hsecond
    have hmiddle := isTail_iff.1 hinner
    simp only [List.cons_append, List.nil_append, progress, UInt8.le_iff_toNat_le] at hwhole
    split at hwhole
    · rename_i hthird
      have htail := isTail_iff.1 hthird
      split at hwhole
      · rename_i hshort
        have hshort' : a.toNat ≤ 239 := hshort
        cases hwhole
        simp only [tailValue]
        exact encodeChar_of_three (by omega) (by omega) (by omega) (by omega) (by omega) (by omega)
      · cases hwhole
    · cases hwhole
  | [a, b', c'], habc, hwhole =>
    have hfirst := progress_one_begun_iff.1 habc.1
    obtain ⟨hinner, -, -, hshortest, hlast⟩ := isSecond_iff.1 (progress_two_begun_iff.1 habc.2.1).1
    obtain ⟨hthird, hlong⟩ := progress_three_begun_iff.1 habc.2.2
    have hmiddle := isTail_iff.1 hinner
    have hmiddle' := isTail_iff.1 hthird
    simp only [List.cons_append, List.nil_append, progress] at hwhole
    split at hwhole
    · rename_i hfourth
      have htail := isTail_iff.1 hfourth
      cases hwhole
      simp only [tailValue]
      exact encodeChar_of_four (by omega) (by omega) (by omega) (by omega) (by omega) (by omega)
    · cases hwhole
  | _ :: _ :: _ :: _ :: _, hfalse, _ => exact hfalse.elim

/-! ## Texts -/

theorem mapM_char?_cons {piece : Piece} {pieces : List Piece} {text : List Char}
    (h : (piece :: pieces).mapM Piece.char? = some text) :
    ∃ c rest, piece = .char c ∧ text = c :: rest ∧ pieces.mapM Piece.char? = some rest := by
  rw [List.mapM_cons] at h
  cases piece with
  | damaged bytes => simp [Piece.char?] at h
  | char c =>
    cases hrest : pieces.mapM Piece.char? with
    | none => simp [Piece.char?, hrest] at h
    | some rest =>
      simp only [Piece.char?, hrest] at h
      exact ⟨c, rest, rfl, (Option.some.inj h).symm, rfl⟩

/-- Bytes that are read without damage after bytes that were held are, together with these, the
written form of the text. -/
theorem encode_of_decodeAfter (held : Bytes) {bytes : Bytes} {text : List Char} (hheld : Begun held)
    (h : (decodeAfter held bytes).mapM Piece.char? = some text) : encode text = held ++ bytes := by
  induction bytes generalizing held text with
  | nil =>
    cases held with
    | nil =>
      cases h
      rfl
    | cons a rest =>
      -- what was begun and not completed is damaged
      obtain ⟨c, _, hpiece, -⟩ := mapM_char?_cons h
      cases hpiece
  | cons b bytes ih =>
    rw [decodeAfter] at h
    split at h
    · rename_i c hwhole
      -- the held bytes and this one are those of the first character
      obtain ⟨c', rest, hpiece, rfl, hrest⟩ := mapM_char?_cons h
      cases hpiece
      have hsplit : encode (c :: rest) = encodeChar c ++ encode rest := List.flatMap_cons
      rw [hsplit, ih [] trivial hrest, encodeChar_of_progress hheld hwhole]
      simp
    · rename_i hbegun
      rw [ih _ (hheld.append hbegun) h]
      simp
    · rename_i hrefused
      -- a refused byte leaves a damaged stretch: the held bytes, or itself where none were held
      cases held with
      | nil =>
        rw [List.nil_append] at hrefused
        rw [hrefused] at h
        obtain ⟨c, _, hpiece, -⟩ := mapM_char?_cons h
        cases hpiece
      | cons a rest =>
        obtain ⟨c, _, hpiece, -⟩ := mapM_char?_cons h
        cases hpiece

/-- A byte string is read without damage exactly when it is the written form of the text. -/
theorem read?_eq_some_iff {bytes : Bytes} {text : List Char} :
    read? bytes = some text ↔ bytes = encode text := by
  constructor
  · intro h
    exact (encode_of_decodeAfter [] trivial h).symm
  · rintro rfl
    exact read?_encode text

end Text.Utf8

theorem Bytes.text?_eq_some_iff {bytes : Bytes} {text : String} :
    bytes.text? = some text ↔ bytes = Bytes.ofString text := by
  constructor
  · intro h
    obtain ⟨characters, hread, rfl⟩ := Option.map_eq_some_iff.1 h
    rw [Bytes.ofString, String.toList_ofList]
    exact Text.Utf8.read?_eq_some_iff.1 hread
  · rintro rfl
    exact Bytes.text?_ofString text

theorem Bytes.ofString_inj {p q : String} : Bytes.ofString p = Bytes.ofString q ↔ p = q := by
  constructor
  · intro h
    have hread := congrArg Bytes.text? h
    rw [Bytes.text?_ofString, Bytes.text?_ofString] at hread
    exact Option.some.inj hread
  · exact congrArg Bytes.ofString

end EmulatorScout
