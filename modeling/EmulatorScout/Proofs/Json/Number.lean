import EmulatorScout.Json.Written
import EmulatorScout.Proofs.Text.Numeral

/-!
# Numbers of JSON

A number is made of a whole part without leading zeros, of a fraction and an exponent if it has any,
and of a sign if it is negative (`Written.IsNumber`). The reader takes a number whole, whatever its
length, if no number goes on into what follows (`scanNumber_append`), and what it takes is always a
number (`isNumber_of_scanNumber`). Integers are written as numbers (`isNumber_toString`).
-/

set_option autoImplicit false

namespace EmulatorScout.Json.Written

/-! ## The parts of a number -/

/-- One or more digits. -/
def IsDigits (digits : List Char) : Prop := digits ≠ [] ∧ ∀ c ∈ digits, isDigit c = true

/-- The whole part of a number: no zero stands before another digit. -/
def IsWhole (whole : List Char) : Prop :=
  IsDigits whole ∧ (whole.head? = some '0' → whole = ['0'])

/-- The fraction of a number, if it has one. -/
inductive IsFraction : List Char → Prop
  /-- There is none. -/
  | absent : IsFraction []
  /-- Digits after a point. -/
  | point {digits : List Char} (h : IsDigits digits) : IsFraction ('.' :: digits)

/-- The sign of an exponent, if it has one. -/
inductive IsSign : List Char → Prop
  /-- There is none. -/
  | absent : IsSign []
  /-- One of the two signs. -/
  | sign {c : Char} (h : c = '+' ∨ c = '-') : IsSign [c]

/-- The exponent of a number, if it has one. -/
inductive IsExponent : List Char → Prop
  /-- There is none. -/
  | absent : IsExponent []
  /-- Digits after a letter and a sign. -/
  | letter {c : Char} {sign digits : List Char} (hletter : c = 'e' ∨ c = 'E') (hsign : IsSign sign)
    (h : IsDigits digits) : IsExponent (c :: (sign ++ digits))

/-- A number without a sign. -/
inductive IsMagnitude : List Char → Prop
  /-- The parts of a number in a row. -/
  | parts {whole fraction exponent : List Char} (hwhole : IsWhole whole)
    (hfraction : IsFraction fraction) (hexponent : IsExponent exponent) :
    IsMagnitude (whole ++ fraction ++ exponent)

/-- A number. -/
inductive IsNumber : List Char → Prop
  /-- A number without a sign. -/
  | plain {magnitude : List Char} (h : IsMagnitude magnitude) : IsNumber magnitude
  /-- A number with a sign. -/
  | negative {magnitude : List Char} (h : IsMagnitude magnitude) : IsNumber ('-' :: magnitude)

/-! ## Where numbers end -/

/-- No digits go on into this text. -/
def EndsDigits (text : List Char) : Prop := ∀ c ∈ text.head?, isDigit c = false

/-- No number goes on into this text. -/
def EndsNumber (text : List Char) : Prop :=
  ∀ c ∈ text.head?, isDigit c = false ∧ c ≠ '.' ∧ c ≠ 'e' ∧ c ≠ 'E'

theorem endsNumber_nil : EndsNumber [] := nofun

theorem endsNumber_cons {c : Char} {rest : List Char} (hdigit : isDigit c = false)
    (hpoint : c ≠ '.') (hexponent : c ≠ 'e') (hExponent : c ≠ 'E') : EndsNumber (c :: rest) := by
  rintro _ ⟨⟩
  exact ⟨hdigit, hpoint, hexponent, hExponent⟩

section Parts

variable {part fraction exponent rest text : List Char}

/-- An exponent ends digits, and it does not begin with a point. -/
theorem IsExponent.ends (h : IsExponent exponent) (hrest : EndsNumber rest) :
    EndsDigits (exponent ++ rest) ∧ (exponent ++ rest).head? ≠ some '.' := by
  cases h with
  | absent =>
    rw [List.nil_append]
    refine ⟨fun c hc => (hrest c hc).1, fun hpoint => ?_⟩
    exact (hrest '.' hpoint).2.1 rfl
  | letter hletter hsign hdigits =>
    rcases hletter with rfl | rfl <;> simp [EndsDigits, isDigit]

/-- A fraction ends digits, unless they go on after it. -/
theorem IsFraction.ends (h : IsFraction fraction) (hrest : EndsDigits rest) :
    EndsDigits (fraction ++ rest) := by
  cases h with
  | absent => exact hrest
  | point hdigits =>
    rintro _ ⟨⟩
    rfl

theorem IsDigits.head?_ne (h : IsDigits part) {c : Char} (hc : isDigit c = false) :
    (part ++ rest).head? ≠ some c := by
  obtain ⟨first, others, rfl⟩ := List.exists_cons_of_ne_nil h.1
  intro hhead
  obtain rfl := Option.some.inj hhead
  rw [h.2 first List.mem_cons_self] at hc
  cases hc

/-! ## What the reader takes -/

theorem scanDigits_append (h : IsDigits part) (hrest : EndsDigits rest) :
    scanDigits (part ++ rest) = some (part, rest) := by
  have hstop : rest.takeWhile isDigit = [] ∧ rest.dropWhile isDigit = rest := by
    cases rest with
    | nil => exact ⟨rfl, rfl⟩
    | cons c rest => simp [hrest c rfl]
  have hne := h.1
  rw [scanDigits, List.takeWhile_append_of_pos h.2, List.dropWhile_append_of_pos h.2, hstop.1,
    hstop.2, List.append_nil]
  split
  · contradiction
  · rfl

theorem isDigits_of_scanDigits (h : scanDigits text = some (part, rest)) :
    IsDigits part ∧ text = part ++ rest := by
  rw [scanDigits] at h
  split at h
  · cases h
  · rename_i hne
    obtain ⟨rfl, rfl⟩ := Prod.mk.inj (Option.some.inj h)
    exact ⟨⟨hne, fun c hc => List.mem_takeWhile_imp hc⟩, List.takeWhile_append_dropWhile.symm⟩

theorem scanWhole_append (h : IsWhole part) (hrest : EndsDigits rest) :
    scanWhole (part ++ rest) = some (part, rest) := by
  by_cases hzero : part.head? = some '0'
  · rw [h.2 hzero, List.singleton_append]
    cases rest with
    | nil => rfl
    | cons c rest => simp [scanWhole, hrest c rfl]
  · -- no zero comes first, so the whole part is all digits that follow
    obtain ⟨first, others, hpart⟩ := List.exists_cons_of_ne_nil h.1.1
    have hwhole : scanWhole (part ++ rest) = scanDigits (part ++ rest) := by
      rw [hpart] at hzero ⊢
      rw [List.cons_append, scanWhole]
      rintro more heq
      exact hzero (by simp [(List.cons.inj heq).1])
    rw [hwhole, scanDigits_append h.1 hrest]

theorem isWhole_of_scanWhole (h : scanWhole text = some (part, rest)) :
    IsWhole part ∧ text = part ++ rest := by
  have hsingle : IsWhole ['0'] := ⟨⟨List.cons_ne_nil _ _, by simp [isDigit]⟩, fun _ => rfl⟩
  rw [scanWhole.eq_def] at h
  split at h
  · split at h
    · split at h
      · cases h
      · obtain ⟨rfl, rfl⟩ := Prod.mk.inj (Option.some.inj h)
        exact ⟨hsingle, rfl⟩
    · obtain ⟨rfl, rfl⟩ := Prod.mk.inj (Option.some.inj h)
      exact ⟨hsingle, rfl⟩
  · rename_i hzero
    obtain ⟨hdigits, rfl⟩ := isDigits_of_scanDigits h
    refine ⟨⟨hdigits, fun hhead => ?_⟩, rfl⟩
    obtain ⟨first, others, rfl⟩ := List.exists_cons_of_ne_nil hdigits.1
    obtain rfl := Option.some.inj hhead
    exact absurd rfl (hzero (others ++ rest))

theorem scanFraction_append (h : IsFraction part) (hrest : EndsDigits rest)
    (hpoint : rest.head? ≠ some '.') : scanFraction (part ++ rest) = some (part, rest) := by
  cases h with
  | absent =>
    rw [List.nil_append, scanFraction]
    rintro more rfl
    exact hpoint rfl
  | point hdigits =>
    rw [List.cons_append, scanFraction, scanDigits_append hdigits hrest, Option.map_some]

theorem isFraction_of_scanFraction (h : scanFraction text = some (part, rest)) :
    IsFraction part ∧ text = part ++ rest := by
  rw [scanFraction.eq_def] at h
  split at h
  · obtain ⟨⟨digits, more⟩, hscan, heq⟩ := Option.map_eq_some_iff.1 h
    obtain ⟨rfl, rfl⟩ := Prod.mk.inj heq
    obtain ⟨hdigits, rfl⟩ := isDigits_of_scanDigits hscan
    exact ⟨.point hdigits, rfl⟩
  · obtain ⟨rfl, rfl⟩ := Prod.mk.inj (Option.some.inj h)
    exact ⟨.absent, rfl⟩

/-- A sign is taken if digits follow it. -/
theorem scanSign_append {sign digits : List Char} (h : IsSign sign) (hdigits : IsDigits digits) :
    scanSign (sign ++ (digits ++ rest)) = (sign, digits ++ rest) := by
  cases h with
  | absent =>
    rw [List.nil_append, scanSign.eq_def]
    split
    · rename_i heq
      exact absurd (congrArg List.head? heq) (hdigits.head?_ne rfl)
    · rename_i heq
      exact absurd (congrArg List.head? heq) (hdigits.head?_ne rfl)
    · rfl
  | sign hc => rcases hc with rfl | rfl <;> rfl

theorem isSign_scanSign (text : List Char) :
    IsSign (scanSign text).1 ∧ text = (scanSign text).1 ++ (scanSign text).2 := by
  rw [scanSign.eq_def]
  split
  · exact ⟨.sign (.inl rfl), rfl⟩
  · exact ⟨.sign (.inr rfl), rfl⟩
  · exact ⟨.absent, rfl⟩

theorem scanExponent_append (h : IsExponent part) (hrest : EndsNumber rest) :
    scanExponent (part ++ rest) = some (part, rest) := by
  cases h with
  | absent =>
    cases rest with
    | nil => rfl
    | cons c rest =>
      have hend := hrest c rfl
      simp [scanExponent, hend.2.2.1, hend.2.2.2]
  | letter hletter hsign hdigits =>
    have hdigitsEnd : EndsDigits rest := fun c hc => (hrest c hc).1
    rw [List.cons_append, List.append_assoc, scanExponent, if_pos (by simpa using hletter),
      scanSign_append hsign hdigits, scanDigits_append hdigits hdigitsEnd]
    rfl

theorem isExponent_of_scanExponent (h : scanExponent text = some (part, rest)) :
    IsExponent part ∧ text = part ++ rest := by
  cases text with
  | nil =>
    obtain ⟨rfl, rfl⟩ := Prod.mk.inj (Option.some.inj h)
    exact ⟨.absent, rfl⟩
  | cons c text =>
    rw [scanExponent] at h
    split at h
    · rename_i hletter
      obtain ⟨⟨digits, more⟩, hscan, heq⟩ := Option.map_eq_some_iff.1 h
      obtain ⟨rfl, rfl⟩ := Prod.mk.inj heq
      obtain ⟨hsign, htext⟩ := isSign_scanSign text
      obtain ⟨hdigits, hrest⟩ := isDigits_of_scanDigits hscan
      refine ⟨.letter (by simpa using hletter) hsign hdigits, ?_⟩
      rw [List.cons_append, List.cons_append, List.append_assoc, ← hrest, ← htext]
    · obtain ⟨rfl, rfl⟩ := Prod.mk.inj (Option.some.inj h)
      exact ⟨.absent, rfl⟩

theorem scanMagnitude_append (h : IsMagnitude part) (hrest : EndsNumber rest) :
    scanMagnitude (part ++ rest) = some (part, rest) := by
  obtain ⟨hwhole, hfraction, hexponent⟩ := h
  obtain ⟨hdigits, hpoint⟩ := hexponent.ends hrest
  rw [scanMagnitude, List.append_assoc, List.append_assoc,
    scanWhole_append hwhole (hfraction.ends hdigits), Option.bind_some,
    scanFraction_append hfraction hdigits hpoint, Option.bind_some,
    scanExponent_append hexponent hrest, Option.map_some]

theorem isMagnitude_of_scanMagnitude (h : scanMagnitude text = some (part, rest)) :
    IsMagnitude part ∧ text = part ++ rest := by
  obtain ⟨⟨whole, afterWhole⟩, hscanWhole, h⟩ := Option.bind_eq_some_iff.1 h
  obtain ⟨⟨fraction, afterFraction⟩, hscanFraction, h⟩ := Option.bind_eq_some_iff.1 h
  obtain ⟨⟨exponent, afterExponent⟩, hscanExponent, h⟩ := Option.map_eq_some_iff.1 h
  obtain ⟨rfl, rfl⟩ := Prod.mk.inj h
  obtain ⟨hwhole, rfl⟩ := isWhole_of_scanWhole hscanWhole
  obtain ⟨hfraction, rfl⟩ := isFraction_of_scanFraction hscanFraction
  obtain ⟨hexponent, rfl⟩ := isExponent_of_scanExponent hscanExponent
  exact ⟨.parts hwhole hfraction hexponent, by simp⟩

theorem IsMagnitude.exists_cons (h : IsMagnitude part) :
    ∃ c more, part = c :: more ∧ isDigit c = true := by
  obtain ⟨hwhole, -, -⟩ := h
  obtain ⟨c, others, rfl⟩ := List.exists_cons_of_ne_nil hwhole.1.1
  exact ⟨c, _, rfl, hwhole.1.2 c List.mem_cons_self⟩

theorem IsNumber.exists_cons (h : IsNumber part) :
    ∃ c more, part = c :: more ∧ (c = '-' ∨ isDigit c = true) := by
  cases h with
  | plain hmagnitude =>
    obtain ⟨c, more, rfl, hdigit⟩ := hmagnitude.exists_cons
    exact ⟨c, more, rfl, .inr hdigit⟩
  | negative hmagnitude => exact ⟨'-', _, rfl, .inl rfl⟩

/-- A number is taken whole, and nothing after it. -/
theorem scanNumber_append (h : IsNumber part) (hrest : EndsNumber rest) :
    scanNumber (part ++ rest) = some (part, rest) := by
  cases h with
  | plain hmagnitude =>
    have hsign : scanNumber (part ++ rest) = scanMagnitude (part ++ rest) := by
      obtain ⟨c, more, rfl, hdigit⟩ := hmagnitude.exists_cons
      rw [List.cons_append, scanNumber]
      rintro others heq
      obtain rfl := (List.cons.inj heq).1
      exact absurd hdigit (by decide)
    rw [hsign, scanMagnitude_append hmagnitude hrest]
  | negative hmagnitude =>
    rw [List.cons_append, scanNumber, scanMagnitude_append hmagnitude hrest, Option.map_some]

theorem isNumber_of_scanNumber (h : scanNumber text = some (part, rest)) :
    IsNumber part ∧ text = part ++ rest := by
  rw [scanNumber.eq_def] at h
  split at h
  · obtain ⟨⟨magnitude, more⟩, hscan, heq⟩ := Option.map_eq_some_iff.1 h
    obtain ⟨rfl, rfl⟩ := Prod.mk.inj heq
    obtain ⟨hmagnitude, rfl⟩ := isMagnitude_of_scanMagnitude hscan
    exact ⟨.negative hmagnitude, rfl⟩
  · obtain ⟨hmagnitude, rfl⟩ := isMagnitude_of_scanMagnitude h
    exact ⟨.plain hmagnitude, rfl⟩

end Parts

/-! ## Integers -/

theorem toList_toString_ofNat (n : Nat) : (toString (Int.ofNat n)).toList = Nat.toDigits 10 n :=
  Nat.toList_repr

theorem toList_toString_negSucc (n : Nat) :
    (toString (Int.negSucc n)).toList = '-' :: Nat.toDigits 10 (n + 1) := by
  change ("-" ++ Nat.repr (n + 1)).toList = _
  rw [String.toList_append, Nat.toList_repr]
  rfl

theorem isMagnitude_toDigits (n : Nat) : IsMagnitude (Nat.toDigits 10 n) := by
  have hdigits : IsDigits (Nat.toDigits 10 n) :=
    ⟨Nat.toDigits_ne_nil, fun c hc => Text.Numeral.isDigit_of_mem_toDigits hc⟩
  have hwhole : IsWhole (Nat.toDigits 10 n) := by
    refine ⟨hdigits, fun hhead => ?_⟩
    rcases Nat.eq_zero_or_pos n with rfl | hpos
    · rfl
    · exact absurd hhead (Text.Numeral.head?_toDigits_ne hpos)
  have hparts := IsMagnitude.parts hwhole .absent .absent
  rwa [List.append_nil, List.append_nil] at hparts

theorem isNumber_toString (value : Int) : IsNumber (toString value).toList := by
  cases value with
  | ofNat n =>
    rw [toList_toString_ofNat]
    exact .plain (isMagnitude_toDigits n)
  | negSucc n =>
    rw [toList_toString_negSucc]
    exact .negative (isMagnitude_toDigits (n + 1))

end EmulatorScout.Json.Written
