import EmulatorScout.Proofs.Json.ReadBack

/-!
# Values and their texts

Different values have different texts, in either layout (`Json.write_inj`). A text is read back as one
tree, so it is enough that different values have different trees (`Json.eq_of_written`): a literal is
decoded to its text, and the numeral of an integer has its digits and its sign.
-/

set_option autoImplicit false

namespace EmulatorScout.Json

theorem Literal.encode_inj {text other : List Char} :
    Literal.encode text = Literal.encode other ↔ text = other := by
  constructor
  · intro h
    have hdecode := congrArg Literal.decode h
    rw [Literal.decode_encode, Literal.decode_encode] at hdecode
    exact Option.some.inj hdecode
  · exact congrArg Literal.encode

theorem Written.eq_of_toDigits {n m : Nat} (h : Nat.toDigits 10 n = Nat.toDigits 10 m) : n = m := by
  have hvalue := congrArg Text.Numeral.value h
  rwa [Text.Numeral.value_toDigits, Text.Numeral.value_toDigits] at hvalue

theorem Written.toDigits_ne_minus (n : Nat) (rest : List Char) :
    Nat.toDigits 10 n ≠ '-' :: rest := by
  intro h
  obtain ⟨c, digits, hdigits, hdigit⟩ := (isMagnitude_toDigits n).exists_cons
  rw [hdigits] at h
  obtain rfl := (List.cons.inj h).1
  exact absurd hdigit (by decide)

theorem Written.eq_of_toString {value other : Int}
    (h : (toString value).toList = (toString other).toList) : value = other := by
  cases value with
  | ofNat n =>
    cases other with
    | ofNat m =>
      rw [toList_toString_ofNat, toList_toString_ofNat] at h
      exact congrArg Int.ofNat (eq_of_toDigits h)
    | negSucc m =>
      rw [toList_toString_ofNat, toList_toString_negSucc] at h
      exact absurd h (toDigits_ne_minus n _)
  | negSucc n =>
    cases other with
    | ofNat m =>
      rw [toList_toString_negSucc, toList_toString_ofNat] at h
      exact absurd h.symm (toDigits_ne_minus m _)
    | negSucc m =>
      rw [toList_toString_negSucc, toList_toString_negSucc] at h
      have hdigits := eq_of_toDigits (List.cons.inj h).2
      exact congrArg Int.negSucc (Nat.succ.inj hdigits)

mutual

theorem eq_of_written : ∀ {value other : Json}, value.written = other.written → value = other
  | .null, other, h => by
    cases other <;> simp only [written, reduceCtorEq] at h
    rfl
  | .truth value, other, h => by
    cases other <;> simp only [written, reduceCtorEq, Written.truth.injEq] at h
    rw [h]
  | .integer value, other, h => by
    cases other <;> simp only [written, reduceCtorEq, Written.number.injEq] at h
    rw [Written.eq_of_toString h]
  | .string value, other, h => by
    cases other <;> simp only [written, reduceCtorEq, Written.string.injEq] at h
    rw [String.toList_inj.1 (Literal.encode_inj.1 h)]
  | .array items, other, h => by
    cases other <;> simp only [written, reduceCtorEq, Written.array.injEq] at h
    rw [eq_of_writtenItems h]
  | .object members, other, h => by
    cases other <;> simp only [written, reduceCtorEq, Written.object.injEq] at h
    rw [eq_of_writtenMembers h]

theorem eq_of_writtenItems :
    ∀ {items others : List Json}, writtenItems items = writtenItems others → items = others
  | [], [], _ => rfl
  | [], other :: others, h => by simp [writtenItems] at h
  | item :: items, [], h => by simp [writtenItems] at h
  | item :: items, other :: others, h => by
    simp only [writtenItems, List.cons.injEq] at h
    rw [eq_of_written h.1, eq_of_writtenItems h.2]

theorem eq_of_writtenMembers : ∀ {members others : List (String × Json)},
    writtenMembers members = writtenMembers others → members = others
  | [], [], _ => rfl
  | [], other :: others, h => by simp [writtenMembers] at h
  | member :: members, [], h => by simp [writtenMembers] at h
  | (name, value) :: members, (name', value') :: others, h => by
    simp only [writtenMembers, List.cons.injEq, Prod.mk.injEq] at h
    obtain ⟨⟨hname, hvalue⟩, hrest⟩ := h
    rw [String.toList_inj.1 (Literal.encode_inj.1 hname), eq_of_written hvalue,
      eq_of_writtenMembers hrest]

end

theorem write_inj {layout : Layout} {value other : Json} :
    value.write layout = other.write layout ↔ value = other := by
  constructor
  · intro h
    have hread := congrArg (fun text => Written.read? text.toList) h
    simp only [read?_write, Option.some.injEq] at hread
    exact eq_of_written hread
  · rintro rfl
    rfl

end EmulatorScout.Json
