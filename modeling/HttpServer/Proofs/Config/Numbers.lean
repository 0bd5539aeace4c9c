import HttpServer.Proofs.Numerals

/-! Decimal numerals with a sign. What is read as a number within bounds is a numeral for it, and
the decimal text of a number is one of its numerals. -/
namespace HttpServer

theorem map_eq_ok_iff {α β ε : Type} {result : Except ε α} {g : α → β} {value : β} :
    result.map g = .ok value ↔ ∃ found, result = .ok found ∧ g found = value := by
  cases result <;> simp [Except.map]

namespace Numeral

/-- Decimal digits after an optional sign, with the number for which they stand. A minus is a sign
only where there are negative numbers. -/
inductive Writes (negative : Prop) : List Char → Int → Prop
  | bare {digits : List Char} (nonempty : digits ≠ []) (decimal : ∀ c ∈ digits, c.isDigit = true) :
      Writes negative digits (Nat.ofDigitChars 10 digits 0)
  | plus {digits : List Char} (nonempty : digits ≠ []) (decimal : ∀ c ∈ digits, c.isDigit = true) :
      Writes negative ('+' :: digits) (Nat.ofDigitChars 10 digits 0)
  | minus {digits : List Char} (below : negative) (nonempty : digits ≠ [])
      (decimal : ∀ c ∈ digits, c.isDigit = true) :
      Writes negative ('-' :: digits) (-(Nat.ofDigitChars 10 digits 0 : Int))

variable {chars : List Char} {bound : Nat}

theorem magnitude_eq_ok_iff {beyond : Fault} {n : Nat} :
    magnitude 10 bound beyond 0 chars = .ok n ↔
      (∀ c ∈ chars, c.isDigit = true) ∧ n = Nat.ofDigitChars 10 chars 0 ∧ n ≤ bound := by
  constructor
  · intro read
    obtain ⟨spells, fits⟩ := spells_of_magnitude (Nat.zero_le bound) read
    exact ⟨spells.decimal.1, spells.decimal.2, fits⟩
  · rintro ⟨decimal, rfl, fits⟩
    exact (spells_decimal decimal 0).magnitude (by decide) fits beyond

theorem natural_eq_ok_iff_writes {text : String} {n : Nat} :
    natural 10 bound text = .ok n ↔ Writes False text.toList n ∧ n ≤ bound := by
  rw [natural_eq_ok_iff (by decide)]
  constructor
  · rintro ⟨sign, digits, same, signs, nonempty, spells, fits⟩
    obtain ⟨decimal, rfl⟩ := spells.decimal
    obtain rfl | rfl := signs
    · exact ⟨same ▸ .bare nonempty decimal, fits⟩
    · exact ⟨same ▸ .plus nonempty decimal, fits⟩
  · rintro ⟨writes, fits⟩
    generalize text.toList = chars, value : (n : Int) = number at writes
    cases writes with
    | bare nonempty decimal =>
        cases Int.ofNat.inj value
        exact ⟨[], chars, rfl, .inl rfl, nonempty, spells_decimal decimal 0, fits⟩
    | @plus digits nonempty decimal =>
        cases Int.ofNat.inj value
        exact ⟨['+'], digits, rfl, .inr rfl, nonempty, spells_decimal decimal 0, fits⟩
    | minus below => exact below.elim

theorem map_magnitude_eq_ok_iff {beyond : Fault} {g : Nat → Int} {n : Int} :
    (magnitude 10 bound beyond 0 chars).map g = .ok n ↔
      (∀ c ∈ chars, c.isDigit = true) ∧ Nat.ofDigitChars 10 chars 0 ≤ bound ∧
        g (Nat.ofDigitChars 10 chars 0) = n := by
  rw [map_eq_ok_iff]
  constructor
  · rintro ⟨k, read, rfl⟩
    obtain ⟨decimal, rfl, fits⟩ := magnitude_eq_ok_iff.mp read
    exact ⟨decimal, fits, rfl⟩
  · rintro ⟨decimal, fits, rfl⟩
    exact ⟨_, magnitude_eq_ok_iff.mpr ⟨decimal, rfl, fits⟩, rfl⟩

section Integer

variable {below above : Nat} {text : String} {digits : List Char}

theorem integer_minus (same : text.toList = '-' :: digits) (nonempty : digits ≠ []) :
    integer below above text =
      (magnitude 10 below .tooSmall 0 digits).map fun n => -(Int.ofNat n) := by
  cases digits with
  | nil => exact absurd rfl nonempty
  | cons c rest =>
      rw [integer, same]
      change (magnitude 10 below .tooSmall 0 (c :: rest) >>= fun n => .ok (n : Int)).map Neg.neg = _
      cases magnitude 10 below .tooSmall 0 (c :: rest) <;> rfl

theorem integer_plus (same : text.toList = '+' :: digits) (nonempty : digits ≠ []) :
    integer below above text = (magnitude 10 above .tooLarge 0 digits).map Int.ofNat := by
  cases digits with
  | nil => exact absurd rfl nonempty
  | cons c rest => rw [integer, same]; rfl

theorem integer_bare (same : text.toList = digits) (nonempty : digits ≠ [])
    (unsigned : ∀ c ∈ digits.head?, c ≠ '-' ∧ c ≠ '+') :
    integer below above text = (magnitude 10 above .tooLarge 0 digits).map Int.ofNat := by
  unfold integer
  rw [same]
  split
  · exact absurd rfl nonempty
  · exact absurd rfl (unsigned _ rfl).2
  · exact absurd rfl (unsigned _ rfl).1
  · exact absurd rfl (unsigned _ rfl).1
  · exact absurd rfl (unsigned _ rfl).2
  · rfl

/-- What is read as a number is a numeral for a number within the bounds. -/
theorem integer_eq_ok_iff {n : Int} :
    integer below above text = .ok n ↔
      Writes True text.toList n ∧ -(below : Int) ≤ n ∧ n ≤ above := by
  constructor
  · intro read
    have shape := read
    unfold integer at shape
    split at shape
    -- Nothing, and a sign alone, are no numbers.
    · cases shape
    · cases shape
    · cases shape
    · next digits other same =>
      rw [integer_minus same other, map_magnitude_eq_ok_iff] at read
      obtain ⟨decimal, fits, rfl⟩ := read
      refine ⟨same ▸ .minus trivial other decimal, ?_, ?_⟩ <;> rw [Int.ofNat_eq_natCast] <;> omega
    · next digits other same =>
      rw [integer_plus same other, map_magnitude_eq_ok_iff] at read
      obtain ⟨decimal, fits, rfl⟩ := read
      refine ⟨same ▸ .plus other decimal, ?_, ?_⟩ <;> rw [Int.ofNat_eq_natCast] <;> omega
    · next empty _ _ _ _ =>
      rw [map_magnitude_eq_ok_iff] at shape
      obtain ⟨decimal, fits, rfl⟩ := shape
      refine ⟨.bare empty decimal, ?_, ?_⟩ <;> rw [Int.ofNat_eq_natCast] <;> omega
  · rintro ⟨writes, least, most⟩
    generalize same : text.toList = chars at writes
    cases writes with
    | bare nonempty decimal =>
        have unsigned : ∀ c ∈ chars.head?, c ≠ '-' ∧ c ≠ '+' := by
          intro c first
          have digit := decimal c (List.mem_of_head? first)
          refine ⟨?_, (digit?_decimal digit).2.2⟩
          rintro rfl
          cases digit
        rw [integer_bare same nonempty unsigned, map_magnitude_eq_ok_iff]
        exact ⟨decimal, Int.ofNat_le.mp most, rfl⟩
    | plus nonempty decimal =>
        rw [integer_plus same nonempty, map_magnitude_eq_ok_iff]
        exact ⟨decimal, Int.ofNat_le.mp most, rfl⟩
    | minus _ nonempty decimal =>
        rw [integer_minus same nonempty, map_magnitude_eq_ok_iff]
        exact ⟨decimal, Int.ofNat_le.mp (Int.neg_le_neg_iff.mp least), rfl⟩

end Integer

theorem Writes.filled {negative : Prop} {n : Int} (writes : Writes negative chars n) :
    ∀ c ∈ chars, Text.isBlank c = false := by
  cases writes with
  | bare nonempty decimal => exact fun c member => (digit?_decimal (decimal c member)).2.1
  | plus nonempty decimal =>
      rw [List.forall_mem_cons]
      exact ⟨by decide, fun c member => (digit?_decimal (decimal c member)).2.1⟩
  | minus below nonempty decimal =>
      rw [List.forall_mem_cons]
      exact ⟨by decide, fun c member => (digit?_decimal (decimal c member)).2.1⟩

theorem writes_toString {negative : Prop} {n : Int} (signed : n < 0 → negative) :
    Writes negative (toString n).toList n := by
  have decimal (k : Nat) : ∀ c ∈ Nat.toDigits 10 k, c.isDigit = true :=
    fun c member => Nat.isDigit_of_mem_toDigits (by decide) (by decide) member
  have value (k : Nat) : Nat.ofDigitChars 10 (Nat.toDigits 10 k) 0 = k :=
    Nat.ofDigitChars_ten_toDigits
  cases n with
  | ofNat k =>
      have bare : Writes negative _ _ := .bare Nat.toDigits_ne_nil (decimal k)
      rw [value] at bare
      have shown : (toString (Int.ofNat k)).toList = Nat.toDigits 10 k := String.toList_ofList
      rw [shown]
      exact bare
  | negSucc k =>
      have minus := Writes.minus (signed (Int.negSucc_lt_zero k)) Nat.toDigits_ne_nil
        (decimal (k + 1))
      rw [value] at minus
      have shown : (toString (Int.negSucc k)).toList = '-' :: Nat.toDigits 10 (k + 1) := by
        change ("-" ++ String.ofList (Nat.toDigits 10 (k + 1))).toList = _
        rw [String.toList_append]
        exact congrArg ('-' :: ·) String.toList_ofList
      rw [shown]
      exact minus

end Numeral

end HttpServer
