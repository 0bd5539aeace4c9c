import HttpServer.Numeral
import HttpServer.Proofs.Ascii
import HttpServer.Proofs.Trimming

/-! Numbers that are read back from their digits. -/
namespace HttpServer

theorem Text.trim_of_filled {chars : List Char} (filled : ∀ c ∈ chars, isBlank c = false) :
    trim (String.ofList chars) = String.ofList chars := by
  rw [trim, String.toList_ofList, trimChars_of_filled filled]

namespace Numeral

theorem natural_of_unsigned (radix bound : Nat) {c : Char} (unsigned : c ≠ '+') (rest : List Char) :
    natural radix bound (String.ofList (c :: rest)) =
      magnitude radix bound .tooLarge 0 (c :: rest) := by
  rw [natural, String.toList_ofList]
  split
  · next same => cases same
  · next same => exact absurd (List.cons.inj same).1 unsigned
  · next same => exact absurd (List.cons.inj same).1 unsigned
  · rfl

theorem digit?_charOf_decimal {b : UInt8} (digit : (Text.charOf b).isDigit = true) :
    digit? 10 (Text.charOf b) = some ((Text.charOf b).toNat - '0'.toNat) ∧
      Text.isBlank (Text.charOf b) = false ∧ Text.charOf b ≠ '+' := by
  revert b
  apply Text.forall_byte
  decide +kernel

theorem digit?_decimal {c : Char} (digit : c.isDigit = true) :
    digit? 10 c = some (c.toNat - '0'.toNat) ∧ Text.isBlank c = false ∧ c ≠ '+' := by
  have below := (Char.isDigit_iff_toNat.mp digit).2
  obtain ⟨b, rfl⟩ := Text.exists_charOf (Nat.lt_of_le_of_lt below (by decide))
  exact digit?_charOf_decimal digit

/-- Digits that spell a number after others that spell `read`. None of them is a blank or a sign. -/
inductive Spells (radix : Nat) : Nat → List Char → Nat → Prop
  | nil {read} : Spells radix read [] read
  | cons {read c digit rest n} (known : digit? radix c = some digit)
      (filled : Text.isBlank c = false) (unsigned : c ≠ '+')
      (later : Spells radix (read * radix + digit) rest n) : Spells radix read (c :: rest) n

namespace Spells

variable {radix read n bound : Nat} {chars : List Char}

theorem le (h : Spells radix read chars n) (pos : 0 < radix) : read ≤ n := by
  induction h with
  | nil => exact Nat.le_refl _
  | @cons read _ digit _ _ known filled unsigned later ih =>
      have grows : read ≤ read * radix := Nat.le_mul_of_pos_right read pos
      exact Nat.le_trans (Nat.le_add_right_of_le grows) ih

theorem filled (h : Spells radix read chars n) : ∀ c ∈ chars, Text.isBlank c = false := by
  induction h with
  | nil => exact nofun
  | cons known filled unsigned later ih => exact List.forall_mem_cons.mpr ⟨filled, ih⟩

theorem exists_digit (h : Spells radix read chars n) :
    ∀ c ∈ chars, ∃ digit, digit? radix c = some digit := by
  induction h with
  | nil => exact nofun
  | cons known filled unsigned later ih => exact List.forall_mem_cons.mpr ⟨⟨_, known⟩, ih⟩

theorem magnitude (h : Spells radix read chars n) (pos : 0 < radix) (fits : n ≤ bound)
    (beyond : Fault) : Numeral.magnitude radix bound beyond read chars = .ok n := by
  induction h with
  | nil => rfl
  | cons known filled unsigned later ih =>
      have within := Nat.le_trans (later.le pos) fits
      rw [Numeral.magnitude, known]
      dsimp only
      rw [if_neg (Nat.not_lt_of_le within)]
      exact ih fits

theorem natural (h : Spells radix 0 chars n) (pos : 0 < radix) (nonempty : chars ≠ [])
    (fits : n ≤ bound) :
    Numeral.natural radix bound (Text.trim (String.ofList chars)) = .ok n := by
  rw [Text.trim_of_filled h.filled]
  have read := h.magnitude pos fits .tooLarge
  cases h with
  | nil => exact absurd rfl nonempty
  | cons known filled unsigned later => rw [natural_of_unsigned radix bound unsigned, read]

end Spells

theorem spells_decimal {chars : List Char} (digits : ∀ c ∈ chars, c.isDigit = true) (read : Nat) :
    Spells 10 read chars (Nat.ofDigitChars 10 chars read) := by
  induction chars generalizing read with
  | nil =>
      rw [Nat.ofDigitChars_nil]
      exact .nil
  | cons c chars ih =>
      rw [List.forall_mem_cons] at digits
      obtain ⟨known, filled, unsigned⟩ := digit?_decimal digits.1
      rw [Nat.ofDigitChars_cons, Nat.mul_comm]
      exact .cons known filled unsigned (ih digits.2 _)

theorem spells_toDigits (n : Nat) : Spells 10 0 (Nat.toDigits 10 n) n := by
  have digits : ∀ c ∈ Nat.toDigits 10 n, c.isDigit = true :=
    fun c member => Nat.isDigit_of_mem_toDigits (by decide) (by decide) member
  have spells := spells_decimal digits 0
  rwa [Nat.ofDigitChars_ten_toDigits] at spells

theorem natural_toString {n bound : Nat} (fits : n ≤ bound) :
    natural 10 bound (Text.trim (toString n)) = .ok n :=
  (spells_toDigits n).natural (by decide) Nat.toDigits_ne_nil fits

theorem digit?_blank (radix : Nat) : ∀ c ∈ '+' :: Text.blanks, digit? radix c = none := by
  simp only [Text.blanks, List.forall_mem_cons]
  simp [digit?]

theorem filled_of_digit? {radix digit : Nat} {c : Char} (known : digit? radix c = some digit) :
    Text.isBlank c = false ∧ c ≠ '+' := by
  constructor
  · rw [Text.isBlank, List.contains_eq_mem]
    refine decide_eq_false fun blank => ?_
    rw [digit?_blank radix c (List.mem_cons_of_mem _ blank)] at known
    cases known
  · rintro rfl
    rw [digit?_blank radix '+' List.mem_cons_self] at known
    cases known

/-- In decimal notation nothing is a digit but the ten characters for them. -/
theorem isDigit_of_digit? {c : Char} {digit : Nat} (known : digit? 10 c = some digit) :
    c.isDigit = true ∧ digit = c.toNat - '0'.toNat := by
  obtain ⟨stored, small⟩ := Option.filter_eq_some_iff.mp known
  rw [decide_eq_true_eq] at small
  split at stored
  · next decimal =>
    rw [Bool.and_eq_true, decide_eq_true_eq, decide_eq_true_eq] at decimal
    refine ⟨?_, (Option.some.inj stored).symm⟩
    rw [Char.isDigit, Bool.and_eq_true, decide_eq_true_eq, decide_eq_true_eq]
    exact decimal
  -- A letter stands for ten at least.
  · split at stored
    · have value := Option.some.inj stored
      omega
    · split at stored
      · have value := Option.some.inj stored
        omega
      · cases stored

theorem Spells.decimal {chars : List Char} {read n : Nat} (h : Spells 10 read chars n) :
    (∀ c ∈ chars, c.isDigit = true) ∧ n = Nat.ofDigitChars 10 chars read := by
  induction h with
  | nil => exact ⟨nofun, Nat.ofDigitChars_nil.symm⟩
  | cons known filled unsigned later ih =>
      obtain ⟨isDigit, rfl⟩ := isDigit_of_digit? known
      refine ⟨List.forall_mem_cons.mpr ⟨isDigit, ih.1⟩, ?_⟩
      rw [Nat.ofDigitChars_cons, Nat.mul_comm, ih.2]

variable {radix bound : Nat}

theorem spells_of_magnitude {beyond : Fault} {read n : Nat} {chars : List Char}
    (within : read ≤ bound) (h : magnitude radix bound beyond read chars = .ok n) :
    Spells radix read chars n ∧ n ≤ bound := by
  induction chars generalizing read with
  | nil =>
      cases h
      exact ⟨.nil, within⟩
  | cons c chars ih =>
      unfold magnitude at h
      split at h
      · cases h
      · next digit known =>
        obtain ⟨filled, unsigned⟩ := filled_of_digit? known
        dsimp only at h
        split at h
        · cases h
        · next fits =>
          obtain ⟨later, least⟩ := ih (Nat.le_of_not_lt fits) h
          exact ⟨.cons known filled unsigned later, least⟩

/-- Characters that are read as a number: digits that spell it, perhaps behind a plus sign, and
blanks around them. -/
inductive Denotes (radix n : Nat) : List Char → Prop
  | intro {before sign digits after : List Char} (opens : ∀ c ∈ before, Text.isBlank c = true)
      (signs : sign = [] ∨ sign = ['+']) (nonempty : digits ≠ [])
      (spells : Spells radix 0 digits n) (closes : ∀ c ∈ after, Text.isBlank c = true) :
      Denotes radix n (before ++ (sign ++ digits) ++ after)

theorem natural_eq_ok_iff (pos : 0 < radix) {text : String} {n : Nat} :
    natural radix bound text = .ok n ↔ ∃ sign digits, text.toList = sign ++ digits ∧
      (sign = [] ∨ sign = ['+']) ∧ digits ≠ [] ∧ Spells radix 0 digits n ∧ n ≤ bound := by
  constructor
  · intro h
    unfold natural at h
    split at h
    -- Nothing, and a sign alone, are no numbers.
    · cases h
    · cases h
    · next digits other same =>
      obtain ⟨spells, fits⟩ := spells_of_magnitude (Nat.zero_le bound) h
      exact ⟨['+'], digits, same, .inr rfl, other, spells, fits⟩
    · next empty _ _ =>
      obtain ⟨spells, fits⟩ := spells_of_magnitude (Nat.zero_le bound) h
      exact ⟨[], text.toList, rfl, .inl rfl, empty, spells, fits⟩
  · rintro ⟨sign, digits, same, signs, nonempty, spells, fits⟩
    have read := spells.magnitude pos fits .tooLarge
    cases spells with
    | nil => exact absurd rfl nonempty
    | @cons _ c _ rest _ known filled unsigned later =>
        obtain rfl | rfl := signs
        · rw [List.nil_append] at same
          rw [← String.ofList_toList (s := text), same, natural_of_unsigned radix bound unsigned]
          exact read
        · rw [natural, same]
          exact read

/-- What is read as a number once its outer blanks are off is what denotes that number. -/
theorem natural_trim_iff (pos : 0 < radix) {text : String} {n : Nat} :
    natural radix bound (Text.trim text) = .ok n ↔ Denotes radix n text.toList ∧ n ≤ bound := by
  rw [natural_eq_ok_iff pos, Text.trim, String.toList_ofList]
  constructor
  · rintro ⟨sign, digits, same, signs, nonempty, spells, fits⟩
    obtain ⟨before, after, whole, opens, closes⟩ := exists_ends Text.isBlank text.toList
    rw [whole]
    change Denotes radix n (before ++ Text.trimChars text.toList ++ after) ∧ n ≤ bound
    rw [same]
    exact ⟨.intro opens signs nonempty spells closes, fits⟩
  · rintro ⟨denotes, fits⟩
    generalize text.toList = chars at denotes
    cases denotes with
    | @intro before sign digits after opens signs nonempty spells closes =>
        have filled : ∀ c ∈ sign ++ digits, Text.isBlank c = false := by
          rw [List.forall_mem_append]
          refine ⟨?_, spells.filled⟩
          obtain rfl | rfl := signs
          · exact nofun
          · rw [List.forall_mem_singleton]
            decide
        exact ⟨sign, digits, trim_among opens filled closes, signs, nonempty, spells, fits⟩

end Numeral
end HttpServer
