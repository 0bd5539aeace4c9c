import HttpServer.Config.Document
import HttpServer.Proofs.Ascii
import HttpServer.Proofs.Numerals
import Mathlib.Data.List.Nodup

/-! Documents in the notation of JSON. A text that is put between quotation marks as it is stands
for itself if it has no quotation mark, no backslash and no control character in it; where it has
one, what is written does not stand for that text. -/
namespace HttpServer.Json

open Config (Document)

/-- The characters that may stand between the parts of a document. -/
def isGap (c : Char) : Bool := c == ' ' || c == '\t' || c == '\n' || c == '\r'

def IsGap (chars : List Char) : Prop := ∀ c ∈ chars, isGap c = true

/-- Characters that stand for themselves in a quoted text. -/
def IsPlain (c : Char) : Prop := c ≠ '"' ∧ c ≠ '\\' ∧ ' ' ≤ c

instance : DecidablePred IsPlain := fun c =>
  inferInstanceAs (Decidable (c ≠ '"' ∧ c ≠ '\\' ∧ ' ' ≤ c))

/-- The characters that have a name of one letter, each behind its name. -/
def names : List (Char × Char) :=
  [('"', '"'), ('\\', '\\'), ('/', '/'), ('b', '\x08'), ('f', '\x0c'), ('n', '\n'), ('r', '\r'),
    ('t', '\t')]

/-- Four hexadecimal digits and the number that they spell. -/
structure Code (digits : List Char) (n : Nat) : Prop where
  four : digits.length = 4
  spells : Numeral.Spells 16 0 digits n

/-- What stands between quotation marks, and the text for which it stands. -/
inductive Quotes : List Char → List Char → Prop
  | nil : Quotes [] []
  | plain {c source content} (plain : IsPlain c) (later : Quotes source content) :
      Quotes (c :: source) (c :: content)
  | named {name c source content} (known : (name, c) ∈ names) (later : Quotes source content) :
      Quotes ('\\' :: name :: source) (c :: content)
  | code {digits source content} {c : Char} (code : Code digits c.toNat)
      (later : Quotes source content) :
      Quotes ('\\' :: 'u' :: (digits ++ source)) (c :: content)
  | pair {first second source content high low} {c : Char} (opens : Code first high)
      (closes : Code second low) (isHigh : 0xd800 ≤ high ∧ high < 0xdc00)
      (isLow : 0xdc00 ≤ low ∧ low < 0xe000)
      (joined : c.toNat = 0x10000 + (high - 0xd800) * 0x400 + (low - 0xdc00))
      (later : Quotes source content) :
      Quotes ('\\' :: 'u' :: (first ++ '\\' :: 'u' :: (second ++ source))) (c :: content)

def IsDigits (digits : List Char) : Prop := digits ≠ [] ∧ ∀ c ∈ digits, c.isDigit = true

/-- A whole number. None but zero begins with a zero. -/
inductive Whole : List Char → Int → Prop
  | natural {digits} (decimal : IsDigits digits)
      (leads : digits = ['0'] ∨ digits.head? ≠ some '0') :
      Whole digits (Nat.ofDigitChars 10 digits 0)
  | negative {digits} (decimal : IsDigits digits)
      (leads : digits = ['0'] ∨ digits.head? ≠ some '0') :
      Whole ('-' :: digits) (-(Nat.ofDigitChars 10 digits 0 : Int))

def IsPlaces (chars : List Char) : Prop :=
  chars = [] ∨ ∃ digits, chars = '.' :: digits ∧ IsDigits digits

def IsPower (chars : List Char) : Prop :=
  chars = [] ∨ ∃ mark sign digits, chars = mark :: (sign ++ digits) ∧ (mark = 'e' ∨ mark = 'E') ∧
    (sign = [] ∨ sign = ['+'] ∨ sign = ['-']) ∧ IsDigits digits

section Nested

variable {α : Type} (item : List Char → α → Prop)

/-- One or more values between commas. -/
inductive Separated : List Char → List α → Prop
  | last {before source after value} (opens : IsGap before) (written : item source value)
      (closes : IsGap after) : Separated (before ++ (source ++ after)) [value]
  | cons {before source after rest value values} (opens : IsGap before)
      (written : item source value) (closes : IsGap after) (later : Separated rest values) :
      Separated (before ++ (source ++ (after ++ ',' :: rest))) (value :: values)

inductive Member : List Char → String × α → Prop
  | intro {quoted before after source key value} (quotes : Quotes quoted key.toList)
      (closes : IsGap before) (opens : IsGap after) (written : item source value) :
      Member ('"' :: (quoted ++ '"' :: (before ++ ':' :: (after ++ source)))) (key, value)

end Nested

/-- What a document is written as. -/
inductive Writes : List Char → Document → Prop
  | null : Writes "null".toList .null
  | true : Writes "true".toList (.boolean true)
  | false : Writes "false".toList (.boolean false)
  | whole {source n} (whole : Whole source n) : Writes source (.whole n)
  | fraction {source places power n} (whole : Whole source n) (isPlaces : IsPlaces places)
      (isPower : IsPower power) (more : places ≠ [] ∨ power ≠ []) :
      Writes (source ++ (places ++ power)) .fraction
  | text {quoted value} (quotes : Quotes quoted value.toList) :
      Writes ('"' :: (quoted ++ ['"'])) (.text value)
  | emptyList {gap} (isGap : IsGap gap) : Writes ('[' :: (gap ++ [']'])) (.list [])
  | list {source values} (elements : Separated Writes source values) :
      Writes ('[' :: (source ++ [']'])) (.list values)
  | emptyObject {gap} (isGap : IsGap gap) : Writes ('\x7b' :: (gap ++ ['\x7d'])) (.object [])
  | object {source entries} (members : Separated (Member Writes) source entries) :
      Writes ('\x7b' :: (source ++ ['\x7d'])) (.object entries)

/-- Octets that hold a document and nothing else. -/
def Encodes (octets : Bytes) (document : Document) : Prop :=
  ∃ before source after, IsGap before ∧ Writes source document ∧ IsGap after ∧
    octets = Bytes.ofText (String.ofList (before ++ (source ++ after)))

/-- A text that stands for itself between quotation marks. -/
def Plain (text : String) : Prop := ∀ c ∈ text.toList, IsPlain c

instance : DecidablePred Plain := fun text => List.decidableBAll _ text.toList

theorem quotes_plain {chars : List Char} (plain : ∀ c ∈ chars, IsPlain c) : Quotes chars chars := by
  induction chars with
  | nil => exact .nil
  | cons c chars ih =>
      rw [List.forall_mem_cons] at plain
      exact .plain plain.1 (ih plain.2)

namespace Quotes

variable {source content : List Char}

/-- Nothing is quoted by less than it is, and by as much only if it is plain. -/
theorem economy (h : Quotes source content) : content.length ≤ source.length ∧
    (source.length ≤ content.length → source = content ∧ ∀ c ∈ content, IsPlain c) := by
  induction h with
  | nil => exact ⟨Nat.le_refl _, fun _ => ⟨rfl, nofun⟩⟩
  | plain plain later ih =>
      refine ⟨Nat.succ_le_succ ih.1, fun tight => ?_⟩
      obtain ⟨same, all⟩ := ih.2 (Nat.le_of_succ_le_succ tight)
      exact ⟨congrArg _ same, List.forall_mem_cons.mpr ⟨plain, all⟩⟩
  | named known later ih =>
      simp only [List.length_cons]
      exact ⟨by omega, fun tight => by omega⟩
  | code code later ih =>
      simp only [List.length_cons, List.length_append]
      exact ⟨by omega, fun tight => by omega⟩
  | pair opens closes isHigh isLow joined later ih =>
      simp only [List.length_cons, List.length_append]
      exact ⟨by omega, fun tight => by omega⟩

/-- A plain text between the same quotation marks is the one that is quoted. -/
theorem align (h : Quotes source content) {inner tail rest : List Char}
    (plain : ∀ c ∈ inner, IsPlain c) (same : source ++ '"' :: tail = inner ++ '"' :: rest) :
    content = inner ∧ tail = rest := by
  -- No piece but a plain character begins as the plain text does.
  have noEscape {source' : List Char} {inner : List Char} (plain : ∀ c ∈ inner, IsPlain c)
      (same : '\\' :: source' = inner ++ '"' :: rest) : False := by
    cases inner with
    | nil => cases same
    | cons c inner =>
        cases (List.cons.inj same).1
        exact plain '\\' List.mem_cons_self |>.2.1 rfl
  induction h generalizing inner with
  | nil =>
      cases inner with
      | nil => exact ⟨rfl, (List.cons.inj same).2⟩
      | cons c inner =>
          cases (List.cons.inj same).1
          exact absurd rfl (plain '"' List.mem_cons_self).1
  | @plain c source content isPlain later ih =>
      cases inner with
      | nil =>
          cases (List.cons.inj same).1
          exact absurd rfl isPlain.1
      | cons first inner =>
          obtain ⟨rfl, alike⟩ := List.cons.inj same
          rw [List.forall_mem_cons] at plain
          obtain ⟨rfl, rfl⟩ := ih plain.2 alike
          exact ⟨rfl, rfl⟩
  | named known later ih => exact (noEscape plain same).elim
  | code code later ih => exact (noEscape plain same).elim
  | pair opens closes isHigh isLow joined later ih => exact (noEscape plain same).elim

end Quotes

theorem Code.free {digits : List Char} {n : Nat} (code : Code digits n) : '"' ∉ digits := by
  intro member
  obtain ⟨digit, known⟩ := code.spells.exists_digit '"' member
  revert known
  exact show Numeral.digit? 16 '"' ≠ some digit by
    rw [show Numeral.digit? 16 '"' = none by decide]
    exact nofun

theorem exists_before {start : List Char} (free : '"' ∉ start) {source before after : List Char}
    (same : start ++ source = before ++ '"' :: after) :
    ∃ more, before = start ++ more ∧ source = more ++ '"' :: after := by
  rcases List.append_eq_append_iff.mp same with ⟨more, longer, behind⟩ | ⟨more, longer, behind⟩
  · exact ⟨more, longer, behind⟩
  · cases more with
    | nil =>
        rw [List.append_nil] at longer
        exact ⟨[], by rw [longer, List.append_nil], behind.symm⟩
    | cons c more =>
        cases (List.cons.inj behind).1
        exact absurd (longer ▸ List.mem_append_right _ List.mem_cons_self) free

/-- A quotation mark within what is quoted has a backslash before it. -/
theorem Quotes.escaped {source content : List Char} (h : Quotes source content)
    {before after : List Char} (same : source = before ++ '"' :: after) :
    ∃ front, before = front ++ ['\\'] := by
  have onward (start : List Char) {more : List Char} (later : ∃ front, more = front ++ ['\\']) :
      ∃ front, start ++ more = front ++ ['\\'] := by
    obtain ⟨front, rfl⟩ := later
    exact ⟨start ++ front, (List.append_assoc _ _ _).symm⟩
  induction h generalizing before with
  | nil => cases before <;> cases same
  | @plain c source content isPlain later ih =>
      have free : '"' ∉ [c] := fun member => isPlain.1 (List.mem_singleton.mp member).symm
      obtain ⟨more, rfl, rest⟩ := @exists_before _ free source _ _ same
      exact onward _ (ih rest)
  | @named name c source content known later ih =>
      obtain ⟨more, rfl, rest⟩ := @exists_before ['\\'] (by decide) _ _ _ same
      cases more with
      | nil => exact ⟨[], rfl⟩
      | cons first more =>
          exact onward ['\\', first] (ih (List.cons.inj rest).2)
  | @code digits source content c code later ih =>
      have free : '"' ∉ ['\\', 'u'] ++ digits := by
        rw [List.mem_append, not_or]
        exact ⟨by decide, code.free⟩
      obtain ⟨more, rfl, rest⟩ := @exists_before _ free source _ _ same
      exact onward _ (ih rest)
  | @pair first second source content high low c opens closes isHigh isLow joined later ih =>
      have free : '"' ∉ ['\\', 'u'] ++ first ++ ['\\', 'u'] ++ second := by
        simp only [List.mem_append, not_or]
        exact ⟨⟨⟨by decide, opens.free⟩, by decide⟩, closes.free⟩
      obtain ⟨more, rfl, rest⟩ := @exists_before _ free source _ _ (by simpa using same)
      exact onward _ (ih rest)

theorem gap_ends {gap tail rest : List Char} {c next : Char} (isGap' : IsGap gap)
    (filled : isGap next = false) (same : gap ++ c :: tail = next :: rest) :
    gap = [] ∧ c = next ∧ tail = rest := by
  cases gap with
  | nil =>
      obtain ⟨rfl, rfl⟩ := List.cons.inj same
      exact ⟨rfl, rfl, rfl⟩
  | cons blank gap =>
      cases (List.cons.inj same).1
      rw [isGap' _ List.mem_cons_self] at filled
      cases filled

/-- Between the first quotation mark behind a text and the next there is one character. A text that
is quoted up to neither of them is plain. -/
theorem Quotes.plain_or_beyond {source content tail rest : List Char} {c : Char}
    (h : Quotes source content)
    (same : source ++ '"' :: tail = content ++ '"' :: c :: '"' :: rest) (other : c ≠ '\\')
    (quote : c ≠ '"') :
    (∀ c ∈ content, IsPlain c) ∨ tail = rest := by
  rcases List.append_eq_append_iff.mp same with ⟨extra, longer, behind⟩ | ⟨extra, longer, behind⟩
  · have short := congrArg List.length longer
    rw [List.length_append] at short
    exact .inl (h.economy.2 (by omega)).2
  · match extra with
    | [] => exact .inl (h.economy.2 (by simp [longer])).2
    | [mark] =>
        cases (List.cons.inj (List.cons.inj behind).2).1
        exact absurd rfl quote
    | [mark, next] =>
        exact .inr (List.cons.inj (List.cons.inj (List.cons.inj behind).2).2).2.symm
    | mark :: next :: third :: extra =>
        simp only [List.cons_append, List.cons.injEq] at behind
        obtain ⟨rfl, rfl, rfl, _⟩ := behind
        -- The second quotation mark would have to be escaped.
        have split : source = (content ++ ['"', c]) ++ '"' :: extra := by
          rw [longer, List.append_assoc]
          rfl
        obtain ⟨front, ends⟩ := h.escaped split
        have last := congrArg List.getLast? ends
        simp at last
        exact absurd last other

section Nested

variable {α : Type} {item : List Char → α → Prop} {source : List Char} {values : List α}

theorem Separated.exists_item (h : Separated item source values) {value : α}
    (member : value ∈ values) : ∃ inner, item inner value ∧ inner.length ≤ source.length := by
  induction h with
  | last opens written closes =>
      cases List.mem_singleton.mp member
      refine ⟨_, written, ?_⟩
      simp only [List.length_append]
      omega
  | cons opens written closes later ih =>
      simp only [List.length_append, List.length_cons]
      rcases List.mem_cons.mp member with rfl | member
      · exact ⟨_, written, by omega⟩
      · obtain ⟨inner, found, fits⟩ := ih member
        exact ⟨inner, found, by omega⟩

theorem Separated.exists_first (h : Separated item source values) (closing : Char) :
    ∃ before inner after tail mark value, IsGap before ∧ item inner value ∧ IsGap after ∧
      value ∈ values ∧ (mark = ',' ∨ mark = closing) ∧
      source ++ [closing] = before ++ (inner ++ (after ++ mark :: tail)) := by
  cases h with
  | last opens written closes =>
      refine ⟨_, _, _, [], closing, _, opens, written, closes, List.mem_cons_self, .inr rfl, ?_⟩
      simp only [List.append_assoc]
  | @cons _ _ _ rest _ _ opens written closes later =>
      refine ⟨_, _, _, rest ++ [closing], ',', _, opens, written, closes, List.mem_cons_self,
        .inl rfl, ?_⟩
      simp only [List.append_assoc, List.cons_append]

end Nested

theorem Member.economy {source : List Char} {key text : String}
    (h : Member Writes source (key, .text text)) :
    key.toList.length + text.toList.length + 5 ≤ source.length ∧
      (source.length ≤ key.toList.length + text.toList.length + 5 → Plain text) := by
  cases h with
  | intro quotes closes opens written =>
      cases written with
      | text value =>
          have keyed := quotes.economy.1
          obtain ⟨least, plain⟩ := value.economy
          simp only [List.length_cons, List.length_append, List.length_nil]
          exact ⟨by omega, fun short => (plain (by omega)).2⟩

/-- An object that is no longer than one of its texts with its key has this text plain in it. -/
theorem Encodes.plain_of_short {chars : List Char} {entries : List (String × Document)}
    {key text : String} (h : Encodes (Bytes.ofText (String.ofList chars)) (.object entries))
    (member : (key, .text text) ∈ entries)
    (short : chars.length ≤ key.toList.length + text.toList.length + 7) : Plain text := by
  obtain ⟨before, source, after, opens, written, closes, same⟩ := h
  obtain rfl := String.ofList_injective (Bytes.ofText_injective same)
  cases written with
  | emptyObject isGap => cases member
  | object members =>
      obtain ⟨inner, found, fits⟩ := members.exists_item member
      simp only [List.length_append, List.length_cons, List.length_nil] at short
      exact found.economy.2 (by omega)

theorem Member.exists_value {source tail rest : List Char} {entry : String × Document}
    {key : String} {next : Char} (h : Member Writes source entry) (plain : Plain key)
    (same : source ++ tail = '"' :: (key.toList ++ '"' :: ':' :: next :: rest)) :
    ∃ gap inner, IsGap gap ∧ Writes inner entry.2 ∧ entry.1 = key ∧
      gap ++ (inner ++ tail) = next :: rest := by
  cases h with
  | @intro quoted before after inner stored value quotes closes opens written =>
      simp only [List.cons_append, List.append_assoc, List.cons.injEq, true_and] at same
      obtain ⟨content, behind⟩ := quotes.align plain same
      obtain ⟨_, _, behind⟩ := gap_ends closes (by decide) behind
      exact ⟨after, inner, opens, written, String.toList_inj.mp content, behind⟩

/-- An object whose first member is written as a text between quotation marks has this text plain
in it, unless what is behind the text goes on as if it were another. -/
theorem Encodes.plain_of_first {entries : List (String × Document)} {key text : String}
    {next : Char} {rest : List Char}
    (h : Encodes (Bytes.ofText (String.ofList ('\x7b' :: '"' :: (key.toList ++ '"' :: ':' :: '"' ::
      (text.toList ++ '"' :: ',' :: '"' :: next :: rest))))) (.object entries))
    (plain : Plain key) (distinct : (entries.map (·.1)).Nodup)
    (member : (key, .text text) ∈ entries) (filled : isGap next = false)
    (inside : next ≠ ',' ∧ next ≠ '\x7d') : Plain text := by
  obtain ⟨before, source, after, opens, written, closes, same⟩ := h
  have same := (String.ofList_injective (Bytes.ofText_injective same)).symm
  cases written with
  | emptyObject isGap => cases member
  | @object inner _ members =>
      change before ++ '\x7b' :: ((inner ++ ['\x7d']) ++ after) = _ at same
      obtain ⟨_, _, same⟩ := gap_ends opens (by decide) same
      obtain ⟨gap, first, later, tail, mark, entry, opens, found, closes, stored, marks, whole⟩ :=
        members.exists_first '\x7d'
      rw [whole, List.append_assoc, List.append_assoc, List.append_assoc] at same
      -- The first member stands at the front, and its key is the plain one.
      obtain ⟨starts, shown⟩ : ∃ shown, first = '"' :: shown := by
        cases found
        exact ⟨_, rfl⟩
      subst shown
      obtain ⟨rfl, _, front⟩ := gap_ends opens (by decide) same
      obtain ⟨space, value, isSpace, written, rfl, behind⟩ :=
        found.exists_value plain (congrArg ('"' :: ·) front)
      have value_eq : entry.2 = .text text := by
        have unique := List.inj_on_of_nodup_map distinct stored member rfl
        rw [unique]
      rw [value_eq] at written
      cases written with
      | @text quoted _ quotes =>
          obtain ⟨_, _, quote⟩ := gap_ends isSpace (by decide) behind
          rw [List.append_eq, List.append_assoc] at quote
          rcases quotes.plain_or_beyond quote (by decide) (by decide) with isPlain | beyond
          · exact isPlain
          · -- Behind a member there is a comma or the end of the object.
            obtain ⟨_, rfl, _⟩ := gap_ends closes filled beyond
            exact absurd marks (not_or.mpr inside)

section Writing

variable {key text : String} {source : List Char} {value : Document}

theorem isGap_nil : IsGap [] := nofun

theorem writes_text (plain : Plain text) : Writes ('"' :: (text.toList ++ ['"'])) (.text text) :=
  .text (quotes_plain plain)

theorem member_of_plain (plain : Plain key) (written : Writes source value) :
    Member Writes ('"' :: (key.toList ++ '"' :: ':' :: source)) (key, value) :=
  .intro (quotes_plain plain) isGap_nil isGap_nil written

variable {α : Type} {item : List Char → α → Prop}

theorem separated_last {last : α} (written : item source last) : Separated item source [last] := by
  have whole := Separated.last isGap_nil written isGap_nil
  rwa [List.nil_append, List.append_nil] at whole

theorem separated_cons {first : α} {rest : List Char} {values : List α}
    (written : item source first) (later : Separated item rest values) :
    Separated item (source ++ ',' :: rest) (first :: values) :=
  .cons isGap_nil written isGap_nil later

theorem head_toDigits {n : Nat} (positive : n ≠ 0) : (Nat.toDigits 10 n).head? ≠ some '0' := by
  induction n using Nat.strongRecOn with
  | ind n ih =>
      by_cases small : n < 10
      · rw [Nat.toDigits_of_lt_base small, List.head?_cons, Ne, Option.some.injEq,
          Nat.digitChar_eq_zero]
        exact positive
      · have front := ih (n / 10) (by omega) (by omega)
        rw [Nat.toDigits_of_base_le (by decide) (Nat.le_of_not_lt small),
          List.head?_append_of_ne_nil _ Nat.toDigits_ne_nil]
        exact front

theorem whole_toString (n : Nat) : Whole (toString n).toList n := by
  have decimal : IsDigits (Nat.toDigits 10 n) :=
    ⟨Nat.toDigits_ne_nil, fun _ => Nat.isDigit_of_mem_toDigits (by decide) (by decide)⟩
  have leads : Nat.toDigits 10 n = ['0'] ∨ (Nat.toDigits 10 n).head? ≠ some '0' := by
    cases n with
    | zero => exact .inl (Nat.toDigits_zero 10)
    | succ n => exact .inr (head_toDigits (Nat.succ_ne_zero n))
  have whole := Whole.natural decimal leads
  rw [Nat.ofDigitChars_ten_toDigits] at whole
  rwa [show (toString n).toList = Nat.toDigits 10 n from String.toList_ofList]

end Writing

end HttpServer.Json
