import HttpServer.Proofs.Body.Chunks
import HttpServer.Proofs.Head.Announcing

/-! How a number may be spelt where it says how long a body or a chunk is. The protocol has digits
there and nothing else. What is accepted is digits with blanks around them and perhaps a plus sign
before them, in every number of 64 bits; all other spellings are refused. -/
namespace HttpServer

/-- The blanks that the protocol allows around the size of a chunk. -/
def Text.isGapByte (b : UInt8) : Bool := b == 32 || b == 9

theorem Text.plain_charOf {b : UInt8} (plain : isGapByte b = true ∨ isHexByte b = true) :
    charOf b ≠ '+' ∧ (isBlank (charOf b) = true → charOf b = ' ' ∨ charOf b = '\t') := by
  revert b
  apply forall_byte
  decide +kernel

theorem Text.ascii_of_plain {b : UInt8} (plain : isGapByte b = true ∨ isHexByte b = true) :
    b < 128 := by
  revert b
  apply forall_byte
  decide +kernel

theorem Text.not_isGapByte {b : UInt8} (hex : isHexByte b = true) : isGapByte b = false := by
  revert b
  apply forall_byte
  decide +kernel

namespace Numeral

def IsDecimal (value : String) : Prop :=
  value.toList ≠ [] ∧ ∀ c ∈ value.toList, c.isDigit = true

def IsHexadecimal (octets : Bytes) : Prop := octets ≠ [] ∧ ∀ b ∈ octets, Text.isHexByte b = true

theorem small_of_digit? {radix digit : Nat} {c : Char} (known : digit? radix c = some digit) :
    c.toNat < 256 := by
  by_contra large
  have beyond (last : Char) (low : last.toNat < 256) : ¬ c ≤ last := by
    intro within
    exact large (Nat.lt_of_le_of_lt within low)
  have none : digit? radix c = none := by
    simp [digit?, beyond '9' (by decide), beyond 'z' (by decide), beyond 'Z' (by decide)]
  rw [none] at known
  cases known

theorem isHexByte_charOf {b : UInt8} (known : (digit? 16 (Text.charOf b)).isSome = true) :
    ∀ octet ∈ String.utf8EncodeChar (Text.charOf b), Text.isHexByte octet = true := by
  revert b
  apply Text.forall_byte
  decide +kernel

theorem Spells.exists_charOf {radix read n : Nat} {chars : List Char}
    (h : Spells radix read chars n) :
    ∀ c ∈ chars, ∃ b, Text.charOf b = c ∧ (digit? radix (Text.charOf b)).isSome = true := by
  intro c member
  obtain ⟨digit, known⟩ := h.exists_digit c member
  obtain ⟨b, rfl⟩ := Text.exists_charOf (small_of_digit? known)
  exact ⟨b, rfl, by rw [known]; rfl⟩

theorem Denotes.unsigned {radix n : Nat} {chars : List Char} (h : Denotes radix n chars)
    (unsigned : '+' ∉ chars) : ∃ before digits after, chars = before ++ digits ++ after ∧
      (∀ c ∈ before, Text.isBlank c = true) ∧ digits ≠ [] ∧ Spells radix 0 digits n ∧
      ∀ c ∈ after, Text.isBlank c = true := by
  cases h with
  | @intro before sign digits after opens signs nonempty spells closes =>
      obtain rfl | rfl := signs
      · exact ⟨before, digits, after, rfl, opens, nonempty, spells, closes⟩
      · exact absurd (by simp) unsigned

/-- A length that is accepted is spelt as the protocol has it if there is neither a sign nor a
blank in it. -/
theorem Denotes.isDecimal_iff {n : Nat} {value : String} (h : Denotes 10 n value.toList) :
    IsDecimal value ↔ ∀ c ∈ value.toList, c ≠ '+' ∧ Text.isBlank c = false := by
  constructor
  · rintro ⟨_, digits⟩ c member
    obtain ⟨_, filled, unsigned⟩ := digit?_decimal (digits c member)
    exact ⟨unsigned, filled⟩
  · intro bare
    have unsigned : '+' ∉ value.toList := fun member => (bare '+' member).1 rfl
    obtain ⟨before, digits, after, whole, opens, nonempty, spells, closes⟩ := h.unsigned unsigned
    -- The outer blanks are none, because there is no blank at all.
    have none {chars : List Char} (part : ∀ c ∈ chars, c ∈ value.toList)
        (blank : ∀ c ∈ chars, Text.isBlank c = true) : chars = [] := by
      refine List.eq_nil_iff_forall_not_mem.mpr fun c member => ?_
      have filled := (bare c (part c member)).2
      rw [blank c member] at filled
      cases filled
    rw [none (fun c member => by simp [whole, member]) opens,
      none (fun c member => by simp [whole, member]) closes, List.nil_append,
      List.append_nil] at whole
    rw [IsDecimal, whole]
    exact ⟨nonempty, spells.decimal.1⟩

open Text (isGapByte isHexByte) in
/-- A size that is accepted is spelt as the protocol has it if there is no sign in it and no
blanks but spaces and tabs. -/
theorem Denotes.isHexadecimal_iff {n : Nat} {text : String} (h : Denotes 16 n text.toList) :
    IsHexadecimal (Bytes.trimBy isGapByte (Bytes.ofText text)) ↔
      ∀ c ∈ text.toList, c ≠ '+' ∧ (Text.isBlank c = true → c = ' ' ∨ c = '\t') := by
  constructor
  · rintro ⟨_, hex⟩
    obtain ⟨before, after, whole, opens, closes⟩ := exists_ends isGapByte (Bytes.ofText text)
    have plain : ∀ b ∈ Bytes.ofText text, isGapByte b = true ∨ isHexByte b = true := by
      rw [whole]
      simp only [List.forall_mem_append]
      exact ⟨⟨fun b member => .inl (opens b member), fun b member => .inr (hex b member)⟩,
        fun b member => .inl (closes b member)⟩
    -- All octets are ASCII, so each is the one octet of a character of the text.
    have same : text = Text.ofAscii (Bytes.ofText text) :=
      Bytes.ofText_injective
        (Text.ofText_ofAscii fun b member => Text.ascii_of_plain (plain b member)).symm
    rw [same, Text.ofAscii, String.toList_ofList, List.forall_mem_map]
    exact fun b member => Text.plain_charOf (plain b member)
  · intro plain
    have unsigned : '+' ∉ text.toList := fun member => (plain '+' member).1 rfl
    obtain ⟨before, digits, after, whole, opens, nonempty, spells, closes⟩ := h.unsigned unsigned
    have gap {chars : List Char} (part : ∀ c ∈ chars, c ∈ text.toList)
        (blank : ∀ c ∈ chars, Text.isBlank c = true) :
        ∀ b ∈ chars.flatMap String.utf8EncodeChar, isGapByte b = true := by
      rw [List.forall_mem_flatMap]
      intro c member
      obtain rfl | rfl := (plain c (part c member)).2 (blank c member) <;> decide +kernel
    have hex : ∀ b ∈ digits.flatMap String.utf8EncodeChar, isHexByte b = true := by
      rw [List.forall_mem_flatMap]
      intro c member
      obtain ⟨b, rfl, known⟩ := spells.exists_charOf c member
      exact isHexByte_charOf known
    have octets : Bytes.ofText text = before.flatMap String.utf8EncodeChar ++
        digits.flatMap String.utf8EncodeChar ++ after.flatMap String.utf8EncodeChar := by
      rw [← String.ofList_toList (s := text), Bytes.ofText_ofList, whole, List.flatMap_append,
        List.flatMap_append]
    have inner : Bytes.trimBy isGapByte (Bytes.ofText text) =
        digits.flatMap String.utf8EncodeChar := by
      rw [octets]
      exact trim_among (gap (fun c member => by simp [whole, member]) opens)
        (fun b member => Text.not_isGapByte (hex b member))
        (gap (fun c member => by simp [whole, member]) closes)
    rw [inner]
    refine ⟨?_, hex⟩
    cases digits with
    | nil => exact absurd rfl nonempty
    | cons c digits => simp

end Numeral

namespace Framing

theorem isNumber_iff {value : String} {n : Nat} :
    IsNumber value n ↔ Numeral.Denotes 10 n value.toList ∧ n ≤ Numeral.max64 :=
  Numeral.natural_trim_iff (by decide)

theorem Announces.isNumber {headers : Headers} {framing : Framing} (h : Announces headers framing) :
    ∀ value ∈ headers.getAll "content-length", ∃ n, IsNumber value n := by
  cases h with
  | chunked last element named unmeasured =>
      rw [unmeasured]
      exact nofun
  | length uncoded measured agree pos => exact fun value member => ⟨_, agree value member⟩
  | empty uncoded agree => exact fun value member => ⟨_, agree value member⟩

end Framing

namespace Body

/-- A size line from which the decoder goes on: the text before any semicolon denotes the size. -/
def Declares (line : Bytes) (size : Nat) : Prop :=
  ∃ text, Bytes.ofText text = line.takeWhile (· != 59) ∧
    Numeral.Denotes 16 size text.toList ∧ size ≤ Numeral.max64

theorem chunkSize_eq_some_iff {line : Bytes} {size : Nat} :
    chunkSize line = some size ↔ Declares line size := by
  have read (text : String) : (Numeral.natural 16 Numeral.max64 (Text.trim text)).toOption =
      some size ↔ Numeral.Denotes 16 size text.toList ∧ size ≤ Numeral.max64 := by
    rw [← Numeral.natural_trim_iff (by decide)]
    cases Numeral.natural 16 Numeral.max64 (Text.trim text) <;> simp [Except.toOption]
  rw [chunkSize, Option.bind_eq_bind, Option.bind_eq_some_iff, Declares]
  simp only [read, Bytes.text?_eq_some_iff, @eq_comm _ (Bytes.ofText _)]

theorem move_declared {buffer line rest : Bytes} (taken : takeLine buffer = .line line rest)
    {size : Nat} (declares : Declares line size) :
    move .chunkSize buffer = .goOn (.ofSize size) rest := by
  simp only [move, taken, chunkSize_eq_some_iff.mpr declares]

theorem decode_undeclared {buffer line rest : Bytes} (taken : takeLine buffer = .line line rest)
    (undeclared : ∀ size, ¬ Declares line size) :
    decode .chunkSize buffer = (.stop (.failed .invalidFraming), .chunkSize, rest) := by
  have none : chunkSize line = none := by
    rw [Option.eq_none_iff_forall_ne_some]
    intro size read
    exact undeclared size (chunkSize_eq_some_iff.mp read)
  apply decode_report
  simp only [move, taken, none]

def State.sizeLine? : State → Bytes → Option Bytes
  | .chunkSize, buffer =>
      match takeLine buffer with
      | .line line _ => some line
      | _ => none
  | _, _ => none

/-- A run of the decoder, whose moves take octets out of the buffer to which others come: the state,
the buffer, and the size lines from which it has gone on. -/
inductive Run (framing : Framing) : State → Bytes → List Bytes → Prop
  | start : Run framing (.ofFraming framing) [] []
  | arrives {state buffer sizes} (run : Run framing state buffer sizes) (more : Bytes) :
      Run framing state (buffer ++ more) sizes
  | goesOn {state next buffer rest sizes} (run : Run framing state buffer sizes)
      (moved : move state buffer = .goOn next rest) :
      Run framing next rest (sizes ++ (state.sizeLine? buffer).toList)
  | reports {state next buffer rest sizes event} (run : Run framing state buffer sizes)
      (moved : move state buffer = .report event next rest) : Run framing next rest sizes

theorem declares_of_move {state next : State} {buffer rest line : Bytes}
    (moved : move state buffer = .goOn next rest) (due : state.sizeLine? buffer = some line) :
    ∃ size, Declares line size := by
  cases state with
  | chunkSize =>
      rw [State.sizeLine?] at due
      cases taken : takeLine buffer with
      | incomplete => simp [taken] at due
      | tooLong => simp [taken] at due
      | line octets after =>
          rw [taken] at due
          cases due
          cases read : chunkSize line with
          | none => simp [move, taken, read] at moved
          | some size => exact ⟨size, chunkSize_eq_some_iff.mp read⟩
  | counted | chunkData | chunkEnd | trailers | done => cases due

theorem Run.declares {framing : Framing} {state : State} {buffer : Bytes} {sizes : List Bytes}
    (run : Run framing state buffer sizes) : ∀ line ∈ sizes, ∃ size, Declares line size := by
  induction run with
  | start => exact nofun
  | arrives run more ih => exact ih
  | goesOn run moved ih =>
      rw [List.forall_mem_append]
      refine ⟨ih, ?_⟩
      intro line due
      exact declares_of_move moved (Option.mem_toList.mp due)
  | reports run moved ih => exact ih

end Body

open Numeral Text in
/-- Lengths and sizes that are accepted are digits of numbers of 64 bits, but for blanks around them
and a plus sign; they are spelt as the protocol has it exactly if there is no sign and no blank
(around a size, no blank but spaces and tabs). Of the others, each is refused. -/
theorem spelling_accepted (limits : Limits) (buffer rest : Bytes) :
    (∀ request framing, Head.decode limits buffer = (.complete request framing, rest) →
      ∀ value ∈ request.headers.getAll "content-length",
        (∃ n ≤ max64, Denotes 10 n value.toList) ∧
        (IsDecimal value ↔ ∀ c ∈ value.toList, c ≠ '+' ∧ isBlank c = false)) ∧
    (∀ request, Head.Carries limits buffer request rest →
      ∀ value ∈ request.headers.getAll "content-length",
        (∀ n ≤ max64, ¬ Denotes 10 n value.toList) →
        Head.decode limits buffer = (.rejected .invalidFraming, rest)) ∧
    (∀ framing state sizes, Body.Run framing state buffer sizes → ∀ line ∈ sizes,
      ∃ text, Bytes.ofText text = line.takeWhile (· != 59) ∧
        (∃ n ≤ max64, Denotes 16 n text.toList) ∧
        (IsHexadecimal (Bytes.trimBy isGapByte (line.takeWhile (· != 59))) ↔
          ∀ c ∈ text.toList, c ≠ '+' ∧ (isBlank c = true → c = ' ' ∨ c = '\t'))) ∧
    ∀ line, Body.takeLine buffer = .line line rest →
      (∀ size, Body.Declares line size →
        Body.move .chunkSize buffer = .goOn (.ofSize size) rest) ∧
      ((∀ size, ¬ Body.Declares line size) →
        Body.decode .chunkSize buffer =
          (.stop (.failed .invalidFraming), .chunkSize, rest)) := by
  refine ⟨?_, ?_, ?_, ?_⟩
  · intro request framing accepted value member
    have announced := Framing.announces_of_ofHeaders (Head.carries_of_decode accepted).2
    obtain ⟨n, number⟩ := announced.isNumber value member
    obtain ⟨denotes, fits⟩ := Framing.isNumber_iff.mp number
    exact ⟨⟨n, fits, denotes⟩, denotes.isDecimal_iff⟩
  · intro request carries value member other
    have none : ∀ framing, ¬ Framing.Announces request.headers framing := by
      intro framing announced
      obtain ⟨n, number⟩ := announced.isNumber value member
      obtain ⟨denotes, fits⟩ := Framing.isNumber_iff.mp number
      exact other n fits denotes
    rw [carries.decode, Framing.ofHeaders_refused_iff.mpr none]
  · intro framing state sizes run line member
    obtain ⟨n, text, octets, denotes, fits⟩ := run.declares line member
    refine ⟨text, octets, ⟨n, fits, denotes⟩, ?_⟩
    rw [← octets]
    exact denotes.isHexadecimal_iff
  · intro line taken
    exact ⟨fun size => Body.move_declared taken, Body.decode_undeclared taken⟩

def signedRequest : Request where
  method := .post
  uri := "/"
  headers := ⟨[⟨"Content-Length", "+5"⟩]⟩

theorem plus_sign_accepted :
    Head.decode {} (Bytes.ofText "POST / HTTP/1.1\r\nContent-Length: +5\r\n\r\n") =
        (.complete signedRequest (.length 5), []) ∧
      (¬ ∀ value ∈ signedRequest.headers.getAll "content-length", Numeral.IsDecimal value) ∧
      Body.drain (.ofFraming .chunked) (Bytes.ofText "+5\r\nhello\r\n0\r\n\r\n") =
        ⟨[Bytes.ofText "hello"], .finished, .done, []⟩ ∧
      ¬ Numeral.IsHexadecimal (Bytes.trimBy Text.isGapByte (Bytes.ofText "+5")) := by
  refine ⟨by decide, ?_, ?_, ?_⟩
  · intro plain
    have digit := (plain "+5" (by decide)).2 '+' (by decide)
    revert digit
    decide
  · -- The run move by move, as the recursion of `drain` does not reduce.
    have size : Body.move .chunkSize (Bytes.ofText "+5\r\nhello\r\n0\r\n\r\n") =
        .goOn (.ofSize 5) (Bytes.ofText "hello\r\n0\r\n\r\n") := rfl
    have data : Body.move (.ofSize 5) (Bytes.ofText "hello\r\n0\r\n\r\n") =
        .report (.data (Bytes.ofText "hello")) .chunkEnd (Bytes.ofText "\r\n0\r\n\r\n") := rfl
    have lineEnd : Body.move .chunkEnd (Bytes.ofText "\r\n0\r\n\r\n") =
        .goOn .chunkSize (Bytes.ofText "0\r\n\r\n") := rfl
    have last : Body.move .chunkSize (Bytes.ofText "0\r\n\r\n") =
        .goOn .trailers (Bytes.crlf ++ []) := rfl
    rw [Body.State.ofFraming, Body.drain_goOn size, Body.drain_data data, Body.drain_goOn lineEnd,
      Body.drain_goOn last, Body.drain_goOn (Body.move_emptyLine []), Body.drain_stop rfl]
    rfl
  · rintro ⟨_, hex⟩
    have sign := hex 43 (by decide)
    revert sign
    decide

end HttpServer
