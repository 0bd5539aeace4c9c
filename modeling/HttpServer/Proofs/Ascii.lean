import HttpServer.Text.Ascii
import HttpServer.Text.Lossy

/-! Octets below 128. Each is the one octet of the character with the same number, so that
octets like these are read as the same text in every way of reading text, and the octets of a
token are printable. -/
namespace HttpServer

namespace Bytes

theorem ofText_ofList (cs : List Char) :
    ofText (String.ofList cs) = cs.flatMap String.utf8EncodeChar := by
  simp [ofText, List.utf8Encode]

theorem ofText_injective {first second : String} (same : ofText first = ofText second) :
    first = second := by
  have read := congrArg text? same
  rw [text?_ofText, text?_ofText] at read
  exact Option.some.inj read

end Bytes

namespace Text

theorem forall_byte {p : UInt8 → Prop} (all : ∀ n < 256, p (UInt8.ofNat n)) (b : UInt8) : p b := by
  have here := all b.toNat b.toNat_lt
  rwa [UInt8.ofNat_toNat] at here

def charOf (b : UInt8) : Char := Char.ofNat b.toNat

theorem exists_charOf {c : Char} (small : c.toNat < 256) : ∃ b, charOf b = c := by
  refine ⟨UInt8.ofNat c.toNat, ?_⟩
  rw [charOf, UInt8.toNat_ofNat_of_lt' small, Char.ofNat_toNat]

theorem utf8EncodeChar_charOf {b : UInt8} (ascii : b < 128) :
    String.utf8EncodeChar (charOf b) = [b] := by
  revert b
  apply forall_byte
  decide +kernel

def ofAscii (octets : Bytes) : String := String.ofList (octets.map charOf)

theorem ofText_ofAscii {octets : Bytes} (ascii : ∀ b ∈ octets, b < 128) :
    Bytes.ofText (ofAscii octets) = octets := by
  rw [ofAscii, Bytes.ofText_ofList]
  induction octets with
  | nil => rfl
  | cons b octets ih =>
      rw [List.forall_mem_cons] at ascii
      rw [List.map_cons, List.flatMap_cons, utf8EncodeChar_charOf ascii.1, ih ascii.2]
      rfl

theorem text?_ascii {octets : Bytes} (ascii : ∀ b ∈ octets, b < 128) :
    Bytes.text? octets = some (ofAscii octets) :=
  Bytes.text?_eq_some_iff.mpr (ofText_ofAscii ascii).symm

theorem foldl_advance {octets : Bytes} (ascii : ∀ b ∈ octets, b < 128) (done : List Char) :
    octets.foldl (fun state b => advance b state) (none, done) =
      (none, (octets.map charOf).reverse ++ done) := by
  induction octets generalizing done with
  | nil => rfl
  | cons b octets ih =>
      rw [List.forall_mem_cons] at ascii
      have step : advance b (none, done) = (none, charOf b :: done) := by
        have low : b < 0x80 := ascii.1
        simp only [advance, begin, low, if_true, charOf]
      rw [List.foldl_cons, step, ih ascii.2]
      simp

theorem decodeLossy_ascii {octets : Bytes} (ascii : ∀ b ∈ octets, b < 128) :
    decodeLossy octets = ofAscii octets := by
  simp [decodeLossy, foldl_advance ascii, ofAscii]

theorem decodeLossy_ofText {text : String} (ascii : ∀ b ∈ Bytes.ofText text, b < 128) :
    decodeLossy (Bytes.ofText text) = text := by
  rw [decodeLossy_ascii ascii]
  exact Bytes.ofText_injective (ofText_ofAscii ascii)

theorem isGraphicByte_of_isTokenByte {b : UInt8} (token : isTokenByte b = true) :
    isGraphicByte b = true ∧ b ≠ 58 := by
  revert b
  apply forall_byte
  decide +kernel

theorem isToken_iff {octets : Bytes} :
    isToken octets = true ↔ octets ≠ [] ∧ ∀ b ∈ octets, isTokenByte b = true := by
  simp [isToken]

theorem ascii_of_isToken {octets : Bytes} (token : isToken octets = true) :
    ∀ b ∈ octets, b < 128 := by
  intro b member
  have graphic := (isGraphicByte_of_isTokenByte ((isToken_iff.mp token).2 b member)).1
  simp only [isGraphicByte, Bool.and_eq_true, decide_eq_true_eq] at graphic
  exact UInt8.lt_of_le_of_lt graphic.2 (by decide)

theorem not_mem_of_isToken {octets : Bytes} (token : isToken octets = true) {b : UInt8}
    (other : isTokenByte b = false) : b ∉ octets := by
  intro member
  have inside := (isToken_iff.mp token).2 b member
  rw [other] at inside
  cases inside

end Text
end HttpServer
