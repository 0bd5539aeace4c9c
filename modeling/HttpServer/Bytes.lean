/-! Octet sequences as a connection carries them, the UTF-8 octets of a text,
and the search for a byte mark. The main statements say that reading octets as
a text succeeds exactly on the octets of that text. -/
namespace HttpServer

/-- Octets in the order in which they travel. -/
abbrev Bytes := List UInt8

namespace Bytes

def crlf : Bytes := [13, 10]

def blankLine : Bytes := [13, 10, 13, 10]

/-- The UTF-8 octets of a text. -/
def ofText (text : String) : Bytes := text.toByteArray.data.toList

/-- The text whose UTF-8 octets these are. -/
def text? (bytes : Bytes) : Option String := String.fromUTF8? ⟨bytes.toArray⟩

/-- Searches for `mark`, `offset` octets having been passed already. -/
def positionFrom (mark : Bytes) (offset : Nat) : Bytes → Option Nat
  | [] => if mark = [] then some offset else none
  | b :: rest =>
      if mark.isPrefixOf (b :: rest) then some offset
      else positionFrom mark (offset + 1) rest

/-- Number of octets before the first occurrence of `mark`. -/
def position? (mark bytes : Bytes) : Option Nat := positionFrom mark 0 bytes

/-- Drops the octets at both ends that satisfy `drops`. -/
def trimBy (drops : UInt8 → Bool) (bytes : Bytes) : Bytes :=
  ((bytes.dropWhile drops).reverse.dropWhile drops).reverse

theorem text?_eq_some_iff {bytes : Bytes} {text : String} :
    text? bytes = some text ↔ bytes = ofText text := by
  unfold text? String.fromUTF8? ofText
  constructor
  · intro h
    split at h
    · cases h
      rfl
    · cases h
  · rintro rfl
    have valid : ByteArray.IsValidUTF8 ⟨text.toByteArray.data.toList.toArray⟩ := by
      simpa using text.isValidUTF8
    rw [dif_pos valid]
    simp [String.fromUTF8]

@[simp] theorem text?_ofText (text : String) : text? (ofText text) = some text :=
  text?_eq_some_iff.mpr rfl

theorem ofText_append (first second : String) :
    ofText (first ++ second) = ofText first ++ ofText second := by
  simp [ofText]

theorem length_ofText (text : String) : (ofText text).length = text.utf8ByteSize := rfl

theorem isEmpty_iff_ofText {text : String} : text.isEmpty = true ↔ ofText text = [] := by
  rw [← List.length_eq_zero_iff, length_ofText, String.isEmpty, beq_iff_eq]

end Bytes
end HttpServer
