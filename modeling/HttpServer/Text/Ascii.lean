import HttpServer.Bytes

/-! ASCII classes of octets and the comparison of names that ignores ASCII
letter case. -/
namespace HttpServer.Text

def isAlphanumericByte (b : UInt8) : Bool :=
  (48 ≤ b && b ≤ 57) || (65 ≤ b && b ≤ 90) || (97 ≤ b && b ≤ 122)

def tokenPunctuation : Bytes := Bytes.ofText "!#$%&'*+-.^_\x60|~"

/-- Octets of which a method or a header name consists. -/
def isTokenByte (b : UInt8) : Bool := isAlphanumericByte b || tokenPunctuation.contains b

def isToken (bytes : Bytes) : Bool := !bytes.isEmpty && bytes.all isTokenByte

def isControlByte (b : UInt8) : Bool := b < 32 || b == 127

/-- Printable ASCII other than the space. -/
def isGraphicByte (b : UInt8) : Bool := 33 ≤ b && b ≤ 126

def isBlankByte (b : UInt8) : Bool := b == 32 || b == 9 || b == 10 || b == 12 || b == 13

/-- The characters of a text with ASCII capitals lowered; all others stay. -/
def caseless (text : String) : List Char := text.toList.map Char.toLower

/-- Two names are the same when they differ in ASCII letter case only. -/
def sameName (first second : String) : Bool := caseless first == caseless second

theorem sameName_iff {first second : String} :
    sameName first second = true ↔ caseless first = caseless second := beq_iff_eq

@[simp] theorem sameName_refl (name : String) : sameName name name = true :=
  sameName_iff.mpr rfl

theorem sameName_symm (first second : String) : sameName first second = sameName second first :=
  Bool.eq_iff_iff.mpr (by simp only [sameName_iff]; exact eq_comm)

end HttpServer.Text
