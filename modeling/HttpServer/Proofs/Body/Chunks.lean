import HttpServer.Proofs.Body.Draining
import HttpServer.Proofs.Numerals

/-! Chunked bodies as a client sends them. Whatever the data hold, however the sizes are
spelt, and whatever extensions and trailers come with them, draining such a body gives its
chunks and stops at its end. -/
namespace HttpServer

namespace Text

def isHexByte (b : UInt8) : Bool :=
  (48 ≤ b && b ≤ 57) || (65 ≤ b && b ≤ 70) || (97 ≤ b && b ≤ 102)

def hexValue (b : UInt8) : Nat :=
  if b ≤ 57 then b.toNat - 48 else if b ≤ 70 then b.toNat - 55 else b.toNat - 87

/-- The number that hexadecimal digits spell after others that spell `read`. -/
def hexNumber (read : Nat) (digits : Bytes) : Nat :=
  digits.foldl (fun n b => n * 16 + hexValue b) read

theorem ascii_of_isHexByte {b : UInt8} (hex : isHexByte b = true) : b < 128 := by
  revert b
  apply forall_byte
  decide +kernel

theorem filled_of_isHexByte {b : UInt8} (hex : isHexByte b = true) :
    isBlank (charOf b) = false ∧ charOf b ≠ '+' := by
  revert b
  apply forall_byte
  decide +kernel

theorem digit?_charOf {b : UInt8} (hex : isHexByte b = true) :
    Numeral.digit? 16 (charOf b) = some (hexValue b) := by
  revert b
  apply forall_byte
  decide +kernel

theorem spells_hex {digits : Bytes} (hex : ∀ b ∈ digits, isHexByte b = true) (read : Nat) :
    Numeral.Spells 16 read (digits.map charOf) (hexNumber read digits) := by
  induction digits generalizing read with
  | nil => exact .nil
  | cons b digits ih =>
      rw [List.forall_mem_cons] at hex
      obtain ⟨filled, unsigned⟩ := filled_of_isHexByte hex.1
      exact .cons (digit?_charOf hex.1) filled unsigned (ih hex.2 _)

theorem natural_hex {bound : Nat} {digits : Bytes} (filled : digits ≠ [])
    (hex : ∀ b ∈ digits, isHexByte b = true) (fits : hexNumber 0 digits ≤ bound) :
    Numeral.natural 16 bound (trim (ofAscii digits)) = .ok (hexNumber 0 digits) :=
  (spells_hex hex 0).natural (by decide) (mt List.map_eq_nil_iff.mp filled) fits

end Text

namespace Body

/-- A size line: hexadecimal digits that spell the size, and an extension after a semicolon. -/
structure SizeLine (size : Nat) where
  digits : Bytes
  extension : Option Bytes
  filled : digits ≠ []
  hex : ∀ b ∈ digits, Text.isHexByte b = true
  spells : Text.hexNumber 0 digits = size
  unbroken : ∀ text ∈ extension, 10 ∉ text
  short : (digits ++ extension.elim [] (59 :: ·)).length ≤ maxLine

def SizeLine.octets {size : Nat} (line : SizeLine size) : Bytes :=
  line.digits ++ line.extension.elim [] (59 :: ·)

/-- A chunk: its data, which are not empty, and the line that announces their size. -/
structure Chunk where
  data : Bytes
  size : SizeLine data.length
  filled : data ≠ []
  small : data.length < UInt64.size

def Chunk.encode (chunk : Chunk) : Bytes :=
  chunk.size.octets ++ Bytes.crlf ++ chunk.data ++ Bytes.crlf

structure Trailer where
  line : Bytes
  filled : line ≠ []
  unbroken : 10 ∉ line
  short : line.length ≤ maxLine

/-- A chunked body: its chunks, the size line of the empty chunk that ends it, and trailers. -/
structure Chunked where
  chunks : List Chunk
  last : SizeLine 0
  trailers : List Trailer

def Chunked.encode (body : Chunked) : Bytes :=
  body.chunks.flatMap Chunk.encode ++ body.last.octets ++ Bytes.crlf ++
    body.trailers.flatMap (·.line ++ Bytes.crlf) ++ Bytes.crlf

theorem SizeLine.unbroken_octets {size : Nat} (line : SizeLine size) : 10 ∉ line.octets := by
  have digits : 10 ∉ line.digits := by
    intro member
    exact absurd (line.hex 10 member) (by decide)
  have unbroken := line.unbroken
  rw [octets]
  cases extension : line.extension with
  | none => simpa using digits
  | some text =>
      have inside := unbroken text extension
      simp [digits, inside]

theorem SizeLine.chunkSize_octets {size : Nat} (line : SizeLine size)
    (small : size < UInt64.size) : chunkSize line.octets = some size := by
  have digits : ∀ b ∈ line.digits, (b != 59) = true := by
    intro b member
    have hex := line.hex b member
    rw [bne_iff_ne]
    rintro rfl
    exact absurd hex (by decide)
  have before : line.octets.takeWhile (· != 59) = line.digits := by
    rw [octets, List.takeWhile_append_of_pos digits]
    cases line.extension <;> simp
  have ascii : ∀ b ∈ line.digits, b < 128 :=
    fun b member => Text.ascii_of_isHexByte (line.hex b member)
  have fits : Text.hexNumber 0 line.digits ≤ Numeral.max64 := by
    rw [line.spells]
    exact Nat.le_of_lt_succ small
  rw [chunkSize, before, Text.text?_ascii ascii]
  simp only [Option.bind_eq_bind, Option.bind_some, Text.natural_hex line.filled line.hex fits,
    line.spells]
  rfl

theorem move_sizeLine {size : Nat} (line : SizeLine size) (small : size < UInt64.size)
    (rest : Bytes) : move .chunkSize (line.octets ++ Bytes.crlf ++ rest) =
      .goOn (.ofSize size) rest := by
  simp only [move, takeLine_crlf line.unbroken_octets line.short, line.chunkSize_octets small]

theorem move_trailer (trailer : Trailer) (rest : Bytes) :
    move .trailers (trailer.line ++ Bytes.crlf ++ rest) = .goOn .trailers rest := by
  have filled : trailer.line.isEmpty = false := by
    simpa using trailer.filled
  simp only [move, takeLine_crlf trailer.unbroken trailer.short, filled]
  rfl

theorem move_emptyLine (rest : Bytes) : move .trailers (Bytes.crlf ++ rest) = .goOn .done rest := by
  have empty : takeLine ([] ++ Bytes.crlf ++ rest) = .line [] rest :=
    takeLine_crlf List.not_mem_nil (Nat.zero_le _) rest
  rw [List.nil_append] at empty
  simp only [move, empty]
  rfl

/-- The data of a chunk are counted, so that it does not matter what they look like. -/
theorem drain_chunk (chunk : Chunk) (rest : Bytes) :
    drain .chunkSize (chunk.encode ++ rest) = (drain .chunkSize rest).after [chunk.data] := by
  have pos : 0 < chunk.data.length := List.length_pos_iff.mpr chunk.filled
  have lineEnd : drain .chunkEnd (Bytes.crlf ++ rest) = drain .chunkSize rest := drain_goOn rfl
  have encoded : chunk.encode ++ rest =
      chunk.size.octets ++ Bytes.crlf ++ (chunk.data ++ (Bytes.crlf ++ rest)) := by
    simp only [Chunk.encode, List.append_assoc]
  calc
    drain .chunkSize (chunk.encode ++ rest)
      = drain (.inChunk chunk.data.length) (chunk.data ++ (Bytes.crlf ++ rest)) := by
        rw [encoded, drain_goOn (move_sizeLine chunk.size chunk.small _), State.ofSize,
          dif_pos pos, inChunk_pos pos]
    _ = (drain (.inChunk 0) (Bytes.crlf ++ rest)).after [chunk.data] :=
        drain_passing_full passes_inChunk pos rfl _
    _ = (drain .chunkSize rest).after [chunk.data] := by
        rw [← lineEnd]
        rfl

theorem drain_chunks (chunks : List Chunk) (rest : Bytes) :
    drain .chunkSize (chunks.flatMap Chunk.encode ++ rest) =
      (drain .chunkSize rest).after (chunks.map (·.data)) := by
  induction chunks with
  | nil => rfl
  | cons chunk chunks ih =>
      rw [List.flatMap_cons, List.append_assoc, drain_chunk, ih]
      rfl

theorem drain_trailers (trailers : List Trailer) (rest : Bytes) :
    drain .trailers (trailers.flatMap (·.line ++ Bytes.crlf) ++ (Bytes.crlf ++ rest)) =
      ⟨[], .finished, .done, rest⟩ := by
  induction trailers with
  | nil =>
      rw [List.flatMap_nil, List.nil_append, drain_goOn (move_emptyLine rest), drain_stop rfl]
  | cons trailer trailers ih =>
      rw [List.flatMap_cons, List.append_assoc, drain_goOn (move_trailer trailer _), ih]

/-- Draining a chunked body gives its chunks, finishes, and leaves what follows the body. -/
theorem drain_encode (body : Chunked) (rest : Bytes) :
    drain (.ofFraming .chunked) (body.encode ++ rest) =
      ⟨body.chunks.map (·.data), .finished, .done, rest⟩ := by
  have encoded : body.encode ++ rest = body.chunks.flatMap Chunk.encode ++
      (body.last.octets ++ Bytes.crlf ++
        (body.trailers.flatMap (·.line ++ Bytes.crlf) ++ (Bytes.crlf ++ rest))) := by
    simp only [Chunked.encode, List.append_assoc]
  have last : State.ofSize 0 = .trailers := rfl
  rw [encoded, State.ofFraming, drain_chunks, drain_goOn (move_sizeLine body.last (by decide) _),
    last, drain_trailers]
  simp [Drained.after]

/-- A body whose chunk and first trailer look like other parts of a body. -/
def lookalike : Chunked where
  chunks := [{
    data := Bytes.ofText "0\r\n\r\n5;\r\nx"
    size := {
      digits := Bytes.ofText "00A"
      extension := some (Bytes.ofText "a=b;\r")
      filled := by decide
      hex := List.all_eq_true.mp rfl
      spells := rfl
      unbroken := by decide
      short := by decide }
    filled := by decide
    small := by decide }]
  last := {
    digits := Bytes.ofText "000"
    extension := none
    filled := by decide
    hex := List.all_eq_true.mp rfl
    spells := rfl
    unbroken := by decide
    short := by decide }
  trailers := [⟨Bytes.ofText "\r", by decide, by decide, by decide⟩]

theorem drain_encode_lookalike :
    drain (.ofFraming .chunked)
        (Bytes.ofText "00A;a=b;\r\r\n0\r\n\r\n5;\r\nx\r\n000\r\n\r\r\n\r\n0\r\n\r\n") =
      ⟨[Bytes.ofText "0\r\n\r\n5;\r\nx"], .finished, .done, Bytes.ofText "0\r\n\r\n"⟩ := by
  have encoded : lookalike.encode ++ Bytes.ofText "0\r\n\r\n" =
      Bytes.ofText "00A;a=b;\r\r\n0\r\n\r\n5;\r\nx\r\n000\r\n\r\r\n\r\n0\r\n\r\n" := by
    decide
  rw [← encoded]
  exact drain_encode lookalike (Bytes.ofText "0\r\n\r\n")

end Body
end HttpServer
