import HttpServer.Framing

/-! Reading a body piece by piece. A chunked body alternates between size lines
and data; the lines after its last chunk are read and dropped. -/
namespace HttpServer

namespace Body

/-- Where in a body the next octet belongs. -/
inductive State where
  | counted (left : Nat)
  | chunkSize
  | chunkData (left : Nat) (pos : 0 < left)
  | chunkEnd
  | trailers
  | done
  deriving DecidableEq, Repr

def State.ofFraming : Framing → State
  | .empty => .done
  | .length octets => .counted octets
  | .chunked => .chunkSize

/-- Why there are no more data for the time being. -/
inductive Stop where
  | needMore
  | finished
  | failed (reason : ParseError)
  deriving DecidableEq, Repr

inductive Event where
  | data (octets : Bytes)
  | stop (stop : Stop)
  deriving DecidableEq, Repr

/-- The longest size or trailer line, its line end left out. -/
def maxLine : Nat := 4096

inductive Line where
  | incomplete
  | tooLong
  | line (octets rest : Bytes)
  deriving DecidableEq, Repr

/-- Takes a line that ends in carriage return and line feed. -/
def takeLine (buffer : Bytes) : Line :=
  match Bytes.position? Bytes.crlf buffer with
  | some size =>
      if maxLine < size then .tooLong else .line (buffer.take size) (buffer.drop (size + 2))
  | none => if maxLine < buffer.length then .tooLong else .incomplete

/-- The size that a chunk's first line declares before any semicolon. -/
def chunkSize (line : Bytes) : Option Nat := do
  let text ← Bytes.text? (line.takeWhile (· != 59))
  (Numeral.natural 16 Numeral.max64 (Text.trim text)).toOption

def State.ofSize (size : Nat) : State :=
  if pos : 0 < size then .chunkData size pos else .trailers

/-- The state after some octets of a chunk, `left` more being due. -/
def State.inChunk (left : Nat) : State :=
  if pos : 0 < left then .chunkData left pos else .chunkEnd

/-- One move of the decoder: it reports an event or reads on in another state. -/
inductive Move where
  | report (event : Event) (state : State) (rest : Bytes)
  | goOn (state : State) (rest : Bytes)

def move : State → Bytes → Move
  | .done, buffer => .report (.stop .finished) .done buffer
  | .counted 0, buffer => .report (.stop .finished) .done buffer
  | .counted left, [] => .report (.stop .needMore) (.counted left) []
  | .counted left, buffer =>
      let piece := buffer.take left
      .report (.data piece) (.counted (left - piece.length)) (buffer.drop left)
  | .chunkSize, buffer =>
      match takeLine buffer with
      | .incomplete => .report (.stop .needMore) .chunkSize buffer
      | .tooLong => .report (.stop (.failed .invalidFraming)) .chunkSize buffer
      | .line line rest =>
          match chunkSize line with
          | some size => .goOn (.ofSize size) rest
          | none => .report (.stop (.failed .invalidFraming)) .chunkSize rest
  | .chunkData left pos, [] => .report (.stop .needMore) (.chunkData left pos) []
  | .chunkData left _, buffer =>
      let piece := buffer.take left
      .report (.data piece) (.inChunk (left - piece.length)) (buffer.drop left)
  | .chunkEnd, 13 :: 10 :: rest => .goOn .chunkSize rest
  | .chunkEnd, [] => .report (.stop .needMore) .chunkEnd []
  | .chunkEnd, [b] => .report (.stop .needMore) .chunkEnd [b]
  | .chunkEnd, buffer => .report (.stop (.failed .invalidFraming)) .chunkEnd buffer
  | .trailers, buffer =>
      match takeLine buffer with
      | .incomplete => .report (.stop .needMore) .trailers buffer
      | .tooLong => .report (.stop (.failed .invalidFraming)) .trailers buffer
      | .line line rest => if line.isEmpty then .goOn .done rest else .goOn .trailers rest

theorem positionFrom_lt {mark : Bytes} (nonempty : mark ≠ []) {buffer : Bytes} {offset size : Nat}
    (found : Bytes.positionFrom mark offset buffer = some size) :
    size + mark.length ≤ offset + buffer.length := by
  induction buffer generalizing offset with
  | nil => simp [Bytes.positionFrom, nonempty] at found
  | cons b rest ih =>
    unfold Bytes.positionFrom at found
    split at found
    · next starts =>
      cases found
      have := (List.isPrefixOf_iff_prefix.mp starts).length_le
      omega
    · have := ih found
      simp only [List.length_cons]
      omega

theorem takeLine_shorter {buffer line rest : Bytes} (h : takeLine buffer = .line line rest) :
    rest.length < buffer.length := by
  unfold takeLine at h
  split at h
  · next size found =>
    have := positionFrom_lt (by decide) found
    split at h
    · cases h
    · cases h
      simp only [Bytes.crlf, List.length_cons, List.length_nil, List.length_drop] at *
      omega
  · split at h <;> cases h

theorem move_shorter {state next : State} {buffer rest : Bytes}
    (h : move state buffer = .goOn next rest) : rest.length < buffer.length := by
  unfold move at h
  split at h <;> try cases h
  · split at h
    · cases h
    · cases h
    · next line after taken =>
      split at h
      · cases h
        exact takeLine_shorter taken
      · cases h
  · simp only [List.length_cons]
    omega
  · split at h
    · cases h
    · cases h
    · next line after taken =>
      split at h <;> cases h <;> exact takeLine_shorter taken

/-- Reads up to the next event, and gives the state and the buffer after it. -/
def decode (state : State) (buffer : Bytes) : Event × State × Bytes :=
  match _moved : move state buffer with
  | .report event next rest => (event, next, rest)
  | .goOn next rest => decode next rest
termination_by buffer.length
decreasing_by exact move_shorter ‹_›

theorem move_data_shorter {state next : State} {buffer piece rest : Bytes}
    (h : move state buffer = .report (.data piece) next rest) : rest.length < buffer.length := by
  unfold move at h
  split at h <;> try cases h
  · next left positive nonempty =>
    cases buffer with
    | nil => exact absurd rfl nonempty
    | cons b bytes =>
      have pos : 0 < left := Nat.pos_of_ne_zero positive
      simp only [List.length_drop, List.length_cons]
      omega
  · split at h <;> try cases h
    split at h <;> cases h
  · next left pos nonempty =>
    cases buffer with
    | nil => exact absurd rfl nonempty
    | cons b bytes =>
      simp only [List.length_drop, List.length_cons]
      omega
  · split at h <;> try cases h
    split at h <;> cases h

theorem decode_data_shorter {state next : State} {buffer piece rest : Bytes}
    (h : decode state buffer = (.data piece, next, rest)) : rest.length < buffer.length := by
  fun_induction decode state buffer with
  | case1 state buffer event after left moved =>
    cases h
    exact move_data_shorter moved
  | case2 state buffer after left moved ih => exact Nat.lt_trans (ih h) (move_shorter moved)

/-- Everything that a buffer yields: the pieces of data, what stops them, and the
state and the buffer at that point. -/
structure Drained where
  pieces : List Bytes
  stop : Stop
  state : State
  rest : Bytes
  deriving DecidableEq, Repr

def drain (state : State) (buffer : Bytes) : Drained :=
  match _decoded : decode state buffer with
  | (.data piece, next, rest) =>
      let after := drain next rest
      { after with pieces := piece :: after.pieces }
  | (.stop stop, next, rest) => ⟨[], stop, next, rest⟩
termination_by buffer.length
decreasing_by exact decode_data_shorter ‹_›

end Body
end HttpServer
