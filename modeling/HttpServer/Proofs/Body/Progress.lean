import HttpServer.Proofs.Body.Payload
import HttpServer.Proofs.Numerals
import Mathlib.Data.List.Induction

/-! The progress of the body decoder, whatever octets come. A call ends, since every move that reports
nothing shortens the buffer; what it takes, it takes from the front of the buffer; and what it gives
as data has come last out of there. So no octet is lost or given twice, and a body of declared length
is given octet by octet up to the last one that is declared, and no further. -/
namespace HttpServer.Body

/-- So many moves lead from a state with a buffer to what is reported. -/
inductive Runs : Nat → State → Bytes → Event × State × Bytes → Prop
  | report {state next buffer rest event} (moved : move state buffer = .report event next rest) :
      Runs 1 state buffer (event, next, rest)
  | goOn {moves state next buffer rest reported}
      (moved : move state buffer = .goOn next rest) (later : Runs moves next rest reported) :
      Runs (moves + 1) state buffer reported

/-- The octets that are still due of a counted run. -/
def State.left : State → Nat
  | .counted left => left
  | .chunkData left _ => left
  | .chunkSize | .chunkEnd | .trailers | .done => 0

theorem left_inChunk (left : Nat) : (State.inChunk left).left = left := by
  rw [State.inChunk]
  split
  · rfl
  · next none => exact (Nat.eq_zero_of_not_pos none).symm

theorem left_ofSize (size : Nat) : (State.ofSize size).left = size := by
  rw [State.ofSize]
  split
  · rfl
  · next none => exact (Nat.eq_zero_of_not_pos none).symm

def Event.octets : Event → Bytes
  | .data octets => octets
  | .stop _ => []

/-- What the decoder waits for has not come: any octet of the data, the end of a line, or the two
octets at the end of a chunk. -/
def State.Lacks : State → Bytes → Prop
  | .counted left, buffer => 0 < left ∧ buffer = []
  | .chunkData _ _, buffer => buffer = []
  | .chunkSize, buffer | .trailers, buffer =>
      buffer.length ≤ maxLine ∧ ¬ Bytes.crlf <:+: buffer
  | .chunkEnd, buffer => buffer.length < 2
  | .done, _ => False

theorem takeLine_eq_incomplete {buffer : Bytes} (waits : takeLine buffer = .incomplete) :
    buffer.length ≤ maxLine ∧ ¬ Bytes.crlf <:+: buffer := by
  rw [takeLine] at waits
  split at waits
  · split at waits <;> cases waits
  · next missing =>
    split at waits
    · cases waits
    · next short => exact ⟨Nat.le_of_not_lt short, Bytes.not_infix_of_positionFrom missing⟩

theorem chunkSize_le {line : Bytes} {size : Nat} (read : chunkSize line = some size) :
    size ≤ Numeral.max64 := by
  obtain ⟨text, -, read⟩ := Option.bind_eq_some_iff.mp read
  cases number : Numeral.natural 16 Numeral.max64 (Text.trim text) with
  | error fault =>
      rw [number] at read
      cases read
  | ok n =>
      rw [number] at read
      cases read
      obtain ⟨_, _, _, _, _, _, fits⟩ := (Numeral.natural_eq_ok_iff (by decide)).mp number
      exact fits

theorem take_due {left : Nat} {buffer : Bytes} (pos : 0 < left) (nonempty : buffer ≠ []) :
    buffer.take left ≠ [] ∧ buffer = buffer.take left ++ buffer.drop left ∧
      left = (buffer.take left).length + (left - (buffer.take left).length) := by
  refine ⟨?_, (List.take_append_drop left buffer).symm, ?_⟩
  · rw [Ne, List.take_eq_nil_iff, not_or]
    exact ⟨Nat.ne_of_gt pos, nonempty⟩
  · exact (Nat.add_sub_of_le (List.length_take_le left buffer)).symm

section Moves

variable {state next : State} {buffer rest : Bytes} {event : Event}

/-- A piece of data is not empty and comes from the front of the buffer; what was due is this piece
and what is due after it. -/
theorem move_piece {piece : Bytes} (moved : move state buffer = .report (.data piece) next rest) :
    piece ≠ [] ∧ buffer = piece ++ rest ∧ state.left = piece.length + next.left := by
  unfold move at moved
  split at moved <;> try cases moved
  · next left positive nonempty => exact take_due (Nat.pos_of_ne_zero positive) nonempty
  · split at moved <;> try cases moved
    split at moved <;> cases moved
  · next left pos nonempty =>
    rw [left_inChunk]
    exact take_due pos nonempty
  · split at moved <;> try cases moved
    split at moved <;> cases moved

/-- Where the data stop, the decoder stays as it is or has come to the end of the body, and no more
than a size line has been taken. -/
theorem move_stop {stop : Stop} (moved : move state buffer = .report (.stop stop) next rest) :
    (next = state ∨ next = .done) ∧ rest <:+ buffer := by
  unfold move at moved
  split at moved <;> try (cases moved; exact ⟨.inl rfl, List.suffix_refl _⟩)
  · cases moved
    exact ⟨.inr rfl, List.suffix_refl _⟩
  · cases moved
  · split at moved
    · cases moved
      exact ⟨.inl rfl, List.suffix_refl _⟩
    · cases moved
      exact ⟨.inl rfl, List.suffix_refl _⟩
    · next line after taken =>
      split at moved <;> cases moved
      obtain ⟨same, -⟩ := takeLine_line taken
      exact ⟨.inl rfl, _, same.symm⟩
  · cases moved
  · cases moved
  · split at moved
    · cases moved
      exact ⟨.inl rfl, List.suffix_refl _⟩
    · cases moved
      exact ⟨.inl rfl, List.suffix_refl _⟩
    · split at moved <;> cases moved

theorem move_lacks (moved : move state buffer = .report (.stop .needMore) next rest) :
    next.Lacks rest := by
  unfold move at moved
  split at moved <;> try cases moved
  · next positive => exact ⟨Nat.pos_of_ne_zero positive, rfl⟩
  · split at moved
    · next waits =>
      cases moved
      exact takeLine_eq_incomplete waits
    · cases moved
    · split at moved <;> cases moved
  · exact rfl
  · exact Nat.zero_lt_two
  · exact Nat.one_lt_two
  · split at moved
    · next waits =>
      cases moved
      exact takeLine_eq_incomplete waits
    · cases moved
    · split at moved <;> cases moved

theorem suffix_of_goOn (moved : move state buffer = .goOn next rest) : rest <:+ buffer := by
  obtain ⟨used, same, -⟩ := move_goOn moved
  exact ⟨used, same.symm⟩

/-- No more is ever due than before, but after a size line, which declares a number of 64 bits. -/
theorem left_of_goOn (moved : move state buffer = .goOn next rest) : next.left ≤ Numeral.max64 := by
  unfold move at moved
  split at moved <;> try cases moved
  · split at moved
    · cases moved
    · cases moved
    · split at moved
      · next size read =>
        cases moved
        rw [left_ofSize]
        exact chunkSize_le read
      · cases moved
  · exact Nat.zero_le _
  · split at moved
    · cases moved
    · cases moved
    · split at moved <;> cases moved <;> exact Nat.zero_le _

theorem left_of_report (moved : move state buffer = .report event next rest) :
    next.left ≤ state.left := by
  cases event with
  | data piece =>
      rw [(move_piece moved).2.2]
      exact Nat.le_add_left _ _
  | stop stop =>
      obtain ⟨rfl | rfl, -⟩ := move_stop moved
      · exact Nat.le_refl _
      · exact Nat.zero_le _

end Moves

section Calls

variable {state next : State} {buffer rest : Bytes}

theorem runs_decode (state : State) (buffer : Bytes) :
    ∃ moves ≤ buffer.length + 1, Runs moves state buffer (decode state buffer) := by
  fun_induction decode state buffer with
  | case1 state buffer event next rest moved =>
      exact ⟨1, Nat.le_add_left _ _, .report moved⟩
  | case2 state buffer next rest moved ih =>
      obtain ⟨moves, few, later⟩ := ih
      exact ⟨moves + 1, Nat.succ_le_succ (Nat.le_trans few (move_shorter moved)),
        .goOn moved later⟩

theorem decode_takes (state : State) (buffer : Bytes) :
    (decode state buffer).1.octets ++ (decode state buffer).2.2 <:+ buffer := by
  fun_induction decode state buffer with
  | case1 state buffer event next rest moved =>
      cases event with
      | data piece => exact (move_piece moved).2.1 ▸ List.suffix_refl _
      | stop stop => exact (move_stop moved).2
  | case2 state buffer next rest moved ih => exact ih.trans (suffix_of_goOn moved)

theorem decode_piece {piece : Bytes} (decoded : decode state buffer = (.data piece, next, rest)) :
    piece ≠ [] := by
  fun_induction decode state buffer with
  | case1 state buffer event after left moved =>
      cases decoded
      exact (move_piece moved).1
  | case2 state buffer after left moved ih => exact ih decoded

theorem decode_needMore (decoded : decode state buffer = (.stop .needMore, next, rest)) :
    next.Lacks rest ∧ decode next rest = (.stop .needMore, next, rest) := by
  fun_induction decode state buffer with
  | case1 state buffer event after left moved =>
      cases decoded
      have lacks := move_lacks moved
      obtain ⟨rfl, rfl⟩ := move_needMore moved
      exact ⟨lacks, decode_report moved⟩
  | case2 state buffer after left moved ih => exact ih decoded

theorem left_decode (state : State) (buffer : Bytes) :
    (decode state buffer).2.1.left ≤ max state.left Numeral.max64 := by
  fun_induction decode state buffer with
  | case1 state buffer event next rest moved =>
      exact Nat.le_trans (left_of_report moved) (Nat.le_max_left _ _)
  | case2 state buffer next rest moved ih =>
      exact Nat.le_trans ih (Nat.max_le.mpr
        ⟨Nat.le_trans (left_of_goOn moved) (Nat.le_max_right _ _), Nat.le_max_right _ _⟩)

theorem length_pieces_drain (state : State) (buffer : Bytes) :
    (drain state buffer).pieces.length + (drain state buffer).rest.length ≤ buffer.length := by
  induction state, buffer using drain_induction with
  | goOn moved ih =>
      rw [drain_goOn moved]
      exact Nat.le_trans ih (Nat.le_of_lt (move_shorter moved))
  | data moved ih =>
      have shorter := move_data_shorter moved
      rw [drain_data moved]
      simp only [Drained.after, List.length_append, List.length_singleton]
      omega
  | stop moved =>
      rw [drain_stop moved]
      exact Nat.le_trans (Nat.le_of_eq (Nat.zero_add _)) (move_stop moved).2.length_le

/-- How a call of the decoder proceeds. -/
structure Proceeds (state : State) (buffer : Bytes) : Prop where
  /-- It ends after so many moves at most. -/
  ends : ∃ moves ≤ buffer.length + 1, Runs moves state buffer (decode state buffer)
  /-- It takes octets from the front of the buffer, the data that it gives last. -/
  takes : ∃ skipped, buffer =
    skipped ++ (decode state buffer).1.octets ++ (decode state buffer).2.2
  /-- The data that it gives are not empty. -/
  filled : ∀ piece, (decode state buffer).1 = .data piece → piece ≠ []
  /-- If it needs more, what it waits for has not come; another call takes nothing, and needs more
  again. -/
  waits : ∀ next rest, decode state buffer = (.stop .needMore, next, rest) →
    next.Lacks rest ∧ decode next rest = (.stop .needMore, next, rest)
  /-- A move that gives data gives no more than are due, and the others stay due. -/
  due : ∀ piece next rest, move state buffer = .report (.data piece) next rest →
    state.left = piece.length + next.left
  /-- Calls go on to give data for no more times than there are octets in the buffer. -/
  drains : (drain state buffer).pieces.length ≤ buffer.length

theorem proceeds (state : State) (buffer : Bytes) : Proceeds state buffer where
  ends := runs_decode state buffer
  takes := by
    obtain ⟨skipped, same⟩ := decode_takes state buffer
    exact ⟨skipped, by rw [List.append_assoc, same]⟩
  filled piece given := decode_piece (Prod.ext given rfl)
  waits _ _ decoded := decode_needMore decoded
  due _ _ _ moved := (move_piece moved).2.2
  drains := Nat.le_trans (Nat.le_add_right _ _) (length_pieces_drain state buffer)

end Calls

/-- What happens to a decoder: octets come into its buffer, or it is called. -/
inductive Turn where
  | feed (octets : Bytes)
  | call
  deriving DecidableEq, Repr

/-- A decoder and its buffer, with all octets that have come and all data that have been given. -/
structure Session where
  state : State
  buffer : Bytes := []
  fed : Bytes := []
  data : Bytes := []

namespace Session

def take (session : Session) : Turn → Session
  | .feed octets =>
      { session with buffer := session.buffer ++ octets, fed := session.fed ++ octets }
  | .call =>
      let (event, state, rest) := decode session.state session.buffer
      { session with state, buffer := rest, data := session.data ++ event.octets }

def after (framing : Framing) (turns : List Turn) : Session :=
  turns.foldl take { state := .ofFraming framing }

theorem after_snoc (framing : Framing) (turns : List Turn) (turn : Turn) :
    after framing (turns ++ [turn]) = (after framing turns).take turn := by
  rw [after, List.foldl_append]
  rfl

theorem after_induction {framing : Framing} {motive : Session → Prop}
    (new : motive { state := .ofFraming framing })
    (kept : ∀ session turn, motive session → motive (session.take turn)) (turns : List Turn) :
    motive (after framing turns) := by
  induction turns using List.reverseRecOn with
  | nil => exact new
  | append_singleton turns turn ih =>
      rw [after_snoc]
      exact kept _ turn ih

section Turns

variable {session : Session} {octets : Nat}

theorem take_call {event : Event} {next : State} {rest : Bytes}
    (decoded : decode session.state session.buffer = (event, next, rest)) :
    session.take .call =
      { session with state := next, buffer := rest, data := session.data ++ event.octets } := by
  rw [take, decoded]

/-- The octets that have come are those that have been taken, with the data among them in their
order, and those in the buffer. -/
def Shares (session : Session) : Prop :=
  ∃ taken, session.fed = taken ++ session.buffer ∧ session.data.Sublist taken

theorem Shares.take (shares : session.Shares) (turn : Turn) : (session.take turn).Shares := by
  obtain ⟨taken, fed, among⟩ := shares
  cases turn with
  | feed more => exact ⟨taken, by rw [Session.take, fed, List.append_assoc], among⟩
  | call =>
      obtain ⟨skipped, same⟩ := decode_takes session.state session.buffer
      refine ⟨taken ++ (skipped ++ (decode session.state session.buffer).1.octets), ?_, ?_⟩
      · rw [take_call rfl, List.append_assoc, List.append_assoc skipped, same]
        exact fed
      · exact among.append (List.sublist_append_right skipped _)

theorem left_take (turn : Turn) :
    (session.take turn).state.left ≤ max session.state.left Numeral.max64 := by
  cases turn with
  | feed more => exact Nat.le_max_left _ _
  | call => exact left_decode session.state session.buffer

/-- A body of so many octets as it is read: what has been taken has been given, and the others are
due. -/
structure Counts (octets : Nat) (session : Session) : Prop where
  within : session.data.length ≤ octets
  fed : session.fed = session.data ++ session.buffer
  state : session.state = .counted (octets - session.data.length) ∨
    session.state = .done ∧ session.data.length = octets

theorem Counts.decode_full (counts : session.Counts octets)
    (full : session.data.length = octets) :
    decode session.state session.buffer = (.stop .finished, .done, session.buffer) := by
  obtain counted | ⟨done, -⟩ := counts.state
  · rw [counted, full, Nat.sub_self]
    exact decode_report rfl
  · rw [done]
    exact decode_report rfl

theorem Counts.state_due (counts : session.Counts octets)
    (due : session.data.length < octets) :
    session.state = .counted (octets - session.data.length) := by
  obtain counted | ⟨-, full⟩ := counts.state
  · exact counted
  · exact absurd full (Nat.ne_of_lt due)

theorem Counts.decode_empty (counts : session.Counts octets)
    (due : session.data.length < octets) (empty : session.buffer = []) :
    decode session.state session.buffer = (.stop .needMore, session.state, session.buffer) := by
  rw [counts.state_due due, empty]
  exact decode_report (passes_counted.wait (Nat.sub_pos_of_lt due))

theorem Counts.decode_due (counts : session.Counts octets)
    (due : session.data.length < octets) (nonempty : session.buffer ≠ []) :
    let due := octets - session.data.length
    let piece := session.buffer.take due
    session.data.length + piece.length ≤ octets ∧
      decode session.state session.buffer =
        (.data piece, .counted (octets - (session.data.length + piece.length)),
          session.buffer.drop due) := by
  intro left piece
  have pos : 0 < left := Nat.sub_pos_of_lt due
  have short : piece.length ≤ left := List.length_take_le _ _
  refine ⟨by omega, ?_⟩
  rw [counts.state_due due, Nat.sub_add_eq]
  exact decode_report (passes_counted.data pos nonempty)

theorem Counts.take (counts : session.Counts octets) (turn : Turn) :
    (session.take turn).Counts octets := by
  cases turn with
  | feed more =>
      refine ⟨counts.within, ?_, counts.state⟩
      rw [Session.take, counts.fed, List.append_assoc]
  | call =>
      -- A call finds octets that are due, none yet of those that are, or none due any more.
      by_cases due : session.data.length < octets
      · by_cases empty : session.buffer = []
        · rw [take_call (counts.decode_empty due empty), Event.octets, List.append_nil]
          exact counts
        · obtain ⟨fits, decoded⟩ := counts.decode_due due empty
          rw [take_call decoded]
          refine ⟨?_, ?_, .inl ?_⟩
          · rw [Event.octets, List.length_append]
            exact fits
          · rw [Event.octets, List.append_assoc, List.take_append_drop]
            exact counts.fed
          · rw [Event.octets, List.length_append]
      · have full := Nat.le_antisymm counts.within (Nat.le_of_not_lt due)
        rw [take_call (counts.decode_full full), Event.octets, List.append_nil]
        exact ⟨counts.within, counts.fed, .inr ⟨rfl, full⟩⟩

theorem Counts.finished_iff (counts : session.Counts octets) :
    (decode session.state session.buffer).1 = .stop .finished ↔ session.data.length = octets := by
  constructor
  · intro finished
    by_contra short
    have due := Nat.lt_of_le_of_ne counts.within short
    by_cases empty : session.buffer = []
    · rw [counts.decode_empty due empty] at finished
      cases finished
    · rw [(counts.decode_due due empty).2] at finished
      cases finished
  · intro full
    rw [counts.decode_full full]

/-- What holds of a session at all times. -/
structure Conserves (framing : Framing) (session : Session) : Prop where
  /-- No octet is lost, put in another place or given twice. -/
  shares : session.Shares
  /-- What is due of a counted run fits in 64 bits, if the declared length does. -/
  left_le : session.state.left ≤ max (State.ofFraming framing).left Numeral.max64
  /-- Of a body of declared length no more octets are given than declared; what is given is all that
  has been taken; and the end is reported if and only if all are given. -/
  counts : ∀ octets, framing = .length octets →
    session.data.length ≤ octets ∧ session.fed = session.data ++ session.buffer ∧
      ((decode session.state session.buffer).1 = .stop .finished ↔ session.data.length = octets)
  /-- As long as octets are due of it, a call gives those that there are. -/
  gives : ∀ octets, framing = .length octets → session.data.length < octets →
    session.buffer ≠ [] →
      let due := octets - session.data.length
      ∃ next, decode session.state session.buffer =
        (.data (session.buffer.take due), next, session.buffer.drop due)

theorem shares_after (framing : Framing) (turns : List Turn) : (after framing turns).Shares :=
  after_induction ⟨[], rfl, List.Sublist.refl _⟩ (fun _ turn shares => shares.take turn) turns

theorem left_after (framing : Framing) (turns : List Turn) :
    (after framing turns).state.left ≤ max (State.ofFraming framing).left Numeral.max64 := by
  induction turns using List.reverseRecOn with
  | nil => exact Nat.le_max_left _ _
  | append_singleton turns turn ih =>
      rw [after_snoc]
      exact Nat.le_trans (left_take turn) (Nat.max_le.mpr ⟨ih, Nat.le_max_right _ _⟩)

theorem counts_after (octets : Nat) (turns : List Turn) :
    (after (.length octets) turns).Counts octets :=
  after_induction ⟨Nat.zero_le _, rfl, .inl rfl⟩ (fun _ turn counts => counts.take turn) turns

theorem conserves (framing : Framing) (turns : List Turn) :
    (after framing turns).Conserves framing where
  shares := shares_after framing turns
  left_le := left_after framing turns
  counts octets is := by
    subst is
    have counts := counts_after octets turns
    exact ⟨counts.within, counts.fed, counts.finished_iff⟩
  gives octets is due nonempty := by
    subst is
    exact ⟨_, ((counts_after octets turns).decode_due due nonempty).2⟩

end Turns

end Session

/-- Whatever octets come, each call of a decoder makes progress, and at all times the octets that have
come are conserved. -/
theorem progresses (framing : Framing) (turns : List Turn) :
    (∀ state buffer, Proceeds state buffer) ∧ (Session.after framing turns).Conserves framing :=
  ⟨proceeds, Session.conserves framing turns⟩

end HttpServer.Body
