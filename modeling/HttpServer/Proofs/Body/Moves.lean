import HttpServer.Body
import HttpServer.Proofs.Search

/-! The single moves of the body decoder on a buffer to which more octets come. What a
move takes out of a buffer settles that move, whatever follows. The one exception is a line
of the greatest length that is cut between its two end octets: it is refused as too long. -/
namespace HttpServer.Body

theorem takeLine_line {buffer line rest : Bytes} (h : takeLine buffer = .line line rest) :
    buffer = line ++ Bytes.crlf ++ rest ∧
      ∀ more, takeLine (line ++ Bytes.crlf ++ more) = .line line more := by
  unfold takeLine at h
  split at h
  · next size found =>
    split at h
    · cases h
    · next short =>
      cases h
      have first := (Bytes.position?_eq_some_iff (by decide)).mp found
      refine ⟨first.divides, ?_⟩
      intro more
      have again := first.replace (by decide) more
      have length : (buffer.take size).length = size := by
        have := first.fits (by decide)
        rw [List.length_take]
        omega
      unfold takeLine
      rw [(Bytes.position?_eq_some_iff (by decide)).mpr again]
      simp only [short, if_false]
      congr 1
      · rw [List.append_assoc, List.take_append_of_le_length (Nat.le_of_eq length.symm), List.take_take, Nat.min_self]
      · have : size + 2 = (buffer.take size ++ Bytes.crlf).length := by
          rw [List.length_append, length]
          rfl
        rw [this, List.drop_left]
  · split at h <;> cases h

theorem takeLine_crlf {line : Bytes} (unbroken : 10 ∉ line) (short : line.length ≤ maxLine)
    (rest : Bytes) : takeLine (line ++ Bytes.crlf ++ rest) = .line line rest := by
  unfold takeLine
  rw [(Bytes.position?_eq_some_iff (by decide)).mpr (Bytes.firstAt_crlf unbroken rest)]
  simp only [Nat.not_lt_of_le short, if_false]
  rw [List.append_assoc, List.take_left, ← List.drop_drop, List.drop_left]
  rfl

/-- A buffer ends between the two end octets of a line of the greatest length. -/
structure EndsInFullLine (buffer more : Bytes) : Prop where
  line : ∃ line, buffer = line ++ [13] ∧ line.length = maxLine
  unbroken : Bytes.position? Bytes.crlf buffer = none
  next : more.head? = some 10

theorem EndsInFullLine.tooLong {buffer more : Bytes} (ends : EndsInFullLine buffer more) :
    takeLine buffer = .tooLong := by
  obtain ⟨line, rfl, length⟩ := ends.line
  unfold takeLine
  rw [ends.unbroken]
  simp only [List.length_append, List.length_singleton, length, Nat.lt_add_one, if_true]

theorem endsInFullLine_of_firstAt {buffer more : Bytes} (length : buffer.length = maxLine + 1)
    (missing : Bytes.position? Bytes.crlf buffer = none)
    (found : Bytes.FirstAt Bytes.crlf (buffer ++ more) maxLine) : EndsInFullLine buffer more := by
  have here := found.here
  rw [List.drop_append_of_le_length (by omega)] at here
  obtain ⟨last, single⟩ : ∃ last, buffer.drop maxLine = [last] := by
    apply List.length_eq_one_iff.mp
    rw [List.length_drop]
    omega
  rw [single, Bytes.crlf, List.singleton_append, List.cons_prefix_cons] at here
  obtain ⟨rfl, follows⟩ := here
  refine ⟨⟨buffer.take maxLine, ?_, ?_⟩, missing, ?_⟩
  · rw [← single, List.take_append_drop]
  · rw [List.length_take]
    omega
  · cases more with
    | nil => simp at follows
    | cons b more =>
        rw [List.cons_prefix_cons] at follows
        rw [List.head?_cons, ← follows.1]

/-- A line that is too long stays so, unless only its line feed was missing. -/
theorem takeLine_tooLong {buffer : Bytes} (h : takeLine buffer = .tooLong) (more : Bytes) :
    takeLine (buffer ++ more) = .tooLong ∨ EndsInFullLine buffer more := by
  unfold takeLine at h
  split at h
  · next size found =>
    split at h
    · next long =>
      left
      unfold takeLine
      rw [Bytes.position?_append (by decide) found more]
      simp only [long, if_true]
    · cases h
  · next missing =>
    split at h
    · next long =>
      unfold takeLine
      cases found : Bytes.position? Bytes.crlf (buffer ++ more) with
      | none =>
          left
          have : maxLine < (buffer ++ more).length := by
            rw [List.length_append]
            omega
          simp only [this, if_true]
      | some size =>
          by_cases exceeded : maxLine < size
          · left
            simp only [exceeded, if_true]
          · right
            have reach := Bytes.position?_append_of_none (by decide) missing found
            have first := (Bytes.position?_eq_some_iff (by decide)).mp found
            simp only [Bytes.crlf, List.length_cons, List.length_nil] at reach
            have last : size = maxLine := by omega
            subst last
            exact endsInFullLine_of_firstAt (by omega) missing first
    · cases h

/-- States that pass a counted run of octets on as data. -/
structure Passes (after : Nat → State) : Prop where
  data : ∀ {left buffer}, 0 < left → buffer ≠ [] → move (after left) buffer =
    .report (.data (buffer.take left)) (after (left - (buffer.take left).length)) (buffer.drop left)
  wait : ∀ {left}, 0 < left → move (after left) [] = .report (.stop .needMore) (after left) []

theorem passes_counted : Passes .counted := by
  constructor
  · intro left buffer pos nonempty
    obtain ⟨left, rfl⟩ := Nat.exists_eq_add_one.mpr pos
    cases buffer with
    | nil => exact False.elim (nonempty rfl)
    | cons b buffer => rfl
  · intro left pos
    obtain ⟨left, rfl⟩ := Nat.exists_eq_add_one.mpr pos
    rfl

theorem inChunk_pos {left : Nat} (pos : 0 < left) : State.inChunk left = .chunkData left pos :=
  dif_pos pos

theorem passes_inChunk : Passes .inChunk := by
  constructor
  · intro left buffer pos nonempty
    rw [inChunk_pos pos]
    cases buffer with
    | nil => exact False.elim (nonempty rfl)
    | cons b buffer => rfl
  · intro left pos
    rw [inChunk_pos pos]
    rfl

/-- States in which a line is due: a size line or a line after the last chunk. -/
def State.AwaitsLine : State → Prop
  | .chunkSize | .trailers => True
  | _ => False

theorem move_data {state next : State} {buffer piece rest : Bytes}
    (h : move state buffer = .report (.data piece) next rest) :
    ∃ after left, Passes after ∧ 0 < left ∧ state = after left ∧ buffer ≠ [] ∧
      piece = buffer.take left ∧ next = after (left - piece.length) ∧ rest = buffer.drop left := by
  unfold move at h
  split at h <;> try cases h
  · next left positive nonempty =>
    exact ⟨.counted, left, passes_counted, Nat.pos_of_ne_zero positive, rfl, nonempty, rfl, rfl, rfl⟩
  · split at h <;> try cases h
    split at h <;> cases h
  · next left pos nonempty =>
    exact ⟨.inChunk, left, passes_inChunk, pos, (inChunk_pos pos).symm, nonempty, rfl, rfl, rfl⟩
  · split at h <;> try cases h
    split at h <;> cases h

theorem move_goOn {state next : State} {buffer rest : Bytes}
    (h : move state buffer = .goOn next rest) :
    ∃ used, buffer = used ++ rest ∧ ∀ more, move state (used ++ more) = .goOn next more := by
  unfold move at h
  split at h <;> try cases h
  · split at h
    · cases h
    · cases h
    · next line after taken =>
      split at h
      · next size read =>
        cases h
        obtain ⟨same, again⟩ := takeLine_line taken
        refine ⟨line ++ Bytes.crlf, same, ?_⟩
        intro more
        simp only [move, again more, read]
      · cases h
  · exact ⟨Bytes.crlf, rfl, fun _ => rfl⟩
  · split at h
    · cases h
    · cases h
    · next line after taken =>
      obtain ⟨same, again⟩ := takeLine_line taken
      refine ⟨line ++ Bytes.crlf, ?_⟩
      split at h <;> cases h
      · next empty => exact ⟨same, fun more => by simp only [move, again more, empty, if_true]⟩
      · next filled => exact ⟨same, fun more => by simp only [move, again more, filled]; rfl⟩

theorem move_needMore {state next : State} {buffer rest : Bytes}
    (h : move state buffer = .report (.stop .needMore) next rest) : next = state ∧ rest = buffer := by
  unfold move at h
  split at h <;> try (cases h; exact ⟨rfl, rfl⟩)
  all_goals try cases h
  all_goals
    split at h
    · cases h
      exact ⟨rfl, rfl⟩
    · cases h
    · split at h <;> cases h

theorem move_finished {state next : State} {buffer rest : Bytes}
    (h : move state buffer = .report (.stop .finished) next rest) (more : Bytes) :
    move state (buffer ++ more) = .report (.stop .finished) next (rest ++ more) := by
  unfold move at h
  split at h <;> try (cases h; rfl)
  all_goals try cases h
  all_goals
    split at h
    · cases h
    · cases h
    · split at h <;> cases h

theorem move_of_tooLong {state : State} (awaits : state.AwaitsLine) {buffer : Bytes}
    (long : takeLine buffer = .tooLong) :
    move state buffer = .report (.stop (.failed .invalidFraming)) state buffer := by
  cases state with
  | chunkSize => simp only [move, long]
  | trailers => simp only [move, long]
  | counted | chunkData | chunkEnd | done => exact False.elim awaits

theorem move_chunkEnd {b c : UInt8} (wrong : ¬(b = 13 ∧ c = 10)) (tail : Bytes) :
    move .chunkEnd (b :: c :: tail) =
      .report (.stop (.failed .invalidFraming)) .chunkEnd (b :: c :: tail) := by
  have other : ∀ rest, b :: c :: tail = 13 :: 10 :: rest → False := by
    rintro rest ⟨⟩
    exact wrong ⟨rfl, rfl⟩
  simp only [move]

/-- A refusal stays a refusal, unless it came of a line end that was cut. -/
theorem move_failed {state next : State} {buffer rest : Bytes} {reason : ParseError}
    (h : move state buffer = .report (.stop (.failed reason)) next rest) (more : Bytes) :
    reason = .invalidFraming ∧
      (move state (buffer ++ more) = .report (.stop (.failed reason)) next (rest ++ more) ∨
        state.AwaitsLine ∧ EndsInFullLine buffer more) := by
  unfold move at h
  split at h <;> try cases h
  · split at h
    · cases h
    · next long =>
      cases h
      refine ⟨rfl, (takeLine_tooLong long more).imp ?_ (fun cut => ⟨trivial, cut⟩)⟩
      exact @move_of_tooLong .chunkSize trivial _
    · next line after taken =>
      split at h
      · cases h
      · next unread =>
        cases h
        obtain ⟨same, again⟩ := takeLine_line taken
        refine ⟨rfl, .inl ?_⟩
        rw [same, List.append_assoc]
        simp only [move, again (rest ++ more), unread]
  · next other empty single =>
    refine ⟨rfl, .inl ?_⟩
    match buffer with
    | [] => exact False.elim (empty rfl)
    | [b] => exact False.elim (single b rfl)
    | b :: c :: tail =>
        simp only [List.cons_append]
        apply move_chunkEnd
        rintro ⟨rfl, rfl⟩
        exact other tail rfl
  · split at h
    · cases h
    · next long =>
      cases h
      refine ⟨rfl, (takeLine_tooLong long more).imp ?_ (fun cut => ⟨trivial, cut⟩)⟩
      exact @move_of_tooLong .trailers trivial _
    · split at h <;> cases h

end HttpServer.Body
