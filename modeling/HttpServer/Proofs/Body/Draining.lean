import HttpServer.Proofs.Body.Moves

/-! Draining a buffer to which more octets come: it resumes where it stopped. The one
exception is a line of the greatest length that is cut between its two end octets. There
draining has failed, where the octets together go on. -/
namespace HttpServer.Body

namespace Drained

def payload (drained : Drained) : Bytes := drained.pieces.flatten

def after (pieces : List Bytes) (drained : Drained) : Drained :=
  { drained with pieces := pieces ++ drained.pieces }

@[simp] theorem payload_after (pieces : List Bytes) (drained : Drained) :
    (drained.after pieces).payload = pieces.flatten ++ drained.payload := List.flatten_append

@[simp] theorem stop_after (pieces : List Bytes) (drained : Drained) :
    (drained.after pieces).stop = drained.stop := rfl

/-- Two runs that differ at most in the pieces into which they cut the same data. -/
structure Alike (first second : Drained) : Prop where
  payload : first.payload = second.payload
  stop : first.stop = second.stop
  state : first.state = second.state
  rest : first.rest = second.rest

theorem Alike.refl (drained : Drained) : Alike drained drained := ⟨rfl, rfl, rfl, rfl⟩

theorem Alike.after {first second : Drained} (h : Alike first second) (pieces : List Bytes) :
    Alike (first.after pieces) (second.after pieces) := by
  refine ⟨?_, h.stop, h.state, h.rest⟩
  rw [payload_after, payload_after, h.payload]

end Drained

theorem drain_goOn {state next : State} {buffer rest : Bytes}
    (h : move state buffer = .goOn next rest) : drain state buffer = drain next rest := by
  have same : decode state buffer = decode next rest := by
    rw [decode]
    split
    · next moved => rw [h] at moved; cases moved
    · next moved => rw [h] at moved; cases moved; rfl
  rw [drain, same]
  conv => rhs; rw [drain]

theorem decode_report {state next : State} {buffer rest : Bytes} {event : Event}
    (h : move state buffer = .report event next rest) :
    decode state buffer = (event, next, rest) := by
  rw [decode]
  split
  · next moved => rw [h] at moved; cases moved; rfl
  · next moved => rw [h] at moved; cases moved

theorem drain_data {state next : State} {buffer piece rest : Bytes}
    (h : move state buffer = .report (.data piece) next rest) :
    drain state buffer = (drain next rest).after [piece] := by
  rw [drain]
  split
  · next decoded => rw [decode_report h] at decoded; cases decoded; rfl
  · next decoded => rw [decode_report h] at decoded; cases decoded

theorem drain_stop {state next : State} {buffer rest : Bytes} {stop : Stop}
    (h : move state buffer = .report (.stop stop) next rest) :
    drain state buffer = ⟨[], stop, next, rest⟩ := by
  rw [drain]
  split
  · next decoded => rw [decode_report h] at decoded; cases decoded
  · next decoded => rw [decode_report h] at decoded; cases decoded; rfl

theorem drain_induction {motive : State → Bytes → Prop}
    (goOn : ∀ {state next buffer rest}, move state buffer = .goOn next rest →
      motive next rest → motive state buffer)
    (data : ∀ {state next buffer piece rest},
      move state buffer = .report (.data piece) next rest →
      motive next rest → motive state buffer)
    (stop : ∀ {state next buffer stop rest},
      move state buffer = .report (.stop stop) next rest → motive state buffer)
    (state : State) (buffer : Bytes) : motive state buffer := by
  induction size : buffer.length using Nat.strongRecOn generalizing state buffer with
  | ind n ih =>
      subst size
      cases moved : move state buffer with
      | goOn next rest => exact goOn moved (ih _ (move_shorter moved) next rest rfl)
      | report event next rest =>
          cases event with
          | data piece => exact data moved (ih _ (move_data_shorter moved) next rest rfl)
          | stop => exact stop moved

/-- Drains on when more octets have come. What has finished or failed stays as it is, and
the octets are left unread. -/
def Drained.resume (drained : Drained) (more : Bytes) : Drained :=
  match drained.stop with
  | .needMore => (drain drained.state (drained.rest ++ more)).after drained.pieces
  | _ => { drained with rest := drained.rest ++ more }

theorem Drained.resume_waiting {drained : Drained} (waits : drained.stop = .needMore)
    (more : Bytes) : drained.resume more =
      (drain drained.state (drained.rest ++ more)).after drained.pieces := by
  rw [resume, waits]

theorem Drained.resume_stopped {drained : Drained} (stopped : drained.stop ≠ .needMore)
    (more : Bytes) : drained.resume more = { drained with rest := drained.rest ++ more } := by
  unfold resume
  split
  · next waits => exact False.elim (stopped waits)
  · rfl

theorem Drained.resume_after (pieces : List Bytes) (drained : Drained) (more : Bytes) :
    (drained.after pieces).resume more = (drained.resume more).after pieces := by
  unfold resume
  cases h : drained.stop <;> simp only [after, h, List.append_assoc]

/-- After `before`, all of which is taken in, a line is due. -/
structure AwaitsLine (state : State) (before : Bytes) : Prop where
  waits : (drain state before).stop = .needMore
  line : (drain state before).state.AwaitsLine
  empty : (drain state before).rest = []

/-- Octets are cut between the two end octets of a line of the greatest length, which is
due after `before`. -/
structure CutsFullLine (state : State) (before early late : Bytes) : Prop where
  awaits : AwaitsLine state before
  line : ∃ tail, early = before ++ tail ∧ EndsInFullLine tail late

theorem CutsFullLine.nonempty {state : State} {before early late : Bytes}
    (cut : CutsFullLine state before early late) : early ≠ [] := by
  obtain ⟨tail, rfl, ends⟩ := cut.line
  obtain ⟨line, rfl, _⟩ := ends.line
  simp only [ne_eq, List.append_eq_nil_iff, List.cons_ne_nil, and_false, not_false_eq_true]

theorem CutsFullLine.append {state : State} {before early late : Bytes}
    (cut : CutsFullLine state before early late) (more : Bytes) :
    CutsFullLine state before early (late ++ more) := by
  obtain ⟨tail, same, ends⟩ := cut.line
  refine ⟨cut.awaits, tail, same, ends.line, ends.unbroken, ?_⟩
  rw [List.head?_append, ends.next]
  rfl

/-- Draining fails with no more data than it had after `before`. -/
structure FailsAfter (state : State) (before buffer : Bytes) : Prop where
  stop : (drain state buffer).stop = .failed .invalidFraming
  payload : (drain state buffer).payload = (drain state before).payload

theorem drain_passing {after : Nat → State} (passes : Passes after) {left : Nat} {buffer : Bytes}
    (short : buffer.length < left) (nonempty : buffer ≠ []) :
    drain (after left) buffer = ⟨[buffer], .needMore, after (left - buffer.length), []⟩ := by
  rw [drain_data (passes.data (by omega) nonempty), List.take_of_length_le (by omega),
    List.drop_eq_nil_of_le (by omega), drain_stop (passes.wait (by omega))]
  rfl

theorem drain_passing_full {after : Nat → State} (passes : Passes after) {left : Nat}
    (pos : 0 < left) {piece : Bytes} (full : piece.length = left) (tail : Bytes) :
    drain (after left) (piece ++ tail) = (drain (after 0) tail).after [piece] := by
  have nonempty : piece ++ tail ≠ [] :=
    List.append_ne_nil_of_left_ne_nil (List.length_pos_iff.mp (full ▸ pos)) tail
  rw [drain_data (passes.data pos nonempty), List.take_left' full, List.drop_left' full, full,
    Nat.sub_self]

theorem drain_passing_append {after : Nat → State} (passes : Passes after) {left : Nat}
    {buffer : Bytes} (short : buffer.length < left) (nonempty : buffer ≠ []) (more : Bytes) :
    (drain (after left) (buffer ++ more)).Alike ((drain (after left) buffer).resume more) := by
  rw [drain_passing passes short nonempty]
  cases more with
  | nil =>
      rw [List.append_nil, drain_passing passes short nonempty]
      simp only [Drained.resume, List.append_nil, drain_stop (passes.wait (Nat.sub_pos_of_lt short))]
      exact .refl _
  | cons b more =>
      simp only [Drained.resume, List.nil_append]
      have due : 0 < left - buffer.length := Nat.sub_pos_of_lt short
      rw [drain_data (passes.data (by omega) (List.append_ne_nil_of_left_ne_nil nonempty _)),
        drain_data (passes.data due (List.cons_ne_nil b more)), List.take_append,
        List.drop_append, List.take_of_length_le (by omega), List.drop_eq_nil_of_le (by omega),
        List.nil_append, List.length_append, Nat.sub_add_eq]
      refine ⟨?_, rfl, rfl, rfl⟩
      simp only [Drained.payload_after, List.flatten_cons, List.flatten_nil, List.append_nil,
        List.append_assoc]

theorem drain_nil {state : State} (line : state.AwaitsLine) :
    drain state [] = ⟨[], .needMore, state, []⟩ := by
  cases state with
  | chunkSize => exact drain_stop rfl
  | trailers => exact drain_stop rfl
  | counted | chunkData | chunkEnd | done => exact False.elim line

theorem awaitsLine_nil {state : State} (line : state.AwaitsLine) : AwaitsLine state [] := by
  constructor <;> rw [drain_nil line]
  exact line

theorem CutsFullLine.of_drain {state next : State} {used rest more before : Bytes}
    (pieces : List Bytes) (same : ∀ tail, drain state (used ++ tail) = (drain next tail).after pieces)
    (cut : CutsFullLine next before rest more) (fails : FailsAfter next before rest) :
    CutsFullLine state (used ++ before) (used ++ rest) more ∧
      FailsAfter state (used ++ before) (used ++ rest) := by
  obtain ⟨tail, rfl, ends⟩ := cut.line
  refine ⟨⟨⟨?_, ?_, ?_⟩, tail, (List.append_assoc _ _ _).symm, ends⟩, ?_, ?_⟩
  · rw [same]
    exact cut.awaits.waits
  · rw [same]
    exact cut.awaits.line
  · rw [same]
    exact cut.awaits.empty
  · rw [same]
    exact fails.stop
  · rw [same, same, Drained.payload_after, Drained.payload_after, fails.payload]

/-- Draining resumes where it stopped, unless it failed at a full line that is cut. -/
theorem drain_append (state : State) (buffer more : Bytes) :
    (drain state (buffer ++ more)).Alike ((drain state buffer).resume more) ∨
      ∃ before, CutsFullLine state before buffer more ∧ FailsAfter state before buffer := by
  -- Only a run that stops can tell the two apart; the moves before it are the same in both.
  induction state, buffer using drain_induction with
  | goOn moved ih =>
      obtain ⟨used, rfl, again⟩ := move_goOn moved
      rw [List.append_assoc, drain_goOn (again _), drain_goOn (again _)]
      refine ih.imp id ?_
      rintro ⟨before, cut, fails⟩
      exact ⟨_, CutsFullLine.of_drain [] (fun tail => drain_goOn (again tail)) cut fails⟩
  | @data _ _ buffer _ _ moved ih =>
      obtain ⟨after, left, passes, pos, rfl, nonempty, rfl, rfl, rfl⟩ := move_data moved
      by_cases full : left ≤ buffer.length
      · have length : (buffer.take left).length = left := by
          rw [List.length_take]
          omega
        have same := drain_passing_full passes pos length
        rw [length, Nat.sub_self] at ih
        rw [← List.take_append_drop left buffer, List.append_assoc, same, same,
          Drained.resume_after]
        refine ih.imp (fun alike => alike.after _) ?_
        rintro ⟨before, cut, fails⟩
        exact ⟨_, CutsFullLine.of_drain _ same cut fails⟩
      · exact .inl (drain_passing_append passes (Nat.lt_of_not_le full) nonempty more)
  | @stop state _ buffer stop rest moved =>
      rw [drain_stop moved]
      cases stop with
      | needMore =>
          obtain ⟨rfl, rfl⟩ := move_needMore moved
          exact .inl (.refl _)
      | finished =>
          rw [drain_stop (move_finished moved more)]
          exact .inl (.refl _)
      | failed reason =>
          obtain ⟨rfl, again | ⟨line, ends⟩⟩ := move_failed moved more
          · rw [drain_stop again]
            exact .inl (.refl _)
          · refine .inr ⟨[], ⟨awaitsLine_nil line, buffer, rfl, ends⟩, ?_, ?_⟩
            · rw [drain_stop moved]
            · rw [drain_stop moved, drain_nil line]
              rfl

theorem payload_prefix {state : State} {buffer : Bytes}
    (waits : (drain state buffer).stop = .needMore) (more : Bytes) :
    (drain state buffer).payload <+: (drain state (buffer ++ more)).payload := by
  rcases drain_append state buffer more with alike | ⟨before, _, fails⟩
  · rw [alike.payload, Drained.resume_waiting waits, Drained.payload_after]
    exact List.prefix_append _ _
  · have failed := fails.stop
    rw [waits] at failed
    cases failed

/-- At a full line that is cut, draining always fails. -/
theorem CutsFullLine.fails {state : State} {before early late : Bytes}
    (cut : CutsFullLine state before early late) : FailsAfter state before early := by
  obtain ⟨tail, rfl, ends⟩ := cut.line
  rcases drain_append state before tail with alike | ⟨_, _, fails⟩
  · rw [Drained.resume_waiting cut.awaits.waits, cut.awaits.empty, List.nil_append,
      drain_stop (move_of_tooLong cut.awaits.line ends.tooLong)] at alike
    refine ⟨alike.stop, alike.payload.trans ?_⟩
    rw [Drained.payload_after]
    exact List.append_nil _
  · have failed := fails.stop
    rw [cut.awaits.waits] at failed
    cases failed

end HttpServer.Body
