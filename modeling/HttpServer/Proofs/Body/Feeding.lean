import HttpServer.Proofs.Body.Draining

/-! A body that arrives in segments. How it is cut into segments does not matter, but for
one case: a cut between the two end octets of a line of the greatest length, which makes the
decoder refuse a line that it takes when it comes in one piece. -/
namespace HttpServer.Body

/-- What feeding segments to a decoder comes to; the segments after the one that ended or
broke the body are left unfed. -/
structure Fed extends Drained where
  unfed : List Bytes

namespace Fed

def after (pieces : List Bytes) (fed : Fed) : Fed := { fed with pieces := pieces ++ fed.pieces }

@[simp] theorem payload_after (pieces : List Bytes) (fed : Fed) :
    (fed.after pieces).payload = pieces.flatten ++ fed.payload := List.flatten_append

def unread (fed : Fed) : Bytes := fed.rest ++ fed.unfed.flatten

structure Alike (first second : Fed) : Prop where
  payload : first.payload = second.payload
  stop : first.stop = second.stop
  unread : first.unread = second.unread

theorem Alike.refl (fed : Fed) : Alike fed fed := ⟨rfl, rfl, rfl⟩

theorem Alike.trans {first second third : Fed} (h : Alike first second)
    (g : Alike second third) : Alike first third :=
  ⟨h.payload.trans g.payload, h.stop.trans g.stop, h.unread.trans g.unread⟩

theorem Alike.symm {first second : Fed} (h : Alike first second) : Alike second first :=
  ⟨h.payload.symm, h.stop.symm, h.unread.symm⟩

/-- A feeding agrees with draining the whole body at once: in the data and in the outcome,
and in the unread octets if the body has ended. -/
structure Agrees (fed : Fed) (whole : Drained) : Prop where
  payload : fed.payload = whole.payload
  stop : fed.stop = whole.stop
  unread : fed.stop = .finished → fed.unread = whole.rest

end Fed

/-- Feeds segments one after another, draining after each, as long as more is needed. -/
def feed (state : State) (buffer : Bytes) : List Bytes → Fed
  | [] => ⟨⟨[], .needMore, state, buffer⟩, []⟩
  | segment :: more =>
      let drained := drain state (buffer ++ segment)
      match drained.stop with
      | .needMore => (feed drained.state drained.rest more).after drained.pieces
      | _ => ⟨drained, more⟩

def Drained.feedOn (drained : Drained) (more : List Bytes) : Fed :=
  match drained.stop with
  | .needMore => (feed drained.state drained.rest more).after drained.pieces
  | _ => ⟨drained, more⟩

theorem feed_cons (state : State) (buffer segment : Bytes) (more : List Bytes) :
    feed state buffer (segment :: more) = (drain state (buffer ++ segment)).feedOn more := rfl

namespace Drained

theorem feedOn_waiting {drained : Drained} (waits : drained.stop = .needMore)
    (more : List Bytes) : drained.feedOn more =
      (feed drained.state drained.rest more).after drained.pieces := by
  rw [feedOn, waits]

theorem feedOn_stopped {drained : Drained} (stopped : drained.stop ≠ .needMore)
    (more : List Bytes) : drained.feedOn more = ⟨drained, more⟩ := by
  unfold feedOn
  split
  · next waits => exact False.elim (stopped waits)
  · rfl

/-- Feeding what comes after a run of the decoder, the data of the run itself left out. -/
def beyond (drained : Drained) (more : List Bytes) : Fed :=
  match drained.stop with
  | .needMore => feed drained.state drained.rest more
  | _ => ⟨{ drained with pieces := [] }, more⟩

theorem after_beyond (drained : Drained) (more : List Bytes) :
    (drained.beyond more).after drained.pieces = drained.feedOn more := by
  unfold beyond feedOn
  split
  · rfl
  · simp only [Fed.after, List.append_nil]

theorem feedOn_after (pieces : List Bytes) (drained : Drained) (more : List Bytes) :
    (drained.after pieces).feedOn more = (drained.feedOn more).after pieces := by
  by_cases waits : drained.stop = .needMore
  · rw [feedOn_waiting waits, @feedOn_waiting (drained.after pieces) waits]
    simp only [after, Fed.after, List.append_assoc]
  · rw [feedOn_stopped waits, @feedOn_stopped (drained.after pieces) waits]
    rfl

theorem Alike.feedOn {first second : Drained} (h : Alike first second) (more : List Bytes) :
    (first.feedOn more).Alike (second.feedOn more) := by
  by_cases waits : first.stop = .needMore
  · rw [feedOn_waiting waits, feedOn_waiting (h.stop ▸ waits), h.state, h.rest]
    refine ⟨?_, rfl, rfl⟩
    rw [Fed.payload_after, Fed.payload_after]
    exact congrArg (· ++ _) h.payload
  · rw [feedOn_stopped waits, feedOn_stopped (h.stop ▸ waits)]
    refine ⟨h.payload, h.stop, ?_⟩
    simp only [Fed.unread, h.rest]

theorem feedOn_nil (drained : Drained) : (drained.feedOn []).Alike ⟨drained, []⟩ := by
  by_cases waits : drained.stop = .needMore
  · rw [feedOn_waiting waits]
    refine ⟨?_, waits.symm, rfl⟩
    rw [Fed.payload_after]
    exact List.append_nil _
  · rw [feedOn_stopped waits]
    exact .refl _

theorem feedOn_resume (drained : Drained) (segment : Bytes) (more : List Bytes) :
    ((drained.resume segment).feedOn more).Alike (drained.feedOn (segment :: more)) := by
  by_cases waits : drained.stop = .needMore
  · rw [resume_waiting waits, feedOn_after, feedOn_waiting waits, feed_cons]
    exact .refl _
  · rw [resume_stopped waits, feedOn_stopped waits,
      @feedOn_stopped { drained with rest := drained.rest ++ segment } waits]
    refine ⟨rfl, rfl, ?_⟩
    simp only [Fed.unread, List.flatten_cons, List.append_assoc]

end Drained

/-- Feeding segments comes to draining them all at once, or it fails at a full line that is
cut. The induction joins the first two segments. -/
theorem feed_alike_or_cut (state : State) (first : Bytes) (more : List Bytes) :
    (feed state [] (first :: more)).Alike ⟨drain state (first :: more).flatten, []⟩ ∨
      ∃ before early late, first :: more = early ++ late ∧
        CutsFullLine state before early.flatten late.flatten ∧
        (feed state [] (first :: more)).stop = .failed .invalidFraming ∧
        (feed state [] (first :: more)).payload = (drain state before).payload := by
  induction more generalizing first with
  | nil =>
      rw [feed_cons, List.flatten_singleton]
      exact .inl (Drained.feedOn_nil _)
  | cons second more ih =>
      rcases drain_append state first second with alike | ⟨before, cut, fails⟩
      · have joined : (feed state [] (first :: second :: more)).Alike
            (feed state [] ((first ++ second) :: more)) :=
          ((Drained.feedOn_resume (drain state first) second more).symm).trans
            (alike.feedOn more).symm
        have flat : ((first ++ second) :: more).flatten = (first :: second :: more).flatten := by
          simp only [List.flatten_cons, List.append_assoc]
        rw [← flat, joined.stop, joined.payload]
        refine (ih (first ++ second)).imp joined.trans ?_
        rintro ⟨before, early, late, split, cut, stop, payload⟩
        cases early with
        | nil => exact False.elim (cut.nonempty rfl)
        | cons segment early =>
            obtain ⟨rfl, rfl⟩ := List.cons.inj split
            refine ⟨before, first :: second :: early, late, rfl, ?_, stop, payload⟩
            simpa only [List.flatten_cons, List.append_assoc] using cut
      · have stopped : (drain state first).stop ≠ .needMore := by
          rw [fails.stop]
          exact Stop.noConfusion
        rw [feed_cons, List.nil_append, Drained.feedOn_stopped stopped]
        refine .inr ⟨before, [first], second :: more, rfl, ?_, fails.stop, fails.payload⟩
        rw [List.flatten_singleton]
        exact cut.append more.flatten

theorem feed_append {early : List Bytes} {state : State} {buffer : Bytes}
    (stopped : (feed state buffer early).stop ≠ .needMore) (late : List Bytes) :
    feed state buffer (early ++ late) =
      { feed state buffer early with unfed := (feed state buffer early).unfed ++ late } := by
  induction early generalizing state buffer with
  | nil => exact False.elim (stopped rfl)
  | cons segment early ih =>
      rw [List.cons_append, feed_cons, feed_cons] at *
      by_cases waits : (drain state (buffer ++ segment)).stop = .needMore
      · rw [Drained.feedOn_waiting waits] at stopped ⊢
        rw [Drained.feedOn_waiting waits, ih stopped]
        rfl
      · rw [Drained.feedOn_stopped waits, Drained.feedOn_stopped waits]

theorem CutsFullLine.before_prefix {state : State} {before₁ early₁ late₁ before₂ late₂ : Bytes}
    (first : CutsFullLine state before₁ early₁ late₁)
    (second : CutsFullLine state before₂ (early₁ ++ late₁) late₂) : before₁ <+: before₂ := by
  obtain ⟨tail₁, rfl, ends₁⟩ := first.line
  obtain ⟨tail₂, same, ends₂⟩ := second.line
  obtain ⟨line₁, rfl, length₁⟩ := ends₁.line
  obtain ⟨line₂, rfl, length₂⟩ := ends₂.line
  have lengths := congrArg List.length same
  simp only [List.length_append, List.length_singleton] at lengths
  have starts : before₁ <+: before₂ ++ (line₂ ++ [13]) := by
    rw [← same, List.append_assoc]
    exact List.prefix_append _ _
  exact List.prefix_of_prefix_length_le starts (List.prefix_append _ _) (by omega)

/-- A full line is cut that the octets together get past: they do not fail with the data
that come before that line. -/
def LosesFullLine (state : State) (segments : List Bytes) : Prop :=
  ∃ before early late, segments = early ++ late ∧
    CutsFullLine state before early.flatten late.flatten ∧
    ¬ FailsAfter state before segments.flatten

theorem failsAfter_of_agrees {state : State} {before : Bytes} {early late : List Bytes}
    (cut : CutsFullLine state before early.flatten late.flatten)
    (agrees : (feed state [] (early ++ late)).Agrees (drain state (early ++ late).flatten)) :
    FailsAfter state before (early ++ late).flatten := by
  have stops {data : Bytes} (stop : (feed state [] early).stop = .failed .invalidFraming)
      (payload : (feed state [] early).payload = data) :
      (drain state (early ++ late).flatten).stop = .failed .invalidFraming ∧
        (drain state (early ++ late).flatten).payload = data := by
    have stopped : (feed state [] early).stop ≠ .needMore := by
      rw [stop]
      exact Stop.noConfusion
    rw [feed_append stopped] at agrees
    exact ⟨agrees.stop.symm.trans stop, agrees.payload.symm.trans payload⟩
  cases early with
  | nil => exact False.elim (cut.nonempty rfl)
  | cons segment rest =>
      rcases feed_alike_or_cut state segment rest with alike |
        ⟨before₁, early₁, late₁, split, cut₁, stop, payload⟩
      · obtain ⟨stop, payload⟩ :=
          stops (alike.stop.trans cut.fails.stop) (alike.payload.trans cut.fails.payload)
        exact ⟨stop, payload⟩
      · -- An earlier line is cut: the data before the later one lie between equal data.
        obtain ⟨stop, payload⟩ := stops stop payload
        refine ⟨stop, payload.trans ?_⟩
        rw [split, List.flatten_append] at cut
        obtain ⟨tail, rfl⟩ := cut₁.before_prefix cut
        have lower := payload_prefix cut₁.awaits.waits tail
        obtain ⟨line, same, _⟩ := cut.line
        have upper := payload_prefix cut.awaits.waits (line ++ late.flatten)
        rw [← List.append_assoc, ← same, ← List.flatten_append, ← split, ← List.flatten_append,
          payload] at upper
        exact lower.eq_of_length_le upper.length_le

/-- The feeding of segments agrees with draining them all at once, if and only if no cut
loses a full line. -/
theorem feed_agrees_iff (framing : Framing) (first : Bytes) (more : List Bytes) :
    (feed (.ofFraming framing) [] (first :: more)).Agrees
      (drain (.ofFraming framing) (first :: more).flatten) ↔
        ¬ LosesFullLine (.ofFraming framing) (first :: more) := by
  constructor
  · rintro agrees ⟨before, early, late, split, cut, passes⟩
    rw [split] at agrees passes
    exact passes (failsAfter_of_agrees cut agrees)
  · intro keeps
    rcases feed_alike_or_cut (.ofFraming framing) first more with alike |
      ⟨before, early, late, split, cut, stop, payload⟩
    · exact ⟨alike.payload, alike.stop, fun _ => alike.unread.trans (List.append_nil _)⟩
    · have fails : FailsAfter (.ofFraming framing) before (first :: more).flatten := by
        apply Classical.byContradiction
        intro passes
        exact keeps ⟨before, early, late, split, cut, passes⟩
      refine ⟨payload.trans fails.payload.symm, stop.trans fails.stop.symm, ?_⟩
      intro finished
      rw [stop] at finished
      cases finished

/-- A size line of the greatest length, which declares the last chunk. -/
def fullLine : Bytes := 48 :: 59 :: List.replicate 4094 120

theorem not_mem_fullLine : 10 ∉ fullLine := by
  simp only [fullLine, List.mem_cons, List.mem_replicate]
  decide

theorem fullLine_length : fullLine.length = maxLine := by
  simp only [fullLine, List.length_cons, List.length_replicate, maxLine]

theorem chunkSize_fullLine : chunkSize fullLine = some 0 := by
  have digits : fullLine.takeWhile (· != 59) = Bytes.ofText "0" := by
    simp only [fullLine, List.takeWhile_cons]
    decide
  rw [chunkSize, digits, Bytes.text?_ofText]
  decide

theorem drain_fullLine :
    (drain (.ofFraming .chunked) (fullLine ++ Bytes.crlf ++ Bytes.crlf)).stop = .finished := by
  have size : move .chunkSize (fullLine ++ Bytes.crlf ++ Bytes.crlf) =
      .goOn .trailers Bytes.crlf := by
    simp only [move, takeLine_crlf not_mem_fullLine (Nat.le_of_eq fullLine_length),
      chunkSize_fullLine]
    rfl
  have trailers : move .trailers Bytes.crlf = .goOn .done [] := rfl
  rw [State.ofFraming, drain_goOn size, drain_goOn trailers, drain_stop rfl]

/-- The same body is refused if the line is cut before its line feed. -/
theorem not_agrees_of_cut_fullLine :
    ¬ (feed (.ofFraming .chunked) [] [fullLine ++ [13], [10, 13, 10]]).Agrees
      (drain (.ofFraming .chunked) [fullLine ++ [13], [10, 13, 10]].flatten) := by
  have missing : 10 ∉ fullLine ++ [13] := by
    simp [not_mem_fullLine]
  have ends : EndsInFullLine (fullLine ++ [13]) [10, 13, 10] :=
    ⟨⟨fullLine, rfl, fullLine_length⟩, Bytes.position?_eq_none_of_not_mem (by decide) missing, rfl⟩
  have refused : (feed (.ofFraming .chunked) [] [fullLine ++ [13], [10, 13, 10]]).stop =
      .failed .invalidFraming := by
    rw [feed_cons, State.ofFraming, List.nil_append,
      drain_stop (@move_of_tooLong .chunkSize trivial _ ends.tooLong)]
    rfl
  have ended : (drain (.ofFraming .chunked) [fullLine ++ [13], [10, 13, 10]].flatten).stop =
      .finished := by
    have joined : [fullLine ++ [13], [10, 13, 10]].flatten = fullLine ++ Bytes.crlf ++ Bytes.crlf := by
      simp [Bytes.crlf]
    rw [joined, drain_fullLine]
  intro agrees
  have same := agrees.stop
  rw [refused, ended] at same
  cases same

end HttpServer.Body
