import HttpServer.Proofs.Connection.Callbacks

/-! How an upload handler receives a body: it is handed the pieces in their order until it
refuses one or panics, and it is asked for the answer only if it took them all and the body
has ended. The segments in which the body arrives play no other part. -/
namespace HttpServer

open Serving

variable {σ : Type}

/-- Handing over pieces ends with the first that is refused, or with the reception that
they leave behind. -/
inductive Hands (handler : UploadHandler σ) : handler.Reception → σ → List Bytes →
    List Call → Except Response handler.Reception → σ → Prop
  | nil {reception state} : Hands handler reception state [] [] (.ok reception) state
  | taken {reception state piece rest next mid notices calls result after}
      (ran : handler.chunk piece (state, reception) = ⟨some (.ok ()), (mid, next), notices⟩)
      (later : Hands handler next mid rest calls result after) :
      Hands handler reception state (piece :: rest) (.uploadChunk piece :: calls) result after
  | refused {reception state piece rest response left after notices}
      (ran : handler.chunk piece (state, reception) =
        ⟨some (.error response), (after, left), notices⟩) :
      Hands handler reception state (piece :: rest) [.uploadChunk piece] (.error response) after
  | panicked {reception state piece rest left after notices}
      (ran : handler.chunk piece (state, reception) = ⟨none, (after, left), notices⟩) :
      Hands handler reception state (piece :: rest) [.uploadChunk piece]
        (.error .internalError) after

variable {handler : UploadHandler σ} {reception : handler.Reception} {state after : σ}
  {pieces : List Bytes} {calls : List Call}

theorem Hands.yields {result : Except Response handler.Reception}
    (h : Hands handler reception state pieces calls result after) (uri : String) :
    (Dispatcher.handPieces handler uri reception pieces).Yields state calls (some result)
      after := by
  induction h with
  | nil => exact yields_pure _ _
  | taken ran later ih => exact (yields_holding ran _ .uploadSink uri).bind ih
  | refused ran => exact (yields_holding ran _ .uploadSink uri).bind_pure rfl
  | panicked ran => exact (yields_holding ran _ .uploadSink uri).bind_pure rfl

theorem exists_hands (handler : UploadHandler σ) (reception : handler.Reception) (state : σ)
    (pieces : List Bytes) :
    ∃ calls result after, Hands handler reception state pieces calls result after := by
  induction pieces generalizing reception state with
  | nil => exact ⟨_, _, _, .nil⟩
  | cons piece rest ih =>
      rcases ran : handler.chunk piece (state, reception) with ⟨taken, ⟨mid, next⟩, notices⟩
      match taken with
      | none => exact ⟨_, _, _, .panicked ran⟩
      | some (.error response) => exact ⟨_, _, _, .refused ran⟩
      | some (.ok ()) =>
          obtain ⟨calls, result, after, later⟩ := ih next mid
          exact ⟨_, result, after, .taken ran later⟩

theorem Hands.of_append {early late : List Bytes} {result : Except Response handler.Reception}
    (h : Hands handler reception state (early ++ late) calls result after) :
    (∃ response, Hands handler reception state early calls (.error response) after ∧
      result = .error response) ∨
    ∃ next mid earlier later, Hands handler reception state early earlier (.ok next) mid ∧
      Hands handler next mid late later result after ∧ calls = earlier ++ later := by
  induction early generalizing reception state calls with
  | nil => exact .inr ⟨reception, state, [], calls, .nil, h, rfl⟩
  | cons piece early ih =>
      cases h with
      | taken ran h =>
          rcases ih h with ⟨response, stops, same⟩ | ⟨next, mid, earlier, later, first, rest, rfl⟩
          · exact .inl ⟨response, .taken ran stops, same⟩
          · exact .inr ⟨next, mid, _ :: earlier, later, .taken ran first, rest, rfl⟩
      | refused ran => exact .inl ⟨_, .refused ran, rfl⟩
      | panicked ran => exact .inl ⟨_, .panicked ran, rfl⟩

theorem Hands.of_append_ok {early late : List Bytes} {last : handler.Reception}
    (h : Hands handler reception state (early ++ late) calls (.ok last) after) :
    ∃ next mid earlier later, Hands handler reception state early earlier (.ok next) mid ∧
      Hands handler next mid late later (.ok last) after ∧ calls = earlier ++ later := by
  rcases h.of_append with ⟨answer, stops, same⟩ | goesOn
  · cases same
  · exact goesOn

/-- Receiving a body comes to a response, or to silence if the body did not arrive whole. -/
inductive Receives (handler : UploadHandler σ) (response : Response) (fed : Body.Fed)
    (reception : handler.Reception) (state : σ) : List Call → Decision → σ → Prop
  | refused {calls answer after}
      (hands : Hands handler reception state fed.pieces calls (.error answer) after) :
      Receives handler response fed reception state calls (.reply answer) after
  | finished {calls last mid answer left after notices}
      (hands : Hands handler reception state fed.pieces calls (.ok last) mid)
      (whole : fed.stop = .finished)
      (ran : handler.finish response (mid, last) = ⟨some answer, (after, left), notices⟩) :
      Receives handler response fed reception state (calls ++ [.uploadFinish response])
        (.reply answer) after
  | panicked {calls last mid left after notices}
      (hands : Hands handler reception state fed.pieces calls (.ok last) mid)
      (whole : fed.stop = .finished)
      (ran : handler.finish response (mid, last) = ⟨none, (after, left), notices⟩) :
      Receives handler response fed reception state (calls ++ [.uploadFinish response])
        (.reply .internalError) after
  | malformed {calls last reason after}
      (hands : Hands handler reception state fed.pieces calls (.ok last) after)
      (broken : fed.stop = .failed reason) :
      Receives handler response fed reception state calls (.reply (.error reason.status)) after
  | starved {calls last after}
      (hands : Hands handler reception state fed.pieces calls (.ok last) after)
      (waits : fed.stop = .needMore) :
      Receives handler response fed reception state calls .silence after

variable {dispatcher : Dispatcher σ} {response : Response} {fed : Body.Fed} {decision : Decision}

theorem Receives.of_after
    (h : Receives handler response (fed.after pieces) reception state calls decision after) :
    (∃ answer, Hands handler reception state pieces calls (.error answer) after ∧
      decision = .reply answer) ∨
    ∃ next mid earlier later, Hands handler reception state pieces earlier (.ok next) mid ∧
      Receives handler response fed next mid later decision after ∧ calls = earlier ++ later := by
  cases h with
  | refused hands =>
      rcases hands.of_append with ⟨answer, stops, same⟩ | ⟨next, mid, earlier, later, first, rest, same⟩
      · cases same
        exact .inl ⟨_, stops, rfl⟩
      · exact .inr ⟨next, mid, earlier, later, first, .refused rest, same⟩
  | finished hands whole ran =>
      obtain ⟨next, mid, earlier, later, first, rest, rfl⟩ := hands.of_append_ok
      exact .inr ⟨next, mid, earlier, _, first, .finished rest whole ran, List.append_assoc _ _ _⟩
  | panicked hands whole ran =>
      obtain ⟨next, mid, earlier, later, first, rest, rfl⟩ := hands.of_append_ok
      exact .inr ⟨next, mid, earlier, _, first, .panicked rest whole ran, List.append_assoc _ _ _⟩
  | malformed hands broken =>
      obtain ⟨next, mid, earlier, later, first, rest, same⟩ := hands.of_append_ok
      exact .inr ⟨next, mid, earlier, later, first, .malformed rest broken, same⟩
  | starved hands waits =>
      obtain ⟨next, mid, earlier, later, first, rest, same⟩ := hands.of_append_ok
      exact .inr ⟨next, mid, earlier, later, first, .starved rest waits, same⟩

theorem exists_receives (handler : UploadHandler σ) (response : Response) (fed : Body.Fed)
    (reception : handler.Reception) (state : σ) :
    ∃ calls decision after, Receives handler response fed reception state calls decision after := by
  obtain ⟨calls, result, mid, hands⟩ := exists_hands handler reception state fed.pieces
  cases result with
  | error answer => exact ⟨_, _, _, .refused hands⟩
  | ok last =>
      cases stop : fed.stop with
      | needMore => exact ⟨_, _, _, .starved hands stop⟩
      | failed reason => exact ⟨_, _, _, .malformed hands stop⟩
      | finished =>
          rcases ran : handler.finish response (mid, last) with ⟨answer, ⟨after, left⟩, notices⟩
          cases answer with
          | none => exact ⟨_, _, _, .panicked hands stop ran⟩
          | some answer => exact ⟨_, _, _, .finished hands stop ran⟩

theorem Receives.finishUpload
    (h : Receives handler dispatcher.newResponse fed reception state calls decision after)
    (empty : fed.pieces = []) (whole : fed.stop = .finished) (uri : String) :
    (do return .reply (← dispatcher.finishUpload handler uri reception) :
      Serving σ Decision).Yields state calls (some decision) after := by
  have finishes {answer : Option Response} {left : handler.Reception} {after : σ}
      {notices : List Notice} {state : σ}
      (ran : handler.finish dispatcher.newResponse (state, reception) =
        ⟨answer, (after, left), notices⟩) :
      (dispatcher.finishUpload handler uri reception).Yields state
        [.uploadFinish dispatcher.newResponse] (some (answer.getD .internalError)) after := by
    refine (yields_holding ran _ .uploadSink uri).bind_pure ?_
    cases answer <;> rfl
  cases h with
  | refused hands =>
      rw [empty] at hands
      cases hands
  | finished hands whole ran =>
      rw [empty] at hands
      cases hands
      exact (finishes ran).bind_pure rfl
  | panicked hands whole ran =>
      rw [empty] at hands
      cases hands
      exact (finishes ran).bind_pure rfl
  | malformed hands broken =>
      rw [whole] at broken
      cases broken
  | starved hands waits =>
      rw [whole] at waits
      cases waits

theorem Receives.of_unfinished
    (h : Receives handler response fed reception state calls decision after)
    (empty : fed.pieces = []) (unfinished : fed.stop ≠ .finished) :
    calls = [] ∧ after = state ∧
      decision = match fed.stop with
        | .failed reason => .reply (.error reason.status)
        | _ => .silence := by
  cases h with
  | refused hands =>
      rw [empty] at hands
      cases hands
  | finished hands whole ran => exact absurd whole unfinished
  | panicked hands whole ran => exact absurd whole unfinished
  | malformed hands broken =>
      rw [empty] at hands
      cases hands
      exact ⟨rfl, rfl, by rw [broken]⟩
  | starved hands waits =>
      rw [empty] at hands
      cases hands
      exact ⟨rfl, rfl, by rw [waits]⟩

/-- After a run of the decoder whose pieces are taken, only a body that goes on has to wait
for its next segment. -/
theorem Receives.beyond {drained : Body.Drained} {segments : List Bytes}
    (h : Receives handler dispatcher.newResponse (drained.beyond segments) reception state calls
      decision after) (uri : String) {wait : Serving σ Decision}
    (waits : drained.stop = .needMore → wait.Yields state calls (some decision) after) :
    (match drained.stop with
      | .finished => do return .reply (← dispatcher.finishUpload handler uri reception)
      | .failed reason => return .reply (.error reason.status)
      | .needMore => wait : Serving σ Decision).Yields state calls (some decision) after := by
  cases stop : drained.stop with
  | needMore => exact waits stop
  | finished =>
      rw [Body.Drained.beyond, stop] at h
      exact h.finishUpload rfl rfl uri
  | failed reason =>
      rw [Body.Drained.beyond, stop] at h
      obtain ⟨rfl, rfl, rfl⟩ := h.of_unfinished rfl nofun
      exact yields_pure _ _

/-- An upload handler receives what the segments yield, and the answer does not depend on
how they yield it. -/
theorem Receives.yields {body : Body.State} {buffer : Bytes} {segments : List Bytes}
    (h : Receives handler dispatcher.newResponse ((Body.drain body buffer).feedOn segments)
      reception state calls decision after) (uri : String) :
    (dispatcher.receive handler uri reception body buffer segments).Yields state calls
      (some decision) after := by
  -- Each segment is one run of the decoder, so the pieces of the run are split off first, and
  -- what is beyond them is left to the induction.
  induction segments generalizing reception state body buffer calls with
  | nil =>
      rw [← Body.Drained.after_beyond] at h
      rw [Dispatcher.receive]
      rcases h.of_after with ⟨answer, refused, rfl⟩ | ⟨next, mid, earlier, later, taken, rest, rfl⟩
      · exact (refused.yields uri).bind_pure rfl
      · refine (taken.yields uri).bind (rest.beyond uri fun waits => ?_)
        rw [Body.Drained.beyond, waits] at rest
        obtain ⟨rfl, rfl, rfl⟩ := rest.of_unfinished rfl nofun
        exact yields_pure _ _
  | cons segment more ih =>
      rw [← Body.Drained.after_beyond] at h
      rw [Dispatcher.receive]
      rcases h.of_after with ⟨answer, refused, rfl⟩ | ⟨next, mid, earlier, later, taken, rest, rfl⟩
      · exact (refused.yields uri).bind_pure rfl
      · refine (taken.yields uri).bind (rest.beyond uri fun waits => ?_)
        rw [Body.Drained.beyond, waits] at rest
        exact ih rest

end HttpServer
