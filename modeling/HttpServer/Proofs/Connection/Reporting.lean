import HttpServer.Proofs.Connection.Replying

/-! What is reported while a connection is served: what callbacks report of their own, and one
report more for each of them that panics. -/
namespace HttpServer

open Serving

variable {σ : Type}

namespace Work

variable {α : Type} {state after : σ} {notices : List Notice}

theorem contain_value {work : Work σ α} {value : α}
    (ran : work state = ⟨some value, after, notices⟩) (callback : Callback) (uri : String) :
    contain callback uri work state = ⟨some (some value), after, notices⟩ := by
  rw [contain, ran]

theorem contain_panicked {work : Work σ α} (ran : work state = ⟨none, after, notices⟩)
    (callback : Callback) (uri : String) : contain callback uri work state =
      ⟨some none, after, notices ++ [.panicked callback uri]⟩ := by
  rw [contain, ran]

theorem amend_panicked {change : Work (σ × Response) Unit} {response left : Response}
    (ran : change (state, response) = ⟨none, (after, left), notices⟩) (callback : Callback)
    (uri : String) : amend callback uri change response state =
      ⟨some .internalError, after, notices ++ [.panicked callback uri]⟩ := by
  have contained := contain_panicked (holding_eq ran) callback uri
  show Work.bind _ _ state = _
  rw [Work.bind, contained]
  simp only [pure, Work.pure, List.append_nil]

end Work

namespace Serving

variable {α β : Type} {state mid after : σ} {notices later : List Notice}

/-- A part yields this value, if any, and this state, and makes these reports. -/
def Reports (part : Serving σ α) (state : σ) (value : Option α) (after : σ)
    (notices : List Notice) : Prop :=
  ∃ calls, part state = ⟨value, after, calls, notices⟩

theorem reports_pure (value : α) (state : σ) :
    (pure value : Serving σ α).Reports state (some value) state [] := ⟨[], rfl⟩

theorem Reports.bind {part : Serving σ α} {next : α → Serving σ β} {value : α}
    {result : Option β} (h : part.Reports state (some value) mid notices)
    (goesOn : (next value).Reports mid result after later) :
    (part >>= next).Reports state result after (notices ++ later) := by
  obtain ⟨calls, ran⟩ := h
  obtain ⟨more, ranNext⟩ := goesOn
  refine ⟨calls ++ more, ?_⟩
  show Serving.bind part next state = _
  rw [Serving.bind, ran]
  simp only [ranNext]

theorem Reports.bind_none {part : Serving σ α} (h : part.Reports state none after notices)
    (next : α → Serving σ β) : (part >>= next).Reports state none after notices := by
  obtain ⟨calls, ran⟩ := h
  refine ⟨calls, ?_⟩
  show Serving.bind part next state = _
  rw [Serving.bind, ran]

theorem Reports.bind_pure {part : Serving σ α} {next : α → Serving σ β} {value : α} {result : β}
    (h : part.Reports state (some value) after notices) (last : next value = pure result) :
    (part >>= next).Reports state (some result) after notices := by
  have both := h.bind (last ▸ reports_pure result after)
  rwa [List.append_nil] at both

theorem reports_perform {work : Work σ α} {value : Option α}
    (ran : work state = ⟨value, after, notices⟩) (calls : List Call) :
    (perform calls work).Reports state value after notices := by
  refine ⟨calls, ?_⟩
  rw [perform, ran]

section Containing

variable {work : Work σ α} (calls : List Call) (callback : Callback) (uri : String)

theorem reports_contained {value : α} (ran : work state = ⟨some value, after, notices⟩) :
    (perform calls (work.contain callback uri)).Reports state (some (some value)) after notices :=
  reports_perform (Work.contain_value ran callback uri) calls

/-- A contained panic is reported after all that was reported before it. -/
theorem reports_panicked (ran : work state = ⟨none, after, notices⟩) :
    (perform calls (work.contain callback uri)).Reports state (some none) after
      (notices ++ [.panicked callback uri]) :=
  reports_perform (Work.contain_panicked ran callback uri) calls

end Containing

end Serving

/-! A body is received as if all its pieces were there before the first is handed over. -/

namespace Dispatcher

variable {dispatcher : Dispatcher σ} {handler : UploadHandler σ} {reception : handler.Reception}
  {uri : String}

def settle (dispatcher : Dispatcher σ) (handler : UploadHandler σ) (uri : String)
    (reception : handler.Reception) : Body.Stop → Serving σ Decision
  | .finished => do return .reply (← dispatcher.finishUpload handler uri reception)
  | .failed reason => return .reply (.error reason.status)
  | .needMore => return .silence

def receiveFed (dispatcher : Dispatcher σ) (handler : UploadHandler σ) (uri : String)
    (reception : handler.Reception) (fed : Body.Fed) : Serving σ Decision := do
  match ← handPieces handler uri reception fed.pieces with
  | .error response => return .reply response
  | .ok last => dispatcher.settle handler uri last fed.stop

theorem handPieces_append (early late : List Bytes) :
    handPieces handler uri reception (early ++ late) =
      (do match ← handPieces handler uri reception early with
          | .error response => return .error response
          | .ok next => handPieces handler uri next late) := by
  induction early generalizing reception with
  | nil => rw [List.nil_append, handPieces, pure_bind]
  | cons piece early ih =>
      rw [List.cons_append, handPieces, handPieces, bind_assoc]
      congr 1
      funext taken
      match taken with
      | none => rw [pure_bind]
      | some (.error response, _) => rw [pure_bind]
      | some (.ok (), next) => exact ih

theorem receiveFed_after (pieces : List Bytes) (fed : Body.Fed) :
    dispatcher.receiveFed handler uri reception (fed.after pieces) =
      (do match ← handPieces handler uri reception pieces with
          | .error response => return .reply response
          | .ok next => dispatcher.receiveFed handler uri next fed) := by
  rw [receiveFed, Body.Fed.after, handPieces_append, bind_assoc]
  congr 1
  funext taken
  cases taken with
  | error response => rw [pure_bind]
  | ok next => rfl

theorem receive_eq (body : Body.State) (buffer : Bytes) (segments : List Bytes) :
    dispatcher.receive handler uri reception body buffer segments =
      dispatcher.receiveFed handler uri reception
        ((Body.drain body buffer).feedOn segments) := by
  -- Each segment is one run of the decoder. Its pieces are handed over first on both sides, and
  -- what is beyond them is left to the induction if the body goes on.
  induction segments generalizing reception body buffer with
  | nil =>
      rw [← Body.Drained.after_beyond, receiveFed_after, receive]
      congr 1
      funext taken
      cases taken with
      | error response => rfl
      | ok next =>
          rw [Body.Drained.beyond]
          cases stop : (Body.drain body buffer).stop <;> rfl
  | cons segment more ih =>
      rw [← Body.Drained.after_beyond, receiveFed_after, receive]
      congr 1
      funext taken
      cases taken with
      | error response => rfl
      | ok next =>
          rw [Body.Drained.beyond]
          cases stop : (Body.drain body buffer).stop with
          | needMore => exact ih _ _
          | finished => rfl
          | failed reason => rfl

end Dispatcher

variable {dispatcher : Dispatcher σ} {connection : Connection} {incoming : Incoming}
  {request : Request} {state after : σ} {notices : List Notice}

/-- The request filter, if there is one, lets a request pass. -/
inductive Passes (dispatcher : Dispatcher σ) (request : Request) (state : σ) :
    List Notice → σ → Prop
  | unset (unset : dispatcher.requestFilter = none) : Passes dispatcher request state [] state
  | passed {filter after notices} (set : dispatcher.requestFilter = some filter)
      (ran : filter request state = ⟨some none, after, notices⟩) :
      Passes dispatcher request state notices after

theorem Passes.reports (h : Passes dispatcher request state notices after) :
    (dispatcher.filterRequest request).Reports state (some none) after notices := by
  cases h with
  | unset unset =>
      rw [Dispatcher.filterRequest, unset]
      exact reports_pure _ _
  | passed set ran =>
      rw [Dispatcher.filterRequest, set]
      exact (reports_contained _ _ _ ran).bind_pure rfl

inductive Takes (handler : UploadHandler σ) : handler.Reception → σ → List Bytes →
    List Notice → handler.Reception → σ → Prop
  | nil {reception state} : Takes handler reception state [] [] reception state
  | cons {reception state piece rest next mid notices more last after}
      (ran : handler.chunk piece (state, reception) = ⟨some (.ok ()), (mid, next), notices⟩)
      (later : Takes handler next mid rest more last after) :
      Takes handler reception state (piece :: rest) (notices ++ more) last after

section Pieces

variable {handler : UploadHandler σ} {reception last : handler.Reception} {pieces : List Bytes}

theorem Takes.reports (h : Takes handler reception state pieces notices last after) (uri : String) :
    (Dispatcher.handPieces handler uri reception pieces).Reports state (some (.ok last)) after
      notices := by
  induction h with
  | nil => exact reports_pure _ _
  | cons ran later ih => exact (reports_contained _ _ uri (Work.holding_eq ran)).bind ih

/-- The pieces after one that the handler panics over are not handed over. -/
theorem Takes.reports_panicked (h : Takes handler reception state pieces notices last after)
    {piece : Bytes} {left : handler.Reception} {final : σ} {more : List Notice}
    (ran : handler.chunk piece (after, last) = ⟨none, (final, left), more⟩) (late : List Bytes)
    (uri : String) :
    (Dispatcher.handPieces handler uri reception (pieces ++ piece :: late)).Reports state
      (some (.error .internalError)) final (notices ++ (more ++ [.panicked .uploadSink uri])) := by
  induction h with
  | nil => exact (Serving.reports_panicked _ _ uri (Work.holding_eq ran)).bind_pure rfl
  | cons taken later ih =>
      rw [List.append_assoc]
      exact (reports_contained _ _ uri (Work.holding_eq taken)).bind (ih ran)

end Pieces

/-- What the response filter makes of a response: nothing if there is none, what it leaves
behind, or an internal error if it panics. The server's name is put on before, and again on the
internal error. -/
inductive Amends (dispatcher : Dispatcher σ) (uri : String) (response : Response) (state : σ) :
    Response → σ → List Notice → Prop
  | unset (unset : dispatcher.responseFilter = none) :
      Amends dispatcher uri response state (dispatcher.stamp response) state []
  | amended {filter amended after notices} (set : dispatcher.responseFilter = some filter)
      (ran : filter uri (state, dispatcher.stamp response) = ⟨some (), (after, amended), notices⟩) :
      Amends dispatcher uri response state amended after notices
  | panicked {filter left after notices} (set : dispatcher.responseFilter = some filter)
      (ran : filter uri (state, dispatcher.stamp response) = ⟨none, (after, left), notices⟩) :
      Amends dispatcher uri response state (dispatcher.stamp .internalError) after
        (notices ++ [.panicked .responseFilter uri])

variable {uri : String} {response final : Response} {mid : σ} {more : List Notice}

theorem Amends.reports (h : Amends dispatcher uri response state final after notices) :
    (dispatcher.finalize uri response).Reports state (some final) after notices := by
  cases h with
  | unset unset =>
      rw [Dispatcher.finalize, unset]
      exact reports_pure _ _
  | amended set ran =>
      rw [Dispatcher.finalize, set]
      exact (reports_contained _ _ _ (Work.holding_eq ran)).bind_pure rfl
  | panicked set ran =>
      rw [Dispatcher.finalize, set]
      exact (reports_panicked _ _ _ (Work.holding_eq ran)).bind_pure rfl

theorem exists_amends (dispatcher : Dispatcher σ) (uri : String) (response : Response)
    (state : σ) : ∃ final after notices, Amends dispatcher uri response state final after notices := by
  cases set : dispatcher.responseFilter with
  | none => exact ⟨_, _, _, .unset set⟩
  | some filter =>
      rcases ran : filter uri (state, dispatcher.stamp response) with
        ⟨value, ⟨after, left⟩, notices⟩
      cases value with
      | none => exact ⟨_, _, _, .panicked set ran⟩
      | some value => exact ⟨_, _, _, .amended set ran⟩

theorem Amends.exchange (arrives : Arrives dispatcher.limits connection incoming)
    (decides : (dispatcher.decide incoming.request incoming.framing incoming.buffer
      incoming.segments).Reports state (some (.reply response)) mid notices)
    (h : Amends dispatcher incoming.request.uri response mid final after more) :
    (connection.exchange dispatcher).Reports state (some (some (incoming.reply final))) after
      (notices ++ more) := by
  have replied : (connection.converse dispatcher).Reports state
      (some (some (incoming.reply response))) mid notices := by
    rw [arrives.converse]
    exact decides.bind_pure rfl
  have finalized : (Connection.finalize dispatcher (incoming.reply response)).Reports mid
      (some (incoming.reply final)) after more := h.reports.bind_pure rfl
  exact replied.bind (finalized.bind_pure rfl)

/-- Serving a connection sends this response, which a client that takes all of it can read, and
leaves this state and these reports behind. What is reported later is about header fields and
about the connection. -/
structure Sends (guard : Guard) (dispatcher : Dispatcher σ) (connection : Connection)
    (headOnly : Bool) (state : σ) (response : Response) (after : σ) (notices : List Notice) :
    Prop where
  leaves : (connection.serve guard dispatcher state).state = after
  written : (connection.serve guard dispatcher state).written =
    (connection.outbound.deliver (response.encode connection.date headOnly)).written
  read : connection.outbound.TakesAll →
    Response.read (connection.serve guard dispatcher state).written =
      some ⟨response.statusText, response.writtenFields connection.date,
        response.writtenBody headOnly⟩
  reported : ∃ later, (connection.serve guard dispatcher state).notices = notices ++ later ∧
    ∀ callback uri, .panicked callback uri ∉ later

theorem Response.panicked_not_mem_notices (response : Response) (callback : Callback)
    (uri : String) : .panicked callback uri ∉ response.notices := by
  intro member
  obtain ⟨_, _, same⟩ := List.mem_map.mp member
  cases same

theorem Connection.panicked_not_mem_takeError (guard : Guard) (error : IoError)
    (callback : Callback) (uri : String) : .panicked callback uri ∉ (takeError guard error).1 := by
  rw [takeError]
  split
  · exact List.not_mem_nil
  · show _ ∉ guard.notices "connection" error
    rw [Guard.notices]
    cases guard.assess error <;> simp

theorem sends_of_exchange {reply : Connection.Reply} (dated : Response.Unbroken connection.date)
    (ran : (connection.exchange dispatcher).Reports state (some (some reply)) after notices)
    (guard : Guard) :
    Sends guard dispatcher connection reply.headOnly state reply.response after notices := by
  obtain ⟨calls, ran⟩ := ran
  have written : (connection.serve guard dispatcher state).written =
      (connection.outbound.deliver
        (reply.response.encode connection.date reply.headOnly)).written := by
    rw [Connection.serve, ran]
  refine ⟨?_, written, fun takes => ?_, ?_⟩
  · rw [Connection.serve, ran]
  · rw [written, takes.written]
    exact reply.response.read_encode dated reply.headOnly
  · rw [Connection.serve, ran]
    refine ⟨_, List.append_assoc _ _ _, ?_⟩
    intro callback uri member
    rcases List.mem_append.mp member with member | member
    · exact reply.response.panicked_not_mem_notices callback uri member
    · revert member
      split
      · exact List.not_mem_nil
      · exact Connection.panicked_not_mem_takeError guard _ callback uri

end HttpServer
