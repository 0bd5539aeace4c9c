import HttpServer.Connection.Inbound
import HttpServer.Proofs.Body.Feeding

/-! What comes of collecting a body, in terms of the data that its segments yield: the body
is refused if they pass the limit, and else it ends as their decoding ends. -/
namespace HttpServer.Inbound

def Collected.ofStop (payload : Bytes) : Body.Stop → Collected
  | .finished => .whole payload
  | .failed reason => .malformed reason
  | .needMore => .cut

theorem Collected.ofStop_append (pieces : List Bytes) (payload : Bytes) (stop : Body.Stop) :
    ofStop (pieces.flatten ++ payload) stop = (ofStop payload stop).after pieces := by
  cases stop <;> rfl

/-- What comes of a body that has been fed, `size` octets having been collected before. -/
def judge (limit size : Nat) (fed : Body.Fed) : Collected :=
  if limit < size + fed.payload.length then .tooLarge else .ofStop fed.payload fed.stop

theorem grow_eq {limit size : Nat} (fits : size ≤ limit) (pieces : List Bytes) :
    grow limit size pieces = if limit < size + pieces.flatten.length then none
      else some (size + pieces.flatten.length) := by
  induction pieces generalizing size with
  | nil => simp [grow, Nat.not_lt_of_le fits]
  | cons piece rest ih =>
      rw [grow, List.flatten_cons, List.length_append, ← Nat.add_assoc]
      by_cases exceeded : limit < size + piece.length
      · rw [if_pos exceeded, if_pos (Nat.lt_of_lt_of_le exceeded (Nat.le_add_right _ _))]
      · rw [if_neg exceeded, ih (Nat.le_of_not_lt exceeded)]

theorem judge_after (limit size : Nat) (fed : Body.Fed) (pieces : List Bytes) :
    judge limit size (fed.after pieces) =
      (judge limit (size + pieces.flatten.length) fed).after pieces := by
  rw [judge, judge, Body.Fed.payload_after, List.length_append, ← Nat.add_assoc]
  split
  · rfl
  · exact Collected.ofStop_append pieces fed.payload fed.stop

/-- The first run of the decoder decides, unless the body goes on in later segments. -/
theorem judge_feedOn {limit size : Nat} (drained : Body.Drained) (more : List Bytes) :
    judge limit size (drained.feedOn more) =
      if limit < size + drained.payload.length then .tooLarge
      else if drained.stop = .needMore then
        (judge limit (size + drained.payload.length)
          (Body.feed drained.state drained.rest more)).after drained.pieces
      else .ofStop drained.payload drained.stop := by
  by_cases waits : drained.stop = .needMore
  · rw [if_pos waits, Body.Drained.feedOn_waiting waits, judge_after]
    split
    · next exceeded =>
        have further : limit < size + drained.pieces.flatten.length +
            (Body.feed drained.state drained.rest more).payload.length :=
          Nat.lt_of_lt_of_le exceeded (Nat.le_add_right _ _)
        rw [judge, if_pos further]
        rfl
    · rfl
  · rw [if_neg waits, Body.Drained.feedOn_stopped waits]
    rfl

theorem collectFrom_eq {limit size : Nat} (fits : size ≤ limit) (state : Body.State)
    (buffer : Bytes) (segments : List Bytes) :
    collectFrom limit size state buffer segments =
      judge limit size ((Body.drain state buffer).feedOn segments) := by
  have grown : grow limit size (Body.drain state buffer).pieces =
      if limit < size + (Body.drain state buffer).payload.length then none
      else some (size + (Body.drain state buffer).payload.length) := grow_eq fits _
  induction segments generalizing size state buffer with
  | nil =>
      rw [judge_feedOn, collectFrom]
      simp only [grown]
      by_cases exceeded : limit < size + (Body.drain state buffer).payload.length
      · rw [if_pos exceeded, if_pos exceeded]
      · rw [if_neg exceeded, if_neg exceeded]
        have ended : judge limit (size + (Body.drain state buffer).payload.length)
            (Body.feed (Body.drain state buffer).state (Body.drain state buffer).rest []) = .cut :=
          if_neg exceeded
        rw [ended]
        cases (Body.drain state buffer).stop <;> rfl
  | cons segment more ih =>
      rw [judge_feedOn, collectFrom]
      simp only [grown]
      by_cases exceeded : limit < size + (Body.drain state buffer).payload.length
      · rw [if_pos exceeded, if_pos exceeded]
      · rw [if_neg exceeded, if_neg exceeded]
        have within := Nat.le_of_not_lt exceeded
        simp only [ih within _ _ (grow_eq within _), ← Body.feed_cons]
        cases (Body.drain state buffer).stop <;> rfl

end HttpServer.Inbound

namespace HttpServer

/-- A request whose head has been read. What follows the head is still to be read: the rest
of the buffer, and the segments after it. -/
structure Incoming where
  request : Request
  framing : Framing
  buffer : Bytes
  segments : List Bytes

namespace Incoming

/-- What comes of feeding everything that follows the head to the body's decoder. -/
def fed (incoming : Incoming) : Body.Fed :=
  Body.feed (.ofFraming incoming.framing) [] (incoming.buffer :: incoming.segments)

/-- The request with the data that its body has yielded. -/
def whole (incoming : Incoming) : Request := { incoming.request with body := incoming.fed.payload }

/-- Whether the body is longer than the limit, by what is declared or by what arrives. -/
def Exceeds (incoming : Incoming) (limit : Nat) : Prop :=
  (∃ octets, incoming.framing = .length octets ∧ limit < octets) ∨
    limit < incoming.fed.payload.length

def collect (incoming : Incoming) (limit : Nat) : Inbound.Collected :=
  Inbound.collect limit incoming.framing incoming.buffer incoming.segments

theorem collect_fed (incoming : Incoming) (limit : Nat) :
    Inbound.collectFrom limit 0 (.ofFraming incoming.framing) incoming.buffer incoming.segments =
      if limit < incoming.fed.payload.length then .tooLarge
      else .ofStop incoming.fed.payload incoming.fed.stop := by
  rw [Inbound.collectFrom_eq (Nat.zero_le limit), Inbound.judge, Nat.zero_add]
  rfl

theorem collect_exceeding {incoming : Incoming} {limit : Nat} (exceeds : incoming.Exceeds limit) :
    incoming.collect limit = .tooLarge := by
  have fed := incoming.collect_fed limit
  rcases incoming with ⟨request, framing, buffer, segments⟩
  rw [collect]
  rcases exceeds with ⟨octets, declared, exceeded⟩ | exceeded
  · cases declared
    rw [Inbound.collect, if_pos exceeded]
  · rw [if_pos exceeded] at fed
    cases framing with
    | length octets =>
        rw [Inbound.collect]
        split
        · rfl
        · exact fed
    | empty => exact fed
    | chunked => exact fed

theorem collect_within {incoming : Incoming} {limit : Nat} (within : ¬ incoming.Exceeds limit) :
    incoming.collect limit = .ofStop incoming.fed.payload incoming.fed.stop := by
  have fed := incoming.collect_fed limit
  rw [Exceeds, not_or] at within
  rw [if_neg within.2] at fed
  rcases incoming with ⟨request, framing, buffer, segments⟩
  cases framing with
  | length octets =>
      rw [collect, Inbound.collect, if_neg]
      · exact fed
      · exact fun exceeded => within.1 ⟨octets, rfl, exceeded⟩
  | empty => exact fed
  | chunked => exact fed

section Bodiless

variable (incoming : Incoming) (bodiless : incoming.framing = .empty)
include bodiless

theorem fed_bodiless : incoming.fed.pieces = [] ∧ incoming.fed.stop = .finished := by
  have drained : Body.drain .done incoming.buffer = ⟨[], .finished, .done, incoming.buffer⟩ :=
    Body.drain_stop rfl
  have fed : incoming.fed = ⟨⟨[], .finished, .done, incoming.buffer⟩, incoming.segments⟩ := by
    rw [Incoming.fed, bodiless, Body.feed_cons]
    show (Body.drain .done incoming.buffer).feedOn incoming.segments = _
    rw [drained]
    rfl
  rw [fed]
  exact ⟨rfl, rfl⟩

theorem not_exceeds_bodiless (limit : Nat) : ¬ incoming.Exceeds limit := by
  rintro (⟨octets, declared, _⟩ | exceeded)
  · rw [bodiless] at declared
    cases declared
  · rw [Body.Drained.payload, (incoming.fed_bodiless bodiless).1] at exceeded
    exact absurd exceeded (Nat.not_lt_zero limit)

end Bodiless

end Incoming
end HttpServer
