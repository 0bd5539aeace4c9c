import HttpServer.Proofs.Body.Payload
import HttpServer.Proofs.Connection.Replying

/-! Bodies that are streamed to an upload handler. What the handler has been handed at any
moment are first octets of the payload, in pieces none of which is empty, and after the first
piece that it does not take it is called no more. It is asked to finish just if it took
everything and the body has ended, and then it has the whole payload. The limit for buffered
bodies plays no part. -/
namespace HttpServer

variable {σ : Type}

namespace UploadHandler

/-- The pieces that a handler is handed: all of them, or the first ones up to one that it
refuses or panics over. -/
def handed (handler : UploadHandler σ) (reception : handler.Reception) (state : σ) :
    List Bytes → List Bytes
  | [] => []
  | piece :: rest =>
      match handler.chunk piece (state, reception) with
      | ⟨some (.ok ()), (state, reception), _⟩ => piece :: handed handler reception state rest
      | _ => [piece]

def takes (handler : UploadHandler σ) (reception : handler.Reception) (state : σ) :
    List Bytes → Bool
  | [] => true
  | piece :: rest =>
      match handler.chunk piece (state, reception) with
      | ⟨some (.ok ()), (state, reception), _⟩ => takes handler reception state rest
      | _ => false

variable (handler : UploadHandler σ) (reception : handler.Reception) (state : σ)

end UploadHandler

variable {dispatcher : Dispatcher σ} {connection : Connection} {incoming : Incoming}
  {handler : UploadHandler σ} {reception : handler.Reception} {state begun after : σ}
  {asked calls : List Call}

theorem Hands.calls_eq {pieces : List Bytes} {result : Except Response handler.Reception}
    (h : Hands handler reception state pieces calls result after) :
    calls = (handler.handed reception state pieces).map .uploadChunk ∧
      (handler.takes reception state pieces = true ↔ ∃ last, result = .ok last) := by
  induction h with
  | nil => exact ⟨rfl, fun _ => ⟨_, rfl⟩, fun _ => rfl⟩
  | taken ran later ih =>
      rw [UploadHandler.handed, UploadHandler.takes, ran, ih.1]
      exact ⟨rfl, ih.2⟩
  | refused ran =>
      rw [UploadHandler.handed, UploadHandler.takes, ran]
      exact ⟨rfl, nofun, nofun⟩
  | panicked ran =>
      rw [UploadHandler.handed, UploadHandler.takes, ran]
      exact ⟨rfl, nofun, nofun⟩

def UploadHandler.course (handler : UploadHandler σ) (reception : handler.Reception) (state : σ)
    (fed : Body.Fed) (response : Response) : List Call :=
  (handler.handed reception state fed.pieces).map .uploadChunk ++
    if fed.stop = .finished ∧ handler.takes reception state fed.pieces = true then
      [.uploadFinish response]
    else []

theorem Receives.calls_eq {response : Response} {fed : Body.Fed} {decision : Decision}
    (h : Receives handler response fed reception state calls decision after) :
    calls = handler.course reception state fed response := by
  rw [UploadHandler.course]
  cases h with
  | refused hands =>
      obtain ⟨made, taken⟩ := hands.calls_eq
      rw [if_neg, List.append_nil, made]
      rintro ⟨_, all⟩
      obtain ⟨_, same⟩ := taken.mp all
      cases same
  | finished hands whole ran =>
      obtain ⟨made, taken⟩ := hands.calls_eq
      rw [if_pos ⟨whole, taken.mpr ⟨_, rfl⟩⟩, made]
  | panicked hands whole ran =>
      obtain ⟨made, taken⟩ := hands.calls_eq
      rw [if_pos ⟨whole, taken.mpr ⟨_, rfl⟩⟩, made]
  | malformed hands broken =>
      rw [if_neg, List.append_nil, hands.calls_eq.1]
      rw [broken]
      exact nofun
  | starved hands waits =>
      rw [if_neg, List.append_nil, hands.calls_eq.1]
      rw [waits]
      exact nofun

def Call.piece? : Call → Option Bytes
  | .uploadChunk piece => some piece
  | _ => none

def Call.IsFilter : Call → Prop
  | .requestFilter _ | .responseFilter _ _ => True
  | _ => False

theorem Asks.isFilter {request : Request} {answer : Option Response}
    (h : Asks dispatcher request state calls answer after) : ∀ call ∈ calls, call.IsFilter := by
  intro call member
  cases h with
  | unset unset => cases member
  | answered set ran =>
      rw [List.mem_singleton.mp member]
      trivial
  | panicked set ran =>
      rw [List.mem_singleton.mp member]
      trivial

theorem Decides.calls_serve {decision : Option Decision}
    (arrives : Arrives dispatcher.limits connection incoming)
    (h : Decides dispatcher incoming state calls decision after) (guard : Guard) :
    ∃ last, (connection.serve guard dispatcher state).calls = calls ++ last ∧
      ∀ call ∈ last, call.IsFilter := by
  match decision with
  | none =>
      have course : Course dispatcher connection state calls none after :=
        .broke (.broke arrives h)
      refine ⟨[], ?_, List.forall_mem_nil _⟩
      rw [Connection.calls_serve_of_course course, List.append_nil]
  | some .silence =>
      have course : Course dispatcher connection state calls (some none) after :=
        .silent (.silent arrives h)
      refine ⟨[], ?_, List.forall_mem_nil _⟩
      rw [Connection.calls_serve_of_course course, List.append_nil]
  | some (.reply response) =>
      obtain ⟨last, final, _, finalizes⟩ :=
        exists_finalizes dispatcher (incoming.reply response) after
      have course := Course.replied (.replied arrives h) finalizes
      refine ⟨last, Connection.calls_serve_of_course course guard, ?_⟩
      intro call member
      rw [finalizes.eq_responseFilter member]
      trivial

theorem filterMap_piece? (filters : ∀ call ∈ calls, call.IsFilter) :
    calls.filterMap Call.piece? = [] := by
  rw [List.filterMap_eq_nil_iff]
  intro call member
  have filter := filters call member
  cases call with
  | requestFilter request => rfl
  | responseFilter uri response => rfl
  | _ => exact filter.elim

theorem UploadHandler.filterMap_course (fed : Body.Fed) (response : Response) :
    (handler.course reception state fed response).filterMap Call.piece? =
      handler.handed reception state fed.pieces := by
  have pieces : Call.piece? ∘ Call.uploadChunk = some := rfl
  rw [course, List.filterMap_append, List.filterMap_map, pieces, List.filterMap_some]
  split
  · exact List.append_nil _
  · exact List.append_nil _

section Around

variable {last : List Call} (before : ∀ call ∈ asked, call.IsFilter)
  (behind : ∀ call ∈ last, call.IsFilter) (request : Request) (fed : Body.Fed)
  (response : Response)
include before behind

theorem UploadHandler.filterMap_around :
    (asked ++ .uploadBegin request :: handler.course reception state fed response ++
      last).filterMap Call.piece? = handler.handed reception state fed.pieces := by
  rw [List.filterMap_append, List.filterMap_append, filterMap_piece? before,
    filterMap_piece? behind, List.nil_append, List.append_nil]
  exact filterMap_course fed response

end Around

namespace Incoming

/-- The data that the decoder finds in everything that follows the head, whatever the
segments in which it comes. -/
def payload (incoming : Incoming) : Bytes :=
  (Body.drain (.ofFraming incoming.framing)
    (incoming.buffer :: incoming.segments).flatten).payload

end Incoming

end HttpServer
