import HttpServer.Proofs.Body.Payload
import HttpServer.Proofs.Connection.Replying

/-! Bodies that are buffered before a handler sees the request. Nobody sees a request before
its body has ended, and then the body is complete and within the limit. A body beyond the limit
is refused, and nothing is read for that if its length is declared; a malformed body is refused
for what is wrong with it, and a body that does not arrive whole is met with silence. -/
namespace HttpServer

variable {σ : Type} {dispatcher : Dispatcher σ} {connection : Connection} {incoming : Incoming}
  {routed : Option (String × AsyncHandler σ)} {request : Request} {state after : σ}
  {calls : List Call}

def Call.request? : Call → Option Request
  | .requestFilter request | .routeHandler _ request _ | .defaultHandler request _
  | .notFoundHandler request _ | .uploadBegin request => some request
  | .uploadChunk _ | .uploadFinish _ | .responseFilter _ _ => none

def ShowOnly (request : Request) (calls : List Call) : Prop :=
  ∀ call ∈ calls, ∀ shown, call.request? = some shown → shown = request

theorem ShowOnly.append {more : List Call} (first : ShowOnly request calls)
    (second : ShowOnly request more) : ShowOnly request (calls ++ more) := by
  intro call member
  rcases List.mem_append.mp member with member | member
  · exact first call member
  · exact second call member

theorem Incoming.length_of_declared {octets : Nat} (declared : incoming.framing = .length octets)
    (ended : incoming.fed.stop = .finished) : incoming.fed.payload.length = octets := by
  rw [fed, declared] at *
  exact Body.length_of_feed_counted ended

/-- A body that has ended within the limit does not exceed it by what is declared either. -/
theorem Incoming.not_exceeds_of_ended {limit : Nat} (ended : incoming.fed.stop = .finished)
    (fits : incoming.fed.payload.length ≤ limit) : ¬ incoming.Exceeds limit := by
  rintro (⟨octets, declared, exceeded⟩ | exceeded)
  · rw [incoming.length_of_declared declared ended] at fits
    exact Nat.not_lt_of_le fits exceeded
  · exact Nat.not_lt_of_le fits exceeded

section Conversing

variable (arrives : Arrives dispatcher.limits connection incoming)
  (buffered : Buffered dispatcher incoming.request routed)
include arrives buffered

end Conversing

/-- A server that buffers bodies of at most two octets. -/
def noteTaker : Dispatcher Unit :=
  { name := "notes", routes := { baseUri := "", routes := [⟨"/", .simple greet⟩] },
    limits := { maxBodyBytes := 2 } }

def note : Incoming where
  request :=
    { method := .post, uri := "/", headers := ⟨[⟨"Transfer-Encoding", "chunked"⟩]⟩ }
  framing := .chunked
  buffer := Bytes.ofText "2\r\nh"
  segments := [Bytes.ofText "i\r\n0\r\n\r\n"]

end HttpServer
