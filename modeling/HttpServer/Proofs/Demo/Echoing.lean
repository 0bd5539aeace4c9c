import HttpServer.Proofs.Connection.Buffering
import HttpServer.Proofs.Connection.Containing
import HttpServer.Proofs.Demo.Hosting
import HttpServer.Proofs.Framing
import HttpServer.Proofs.Head.Feeding
import HttpServer.Proofs.Head.Printing

/-! The echo of the demonstration, from the octets of a request to the octets of its answer. What a
client reads depends on the method, the type and the body of its request alone: neither the framing
of the body nor the segments in which the request arrives can be told from it. -/
namespace HttpServer

open Serving

variable {σ ι κ : Type}

/-- A head that has been printed within the limits arrives as it was printed, whatever the segments
are, and what follows it is left to be read. -/
theorem exists_arrives_printed {limits : Limits} {connection : Connection} {parts : Head.Parts}
    {gap octets : Bytes} {framing : Framing} (isGap : Head.IsGap gap)
    (wellFormed : parts.WellFormed) (framed : Framing.ofHeaders ⟨parts.fields⟩ = .ok framing)
    (small : (parts.print gap).length ≤ limits.maxHeadBytes)
    (few : parts.fields.length ≤ limits.maxHeaders)
    (sent : connection.segments.flatten = parts.print gap ++ octets) :
    ∃ buffer segments, (buffer :: segments).flatten = octets ∧
      Arrives limits connection
        ⟨{ parts.request with peer := connection.peer.map (·.text) }, framing, buffer, segments⟩ := by
  have filled : parts.print gap ≠ [] := by
    simp [Head.Parts.print, Bytes.crlf]
  have room : 1 ≤ limits.maxHeadBytes :=
    Nat.le_trans (List.length_pos_iff.mpr filled) small
  have decoded := Head.decode_printed isGap wellFormed limits 0 octets
  rw [if_neg (Nat.not_lt_of_le small), Head.Parts.reading, if_neg (Nat.not_lt_of_le few),
    framed] at decoded
  obtain ⟨buffer, segments, flat, read⟩ := Head.feed_of_decode room (sent ▸ decoded)
  exact ⟨buffer, segments, flat, ⟨parts.request, read, rfl⟩, rfl⟩

namespace Demo

/-- The media type under which a body is sent back. -/
def mediaType (fields : List Field) : String :=
  (Headers.get? ⟨fields⟩ "content-type").getD "application/octet-stream"

/-- A client sends a request for the echo of a body, of which the server takes all. -/
structure Requests (limits : Limits) (connection : Connection) (baseUri : String)
    (parts : Head.Parts) (body : Bytes) : Prop where
  wellFormed : parts.WellFormed
  method : parts.method ∈ ["GET", "POST", "PUT", "OPTIONS"]
  target : (baseUri ++ "/echo/").toList <+: parts.uri.toList
  typed : Response.Unbroken (mediaType parts.fields)
  fits : body.length ≤ limits.maxBodyBytes
  few : parts.fields.length ≤ limits.maxHeaders
  sent : ∃ gap octets, Head.IsGap gap ∧ (parts.print gap).length ≤ limits.maxHeadBytes ∧
    Frames parts.fields body octets ∧ connection.segments.flatten = parts.print gap ++ octets

def reflected (request : Request) (response : Response) : Response :=
  { (response.setContentType (mediaType request.headers.fields)).setHeader "X-Echo-Method"
      request.method.name with
    body := request.body }

theorem reports_echo (call : Call) (request : Request) (response : Response) (state : σ) :
    (Dispatcher.runHandler call echo request response).Reports state
      (some (reflected request response)) state [] := by
  have built : echo request response state =
      ⟨some (pure (reflected request response)), state, []⟩ := rfl
  have ran : (pure (reflected request response) : Work σ Response) state =
      ⟨some (reflected request response), state, []⟩ := rfl
  exact (reports_perform built _).bind ((reports_contained _ _ _ ran).bind_pure rfl)

/-- What a client reads as the echo of a body. -/
def echoed (name : String) (parts : Head.Parts) (body : Bytes) (date : String) :
    Response.Reading where
  statusLine := "HTTP/1.1 200 OK"
  fields := [⟨"Content-Type", mediaType parts.fields⟩, ⟨"X-Echo-Method", parts.method⟩] ++
    (if Response.Unbroken name then [⟨"Server", name⟩] else []) ++
    [⟨"Content-Length", toString body.length⟩, ⟨"Date", date⟩, ⟨"Connection", "close"⟩]
  body

theorem supported {method : String} (member : method ∈ ["GET", "POST", "PUT", "OPTIONS"]) :
    (Method.ofName method).isSupported = true ∧ Method.ofName method ≠ .head ∧
      Response.Unbroken method := by
  have all : ∀ method ∈ ["GET", "POST", "PUT", "OPTIONS"],
      (Method.ofName method).isSupported = true ∧ Method.ofName method ≠ .head ∧
        Response.Unbroken method := by decide
  exact all method member

theorem fields_reflected (dispatcher : Dispatcher σ) (request : Request) :
    (dispatcher.stamp (reflected request dispatcher.newResponse)).headers.fields =
      [⟨"Content-Type", mediaType request.headers.fields⟩,
        ⟨"X-Echo-Method", request.method.name⟩, ⟨"Server", dispatcher.name⟩] := by
  have method : ∀ stored ∈ ["Content-Type"], Text.sameName stored "X-Echo-Method" = false := by
    decide
  have server : ∀ stored ∈ ["Content-Type", "X-Echo-Method"],
      Text.sameName stored "Server" = false := by
    decide
  let typed : Field := ⟨"Content-Type", mediaType request.headers.fields⟩
  let tagged : Field := ⟨"X-Echo-Method", request.method.name⟩
  have first : Headers.put "X-Echo-Method" request.method.name [typed] = [typed, tagged] :=
    Headers.put_of_missing _ method
  have second : Headers.put "Server" dispatcher.name [typed, tagged] =
      [typed, tagged, ⟨"Server", dispatcher.name⟩] :=
    Headers.put_of_missing _ server
  rw [← second, ← first]
  rfl

theorem echoed_eq (dispatcher : Dispatcher σ) {request : Request}
    (method : Response.Unbroken request.method.name)
    (typed : Response.Unbroken (mediaType request.headers.fields)) (date : String) :
    echoed dispatcher.name request.parts request.body date =
      ⟨(dispatcher.stamp (reflected request dispatcher.newResponse)).statusText,
        (dispatcher.stamp (reflected request dispatcher.newResponse)).writtenFields date,
        (dispatcher.stamp (reflected request dispatcher.newResponse)).writtenBody false⟩ := by
  have line : (dispatcher.stamp (reflected request dispatcher.newResponse)).statusText =
      "HTTP/1.1 200 OK" := by
    show "HTTP/1.1 " ++ toString 200 ++ " " ++ Status.reason 200 = _
    decide
  have plain : ∀ name ∈
      (dispatcher.stamp (reflected request dispatcher.newResponse)).headers.fields.map (·.name),
      ∀ own ∈ ["connection", "content-length", "date"], Text.sameName name own = false := by
    rw [fields_reflected]
    exact show ∀ name ∈ ["Content-Type", "X-Echo-Method", "Server"], ∀ own ∈ _, _ by decide
  have own : [(⟨"Content-Type", mediaType request.headers.fields⟩ : Field),
      ⟨"X-Echo-Method", request.method.name⟩, ⟨"Server", dispatcher.name⟩].filter
        Response.isWritable =
      [⟨"Content-Type", mediaType request.headers.fields⟩,
        ⟨"X-Echo-Method", request.method.name⟩] ++
        if Response.Unbroken dispatcher.name then [⟨"Server", dispatcher.name⟩] else [] := by
    have first := Response.isWritable_of_unbroken
      (show Response.isWritable ⟨"Content-Type", ""⟩ = true by decide) typed
    have second := Response.isWritable_of_unbroken
      (show Response.isWritable ⟨"X-Echo-Method", ""⟩ = true by decide) method
    rw [List.filter_cons_of_pos first, List.filter_cons_of_pos second,
      Response.filter_isWritable (by decide)]
    rfl
  rw [line, Response.writtenFields_of_plain rfl plain, fields_reflected, own]
  rfl

end Demo

open Demo

theorem sends_echo (guard : Guard) {server : Server σ ι κ} {name baseUri : String}
    {uptime : σ → Nat} (offers : Offers server name baseUri uptime) {connection : Connection}
    {incoming : Incoming} (arrives : Arrives server.limits connection incoming)
    (below : (baseUri ++ "/echo/").toList <+: incoming.request.uri.toList)
    (supported : incoming.request.method.isSupported = true)
    (ended : incoming.fed.stop = .finished)
    (fits : incoming.fed.payload.length ≤ server.limits.maxBodyBytes)
    (dated : Response.Unbroken connection.date) (state : σ) : ∃ after notices,
      Sends guard server.dispatcher connection (incoming.request.method = .head) state
        (server.dispatcher.stamp (reflected incoming.whole server.dispatcher.newResponse)) after
        notices := by
  have found : server.dispatcher.routes.find? incoming.request.uri =
      some ⟨baseUri ++ "/echo/", .simple echo⟩ := by
    show server.routes.find? _ = _
    rw [offers.routed]
    exact find?_echo below
  have gathers : Gathers server.dispatcher incoming (some (baseUri ++ "/echo/", echo)) :=
    ⟨.simple found supported, Incoming.not_exceeds_of_ended ended fits, ended⟩
  have passes : Passes server.dispatcher incoming.whole state [] state :=
    .unset offers.noRequestFilter
  have answers := gathers.reports <| Assigned.routed.reports passes fun call =>
    reports_echo call incoming.whole server.dispatcher.newResponse state
  have exchanged {final : Response} {after : σ} {notices : List Notice}
      (amends : Amends server.dispatcher incoming.request.uri
        (reflected incoming.whole server.dispatcher.newResponse) state final after notices) :=
    sends_of_exchange dated (amends.exchange arrives answers) guard
  cases set : server.responseFilter with
  | none => exact ⟨_, _, exchanged (.unset set)⟩
  | some filter =>
      obtain ⟨after, notices, ran⟩ := offers.observes filter set incoming.request.uri state
        (server.dispatcher.stamp (reflected incoming.whole server.dispatcher.newResponse))
      exact ⟨_, _, exchanged (.amended set ran)⟩

/-- A client that asks a server with the demonstration for an echo reads its body back, with the
length, the method and the type of its request, and nothing that tells of framing or segments. -/
theorem echoes_serve (guard : Guard) {server : Server σ ι κ} {name baseUri : String}
    {uptime : σ → Nat} (hosts : Hosts server name baseUri uptime) {connection : Connection}
    {parts : Head.Parts} {body : Bytes}
    (requests : Requests server.limits connection baseUri parts body)
    (takes : connection.outbound.TakesAll) (dated : Response.Unbroken connection.date)
    (state : σ) :
    Response.read (connection.serve guard server.dispatcher state).written =
      some (echoed name parts body connection.date) := by
  have offers := hosts.offers
  obtain ⟨gap, octets, isGap, small, frames, sent⟩ := requests.sent
  obtain ⟨framing, framed, reads⟩ := frames.reads (Nat.le_trans requests.fits offers.bounded)
  obtain ⟨buffer, segments, flat, arrives⟩ :=
    exists_arrives_printed isGap requests.wellFormed framed small requests.few sent
  obtain ⟨supported, bodied, method⟩ := supported requests.method
  rw [← flat] at reads
  obtain ⟨ended, payload⟩ := @Body.Reads.feed _ [] _ _ _ reads
  obtain ⟨after, notices, sends⟩ := sends_echo guard offers arrives requests.target supported ended
    (payload.symm ▸ requests.fits) dated state
  let incoming : Incoming :=
    ⟨{ parts.request with peer := connection.peer.map (·.text) }, framing, buffer, segments⟩
  have whole : incoming.whole.parts = parts := Head.parts_request parts
  have headOnly : decide (incoming.request.method = .head) = false := decide_eq_false bodied
  have spelt : incoming.whole.method.name = parts.method := Method.name_ofName parts.method
  have read := @echoed_eq _ server.dispatcher incoming.whole (spelt ▸ method) requests.typed
    connection.date
  have named : server.dispatcher.name = name := offers.named
  have body : incoming.whole.body = body := payload
  rw [whole, named, body] at read
  rw [sends.read takes, headOnly, read]

namespace Demo

def counting : ResponseFilter Nat := fun _ =>
  Work.modify fun (served, response) => (served + 1, response)

def fittings : List (Furnishing Nat Unit) :=
  [.limits { maxBodyBytes := 10 }] ++ furnishings "mirror" id ++ [.responseFilter counting]

def sampleParts : Head.Parts where
  method := "PUT"
  uri := "/echo/?a"
  version := .http10
  fields := [⟨"content-TYPE", "text/x-sample"⟩, ⟨"Transfer-Encoding", "Chunked"⟩]

theorem wellFormed_sampleParts : sampleParts.WellFormed := by
  have target : Head.IsTarget sampleParts.uri := ⟨by decide, by decide +kernel⟩
  have type : Head.IsValue "text/x-sample" := ⟨by decide, by decide +kernel, by decide +kernel⟩
  have coding : Head.IsValue "Chunked" := ⟨by decide, by decide +kernel, by decide +kernel⟩
  refine ⟨by decide, target, by decide +kernel, ?_⟩
  simp only [sampleParts, List.forall_mem_cons]
  exact ⟨type, coding, fun _ member => nomatch member⟩

/-- A client that sends its request octet by octet. -/
def dripping : Connection where
  segments := (sampleParts.print [32] ++ Body.lookalike.encode).map ([·])
  date := HttpDate.ofSeconds 0

theorem requests_dripping : Requests { maxBodyBytes := 10 } dripping "" sampleParts
    (Bytes.ofText "0\r\n\r\n5;\r\nx") where
  wellFormed := wellFormed_sampleParts
  method := by decide
  target := by decide
  typed := by decide
  fits := by decide
  few := by decide
  sent := by
    have space : Head.IsGap [32] := fun b member => .inl (List.mem_singleton.mp member)
    have short : Body.lookalike.Short := ⟨by decide, by decide, by decide⟩
    refine ⟨[32], Body.lookalike.encode, space, by decide, ?_, ?_⟩
    · exact @Frames.chunked _ _ "Chunked" _ rfl (by decide) rfl short (by decide)
    · exact List.flatMap_def.symm.trans (List.flatMap_singleton' _)

theorem hosts_fittings {server : Server Nat Unit} {baseUri : String}
    (made : (Server.ofListener "mirror" baseUri none).furnishAll fittings = .ok server) :
    Hosts server "mirror" baseUri id := by
  have small : 10 ≤ Numeral.max64 := by decide
  have observes : Observes counting := fun _ _ _ => ⟨_, _, rfl⟩
  have quiet : ∀ furnishing ∈ [(.limits { maxBodyBytes := 10 } : Furnishing Nat Unit)] ++
      [.responseFilter counting], furnishing.Quiet :=
    List.forall_mem_cons.mpr ⟨small, List.forall_mem_cons.mpr ⟨observes, nofun⟩⟩
  exact ⟨none, _, _, quiet, made⟩

theorem echoes_serve_dripping : ∃ server : Server Nat Unit,
    (Server.ofListener "mirror" "" none).furnishAll fittings = .ok server ∧
      Hosts server "mirror" "" id ∧
      Requests server.limits dripping "" sampleParts (Bytes.ofText "0\r\n\r\n5;\r\nx") ∧
      dripping.outbound.TakesAll ∧ Response.Unbroken dripping.date ∧
      Response.read (dripping.serve ⟨false⟩ server.dispatcher 0).written = some
        { statusLine := "HTTP/1.1 200 OK"
          fields := [⟨"Content-Type", "text/x-sample"⟩, ⟨"X-Echo-Method", "PUT"⟩,
            ⟨"Server", "mirror"⟩, ⟨"Content-Length", "10"⟩, ⟨"Date", HttpDate.ofSeconds 0⟩,
            ⟨"Connection", "close"⟩]
          body := Bytes.ofText "0\r\n\r\n5;\r\nx" } := by
  have hosts : Hosts _ "mirror" "" id := hosts_fittings rfl
  have takes : dripping.outbound.TakesAll := ⟨rfl, nofun⟩
  have dated : Response.Unbroken dripping.date := Response.unbroken_date 0
  have read := echoes_serve ⟨false⟩ hosts requests_dripping takes dated 0
  exact ⟨_, rfl, hosts, requests_dripping, takes, dated, read⟩

end Demo
end HttpServer
