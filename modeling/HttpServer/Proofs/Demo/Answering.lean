import HttpServer.Proofs.Connection.Handling
import HttpServer.Proofs.Connection.HeadOnly
import HttpServer.Proofs.Demo.Echoing
import HttpServer.Proofs.Json

/-! What a client reads from a server with the demonstration, where no route answers and where it
asks for the status: an answer of type JSON, into which the path of its request or the name of the
server has been put as it is. If this has a quotation mark or a backslash in it, or the name a
control character, what the client reads does not say what it should. -/
namespace HttpServer

open Json (Encodes Writes Plain)

variable {σ ι κ : Type}

namespace Demo

/-- Whether octets are an object that says why there is no answer. -/
def Explains (body : Bytes) (path : String) : Prop :=
  ∃ entries, Encodes body (.object entries) ∧ ("error", .text ("no route for " ++ path)) ∈ entries

/-- Whether octets are an object that says how a server is doing. -/
def Describes (body : Bytes) (name : String) : Prop :=
  ∃ entries, Encodes body (.object entries) ∧
    (entries.map (·.1)).Perm ["name", "status", "uptime_secs"] ∧ ("name", .text name) ∈ entries

def explanation (request : Request) (response : Response) : Response :=
  { response.setContentType "application/json" with
    status := 404
    body := Bytes.ofText ("\x7b\"error\":\"no route for " ++ request.path ++ "\"\x7d") }

def description (name : String) (uptime : Nat) (response : Response) : Response :=
  { response.setContentType "application/json" with
    body := Bytes.ofText <|
      "\x7b\"name\":\"" ++ name ++ "\",\"status\":\"ok\",\"uptime_secs\":" ++ toString uptime ++
        "\x7d" }

section Bodies

theorem explanation_text (path : String) :
    "\x7b\"error\":\"no route for " ++ path ++ "\"\x7d" =
      String.ofList ('\x7b' :: (('"' :: ("error".toList ++ '"' :: ':' ::
        ('"' :: (("no route for " ++ path).toList ++ ['"'])))) ++ ['\x7d'])) := by
  rw [← String.toList_inj, String.toList_ofList]
  simp [String.toList_append]

theorem description_text (name : String) (uptime : Nat) :
    "\x7b\"name\":\"" ++ name ++ "\",\"status\":\"ok\",\"uptime_secs\":" ++ toString uptime ++
        "\x7d" =
      String.ofList ('\x7b' :: '"' :: ("name".toList ++ '"' :: ':' :: '"' ::
        (name.toList ++ '"' :: ',' :: '"' :: 's' :: ("tatus\":\"ok\",\"uptime_secs\":".toList ++
          ((toString uptime).toList ++ ['\x7d']))))) := by
  rw [← String.toList_inj, String.toList_ofList]
  simp [String.toList_append]

theorem encodes_object {source : List Char} {entries : List (String × Config.Document)}
    (members : Json.Separated (Json.Member Writes) source entries) :
    Encodes (Bytes.ofText (String.ofList ('\x7b' :: (source ++ ['\x7d'])))) (.object entries) := by
  refine ⟨[], _, [], nofun, .object members, nofun, ?_⟩
  rw [List.nil_append, List.append_nil]

/-- What is said about a path is in order if there is nothing in the path that would have to be
escaped. Control characters cannot be in it. -/
theorem explains_iff {path : String} (printable : ∀ c ∈ path.toList, ' ' ≤ c) :
    Explains (Bytes.ofText ("\x7b\"error\":\"no route for " ++ path ++ "\"\x7d")) path ↔
      ∀ c ∈ path.toList, c ≠ '"' ∧ c ≠ '\\' := by
  have lead : Plain "no route for " := by decide
  rw [explanation_text]
  constructor
  · rintro ⟨entries, encodes, member⟩ c inside
    have plain := encodes.plain_of_short member (by simp; omega)
    have here := plain c (by rw [String.toList_append]; exact List.mem_append_right _ inside)
    exact ⟨here.1, here.2.1⟩
  · intro free
    have plain : Plain ("no route for " ++ path) := by
      rw [Plain, String.toList_append, List.forall_mem_append]
      exact ⟨lead, fun c inside => ⟨(free c inside).1, (free c inside).2, printable c inside⟩⟩
    exact ⟨_, encodes_object (Json.separated_last
      (Json.member_of_plain (by decide) (Json.writes_text plain))), List.mem_cons_self⟩

theorem describes_iff {name : String} {uptime : Nat} :
    Describes (Bytes.ofText ("\x7b\"name\":\"" ++ name ++ "\",\"status\":\"ok\",\"uptime_secs\":" ++
      toString uptime ++ "\x7d")) name ↔ Plain name := by
  rw [description_text]
  constructor
  · rintro ⟨entries, encodes, keys, member⟩
    have distinct : (entries.map (·.1)).Nodup := keys.nodup_iff.mpr (by decide)
    exact encodes.plain_of_first (by decide) distinct member (by decide) (by decide)
  · intro plain
    have members := Json.separated_cons
      (Json.member_of_plain (show Plain "name" by decide) (Json.writes_text plain)) <|
      Json.separated_cons
        (Json.member_of_plain (show Plain "status" by decide)
          (Json.writes_text (show Plain "ok" by decide))) <|
      Json.separated_last (Json.member_of_plain (show Plain "uptime_secs" by decide)
        (.whole (Json.whole_toString uptime)))
    have whole := encodes_object members
    simp only [List.cons_append, List.append_assoc] at whole
    exact ⟨_, whole, List.Perm.refl _, List.mem_cons_self⟩

end Bodies

end Demo

section Printable

theorem Arrives.isTarget {limits : Limits} {connection : Connection} {incoming : Incoming}
    (h : Arrives limits connection incoming) : Head.IsTarget incoming.request.uri := by
  obtain ⟨head, read, same⟩ := h.read
  obtain ⟨unread, decoded⟩ := Head.decode_of_feed read
  obtain ⟨_, _, _, _, _, parsed⟩ := Head.consumed_of_decode decoded
  obtain ⟨parts, wellFormed, _, rfl, _⟩ := Head.parts_of_parse parsed
  rw [same]
  exact wellFormed.target

theorem Text.isControlByte_of_lt {b : UInt8} (small : ¬ ' ' ≤ charOf b) :
    isControlByte b = true ∧ b < 128 := by
  revert b
  apply forall_byte
  decide +kernel

theorem Head.IsTarget.printable {uri : String} (h : IsTarget uri) : ∀ c ∈ uri.toList, ' ' ≤ c := by
  intro c member
  by_contra small
  have below : c.toNat < 256 := Nat.lt_trans (Nat.lt_of_not_le small) (by decide)
  obtain ⟨b, rfl⟩ := Text.exists_charOf below
  obtain ⟨control, ascii⟩ := Text.isControlByte_of_lt small
  have inside : b ∈ Bytes.ofText uri := by
    rw [← String.ofList_toList (s := uri), Bytes.ofText_ofList, List.mem_flatMap]
    refine ⟨_, member, ?_⟩
    rw [Text.utf8EncodeChar_charOf ascii]
    exact List.mem_singleton_self b
  have free := (h.free b inside).2
  rw [control] at free
  cases free

theorem Head.IsTarget.path_printable {request : Request} (h : IsTarget request.uri) :
    ∀ c ∈ request.path.toList, ' ' ≤ c := by
  intro c member
  rw [Request.path, String.toList_ofList] at member
  exact h.printable c ((List.takeWhile_prefix _).subset member)

end Printable

namespace Demo

/-- A client reads an answer with this status line under the media type of JSON. Its body has this
property, unless only the head was asked for. -/
def ReadsJson {σ : Type} (served : Served σ) (request : Request) (statusLine : String)
    (property : Bytes → Prop) : Prop :=
  ∃ fields body, Response.read served.written = some ⟨statusLine, fields, body⟩ ∧
    Headers.getAll ⟨fields⟩ "Content-Type" = ["application/json"] ∧
    if request.method = .head then body = [] else property body

/-- When the answers of the demonstration are in order: if the path of the request, or the name of
the server, has nothing in it that would have to be escaped. -/
structure Informs {σ : Type} (served : Served σ) (name baseUri : String) : Prop where
  notFound : ∀ request response, .notFoundHandler request response ∈ served.calls →
    ReadsJson served request "HTTP/1.1 404 Not Found" fun body =>
      Explains body request.path ↔ ∀ c ∈ request.path.toList, c ≠ '"' ∧ c ≠ '\\'
  status : ∀ request response,
    .routeHandler (baseUri ++ "/status") request response ∈ served.calls →
      ReadsJson served request "HTTP/1.1 200 OK" fun body => Describes body name ↔ Plain name

section Sent

variable {dispatcher : Dispatcher σ} {state after : σ} {calls : List Call}

theorem finalizes_observed {reply final : Connection.Reply}
    (observes : ∀ filter, dispatcher.responseFilter = some filter → Observes filter)
    (h : Finalizes dispatcher reply state calls final after) :
    final = { reply with response := dispatcher.stamp reply.response } := by
  cases h with
  | unset unset => rfl
  | @amended filter _ _ _ set ran =>
      obtain ⟨left, notices, same⟩ :=
        observes filter set reply.uri state (dispatcher.stamp reply.response)
      rw [ran] at same
      cases same
      rfl
  | @panicked filter _ _ _ set ran =>
      obtain ⟨left, notices, same⟩ :=
        observes filter set reply.uri state (dispatcher.stamp reply.response)
      rw [ran] at same
      cases same

theorem contentType_written {response : Response} (dispatcher : Dispatcher σ)
    (bodied : Status.isBodiless response.status = false)
    (typed : response.headers.fields = [⟨"Content-Type", "application/json"⟩]) (date : String) :
    Headers.getAll ⟨(dispatcher.stamp response).writtenFields date⟩ "Content-Type" =
      ["application/json"] := by
  have fields : (dispatcher.stamp response).headers.fields =
      [⟨"Content-Type", "application/json"⟩, ⟨"Server", dispatcher.name⟩] := by
    show Headers.put "Server" dispatcher.name response.headers.fields = _
    rw [typed]
    exact Headers.put_of_missing _ (by decide)
  have plain : ∀ name ∈ (dispatcher.stamp response).headers.fields.map (·.name),
      ∀ own ∈ ["connection", "content-length", "date"], Text.sameName name own = false := by
    rw [fields]
    exact show ∀ name ∈ ["Content-Type", "Server"], ∀ own ∈ _, _ by decide
  have written := @Response.writtenFields_of_plain (dispatcher.stamp response) bodied plain date
  have type : Response.isWritable ⟨"Content-Type", "application/json"⟩ = true := by decide
  rw [fields, List.filter_cons_of_pos type, Response.filter_isWritable (by decide)] at written
  rw [written, Headers.getAll]
  have others : ∀ name ∈ ["Server", "Content-Length", "Date", "Connection"],
      Text.sameName name "Content-Type" = false := by decide
  simp only [List.forall_mem_cons] at others
  split <;> simp [Field.isNamed, others]

variable {connection : Connection} {incoming : Incoming} {response : Response}

theorem readsJson_of_course {outcome : Option (Option Connection.Reply)}
    {others : List Call} {final : Connection.Reply} {left : σ}
    (course : Course dispatcher connection state calls outcome after)
    (finalizes : Finalizes dispatcher (incoming.reply response) left others final after)
    (replied : outcome = some (some final))
    (observes : ∀ filter, dispatcher.responseFilter = some filter → Observes filter)
    (takes : connection.outbound.TakesAll) (dated : Response.Unbroken connection.date)
    (bodied : Status.isBodiless response.status = false)
    (typed : response.headers.fields = [⟨"Content-Type", "application/json"⟩])
    {property : Bytes → Prop} (holds : property response.body) (guard : Guard) :
    ReadsJson (connection.serve guard dispatcher state) incoming.whole response.statusText
      property := by
  cases replied
  have written := Connection.written_serve_of_course course guard
  rw [takes.written, finalizes_observed observes finalizes] at written
  have read : Response.read (connection.serve guard dispatcher state).written =
      some ⟨response.statusText, (dispatcher.stamp response).writtenFields connection.date,
        (dispatcher.stamp response).writtenBody (incoming.request.method = .head)⟩ := by
    rw [written]
    exact Response.read_encode _ dated _
  refine ⟨_, _, read, contentType_written dispatcher bodied typed connection.date, ?_⟩
  have bodied : Status.isBodiless (dispatcher.stamp response).status = false := bodied
  rw [Response.writtenBody, bodied, Bool.or_false]
  by_cases headOnly : incoming.request.method = .head
  · rw [if_pos (show incoming.whole.method = .head from headOnly), if_pos (decide_eq_true headOnly)]
  · rw [if_neg (show ¬ incoming.whole.method = .head from headOnly),
      if_neg (by simpa using headOnly)]
    exact holds

theorem explanation_statusText (request : Request) (response : Response) :
    (explanation request response).statusText = "HTTP/1.1 404 Not Found" := by
  show "HTTP/1.1 " ++ toString 404 ++ " " ++ Status.reason 404 = _
  decide

theorem description_statusText (name : String) (uptime : Nat) :
    (description name uptime dispatcher.newResponse).statusText = "HTTP/1.1 200 OK" := by
  show "HTTP/1.1 " ++ toString 200 ++ " " ++ Status.reason 200 = _
  decide

variable {server : Server σ ι κ} {name baseUri : String} {uptime : σ → Nat}

theorem status_answers {request : Request} {answer : Option Response}
    (h : Handles (status name uptime).toAsync request response state answer after) :
    answer = some (description name (uptime state) response) := by
  cases h with
  | answered built ran =>
      cases built
      cases ran
      rfl
  | panicked built ran =>
      cases built
      cases ran
  | broke built => cases built

theorem handler_of_buffered (offers : Offers server name baseUri uptime)
    {request : Request} {handler : AsyncHandler σ}
    (buffered : Buffered server.dispatcher request (some (baseUri ++ "/status", handler))) :
    handler = (status name uptime).toAsync := by
  have target {target : Target σ}
      (found : server.routes.find? request.uri = some ⟨baseUri ++ "/status", target⟩) :
      target = .simple (status name uptime).toAsync := by
    rw [offers.routed] at found
    exact target_of_find?_status found
  cases buffered with
  | simple found supported => exact Target.simple.inj (target found)
  | forwarding found => cases target found

variable {outcome : Option (Option Connection.Reply)} {request : Request}

theorem readsJson_notFound (offers : Offers server name baseUri uptime)
    (course : Course server.dispatcher connection state calls outcome after)
    (takes : connection.outbound.TakesAll) (dated : Response.Unbroken connection.date)
    (guard : Guard) (called : .notFoundHandler request response ∈ calls) :
    ReadsJson (connection.serve guard server.dispatcher state) request "HTTP/1.1 404 Not Found" fun body =>
      Explains body request.path ↔ ∀ c ∈ request.path.toList, c ≠ '"' ∧ c ≠ '\\' := by
  obtain ⟨incoming, routed, mid, more, answer, left, arrives, buffered, answers, member, goes⟩ :=
    course.answered_of_isHandler called trivial
  cases answers with
  | routed | default => cases List.mem_singleton.mp member
  | unanswered => cases member
  | notFound unset set ran =>
      cases List.mem_singleton.mp member
      cases offers.notFound.symm.trans set
      cases ran
      obtain ⟨others, final, finalizes, replied⟩ := goes _ rfl
      rw [← explanation_statusText incoming.whole server.dispatcher.newResponse]
      have explains := explains_iff arrives.isTarget.path_printable
      exact readsJson_of_course course finalizes replied offers.observes takes dated rfl rfl
        explains guard
  | notFoundPanicked unset set ran =>
      cases offers.notFound.symm.trans set
      cases ran

theorem readsJson_status (offers : Offers server name baseUri uptime)
    (course : Course server.dispatcher connection state calls outcome after)
    (takes : connection.outbound.TakesAll) (dated : Response.Unbroken connection.date)
    (guard : Guard) (called : .routeHandler (baseUri ++ "/status") request response ∈ calls) :
    ReadsJson (connection.serve guard server.dispatcher state) request "HTTP/1.1 200 OK" fun body =>
      Describes body name ↔ Plain name := by
  obtain ⟨incoming, routed, mid, more, answer, left, arrives, buffered, answers, member, goes⟩ :=
    course.answered_of_isHandler called trivial
  cases answers with
  | default | notFound | notFoundPanicked => cases List.mem_singleton.mp member
  | unanswered => cases member
  | routed handles =>
      cases List.mem_singleton.mp member
      cases handler_of_buffered offers buffered
      obtain ⟨others, final, finalizes, replied⟩ := goes _ (status_answers handles)
      rw [← @description_statusText _ server.dispatcher name (uptime mid)]
      exact readsJson_of_course course finalizes replied offers.observes takes dated rfl rfl
        describes_iff guard

end Sent

/-- The demonstration answers with JSON. What its answers say is in order if it has nothing in it
that would have to be escaped, and else it is not. -/
theorem informs_serve (guard : Guard) {server : Server σ ι κ} {name baseUri : String}
    {uptime : σ → Nat} (hosts : Hosts server name baseUri uptime) {connection : Connection}
    (takes : connection.outbound.TakesAll) (dated : Response.Unbroken connection.date)
    (state : σ) :
    Informs (connection.serve guard server.dispatcher state) name baseUri := by
  have offers := hosts.offers
  obtain ⟨calls, outcome, after, course⟩ := exists_course server.dispatcher connection state
  have made := Connection.calls_serve_of_course course guard
  constructor
  · intro request response called
    rw [made] at called
    exact readsJson_notFound offers course takes dated guard called
  · intro request response called
    rw [made] at called
    exact readsJson_status offers course takes dated guard called

def asking (target : String) : Connection where
  segments := [Bytes.ofText ("GET " ++ target ++ " HTTP/1.1\r\n\r\n")]
  date := HttpDate.ofSeconds 0

/-- The status is asked for below the base of the server, and the handler is called for it. -/
theorem informs_serve_asking : ∃ server : Server Nat Unit,
    (Server.ofListener "mirror" "/v1" none).furnishAll fittings = .ok server ∧
      Hosts server "mirror" "/v1" id ∧ (asking "/v1/status?a").outbound.TakesAll ∧
      Response.Unbroken (asking "/v1/status?a").date ∧
      .routeHandler "/v1/status" { method := .get, uri := "/v1/status?a" }
          { hasNotFoundHandler := true } ∈
        ((asking "/v1/status?a").serve ⟨false⟩ server.dispatcher 5).calls ∧
      Informs ((asking "/v1/status?a").serve ⟨false⟩ server.dispatcher 5) "mirror" "/v1" := by
  have hosts : Hosts _ "mirror" "/v1" id := hosts_fittings rfl
  have takes : (asking "/v1/status?a").outbound.TakesAll := ⟨rfl, nofun⟩
  have dated : Response.Unbroken (asking "/v1/status?a").date := Response.unbroken_date 0
  exact ⟨_, rfl, hosts, takes, dated, by decide +kernel,
    informs_serve ⟨false⟩ hosts takes dated 5⟩

/-- The quotation mark in this path ends the text that should name the path. -/
theorem path_not_escaped : ∃ server : Server Nat Unit,
    (Server.ofListener "mirror" "" none).furnishAll fittings = .ok server ∧
      Hosts server "mirror" "" id ∧ ∃ request response fields body,
        .notFoundHandler request response ∈
          ((asking "/a\"b").serve ⟨false⟩ server.dispatcher 0).calls ∧
        request.path = "/a\"b" ∧
        Response.read ((asking "/a\"b").serve ⟨false⟩ server.dispatcher 0).written =
          some ⟨"HTTP/1.1 404 Not Found", fields, body⟩ ∧
        Headers.getAll ⟨fields⟩ "Content-Type" = ["application/json"] ∧
        ¬ Explains body request.path := by
  refine ⟨_, rfl, hosts_fittings rfl, { method := .get, uri := "/a\"b" },
    { hasNotFoundHandler := true },
    [⟨"Content-Type", "application/json"⟩, ⟨"Server", "mirror"⟩, ⟨"Content-Length", "29"⟩,
      ⟨"Date", HttpDate.ofSeconds 0⟩, ⟨"Connection", "close"⟩],
    Bytes.ofText "\x7b\"error\":\"no route for /a\"b\"\x7d", by decide +kernel, by decide,
    by decide +kernel, by decide, ?_⟩
  have target : Head.IsTarget "/a\"b" := ⟨by decide, by decide +kernel⟩
  intro explains
  exact ((explains_iff target.printable).mp explains '"' (by decide)).1 rfl

end Demo
end HttpServer
