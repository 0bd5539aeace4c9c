import HttpServer.Server

/-! Routes that show what a server can do: its status, an echo, and a counter of
uploaded octets. -/
namespace HttpServer.Demo

variable {σ ι κ : Type}

/-- Answers with the name of the server and the seconds for which it has been up. -/
def status (name : String) (uptime : σ → Nat) : BlockingHandler σ := fun _ => do
  let (state, _) ← Work.get
  Work.edit fun response =>
    { response.setContentType "application/json" with
      body := Bytes.ofText <|
        "\x7b\"name\":\"" ++ name ++ "\",\"status\":\"ok\",\"uptime_secs\":"
          ++ toString (uptime state) ++ "\x7d" }

/-- Sends a request's body back under its own type. -/
def echo : AsyncHandler σ := fun request response =>
  let contentType := (request.header? "content-type").getD "application/octet-stream"
  let answer :=
    (response.setContentType contentType).setHeader "X-Echo-Method" request.method.name
  pure (pure { answer with body := request.body })

structure Count where
  octets : Nat := 0
  pieces : Nat := 0
  deriving DecidableEq, Repr

/-- Counts what is uploaded and keeps none of it. -/
def uploads : UploadHandler σ where
  Reception := Count
  begin := fun _ => pure {}
  chunk := fun piece => do
    Work.edit fun count => ⟨count.octets + piece.length, count.pieces + 1⟩
    return .ok ()
  finish := fun response => do
    let (_, count) ← Work.get
    let text :=
      "received " ++ toString count.octets ++ " bytes in " ++ toString count.pieces ++ " chunks"
    return { response.setContentType "text/plain" with body := Bytes.ofText text }

/-- Names the path that no route answers. -/
def notFound : NotFoundHandler σ := fun request =>
  Work.edit fun response =>
    { response.setContentType "application/json" with
      status := 404
      body := Bytes.ofText ("\x7b\"error\":\"no route for " ++ request.path ++ "\"\x7d") }

/-- The demonstration for a server of that name, whose state tells its uptime. -/
def furnishings (name : String) (uptime : σ → Nat) : List (Furnishing σ ι κ) :=
  [.blockingHandler "/status" (status name uptime),
    .handler "/echo/" echo,
    .uploadHandler "/upload/" uploads,
    .notFoundHandler notFound]

end HttpServer.Demo
