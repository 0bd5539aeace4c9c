import HttpServer.Proofs.Connection.Containing

/-! The two fields that no callback has a say in. Every response that goes out bears the server's
name in one field, and in its last field it tells that the connection closes, whatever fields of
these names callbacks have left behind. -/
namespace HttpServer

variable {σ : Type} {dispatcher : Dispatcher σ} {connection : Connection} {state after : σ}
  {calls : List Call}

/-- Wherever the response filter does not panic, it leaves the fields alone that name the server. -/
def Dispatcher.SparesServer (dispatcher : Dispatcher σ) : Prop :=
  ∀ filter, dispatcher.responseFilter = some filter →
    ∀ uri state response after amended notices,
      filter uri (state, response) = ⟨some (), (after, amended), notices⟩ →
        amended.headers.getAll "Server" = response.headers.getAll "Server"

namespace Response

/-- The fields of a head, whose letter case does not count: one names the server, and one is about
the connection, the last one. -/
structure Stamped (name : String) (fields : List Field) : Prop where
  server : Headers.getAll ⟨fields⟩ "Server" = [name]
  connection : fields.filter (·.isNamed "Connection") = [⟨"Connection", "close"⟩]
  last : fields.getLast? = some ⟨"Connection", "close"⟩

theorem stamped_sentFields {response : Response} {name : String} (unbroken : Unbroken name)
    (stored : response.headers.getAll "Server" = [name]) (date : String) :
    Stamped name (response.sentFields date) where
  server := by
    obtain ⟨spelling, same, found⟩ := Headers.filter_of_getAll stored
    have writable := isWritable_of_sameName same (by decide) unbroken
    rw [Headers.getAll, filter_sentFields date response (by decide), found,
      List.filter_cons_of_pos writable]
    rfl
  connection := by
    have caseless : Text.sameName "Connection" "connection" = true := by decide
    simp only [Field.isNamed_congr caseless]
    exact connection_sentFields date response
  last := List.getLast?_concat

end Response

theorem Finalizes.server {reply final : Connection.Reply} (spares : dispatcher.SparesServer)
    (h : Finalizes dispatcher reply state calls final after) :
    final.response.headers.getAll "Server" = [dispatcher.name] := by
  have stamped (response : Response) :
      (dispatcher.stamp response).headers.getAll "Server" = [dispatcher.name] :=
    response.headers.getAll_insert "Server" dispatcher.name
  cases h with
  | unset unset => exact stamped _
  | amended set ran => exact (spares _ set _ _ _ _ _ _ ran).trans (stamped _)
  | panicked set ran => exact stamped _

/-- Of what goes out, be it all or only the first octets of a response, that response bears the
name of the server once, and tells once and at last that the connection closes. -/
theorem stamped_serve (guard : Guard) (named : Response.Unbroken dispatcher.name)
    (spares : dispatcher.SparesServer) (dated : Response.Unbroken connection.date) (state : σ) :
    (connection.serve guard dispatcher state).written = [] ∨
      ∃ octets reading,
        (connection.serve guard dispatcher state).written <+: octets ∧
        (connection.outbound.TakesAll →
          (connection.serve guard dispatcher state).written = octets) ∧
        Response.read octets = some reading ∧
        Response.Stamped dispatcher.name reading.fields := by
  obtain ⟨calls, outcome, after, course⟩ := exists_course dispatcher connection state
  cases course with
  | broke converses => exact .inl (Connection.unwritten_serve_of_course (.broke converses) nofun _)
  | silent converses => exact .inl (Connection.unwritten_serve_of_course (.silent converses) nofun _)
  | @replied _ _ _ _ final _ converses finalizes =>
      have written := Connection.written_serve_of_course (.replied converses finalizes) guard
      have read := final.response.read_encode dated final.headOnly
      refine .inr ⟨_, _, written ▸ Outbound.written_prefix _ _, ?_, read, ?_⟩
      · exact fun takes => written.trans (takes.written _)
      · rw [Response.writtenFields_eq]
        exact Response.stamped_sentFields named (finalizes.server spares) _

/-- Answers under other names than the server's, and would keep the connection. -/
def posing : AsyncHandler Unit := fun _ response =>
  let signed := (response.appendHeader "SERVER" "first").appendHeader "server" "second"
  pure (pure (signed.setHeader "connection" "keep-alive"))

def posed : Dispatcher Unit where
  name := "genuine"
  routes := { baseUri := "", routes := [⟨"/", .simple posing⟩] }
  responseFilter := some fun _ =>
    Work.edit fun response => response.appendHeader "CONNECTION" "upgrade"

theorem spares_posed : posed.SparesServer := by
  intro filter set uri state response after amended notices ran
  cases set
  cases ran
  exact (response.headers.getAll_append _ _ _).trans (List.append_nil _)

theorem stamped_probing : Response.Unbroken posed.name ∧ posed.SparesServer ∧
    Response.Unbroken (probing .get).date ∧ (probing .get).outbound.TakesAll ∧
    ∃ reading, Response.read ((probing .get).serve ⟨false⟩ posed ()).written = some reading ∧
      Response.Stamped "genuine" reading.fields := by
  have named : Response.Unbroken posed.name := by decide
  have takes : (probing .get).outbound.TakesAll := ⟨rfl, nofun⟩
  have arrives : Arrives posed.limits (probing .get) (probe .get) := arrives_probing (.inl rfl)
  have ended := ((probe .get).fed_bodiless rfl).2
  have within := (probe .get).not_exceeds_bodiless rfl posed.limits.maxBodyBytes
  have buffered : Buffered posed (probe .get).request (some ("/", posing)) := .simple rfl rfl
  have course : Course posed (probing .get) () _ _ _ :=
    .replied (.replied arrives
      (.answered buffered within ended (.unset rfl) (.routed (.answered rfl rfl))))
      (.amended rfl rfl)
  have written := Connection.written_serve_of_course course ⟨false⟩
  rw [takes.written] at written
  have dated : Response.Unbroken (probing .get).date := Response.unbroken_date 0
  refine ⟨named, spares_posed, dated, takes, ?_⟩
  rcases stamped_serve ⟨false⟩ named spares_posed dated () with
    silent | ⟨octets, reading, _, whole, read, stamped⟩
  · exact absurd (written.symm.trans silent) (Response.encode_ne_nil _ _ _)
  · exact ⟨reading, (whole takes).symm ▸ read, stamped⟩

end HttpServer
