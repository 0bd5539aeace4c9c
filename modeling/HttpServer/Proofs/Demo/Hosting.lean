import HttpServer.Demo
import HttpServer.Proofs.Routing
import HttpServer.Proofs.Server.Furnishing

/-! Servers that host the demonstration below a base. Calls that set limits, an interval, a
scheduled command, a context for TLS or a response filter may come before it and after it. -/
namespace HttpServer

universe u

variable {σ ι κ : Type}

/-- A response filter that neither panics nor changes a response. -/
def Observes (filter : ResponseFilter σ) : Prop :=
  ∀ uri state response, ∃ after notices,
    filter uri (state, response) = ⟨some (), (after, response), notices⟩

/-- Calls that furnish a server with nothing that answers a request. A limit is a number of 64
bits. -/
def Furnishing.Quiet : Furnishing σ ι κ → Prop
  | .limits bounds => bounds.maxBodyBytes ≤ Numeral.max64
  | .responseFilter filter => Observes filter
  | .interval _ | .command _ | .abortOnExhaustion _ | .tlsContext _ => True
  | _ => False

theorem Furnishing.Quiet.unset {furnishing : Furnishing σ ι κ} (quiet : furnishing.Quiet) :
    furnishing.route? = none ∧ furnishing.notFoundHandler? = none ∧
      furnishing.requestFilter? = none := by
  cases furnishing with
  | limits | responseFilter | interval | command | abortOnExhaustion | tlsContext =>
      exact ⟨rfl, rfl, rfl⟩
  | _ => exact quiet.elim

namespace Demo

def routes (name : String) (uptime : σ → Nat) : List (String × Target σ) :=
  [("/status", .simple (status name uptime).toAsync), ("/echo/", .simple echo),
    ("/upload/", .upload uploads)]

/-- A new server that has been furnished with the demonstration, and with nothing else that answers
a request or changes a response. -/
structure Hosts (server : Server σ ι κ) (name baseUri : String) (uptime : σ → Nat) : Prop where
  furnished : ∃ (address : Option Endpoint) (earlier later : List (Furnishing σ ι κ)),
    (∀ furnishing ∈ earlier ++ later, furnishing.Quiet) ∧
      (Server.ofListener name baseUri address).furnishAll
        (earlier ++ furnishings name uptime ++ later) = .ok server

/-- What answers requests on a server that hosts the demonstration. -/
structure Offers (server : Server σ ι κ) (name baseUri : String) (uptime : σ → Nat) : Prop where
  named : server.name = name
  routed : server.routes = RouteTable.build baseUri (routes name uptime)
  notFound : server.notFoundHandler = some notFound
  noRequestFilter : server.requestFilter = none
  observes : ∀ filter, server.responseFilter = some filter → Observes filter
  bounded : server.limits.maxBodyBytes ≤ Numeral.max64

section Around

variable {earlier later : List (Furnishing σ ι κ)} (name : String) (uptime : σ → Nat)
  (quiet : ∀ furnishing ∈ earlier ++ later, furnishing.Quiet)
include quiet

/-- What no quiet call sets is what the demonstration sets. -/
theorem filterMap_around {α : Type u} {setting : Furnishing σ ι κ → Option α}
    (unset : ∀ furnishing : Furnishing σ ι κ, furnishing.Quiet → setting furnishing = none) :
    (earlier ++ furnishings name uptime ++ later).filterMap setting =
      (furnishings name uptime).filterMap setting := by
  rw [List.forall_mem_append] at quiet
  have early : earlier.filterMap setting = [] :=
    List.filterMap_eq_nil_iff.mpr fun furnishing member => unset furnishing (quiet.1 _ member)
  have late : later.filterMap setting = [] :=
    List.filterMap_eq_nil_iff.mpr fun furnishing member => unset furnishing (quiet.2 _ member)
  rw [List.filterMap_append, List.filterMap_append, early, late, List.nil_append, List.append_nil]

/-- What the demonstration does not set has been set by a quiet call. -/
theorem exists_quiet_of_latest {α : Type} {setting : Furnishing σ ι κ → Option α} {value : α}
    (unset : (furnishings name uptime).filterMap setting = [])
    (set : Furnishing.latest setting (earlier ++ furnishings name uptime ++ later) = some value) :
    ∃ furnishing : Furnishing σ ι κ, furnishing.Quiet ∧ setting furnishing = some value := by
  rw [Furnishing.latest, List.filterMap_append, List.filterMap_append, unset, List.append_nil,
    ← List.filterMap_append] at set
  obtain ⟨furnishing, listed, sets⟩ := List.mem_filterMap.mp (List.mem_of_getLast? set)
  exact ⟨furnishing, quiet furnishing listed, sets⟩

end Around

theorem Hosts.offers {server : Server σ ι κ} {name baseUri : String} {uptime : σ → Nat}
    (h : Hosts server name baseUri uptime) : Offers server name baseUri uptime := by
  obtain ⟨address, earlier, later, quiet, made⟩ := h.furnished
  cases Server.eq_furnished_of_furnishAll made
  constructor
  case named => rfl
  case routed =>
    have added := filterMap_around name uptime quiet fun _ quiet => quiet.unset.1
    exact congrArg (List.foldl _ _) added
  case notFound =>
    have set := filterMap_around name uptime quiet fun _ quiet => quiet.unset.2.1
    exact congrArg (Option.or · none) (congrArg List.getLast? set)
  case noRequestFilter =>
    have set := filterMap_around name uptime quiet fun _ quiet => quiet.unset.2.2
    exact congrArg (Option.or · none) (congrArg List.getLast? set)
  case observes =>
    intro filter set
    change (Furnishing.latest (·.responseFilter?) _).or none = some filter at set
    rw [Option.or_none] at set
    obtain ⟨furnishing, quiet, sets⟩ := exists_quiet_of_latest name uptime quiet (by rfl) set
    cases furnishing with
    | responseFilter other =>
        cases sets
        exact quiet
    | _ => cases sets
  case bounded =>
    rw [Server.furnished]
    cases set : Furnishing.latest (·.limits?) (earlier ++ furnishings name uptime ++ later) with
    | none => exact show ({} : Limits).maxBodyBytes ≤ Numeral.max64 by decide
    | some limits =>
        obtain ⟨furnishing, quiet, sets⟩ := exists_quiet_of_latest name uptime quiet (by rfl) set
        cases furnishing with
        | limits other =>
            cases sets
            exact quiet
        | _ => cases sets

section Lookup

variable {name baseUri uri : String} {uptime : σ → Nat}

/-- No more than one path of the demonstration begins a target. -/
theorem path_eq_of_begins {first second : String}
    (one : first ∈ (routes name uptime).map (·.1)) (other : second ∈ (routes name uptime).map (·.1))
    (begins : (baseUri ++ first).toList <+: uri.toList)
    (also : (baseUri ++ second).toList <+: uri.toList) : first = second := by
  have apart : ∀ first ∈ ["/status", "/echo/", "/upload/"],
      ∀ second ∈ ["/status", "/echo/", "/upload/"],
        first.toList <+: second.toList → first = second := by
    decide
  rw [String.toList_append] at begins also
  rcases List.prefix_or_prefix_of_prefix begins also with starts | starts
  · exact apart first one second other ((List.prefix_append_right_inj _).mp starts)
  · exact (apart second other first one ((List.prefix_append_right_inj _).mp starts)).symm

theorem find?_echo (begins : (baseUri ++ "/echo/").toList <+: uri.toList) :
    (RouteTable.build baseUri (routes name uptime)).find? uri =
      some ⟨baseUri ++ "/echo/", .simple echo⟩ := by
  rw [(RouteTable.arranged_build baseUri _).find?_iff]
  refine ⟨begins, ?_, ?_⟩
  · intro other member also
    obtain ⟨addition, added, rfl⟩ := List.mem_map.mp member
    have listed : addition.1 ∈ (routes name uptime).map (·.1) := List.mem_map_of_mem added
    have same := path_eq_of_begins listed (.tail _ (.head _)) also begins
    exact same ▸ Nat.le_refl _
  · simp [RouteTable.below, routes, String.append_right_inj]

theorem target_of_find?_status {target : Target σ}
    (found : (RouteTable.build baseUri (routes name uptime)).find? uri =
      some ⟨baseUri ++ "/status", target⟩) : target = .simple (status name uptime).toAsync := by
  have leads := (RouteTable.arranged_build baseUri _).find?_iff.mp found
  have first : .simple (status name uptime).toAsync = target := by
    simpa [RouteTable.below, routes] using leads.earliest
  exact first.symm

end Lookup

end Demo
end HttpServer
