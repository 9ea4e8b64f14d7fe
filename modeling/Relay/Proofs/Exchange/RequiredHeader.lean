import Relay.Proofs.Exchange.RulesRun
import Relay.Proofs.Json.ReadBack
import Relay.Proofs.Rule.Required

/-!
# Requests that lack a required header

A gateway forwards a request once or not at all, and not at all exactly when its route requires a header
that neither arrives nor is set in time. The answer is then a document that names the first such header.
-/

namespace Relay
open Http

/-! ### The document of an error -/

/-- The body of a response is a document with this node at a location. -/
def Shows (response : Response) (location : Json.Location) (node : Json) : Prop :=
  ∃ text document, Text.ofBytes? response.body = some text ∧ Json.parse text = .ok document ∧
    document.get? location = some node

theorem parse_errorDocument (code message : String) :
    Json.parse (errorDocument code message).render = .ok (errorDocument code message) := by
  refine (Json.parse_render _ ?_ ?_ ?_).trans rfl
  · have before : "code" < "message" := by decide
    have ordered : Json.Members.Ordered [("code", Json.str code), ("message", Json.str message)] :=
      List.pairwise_pair.mpr before
    exact ⟨List.pairwise_singleton .., ⟨ordered, trivial, trivial, trivial⟩, trivial⟩
  · simp [errorDocument, Json.NumbersReadable, Json.NumbersReadableMembers]
  · simp [errorDocument, Json.depth, Json.depthMembers, Json.maxDepth]

theorem shows_ofError (status : Nat) (code message : String) {location : Json.Location} {node : Json}
    (held : (errorDocument code message).get? location = some node) (id : Uuid) :
    Shows (Exchange.echoed id (Response.ofError status code message)) location node := by
  refine ⟨(errorDocument code message).render, errorDocument code message, ?_,
    parse_errorDocument code message, held⟩
  rw [Text.ofBytes?_eq_some, Exchange.echoed, Response.ofError]

namespace Gateway
open Exchange

/-! ### How an exchange ends -/

theorem sentBy_error_iff {rules : List Rule} {limit : Nat} {request : Request} :
    (∃ error, sentBy rules limit request = .error error) ↔
      ∃ place name, Rule.Unmet rules request.headers place name := by
  simp only [sentBy_eq_error, ← Option.isSome_iff_exists, ← Option.ne_none_iff_isSome]
  rw [Ne, Rule.fatalError_eq_none_iff]
  simp [draftOf]

theorem onward_error_iff {table : Route.Table} {settings : GatewaySettings} {world : World}
    {request : Request} :
    (∃ error, onward table settings world request = .error error) ↔
      ∃ route place name, table.resolve request.uri.path = some route ∧
        Rule.Unmet route.requestRules request.headers place name := by
  unfold onward sent
  cases found : table.resolve request.uri.path with
  | none => simp
  | some route => simp [sentBy_error_iff]

theorem onward_of_firstUnmet {table : Route.Table} (settings : GatewaySettings) (world : World)
    {request : Request} {route : Route} (found : table.resolve request.uri.path = some route) {place : Nat}
    {name : String} (lacks : Rule.FirstUnmet route.requestRules request.headers place name) :
    onward table settings world request = .error (.missingHeader name) := by
  obtain ⟨error, ended⟩ := onward_error_iff.mpr ⟨route, place, name, found, lacks.unmet⟩
  rw [ended]
  simp only [onward, sent, found, sentBy_eq_error] at ended
  obtain ⟨place', name', first, rfl⟩ := Rule.firstUnmet_of_fatalError ended
  rw [lacks.unique first]

/-- A request is forwarded once at most, and it is forwarded unless its route requires a header that it
lacks. Then the first such header is named in the answer, which has the identifier of the exchange, and no
rule for responses has run. -/
theorem forwards_unless_header_missing (table : Route.Table) (settings : GatewaySettings) (world : World)
    (forwarder : Forwarder) (request : Request) :
    let run := (ofTable table settings).handle world forwarder request
    run.forwards.length ≤ 1 ∧
      (run.forwards = [] ↔ ∃ route place name, table.resolve request.uri.path = some route ∧
        Rule.Unmet route.requestRules request.headers place name) ∧
      ∀ route place name, table.resolve request.uri.path = some route →
        Rule.FirstUnmet route.requestRules request.headers place name →
          run.rulesRun .response = [] ∧
            ∃ response, run.result = some response ∧ response.status = 400 ∧
              Shows response [.key "error", .key "code"] (.str "MISSING_REQUIRED_HEADER") ∧
              Shows response [.key "error", .key "message"]
                (.str ("Required header '" ++ name ++ "' is missing")) ∧
              response.headers.values .correlationId =
                [(exchangeId settings world request).text.toUTF8] := by
  intro run
  refine ⟨?_, ?_, fun route place name found lacks => ?_⟩
  · exact length_forwards_le ..
  · exact (forwards_eq_nil_iff ..).trans onward_error_iff
  · have ended := onward_of_firstUnmet settings world found lacks
    exact ⟨rulesRun_handle_of_error ended forwarder, _, (handle_of_error ended forwarder).2, rfl,
      shows_ofError 400 _ _ rfl _, shows_ofError 400 _ _ rfl _, Headers.values_insert_self ..⟩

/-- A header that a rule sets is there for the requirements behind the rule, in whatever case it is
written. -/
theorem missing_header_is_named :
    let route : Route := { requestRules := [.addHeader (some "X-Tenant") (some "a"),
      .validateHeader (some "x-tenant") true, .validateHeader (some "X-Key") true] }
    let run := (ofTable (.always route) {}).handle .still (fun _ => none) (.root .empty .empty)
    run.forwards = [] ∧ ∃ response, run.result = some response ∧
      Shows response [.key "error", .key "message"] (.str "Required header 'X-Key' is missing") := by
  intro route run
  have supplied : Rule.Supplies "x-tenant" (.addHeader (some "X-Tenant") (some "a")) := by
    simp only [Rule.Supplies]
    decide
  have lacks : Rule.FirstUnmet route.requestRules (Http.Request.root .empty .empty).headers 2 "X-Key" := by
    refine ⟨⟨rfl, ?_, ?_⟩, ?_⟩
    · rintro ⟨field, present, -⟩
      cases present
    · intro earlier before rule stands
      obtain rfl | rfl : earlier = 0 ∨ earlier = 1 := by omega
      · obtain rfl := Option.some.inj stands
        simp only [Rule.Supplies]
        decide
      · obtain rfl := Option.some.inj stands
        exact id
    · intro earlier before other unmet
      obtain rfl | rfl : earlier = 0 ∨ earlier = 1 := by omega
      · cases unmet.required
      · obtain rfl : "x-tenant" = other := by simpa [route] using unmet.required
        exact unmet.unsupplied 0 (by decide) _ rfl supplied
  obtain ⟨-, ended, named⟩ := forwards_unless_header_missing (.always route) {} .still (fun _ => none)
    (.root .empty .empty)
  obtain ⟨-, response, result, -, -, message, -⟩ := named route 2 "X-Key" rfl lacks
  exact ⟨ended.mpr ⟨route, 2, "X-Key", rfl, lacks.unmet⟩, response, result, message⟩

end Gateway
end Relay
