import Relay.Proofs.Exchange.Course
import Relay.Proofs.Identity.Spelling

/-!
# The identifier of an exchange

An exchange has one identifier, which the answer, the forwarder and the forwarded request are given. It is the
one that the request brings if incoming ones are trusted, and a fresh one otherwise.
-/

namespace Relay
open Http

namespace Exchange

/-- The first value of the header is visible ASCII and a spelling of the identifier. -/
def Brings (request : Request) (id : Uuid) : Prop :=
  ∃ value rest text, request.headers.values .correlationId = value :: rest ∧
    visibleText value = some text ∧ text.toList.map Char.toLower ∈ id.forms

theorem broughtId_eq_some_iff {request : Request} {id : Uuid} :
    broughtId request = some id ↔ Brings request id := by
  unfold broughtId Brings
  cases request.headers.values .correlationId with
  | nil => simp
  | cons value rest => simp [Option.bind_eq_some_iff, Uuid.parse_eq_some_iff]

theorem chosenId_of_brings {request : Request} {id : Uuid} (brings : Brings request id) (fresh : Uuid) :
    chosenId true fresh request = id := by
  rw [chosenId, if_pos rfl, broughtId_eq_some_iff.mpr brings, Option.getD_some]

theorem chosenId_of_not_brings {trust : Bool} {request : Request}
    (none : ¬ (trust = true ∧ ∃ id, Brings request id)) (fresh : Uuid) :
    chosenId trust fresh request = fresh := by
  unfold chosenId
  split
  · rename_i trusted
    cases brought : broughtId request with
    | none => rfl
    | some id => exact absurd ⟨trusted, id, broughtId_eq_some_iff.mp brought⟩ none
  · rfl

theorem id_finishRequest (request : Request) (draft : RequestDraft) :
    (finishRequest request draft).id = request.id := by
  unfold finishRequest
  split <;> rfl

theorem id_sent {table : Route.Table} {limit : Nat} {request request' : Request}
    (passed : sent table limit request = .ok request') : request'.id = request.id := by
  rw [sent_eq_sentBy] at passed
  obtain ⟨-, rfl⟩ := sentBy_eq_ok.mp passed
  exact id_finishRequest _ _

end Exchange

namespace Gateway
open Exchange

/-- There is no answer only if the request is forwarded and the forwarder gives none. -/
theorem unanswered_iff (table : Route.Table) (settings : GatewaySettings) (world : World)
    (forwarder : Forwarder) (request : Request) :
    let run := (ofTable table settings).handle world forwarder request
    run.result = none ↔ ∃ forward ∈ run.forwards, forwarder forward.dispatch = none := by
  intro run
  cases passed : onward table settings world request with
  | error error =>
    obtain ⟨forwards, result⟩ := handle_of_error passed forwarder
    simp [run, forwards, result]
  | ok request' =>
    obtain ⟨forwards, result⟩ := handle_of_onward passed forwarder
    simp [run, forwards, result]

/-- On every way through the gateway one identifier is put on the answer, as its only one, and given to the
forwarder and the forwarded request. -/
theorem one_identifier_per_exchange (table : Route.Table) (settings : GatewaySettings) (world : World)
    (forwarder : Forwarder) (request : Request) :
    let run := (ofTable table settings).handle world forwarder request
    ∃ id : Uuid,
      (∀ answer, run.result = some answer → answer.headers.values .correlationId = [id.text.toUTF8]) ∧
      (run.result = none → ∃ forward ∈ run.forwards, forwarder forward.dispatch = none) ∧
      (∀ forward ∈ run.forwards,
        forward.dispatch.correlationId = id ∧ forward.dispatch.request.id = some id) ∧
      (∀ brought, settings.trustIncomingIds = true → Brings request brought → id = brought) ∧
      (¬ (settings.trustIncomingIds = true ∧ ∃ brought, Brings request brought) → id = world.freshId 0) := by
  intro run
  refine ⟨exchangeId settings world request, ?_, (unanswered_iff ..).mp, ?_, ?_, ?_⟩
  · intro answer answered
    obtain ⟨_, result⟩ := handle_course table settings world forwarder request
    rw [answered] at result
    obtain ⟨_, -, rfl⟩ := Option.map_eq_some_iff.mp result.symm
    exact Headers.values_insert_self ..
  · intro forward handed
    obtain ⟨request', passed, rfl⟩ := of_mem_forwards handed
    exact ⟨rfl, id_sent passed⟩
  · intro brought trusted brings
    rw [exchangeId, trusted]
    exact chosenId_of_brings brings _
  · intro fresh
    exact chosenId_of_not_brings fresh _

theorem trusted_urn_reaches_all :
    let id : Uuid := ⟨0x01890a5dac96774bbcceb302099a8057⟩
    let urn := "URN:UUID:01890A5D-AC96-774B-BCCE-B302099A8057"
    let route : Route := { requestRules := [.addHeader (some "X-Correlation-Id") (some "forged")] }
    let headers := (Headers.empty.append .correlationId urn.toUTF8).append .correlationId "other".toUTF8
    let response : Response := { status := 200, headers := headers, body := .empty }
    let run := (ofTable (.always route) { trustIncomingIds := true }).handle .still
      (fun _ => some response) (.root headers .empty)
    ∃ answer, run.result = some answer ∧
      answer.headers.values .correlationId = ["01890a5d-ac96-774b-bcce-b302099a8057".toUTF8] ∧
      ∃ forward ∈ run.forwards, forward.request.headers.values .correlationId = ["forged".toUTF8] ∧
        forward.dispatch.correlationId = id ∧ forward.dispatch.request.id = some id := by
  intro id urn route headers response run
  obtain ⟨chosen, echo, answered, carried, trusted, -⟩ :=
    one_identifier_per_exchange (.always route) { trustIncomingIds := true } .still
      (fun _ => some response) (.root headers .empty)
  have brings : Brings (.root headers .empty) id :=
    ⟨urn.toUTF8, ["other".toUTF8], urn, rfl, by decide +kernel, by decide +kernel⟩
  obtain rfl : chosen = id := trusted id rfl brings
  cases ended : run.result with
  | none =>
    obtain ⟨forward, -, silent⟩ := answered ended
    cases silent
  | some answer =>
    have canonical : id.text = "01890a5d-ac96-774b-bcce-b302099a8057" := by decide +kernel
    have passed : ∀ limit, Rule.fatalError route.requestRules
        (draftOf route.requestRules limit (.root headers .empty)) = none := fun _ => rfl
    have handed := forwards_always route { trustIncomingIds := true } .still (passed _) fun _ => some response
    have first := List.mem_of_mem_head? (congrArg List.head? handed)
    refine ⟨answer, rfl, canonical ▸ echo answer ended, _, first, ?_, carried _ first⟩
    decide +kernel

end Gateway
end Relay
