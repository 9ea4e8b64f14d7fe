import Relay.Proofs.Exchange.Course
import Relay.Proofs.Rule.Replacement

/-!
# The framing of forwarded requests

Once a rule has changed the bytes of a body, the forwarded headers declare the length of what is forwarded,
whatever other rules do to those headers. While no rule has, bytes and framing are left alone.
-/

namespace Relay
open Http

namespace Rule

def heldBytes (draft : RequestDraft) : Option ByteArray := draft.body.map (·.bytes)

theorem body_draftAfter_of_unchanged {rules : List Rule} {draft : RequestDraft}
    (unchanged : ∀ i, heldBytes (draftAfter (rules.take (i + 1)) draft) =
      heldBytes (draftAfter (rules.take i) draft)) :
    (draftAfter rules draft).body = draft.body := by
  rw [← messageAfter_onRequest 0]
  refine body_messageAfter_of_unchanged replaces_requestStep fun i => ?_
  rw [messageAfter_onRequest, messageAfter_onRequest]
  exact unchanged i

theorem replaced_draftAfter_of_changed {rules : List Rule} {draft : RequestDraft} {i : Nat}
    (changed : heldBytes (draftAfter (rules.take (i + 1)) draft) ≠
      heldBytes (draftAfter (rules.take i) draft)) :
    ∃ after, (draftAfter rules draft).body = some after ∧ after.replaced = true := by
  rw [← messageAfter_onRequest 0]
  refine replaced_messageAfter_of_changed replaces_requestStep (i := i) fun same => changed ?_
  rwa [messageAfter_onRequest, messageAfter_onRequest] at same

end Rule

namespace Exchange

theorem sized_draftOf (rules : List Rule) (limit : Nat) (request : Request) :
    ∀ body, (draftOf rules limit request).body = some body → body.Sized := by
  intro body held
  rcases body_draftOf rules limit request with none | some
  · exact absurd (none.symm.trans held) nofun
  · obtain rfl := Option.some.inj (some.symm.trans held)
    exact Body.sized_ofBytes _

theorem values_frame {body : Body} (sized : body.Sized) (replaced : body.replaced = true)
    (headers : Headers) :
    (body.frame headers).values .contentLength = [(Text.natText body.bytes.size).toUTF8] ∧
      (body.frame headers).values .transferEncoding = [] := by
  have other : HeaderName.transferEncoding ≠ .contentLength := by decide
  unfold Body.frame
  rw [if_pos replaced, sized]
  exact ⟨Headers.values_insert_self .., by
    rw [Headers.values_insert_of_ne other, Headers.values_erase_self]⟩

theorem sentBy_of_changed {rules : List Rule} {limit : Nat} {request request' : Request}
    (passed : sentBy rules limit request = .ok request') {i : Nat}
    (changed : Rule.heldBytes (Rule.draftAfter (rules.take (i + 1)) (draftOf rules limit request)) ≠
      Rule.heldBytes (Rule.draftAfter (rules.take i) (draftOf rules limit request))) :
    request'.headers.values .contentLength = [(Text.natText request'.body.size).toUTF8] ∧
      request'.headers.values .transferEncoding = [] := by
  obtain ⟨-, rfl⟩ := sentBy_eq_ok.mp passed
  obtain ⟨body, held, replaced⟩ := Rule.replaced_draftAfter_of_changed changed
  have sized := Rule.sized_draftAfter rules (sized_draftOf rules limit request) body held
  simp only [finishRequest, held]
  exact values_frame sized replaced _

theorem sentBy_of_unchanged {rules : List Rule} {limit : Nat} {request request' : Request}
    (passed : sentBy rules limit request = .ok request')
    (unchanged : ∀ i, Rule.heldBytes (Rule.draftAfter (rules.take (i + 1)) (draftOf rules limit request)) =
      Rule.heldBytes (Rule.draftAfter (rules.take i) (draftOf rules limit request))) :
    request'.body = request.body ∧ request'.headers = Rule.withAdded rules request.headers := by
  obtain ⟨-, rfl⟩ := sentBy_eq_ok.mp passed
  have held := Rule.body_draftAfter_of_unchanged unchanged
  have headers := Rule.headers_draftAfter rules (draftOf rules limit request)
  rcases body_draftOf rules limit request with none | some
  · simp only [finishRequest, held, none, headers]
    exact ⟨trivial, rfl⟩
  · simp only [finishRequest, held, some, headers]
    exact ⟨rfl, rfl⟩

end Exchange

namespace Gateway
open Exchange

/-- Between any two rules the declared length of a body is that of its bytes. A request whose body some rule
has changed is forwarded with that length, as the only one, and without a transfer coding; any other request
is forwarded with the bytes that came, and its headers are those that came and those that rules have
set. -/
theorem framing_follows_body (table : Route.Table) (settings : GatewaySettings) (world : World)
    (forwarder : Forwarder) (request : Request) :
    let run := (ofTable table settings).handle world forwarder request
    let rules := table.requestRules request.uri.path
    let draft := fun i => Rule.draftAfter (rules.take i) (draftOf rules settings.maxBodyBytes request)
    (∀ i body, (draft i).body = some body → body.declaredLength = body.bytes.size) ∧
      ∀ forward, run.forwards = [forward] →
        ((∃ i, Rule.heldBytes (draft (i + 1)) ≠ Rule.heldBytes (draft i)) →
          forward.request.headers.values .contentLength =
              [(Text.natText forward.request.body.size).toUTF8] ∧
            forward.request.headers.values .transferEncoding = []) ∧
        ((∀ i, Rule.heldBytes (draft (i + 1)) = Rule.heldBytes (draft i)) →
          forward.request.body = request.body ∧
            forward.request.headers = Rule.withAdded rules request.headers) := by
  intro run rules draft
  refine ⟨fun i => Rule.sized_draftAfter _ (sized_draftOf rules _ request), fun forward handed => ?_⟩
  obtain ⟨request', passed⟩ := onward_of_forwards handed
  obtain ⟨forwards, -⟩ := handle_of_onward passed forwarder
  obtain rfl := List.singleton_inj.mp (handed.symm.trans forwards)
  rw [onward, sent_eq_sentBy] at passed
  constructor
  · rintro ⟨i, changed⟩
    exact sentBy_of_changed passed changed
  · intro unchanged
    obtain ⟨body, headers⟩ := sentBy_of_unchanged passed unchanged
    exact ⟨body, headers⟩

theorem renamed_body_is_framed :
    let rules : List Rule := [.renameJsonField (some "a") (some "long")]
    let headers := (Headers.empty.insert .contentLength "1".toUTF8).insert .transferEncoding "chunked".toUTF8
    let run := (ofTable (.always { requestRules := rules }) {}).handle .still (fun _ => none)
      (.root headers "\x7b\"a\":\"x\"\x7d".toUTF8)
    ∃ forward, run.forwards = [forward] ∧
      forward.request.headers.values .contentLength = [(Text.natText forward.request.body.size).toUTF8] ∧
      forward.request.headers.values .transferEncoding = [] := by
  intro rules headers run
  let draft := draftOf rules 10485760 (.root headers "\x7b\"a\":\"x\"\x7d".toUTF8)
  have passed : Rule.fatalError rules draft = none := by decide +kernel
  have changed : Rule.heldBytes (Rule.draftAfter (rules.take 1) draft) ≠
      Rule.heldBytes (Rule.draftAfter (rules.take 0) draft) := by decide +kernel
  have handed := forwards_always { requestRules := rules } {} .still passed fun _ => none
  have framed := framing_follows_body (.always { requestRules := rules }) {} .still fun _ => none
  exact ⟨_, handed, ((framed _).2 _ handed).1 ⟨0, changed⟩⟩

end Gateway
end Relay
