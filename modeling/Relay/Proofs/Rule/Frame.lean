import Relay.Proofs.Rule.Step

/-!
# What a rule leaves alone

A rule on a request touches one part of it at most. The headers afterwards follow from the rule and the
headers alone, the target keeps all but its query, and a rule that does not touch bodies behaves the same
whatever body is held.
-/

namespace Relay.Rule
open Http

/-! ### Headers -/

/-- The header that a rule sets, if its name and its value are accepted. -/
def addedHeader : Rule → Option (HeaderName × HeaderValue)
  | addHeader (some name) (some value) =>
    match HeaderName.parse name, headerValue? value.toUTF8 with
    | some header, some bytes => some (header, bytes)
    | _, _ => none
  | _ => none

def withAdded (rules : List Rule) (headers : Headers) : Headers :=
  (rules.filterMap addedHeader).foldl (fun headers field => headers.insert field.1 field.2) headers

theorem headers_onRequest (rule : Rule) (draft : RequestDraft) :
    (rule.onRequest.on draft).2.headers = withAdded [rule] draft.headers := by
  unfold onRequest
  split
  · rw [on_requireHeader]
    rfl
  · rename_i name value
    rw [on_setHeader]
    simp only [withAdded, List.filterMap_cons, List.filterMap_nil, addedHeader]
    cases HeaderName.parse name <;> cases headerValue? value.toUTF8 <;> rfl
  · rw [on_setQueryParam]
    split <;> rfl
  · rename_i other _
    have nothing : addedHeader rule = none := by
      unfold addedHeader
      split
      · exact absurd rfl (other _ _)
      · rfl
    split
    · rw [on_onHeldBody]
      split <;> simp [withAdded, nothing]
    · simp [withAdded, nothing]

theorem withAdded_cons (rule : Rule) (rules : List Rule) (headers : Headers) :
    withAdded (rule :: rules) headers = withAdded rules (withAdded [rule] headers) := by
  simp only [withAdded, List.filterMap_cons, List.filterMap_nil]
  cases addedHeader rule <;> rfl

/-! ### The target -/

theorem uri_onRequest (rule : Rule) (draft : RequestDraft) :
    (rule.onRequest.on draft).2.uri.scheme = draft.uri.scheme ∧
      (rule.onRequest.on draft).2.uri.authority = draft.uri.authority ∧
      (rule.onRequest.on draft).2.uri.path = draft.uri.path := by
  rcases ran : rule.onRequest.on draft with ⟨result, after⟩
  cases onRequest_step ran with
  | query sets built => exact Uri.withQuery_keeps built
  | kept | missing | failed | header | body => exact ⟨rfl, rfl, rfl⟩

/-! ### The body -/

theorem sized_onRequest {rule : Rule} {draft : RequestDraft}
    (sized : ∀ body, draft.body = some body → body.Sized) :
    ∀ body, (rule.onRequest.on draft).2.body = some body → body.Sized := by
  rcases ran : rule.onRequest.on draft with ⟨result, after⟩
  cases onRequest_step ran with
  | body edits held read attempted different =>
    rintro body same
    obtain rfl := Option.some.inj same
    exact Body.sized_replace _ _
  | kept | missing | failed | header | query => exact sized

theorem requestEdit_of_not_touchesBody {rule : Rule} (untouched : rule.touchesBody = false) :
    rule.requestEdit = none := by
  cases rule <;> first | rfl | cases untouched

/-- A rule that does not touch bodies works on any request as on the one without its body. -/
theorem onRequest_withBody {rule : Rule} (untouched : rule.touchesBody = false) (draft : RequestDraft)
    (body : Option Body) :
    rule.onRequest.on { draft with body := body } =
      ((rule.onRequest.on draft).1, { (rule.onRequest.on draft).2 with body := body }) := by
  unfold onRequest
  split
  · simp only [on_requireHeader]
  · simp only [on_setHeader]
    split <;> rfl
  · simp only [on_setQueryParam]
    split <;> rfl
  · simp [requestEdit_of_not_touchesBody untouched]

theorem responseEdit_of_not_touchesBody {rule : Rule} (untouched : rule.touchesBody = false) (now : Instant) :
    rule.responseEdit now = none := by
  cases rule <;> first | rfl | cases untouched

theorem onResponse_withBody {rule : Rule} (untouched : rule.touchesBody = false) (now : Instant)
    (body body' : Body) :
    (rule.onResponse now).on body' = (((rule.onResponse now).on body).1, body') := by
  simp [onResponse, responseEdit_of_not_touchesBody untouched]

end Relay.Rule
