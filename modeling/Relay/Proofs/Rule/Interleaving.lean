import Relay.Proofs.Rule.Plain
import Relay.Proofs.Rule.Required

/-!
# Rules in another order

Every rule for requests works on one part of a request: its headers, its query or its body. What rules leave
of a part follows from the rules for that part and from nothing else, and whether they end the exchange
follows from the headers. So rules for different parts can be run in any order.
-/

namespace Relay.Rule
open Http

inductive Part where
  | headers
  | query
  | body
  deriving Repr, DecidableEq

/-- The part of a request that a rule works on. Rules for responses and unknown rules work on none. -/
def part? : Rule → Option Part
  | validateHeader .. | addHeader .. => some .headers
  | modifyQueryParam .. => some .query
  | modifyJsonBody .. | maskSensitiveData .. | removeJsonField .. | renameJsonField .. => some .body
  | injectMetadata .. | modifyJsonValue .. | unknown _ => none

def onlyFor (part : Part) (rules : List Rule) : List Rule := rules.filter (·.part? = some part)

/-- The same rules in two orders, which agree on the rules for each part. -/
structure Interleaved (rules rules' : List Rule) : Prop where
  perm : rules.Perm rules'
  ordered : ∀ part, onlyFor part rules = onlyFor part rules'

section Projections

variable {α σ τ : Type}

/-- A view of the state that each step finds from the view alone, and that some steps leave as it is, comes
from the other steps alone. -/
theorem foldl_filter_view {step : σ → α → σ} {view : σ → τ} {works : α → Bool}
    (seen : ∀ x s s', view s = view s' → view (step s x) = view (step s' x))
    (idle : ∀ x s, works x = false → view (step s x) = view s) (xs : List α) {s s' : σ}
    (same : view s = view s') : view (xs.foldl step s) = view ((xs.filter works).foldl step s') := by
  induction xs generalizing s s' with
  | nil => exact same
  | cons x xs ih =>
    rw [List.foldl_cons]
    cases working : works x with
    | true =>
      rw [List.filter_cons_of_pos working, List.foldl_cons]
      exact ih (seen x s s' same)
    | false =>
      rw [List.filter_cons_of_neg (by simp [working])]
      exact ih ((idle x s working).trans same)

end Projections

/-! ### One rule -/

variable {rule : Rule} {draft draft' : RequestDraft}

theorem addedHeader_of_part (other : rule.part? ≠ some .headers) : rule.addedHeader = none := by
  cases rule with
  | addHeader => exact absurd rfl other
  | _ => rfl

theorem requestEdit_of_part (other : rule.part? ≠ some .body) : rule.requestEdit = none := by
  cases rule with
  | modifyJsonBody | maskSensitiveData | removeJsonField | renameJsonField => exact absurd rfl other
  | _ => rfl

theorem uri_onRequest_of_part (other : rule.part? ≠ some .query) :
    (rule.onRequest.on draft).2.uri = draft.uri := by
  rcases ran : rule.onRequest.on draft with ⟨result, after⟩
  cases onRequest_step ran with
  | query sets built => exact absurd (by rw [sets]; rfl) other
  | kept | missing | failed | header | body => rfl

/-- What a rule does to the target follows from the target alone. -/
theorem uri_onRequest_congr (rule : Rule) (same : draft.uri = draft'.uri) :
    (rule.onRequest.on draft).2.uri = (rule.onRequest.on draft').2.uri := by
  by_cases query : rule.part? = some .query
  · cases rule with
    | modifyQueryParam name value =>
      cases name with
      | none => exact same
      | some name =>
        cases value with
        | none => exact same
        | some value =>
          change ((setQueryParam _ name value).on draft).2.uri = ((setQueryParam _ name value).on draft').2.uri
          rw [on_setQueryParam, on_setQueryParam, same]
          split
          · rfl
          · exact same
    | _ => cases query
  · rw [uri_onRequest_of_part query, uri_onRequest_of_part query, same]

theorem headers_onRequest_congr (rule : Rule) (same : draft.headers = draft'.headers) :
    (rule.onRequest.on draft).2.headers = (rule.onRequest.on draft').2.headers := by
  rw [headers_onRequest, headers_onRequest, same]

theorem headers_onRequest_of_part (other : rule.part? ≠ some .headers) :
    (rule.onRequest.on draft).2.headers = draft.headers := by
  rw [headers_onRequest]
  simp [withAdded, addedHeader_of_part other]

theorem body_onRequest_congr (rule : Rule) (same : draft.body = draft'.body) :
    (rule.onRequest.on draft).2.body = (rule.onRequest.on draft').2.body := by
  rw [body_onRequest, body_onRequest, same]

theorem body_onRequest_of_part (other : rule.part? ≠ some .body) :
    (rule.onRequest.on draft).2.body = draft.body := by
  rw [body_onRequest, requestEdit_of_part other]

/-! ### Rules one after another -/

theorem uri_draftAfter_onlyFor (rules : List Rule) (draft : RequestDraft) :
    (draftAfter rules draft).uri = (draftAfter (onlyFor .query rules) draft).uri :=
  foldl_filter_view (fun rule _ _ same => uri_onRequest_congr rule same)
    (fun _ _ other => uri_onRequest_of_part (of_decide_eq_false other)) rules rfl

theorem headers_draftAfter_onlyFor (rules : List Rule) (draft : RequestDraft) :
    (draftAfter rules draft).headers = (draftAfter (onlyFor .headers rules) draft).headers :=
  foldl_filter_view (fun rule _ _ same => headers_onRequest_congr rule same)
    (fun _ _ other => headers_onRequest_of_part (of_decide_eq_false other)) rules rfl

theorem body_draftAfter_onlyFor (rules : List Rule) (draft : RequestDraft) :
    (draftAfter rules draft).body = (draftAfter (onlyFor .body rules) draft).body :=
  foldl_filter_view (fun rule _ _ same => body_onRequest_congr rule same)
    (fun _ _ other => body_onRequest_of_part (of_decide_eq_false other)) rules rfl

theorem part_of_unmet {rules : List Rule} {headers : Headers} {name : String}
    (unmet : Unmet (rule :: rules) headers 0 name) : rule.part? = some .headers := by
  obtain ⟨required, -⟩ := unmet_zero.mp unmet
  rw [required]
  rfl

/-- Only rules for headers end an exchange, and they look at nothing but headers. -/
theorem fatalError_onlyFor (rules : List Rule) (same : draft.headers = draft'.headers) :
    fatalError rules draft = fatalError (onlyFor .headers rules) draft' := by
  induction rules generalizing draft draft' with
  | nil => rfl
  | cons rule rules ih =>
    by_cases working : rule.part? = some .headers
    · have kept : onlyFor .headers (rule :: rules) = rule :: onlyFor .headers rules :=
        List.filter_cons_of_pos (decide_eq_true working)
      have alike : ∀ name, Unmet (rule :: onlyFor .headers rules) draft'.headers 0 name ↔
          Unmet (rule :: rules) draft.headers 0 name := by
        simp only [unmet_zero, same, implies_true]
      rw [kept]
      by_cases met : ∀ name, ¬ Unmet (rule :: rules) draft.headers 0 name
      · rw [fatalError_of_met met, fatalError_of_met fun name unmet => met name ((alike name).mp unmet)]
        exact ih (headers_onRequest_congr rule same)
      · obtain ⟨name, unmet⟩ := Classical.not_forall_not.mp met
        rw [fatalError_of_unmet unmet, fatalError_of_unmet ((alike name).mpr unmet)]
    · have dropped : onlyFor .headers (rule :: rules) = onlyFor .headers rules :=
        List.filter_cons_of_neg (by simpa using working)
      have met : ∀ name, ¬ Unmet (rule :: rules) draft.headers 0 name :=
        fun _ unmet => working (part_of_unmet unmet)
      rw [dropped, fatalError_of_met met]
      exact ih ((headers_onRequest_of_part working).trans same)

theorem draftAfter_of_interleaved {rules rules' : List Rule} (alike : Interleaved rules rules')
    (draft : RequestDraft) : draftAfter rules draft = draftAfter rules' draft := by
  have uri : (draftAfter rules draft).uri = (draftAfter rules' draft).uri := by
    rw [uri_draftAfter_onlyFor, alike.ordered, ← uri_draftAfter_onlyFor]
  have headers : (draftAfter rules draft).headers = (draftAfter rules' draft).headers := by
    rw [headers_draftAfter_onlyFor, alike.ordered, ← headers_draftAfter_onlyFor]
  have body : (draftAfter rules draft).body = (draftAfter rules' draft).body := by
    rw [body_draftAfter_onlyFor, alike.ordered, ← body_draftAfter_onlyFor]
  generalize draftAfter rules draft = one at uri headers body
  generalize draftAfter rules' draft = other at uri headers body
  cases one
  cases other
  simp_all

theorem fatalError_of_interleaved {rules rules' : List Rule} (alike : Interleaved rules rules')
    (draft : RequestDraft) : fatalError rules draft = fatalError rules' draft := by
  rw [fatalError_onlyFor rules rfl, alike.ordered, ← fatalError_onlyFor rules' rfl]

theorem any_touchesBody_of_interleaved {rules rules' : List Rule} (alike : Interleaved rules rules') :
    rules.any (·.touchesBody) = rules'.any (·.touchesBody) := by
  rw [Bool.eq_iff_iff, List.any_eq_true, List.any_eq_true]
  simp only [alike.perm.mem_iff]

end Relay.Rule
