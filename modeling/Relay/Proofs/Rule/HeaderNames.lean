import Relay.Proofs.Rule.Sequence

/-!
# Rules and the names of headers

Rules ask which headers a request has and never what they hold. Requests whose headers have the same names
fare alike under every rule, and are left with headers of the same names.
-/

namespace Relay
open Http

namespace Http.Headers

/-- The same names in the same order, whatever the values are and however many. -/
def SameNames (a b : Headers) : Prop := a.names = b.names

variable {a b : Headers}

theorem SameNames.contains (same : a.SameNames b) (name : HeaderName) :
    a.contains name = b.contains name := by
  rw [Bool.eq_iff_iff, ← mem_names, ← mem_names, same]

theorem SameNames.has (same : a.SameNames b) (name : String) : a.has name = b.has name := by
  unfold Headers.has
  cases HeaderName.parse name with
  | none => rfl
  | some header => exact same.contains header

theorem eraseDups_filter (keep : HeaderName → Bool) (names : List HeaderName) :
    (names.filter keep).eraseDups = names.eraseDups.filter keep := by
  match names with
  | [] => rfl
  | first :: rest =>
    -- The other names come behind a filter of their own, so the induction is on how many there are.
    have shorter := eraseDups_filter keep (rest.filter fun other => !other == first)
    rw [List.eraseDups_cons]
    by_cases kept : keep first = true
    · rw [List.filter_cons_of_pos kept, List.filter_cons_of_pos kept, List.eraseDups_cons, ← shorter,
        List.filter_filter, List.filter_filter]
      simp only [Bool.and_comm]
    · rw [List.filter_cons_of_neg kept, List.filter_cons_of_neg kept, ← shorter, List.filter_filter]
      congr 1
      apply List.filter_congr
      intro other _
      by_cases found : other = first <;> simp [found, kept]
termination_by names.length
decreasing_by exact Nat.lt_succ_of_le (List.length_filter_le ..)

theorem names_insert (headers : Headers) (name : HeaderName) (value : HeaderValue) :
    (headers.insert name value).names = headers.names.filter (· ≠ name) ++ [name] := by
  have others : (headers.entries.filter (·.1 ≠ name)).map (·.1) =
      (headers.entries.map (·.1)).filter (· ≠ name) := by
    rw [List.filter_map]
    rfl
  have fresh : [name].removeAll ((headers.entries.map (·.1)).filter (· ≠ name)) = [name] := by
    simp [List.removeAll]
  simp only [names, insert, append, erase, List.map_append, others, List.eraseDups_append,
    eraseDups_filter, List.map_cons, List.map_nil, fresh]
  rfl

theorem SameNames.insert (same : a.SameNames b) (name : HeaderName) (value : HeaderValue) :
    (a.insert name value).SameNames (b.insert name value) := by
  rw [SameNames, names_insert, names_insert, same]

end Http.Headers

namespace Rule

/-! ### Rules -/

theorem sameNames_withAdded (rules : List Rule) {a b : Headers} (same : a.SameNames b) :
    (withAdded rules a).SameNames (withAdded rules b) := by
  unfold withAdded
  induction rules.filterMap addedHeader generalizing a b with
  | nil => exact same
  | cons field fields ih => exact ih (same.insert field.1 field.2)

/-- Other values make no difference to how a rule ends, nor to what it does besides the headers. -/
theorem onRequest_withHeaders (rule : Rule) {draft : RequestDraft} {headers : Headers}
    (same : draft.headers.SameNames headers) :
    rule.onRequest.on { draft with headers := headers } =
      ((rule.onRequest.on draft).1,
        { (rule.onRequest.on draft).2 with headers := withAdded [rule] headers }) := by
  have left := headers_onRequest rule { draft with headers := headers }
  unfold onRequest at left ⊢
  split at left
  · simp only [on_requireHeader, same.has]
    rfl
  · simp only [on_setHeader] at left ⊢
    rw [← left]
    split <;> rfl
  · simp only [on_setQueryParam] at left ⊢
    split <;> rfl
  · split at left
    · simp only [on_onHeldBody] at left ⊢
      rw [← left]
      split <;> rfl
    · rw [← left]
      rfl

theorem sameNames_onRequest (rule : Rule) {draft : RequestDraft} {headers : Headers}
    (same : draft.headers.SameNames headers) :
    (rule.onRequest.on draft).2.headers.SameNames (withAdded [rule] headers) := by
  rw [headers_onRequest]
  exact sameNames_withAdded [rule] same

theorem fatalError_withHeaders (rules : List Rule) {draft : RequestDraft} {headers : Headers}
    (same : draft.headers.SameNames headers) :
    fatalError rules { draft with headers := headers } = fatalError rules draft := by
  induction rules generalizing draft headers with
  | nil => rfl
  | cons rule rules ih =>
    have later := ih (sameNames_onRequest rule same)
    rw [fatalError_cons, fatalError_cons, onRequest_withHeaders rule same, later]

end Rule
end Relay
