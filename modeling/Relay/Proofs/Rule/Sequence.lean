import Relay.Proofs.Rule.Frame

/-!
# Rules one after another

The rules of a route as a fold over the request, without what they report. `draftAfter` is the request
that they leave and `fatalError` the error that ends the exchange; what one rule keeps, all of them keep.
-/

namespace Relay.Rule
open Http

/-- The request after some rules, each run on what the ones before it left. -/
def draftAfter (rules : List Rule) (draft : RequestDraft) : RequestDraft :=
  rules.foldl (fun draft rule => (rule.onRequest.on draft).2) draft

/-- The first fatal error of some rules on a request. -/
def fatalError : List Rule → RequestDraft → Option RuleError
  | [], _ => none
  | rule :: rules, draft =>
    match rule.onRequest.on draft with
    | (.ok _, after) => fatalError rules after
    | (.error error, after) => if error.isFatal then some error else fatalError rules after

/-- The body after some response rules, the first of which stands at a place of the list. -/
def bodyAfter (clock : Nat → Instant) : Nat → List Rule → Body → Body
  | _, [], body => body
  | place, rule :: rules, body =>
    bodyAfter clock (place + 1) rules ((rule.onResponse (clock place)).on body).2

@[simp] theorem draftAfter_nil (draft : RequestDraft) : draftAfter [] draft = draft := rfl

@[simp] theorem draftAfter_cons (rule : Rule) (rules : List Rule) (draft : RequestDraft) :
    draftAfter (rule :: rules) draft = draftAfter rules (rule.onRequest.on draft).2 := rfl

theorem fatalError_cons (rule : Rule) (rules : List Rule) (draft : RequestDraft) :
    fatalError (rule :: rules) draft =
      match (rule.onRequest.on draft).1 with
      | .ok _ => fatalError rules (rule.onRequest.on draft).2
      | .error error =>
        if error.isFatal then some error else fatalError rules (rule.onRequest.on draft).2 := by
  rw [fatalError]
  rcases rule.onRequest.on draft with ⟨_ | _, after⟩ <;> rfl

theorem draftAfter_take_succ {rules : List Rule} {i : Nat} {rule : Rule} (placed : rules[i]? = some rule)
    (draft : RequestDraft) :
    draftAfter (rules.take (i + 1)) draft = (rule.onRequest.on (draftAfter (rules.take i) draft)).2 := by
  rw [draftAfter, List.take_add_one, placed, List.foldl_append]
  rfl

theorem bodyAfter_take_succ (clock : Nat → Instant) {rules : List Rule} {i : Nat} {rule : Rule}
    (placed : rules[i]? = some rule) (place : Nat) (body : Body) :
    bodyAfter clock place (rules.take (i + 1)) body =
      ((rule.onResponse (clock (place + i))).on (bodyAfter clock place (rules.take i) body)).2 := by
  induction rules generalizing place i body with
  | nil => cases placed
  | cons first rules ih =>
    cases i with
    | zero =>
      cases placed
      rfl
    | succ i =>
      have later := ih placed (place + 1) ((first.onResponse (clock place)).on body).2
      rw [Nat.add_right_comm, Nat.add_assoc] at later
      exact later

/-! ### What a sequence of rules keeps -/

theorem headers_draftAfter (rules : List Rule) (draft : RequestDraft) :
    (draftAfter rules draft).headers = withAdded rules draft.headers := by
  induction rules generalizing draft with
  | nil => rfl
  | cons rule rules ih => rw [draftAfter_cons, ih, headers_onRequest, ← withAdded_cons]

theorem uri_draftAfter (rules : List Rule) (draft : RequestDraft) :
    (draftAfter rules draft).uri.scheme = draft.uri.scheme ∧
      (draftAfter rules draft).uri.authority = draft.uri.authority ∧
      (draftAfter rules draft).uri.path = draft.uri.path := by
  induction rules generalizing draft with
  | nil => exact ⟨rfl, rfl, rfl⟩
  | cons rule rules ih =>
    obtain ⟨scheme, authority, path⟩ := ih (rule.onRequest.on draft).2
    obtain ⟨scheme', authority', path'⟩ := uri_onRequest rule draft
    exact ⟨scheme.trans scheme', authority.trans authority', path.trans path'⟩

theorem sized_draftAfter (rules : List Rule) {draft : RequestDraft}
    (sized : ∀ body, draft.body = some body → body.Sized) :
    ∀ body, (draftAfter rules draft).body = some body → body.Sized := by
  induction rules generalizing draft with
  | nil => exact sized
  | cons rule rules ih => exact ih (sized_onRequest sized)

theorem draftAfter_withBody {rules : List Rule} (untouched : ∀ rule ∈ rules, rule.touchesBody = false)
    (draft : RequestDraft) (body : Option Body) :
    draftAfter rules { draft with body := body } = { draftAfter rules draft with body := body } := by
  induction rules generalizing draft with
  | nil => rfl
  | cons rule rules ih =>
    have first := onRequest_withBody (untouched rule (by simp)) draft body
    rw [draftAfter_cons, first]
    exact ih (fun other member => untouched other (List.mem_cons_of_mem _ member)) _

end Relay.Rule
