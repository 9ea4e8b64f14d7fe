import Relay.Proofs.Rule.Sequence

/-!
# Rules that change nothing

A rule that fails, and one that reports no change, leaves its message as it was. So those rules of a list
that change nothing can be taken out of it, as long as every other rule still reads the clock that it read.
-/

namespace Relay.Rule
open Http

section Lists

variable {σ : Type}

/-- The message after some rules, the first of which stands at a place of the list. -/
def messageAfter (step : Nat → Rule → σ → Except RuleError Outcome × σ) :
    Nat → List Rule → σ → σ
  | _, [], message => message
  | place, rule :: rules, message => messageAfter step (place + 1) rules (step place rule message).2

/-- The rules of a list that change the message, each with its place. Each rule is judged by what comes of
it on the message that the ones before it left. -/
def changing (step : Nat → Rule → σ → Except RuleError Outcome × σ) :
    Nat → List Rule → σ → List (Nat × Rule)
  | _, [], _ => []
  | place, rule :: rules, message =>
    match step place rule message with
    | (.ok .changed, after) => (place, rule) :: changing step (place + 1) rules after
    | (_, after) => changing step (place + 1) rules after

theorem foldl_changing (step : Nat → Rule → σ → Except RuleError Outcome × σ)
    (kept : ∀ {place rule message result after}, step place rule message = (result, after) →
      result ≠ .ok .changed → after = message)
    (place : Nat) (rules : List Rule) (message : σ) :
    (changing step place rules message).foldl (fun message placed => (step placed.1 placed.2 message).2)
      message = messageAfter step place rules message := by
  induction rules generalizing place message with
  | nil => rfl
  | cons rule rules ih =>
    rw [changing, messageAfter]
    split
    · rename_i after ran
      rw [List.foldl_cons]
      simp only [ran]
      exact ih (place + 1) after
    · rename_i result after idle ran
      obtain rfl := kept ran fun changed => idle (by rw [changed])
      rw [ih, ran]

theorem changed_of_mem_changing {step : Nat → Rule → σ → Except RuleError Outcome × σ} {place : Nat}
    {rules : List Rule} {message : σ} {placed : Nat × Rule}
    (present : placed ∈ changing step place rules message) :
    placed.2 ∈ rules ∧ ∃ message', (step placed.1 placed.2 message').1 = .ok .changed := by
  induction rules generalizing place message with
  | nil => cases present
  | cons rule rules ih =>
    rw [changing] at present
    split at present
    · rename_i after ran
      rcases List.mem_cons.mp present with rfl | later
      · exact ⟨List.mem_cons_self, message, by rw [ran]⟩
      · exact ⟨List.mem_cons_of_mem _ (ih later).1, (ih later).2⟩
    · exact ⟨List.mem_cons_of_mem _ (ih present).1, (ih present).2⟩

end Lists

/-! ### Requests -/

def requestStep (_ : Nat) (rule : Rule) (draft : RequestDraft) : Except RuleError Outcome × RequestDraft :=
  rule.onRequest.on draft

def changingRequest (rules : List Rule) (draft : RequestDraft) : List Rule :=
  (changing requestStep 0 rules draft).map (·.2)

theorem messageAfter_onRequest (place : Nat) (rules : List Rule) (draft : RequestDraft) :
    messageAfter requestStep place rules draft = draftAfter rules draft := by
  induction rules generalizing place draft with
  | nil => rfl
  | cons rule rules ih => exact ih (place + 1) (rule.onRequest.on draft).2

theorem draftAfter_changingRequest (rules : List Rule) (draft : RequestDraft) :
    draftAfter (changingRequest rules draft) draft = draftAfter rules draft := by
  rw [← messageAfter_onRequest 0 rules, ← foldl_changing requestStep onRequest_kept,
    changingRequest, draftAfter, List.foldl_map]
  rfl

theorem mem_changingRequest {rules : List Rule} {draft : RequestDraft} {rule : Rule}
    (present : rule ∈ changingRequest rules draft) :
    rule ∈ rules ∧ ∃ draft' : RequestDraft, (rule.onRequest.on draft').1 = .ok .changed := by
  obtain ⟨placed, changes, rfl⟩ := List.mem_map.mp present
  exact changed_of_mem_changing changes

theorem fatalError_changingRequest (rules : List Rule) (draft draft' : RequestDraft) :
    fatalError (changingRequest rules draft) draft' = none := by
  have changes : ∀ rule ∈ changingRequest rules draft,
      ∃ draft' : RequestDraft, (rule.onRequest.on draft').1 = .ok .changed :=
    fun rule present => (mem_changingRequest present).2
  generalize changingRequest rules draft = rules at changes
  induction rules generalizing draft' with
  | nil => rfl
  | cons rule rules ih =>
    have rest := ih (rule.onRequest.on draft').2 fun other present => changes other (.tail _ present)
    rw [fatalError_cons, rest]
    split
    · rfl
    · rename_i error failed
      split
      · rename_i fatal
        obtain ⟨name, rfl, -⟩ := onRequest_fatal_iff.mp ⟨failed, fatal⟩
        obtain ⟨found, changed⟩ := changes _ List.mem_cons_self
        change ((requireHeader name).on found).1 = _ at changed
        rw [on_requireHeader] at changed
        split at changed <;> cases changed
      · rfl

/-! ### Responses -/

def responseStep (clock : Nat → Instant) (place : Nat) (rule : Rule) (body : Body) :
    Except RuleError Outcome × Body :=
  (rule.onResponse (clock place)).on body

def changingResponse (clock : Nat → Instant) (rules : List Rule) (body : Body) : List (Nat × Rule) :=
  changing (responseStep clock) 0 rules body

theorem messageAfter_onResponse (clock : Nat → Instant) (place : Nat) (rules : List Rule) (body : Body) :
    messageAfter (responseStep clock) place rules body = bodyAfter clock place rules body := by
  induction rules generalizing place body with
  | nil => rfl
  | cons rule rules ih => exact ih (place + 1) ((rule.onResponse (clock place)).on body).2

/-- Rules that each read the clock of another place do what they do there. -/
theorem bodyAfter_map (clock : Nat → Instant) {clock' : Nat → Instant} {placed : List (Nat × Rule)}
    {place : Nat}
    (same : ∀ i, (h : i < placed.length) → clock' (place + i) = clock placed[i].1) (body : Body) :
    bodyAfter clock' place (placed.map (·.2)) body =
      placed.foldl (fun body placed => ((placed.2.onResponse (clock placed.1)).on body).2) body := by
  induction placed generalizing place body with
  | nil => rfl
  | cons first rest ih =>
    have here := same 0 (by simp)
    rw [List.map_cons, bodyAfter, List.foldl_cons, ← Nat.add_zero place, here]
    refine ih (fun i inside => ?_) _
    have later := same (i + 1) (by simpa using inside)
    rwa [← Nat.add_assoc, Nat.add_right_comm] at later

theorem bodyAfter_changingResponse {clock clock' : Nat → Instant} {rules : List Rule} {body : Body}
    (same : ∀ i, (h : i < (changingResponse clock rules body).length) →
      clock' i = clock (changingResponse clock rules body)[i].1) :
    bodyAfter clock' 0 ((changingResponse clock rules body).map (·.2)) body =
      bodyAfter clock 0 rules body := by
  rw [bodyAfter_map clock (fun i inside => by rw [Nat.zero_add]; exact same i inside),
    ← messageAfter_onResponse]
  exact foldl_changing (responseStep clock) onResponse_kept 0 rules body

end Relay.Rule
