import Relay.Proofs.Exchange.Report

/-!
# The rules that a run reports

Every rule that runs leaves one event that tells of it, with the phase that it runs in. So the events of a
run say which rules have run in it, and how often. An edit that renames members leaves another event, which
does not say what rule it belongs to.
-/

namespace Relay
open Http

namespace Event

def site? : Event → Option RuleSite
  | ruleUnknown site | ruleApplied site _ | requestRejected site _ | ruleFailed site _ => some site
  | _ => none

/-- An event of the one kind that does not say where it belongs: some members were renamed, as one of these
rules asks. -/
def TellsOfRenaming (event : Event) (rules : List Rule) : Prop :=
  ∃ old new count, Rule.renameJsonField (some old) (some new) ∈ rules ∧ event = .membersRenamed old new count

/-- An event about the exchange as a whole. -/
def TellsOfExchange (event : Event) (id : Uuid) : Prop := event.site? = none ∧ idField id ∈ event.fields

end Event

namespace Run

variable {α : Type}

/-- The rules of a phase that have run, one entry each time. -/
def rulesRun (phase : Phase) (run : Run α) : List RuleSite :=
  (run.events.filterMap Event.site?).filter (·.phase = phase.text)

theorem rulesRun_eq_nil_iff {phase : Phase} {run : Run α} :
    run.rulesRun phase = [] ↔
      ∀ event ∈ run.events, ∀ site, event.site? = some site → site.phase ≠ phase.text := by
  simp only [rulesRun, List.filter_eq_nil_iff, List.mem_filterMap, decide_eq_true_eq]
  constructor
  · intro others event told site tells
    exact others site ⟨event, told, tells⟩
  · rintro others site ⟨event, told, tells⟩
    exact others event told site tells

end Run

namespace Rule

/-- A rule of an unknown type has a label of its own; all others are labelled with their type. -/
theorem label_eq_type {rule : Rule} (known : ∀ type, rule ≠ .unknown type) : rule.label = rule.type := by
  cases rule with
  | unknown type => exact absurd rfl (known type)
  | _ => rfl

theorem mem_editEvents {rule : Rule} {edit : Json.Edit} {body : Body} {event : Event}
    (told : event ∈ rule.editEvents edit body) :
    ∃ old new count, edit = .rename old new ∧ event = .membersRenamed old new count := by
  unfold editEvents Json.Edit.attemptEvents at told
  split at told
  · split at told
    · split at told
      · cases told
      · exact ⟨_, _, _, rfl, List.mem_singleton.mp told⟩
    · cases told
  · cases told

theorem eq_of_requestEdit_rename {rule : Rule} {old new : String}
    (edits : rule.requestEdit = some (.rename old new)) : rule = .renameJsonField (some old) (some new) := by
  unfold requestEdit at edits
  split at edits <;> cases edits
  rfl

theorem mem_requestEvents {rule : Rule} {draft : RequestDraft} {event : Event}
    (told : event ∈ rule.requestEvents draft) :
    ∃ old new count, rule = .renameJsonField (some old) (some new) ∧
      event = .membersRenamed old new count := by
  unfold requestEvents at told
  split at told
  · rename_i edits _
    obtain ⟨old, new, count, rfl, rfl⟩ := mem_editEvents told
    exact ⟨old, new, count, eq_of_requestEdit_rename edits, rfl⟩
  · cases told

/-- No rule renames members of a response. -/
theorem responseEvents_eq_nil (now : Instant) (rule : Rule) (body : Body) :
    rule.responseEvents now body = [] := by
  rw [List.eq_nil_iff_forall_not_mem]
  intro event told
  unfold responseEvents at told
  split at told
  · rename_i edits
    obtain ⟨old, new, count, rfl, -⟩ := mem_editEvents told
    unfold responseEdit at edits
    split at edits <;> cases edits
  · cases told

end Rule

namespace Exchange

theorem site?_outcomeEvent (scope : RuleScope) {rule : Rule} {result : Except RuleError Outcome}
    (passed : ∀ type, rule = .unknown type → result = .ok .unsupported) :
    (scope.outcomeEvent rule result).site? = some (scope.site rule.type) := by
  by_cases unknown : ∃ type, rule = .unknown type
  · obtain ⟨type, same⟩ := unknown
    rw [passed type same]
    rfl
  · have labelled : rule.label = rule.type := Rule.label_eq_type fun type same => unknown ⟨type, same⟩
    unfold RuleScope.outcomeEvent
    rw [labelled]
    split
    · rfl
    · rfl
    · split <;> rfl

theorem site?_requestEvent (scope : RuleScope) (rule : Rule) (draft : RequestDraft) :
    (scope.outcomeEvent rule (rule.onRequest.on draft).1).site? = some (scope.site rule.type) := by
  apply site?_outcomeEvent
  rintro type rfl
  rfl

theorem site?_responseEvent (scope : RuleScope) (now : Instant) (rule : Rule) (body : Body) :
    (scope.outcomeEvent rule ((rule.onResponse now).on body).1).site? = some (scope.site rule.type) := by
  apply site?_outcomeEvent
  rintro type rfl
  rfl

theorem mem_events_runRequestRules {scope : RuleScope} {rules : List Rule} {draft : RequestDraft}
    {event : Event} (told : event ∈ (runRequestRules scope rules draft).events) :
    (∃ rule ∈ rules, event.site? = some (scope.site rule.type)) ∨ event.TellsOfRenaming rules := by
  induction rules generalizing draft with
  | nil => cases told
  | cons rule rules ih =>
    rw [events_runRequestRules_cons] at told
    rcases List.mem_append.mp told with edited | told
    · obtain ⟨old, new, count, same, renamed⟩ := Rule.mem_requestEvents edited
      exact .inr ⟨old, new, count, same ▸ List.mem_cons_self, renamed⟩
    rcases List.mem_cons.mp told with rfl | later
    · exact .inl ⟨rule, List.mem_cons_self, site?_requestEvent scope rule draft⟩
    · have rest : event ∈ (runRequestRules scope rules (rule.onRequest.on draft).2).events := by
        split at later
        · exact later
        · split at later
          · cases later
          · exact later
      rcases ih rest with ⟨other, present, told⟩ | ⟨old, new, count, present, renamed⟩
      · exact .inl ⟨other, List.mem_cons_of_mem _ present, told⟩
      · exact .inr ⟨old, new, count, List.mem_cons_of_mem _ present, renamed⟩

theorem mem_events_runResponseRules {scope : RuleScope} {clock : Nat → Instant} {place : Nat}
    {rules : List Rule} {body : Body} {event : Event}
    (told : event ∈ (runResponseRules scope clock place rules body).events) :
    ∃ rule ∈ rules, event.site? = some (scope.site rule.type) := by
  induction rules generalizing place body with
  | nil => cases told
  | cons rule rules ih =>
    rw [events_runResponseRules_cons, Rule.responseEvents_eq_nil, List.nil_append] at told
    rcases List.mem_cons.mp told with rfl | later
    · exact ⟨rule, List.mem_cons_self, site?_responseEvent scope (clock place) rule body⟩
    · obtain ⟨other, present, told⟩ := ih later
      exact ⟨other, List.mem_cons_of_mem _ present, told⟩

/-! ### The parts of an exchange -/

theorem of_mem_shown {shown : Bool} {id : Uuid} {first second event : Event}
    (told : event ∈ first :: if shown then [second] else []) (one : first.TellsOfExchange id)
    (other : second.TellsOfExchange id) : event.TellsOfExchange id := by
  rcases List.mem_cons.mp told with rfl | told
  · exact one
  · split at told
    · rw [List.mem_singleton.mp told]
      exact other
    · cases told

theorem of_mem_arrival {shown : Bool} {id : Uuid} {request : Request} {event : Event}
    (told : event ∈ arrival shown id request) : event.TellsOfExchange id :=
  of_mem_shown told ⟨rfl, List.mem_cons_self⟩ ⟨rfl, List.mem_cons_self⟩

theorem of_mem_departure {shown : Bool} {id : Uuid} {routeId : Option String} {response : Response}
    {event : Event} (told : event ∈ departure shown id routeId response) : event.TellsOfExchange id :=
  of_mem_shown told ⟨rfl, List.mem_cons_self⟩ ⟨rfl, List.mem_cons_self⟩

theorem of_mem_routing {table : Route.Table} {limit : Nat} {id : Uuid} {request : Request} {event : Event}
    (told : event ∈ routing table limit id request) :
    event.TellsOfExchange id ∨ event.TellsOfRenaming (table.requestRules request.uri.path) ∨
      ∃ route, table.resolve request.uri.path = some route ∧ ∃ rule ∈ route.requestRules,
        event.site? = some ((⟨id, route.id, .request⟩ : RuleScope).site rule.type) := by
  unfold routing at told
  unfold Route.Table.requestRules
  cases found : table.resolve request.uri.path with
  | none =>
    rw [found] at told
    obtain rfl := List.mem_singleton.mp told
    exact .inl ⟨rfl, List.mem_cons_self⟩
  | some route =>
    rw [found] at told
    rcases List.mem_cons.mp told with rfl | told
    · exact .inl ⟨rfl, List.mem_cons_self⟩
    rcases List.mem_append.mp told with warned | told
    · unfold bodyWarning at warned
      split at warned
      · obtain rfl := List.mem_singleton.mp warned
        exact .inl ⟨rfl, List.mem_cons_self⟩
      · cases warned
    · rcases mem_events_runRequestRules told with ran | renamed
      · exact .inr (.inr ⟨route, rfl, ran⟩)
      · exact .inr (.inl renamed)

end Exchange

namespace Gateway
open Exchange

/-- An exchange that ends before it is forwarded runs no rule for responses. -/
theorem rulesRun_handle_of_error {table : Route.Table} {settings : GatewaySettings} {world : World}
    {request : Request} {error : RuleError} (ended : onward table settings world request = .error error)
    (forwarder : Forwarder) :
    ((ofTable table settings).handle world forwarder request).rulesRun .response = [] := by
  rw [Run.rulesRun_eq_nil_iff, events_handle_of_error ended]
  intro event told site tells
  have whole : ∀ id, ¬ event.TellsOfExchange id := fun _ silent => by simp [silent.1] at tells
  rcases List.mem_append.mp told with told | left
  · rcases List.mem_append.mp told with arrived | routed
    · exact absurd (of_mem_arrival arrived) (whole _)
    · rcases of_mem_routing routed with silent | ⟨_, _, _, -, rfl⟩ | ⟨_, -, _, -, same⟩
      · exact absurd silent (whole _)
      · cases tells
      · obtain rfl := Option.some.inj (same.symm.trans tells)
        exact (by decide : Phase.request.text ≠ Phase.response.text)
  · exact absurd (of_mem_departure left) (whole _)

end Gateway
end Relay
