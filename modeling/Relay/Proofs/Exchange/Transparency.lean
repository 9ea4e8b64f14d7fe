import Relay.Proofs.Exchange.Framing

/-!
# What the answer keeps

The answer to a request that is forwarded is the response of the forwarder. Its rules change the body and,
with it, the two headers that frame a body; all else comes out as it came, and so does the body unless a rule
puts other bytes in its place.
-/

namespace Relay
open Http

namespace Exchange

/-- Why the body of a response comes out as it came: no rule runs on it, none can read it, or none puts other
bytes in its place. -/
inductive Untouched (table : Route.Table) (limit : Nat) (clock : Nat → Instant) (path : String)
    (response : Response) : Prop where
  | noRoute (unmatched : table.resolve path = none)
  | noRules (empty : table.responseRules path = [])
  | tooLarge (large : limit < response.body.size)
  | notText (broken : Text.ofBytes? response.body = none)
  | notJson {text : String} {error : Json.ReadError} (read : Text.ofBytes? response.body = some text)
      (unreadable : Json.parse text = .error error)
  | unchanged (idle : ∀ i,
      (Rule.bodyAfter clock 0 ((table.responseRules path).take (i + 1)) (.ofBytes response.body)).bytes =
        (Rule.bodyAfter clock 0 ((table.responseRules path).take i) (.ofBytes response.body)).bytes)

variable {table : Route.Table} {limit : Nat} {clock : Nat → Instant} {path : String} {response : Response}

theorem idle_of_unreadable
    (unreadable : ∀ text, Text.ofBytes? response.body = some text → ∃ error, Json.parse text = .error error)
    (clock : Nat → Instant) (rules : List Rule) (i : Nat) :
    (Rule.bodyAfter clock 0 (rules.take (i + 1)) (.ofBytes response.body)).bytes =
      (Rule.bodyAfter clock 0 (rules.take i) (.ofBytes response.body)).bytes := by
  have same : ∀ rules, Rule.bodyAfter clock 0 rules (.ofBytes response.body) = .ofBytes response.body :=
    fun rules => Rule.bodyAfter_of_unreadable clock 0 rules unreadable
  rw [same, same]

theorem idle_of_untouched (small : response.body.size ≤ limit)
    (untouched : Untouched table limit clock path response) (i : Nat) :
    (Rule.bodyAfter clock 0 ((table.responseRules path).take (i + 1)) (.ofBytes response.body)).bytes =
      (Rule.bodyAfter clock 0 ((table.responseRules path).take i) (.ofBytes response.body)).bytes := by
  cases untouched with
  | noRoute unmatched =>
    have empty : table.responseRules path = [] := by simp [Route.Table.responseRules, unmatched]
    rw [empty, List.take_nil, List.take_nil]
  | noRules empty => rw [empty, List.take_nil, List.take_nil]
  | tooLarge large => exact absurd small (Nat.not_le.mpr large)
  | notText broken =>
    exact idle_of_unreadable (fun text read => absurd (broken.symm.trans read) nofun) clock _ i
  | @notJson text error read unreadable =>
    refine idle_of_unreadable (fun text' read' => ⟨error, ?_⟩) clock _ i
    rw [← Option.some.inj (read.symm.trans read'), unreadable]
  | unchanged idle => exact idle i

/-- A body that is touched is one that rules run on and that one of them replaces. -/
theorem not_untouched_iff :
    ¬ Untouched table limit clock path response ↔
      response.body.size ≤ limit ∧ ∃ i,
        (Rule.bodyAfter clock 0 ((table.responseRules path).take (i + 1)) (.ofBytes response.body)).bytes ≠
          (Rule.bodyAfter clock 0 ((table.responseRules path).take i) (.ofBytes response.body)).bytes := by
  constructor
  · intro touched
    refine ⟨Nat.not_lt.mp fun large => touched (.tooLarge large), ?_⟩
    rw [← Classical.not_forall]
    exact fun idle => touched (.unchanged idle)
  · rintro ⟨small, i, changed⟩ untouched
    exact changed (idle_of_untouched small untouched i)

theorem values_frame_of_ne {name : HeaderName} (length : name ≠ .contentLength)
    (coding : name ≠ .transferEncoding) (body : Body) (headers : Headers) :
    (body.frame headers).values name = headers.values name := by
  unfold Body.frame
  split
  · rw [Headers.values_insert_of_ne length, Headers.values_erase_of_ne coding]
  · rfl

theorem values_echoed_of_ne {name : HeaderName} (other : name ≠ .correlationId) (id : Uuid)
    (response : Response) : (echoed id response).headers.values name = response.headers.values name :=
  Headers.values_insert_of_ne other ..

/-- Whatever the rules of a response are, they leave its status and all headers but those that frame the
body. -/
theorem answered_keeps (table : Route.Table) (limit : Nat) (clock : Nat → Instant) (path : String)
    (response : Response) :
    (answered table limit clock path response).status = response.status ∧
      ∀ name, name ≠ .contentLength → name ≠ .transferEncoding →
        (answered table limit clock path response).headers.values name = response.headers.values name := by
  rw [answered_eq_answeredBy]
  unfold answeredBy
  split
  · exact ⟨rfl, fun _ _ _ => rfl⟩
  · exact ⟨rfl, fun name length coding => values_frame_of_ne length coding _ _⟩

theorem answered_of_untouched (untouched : Untouched table limit clock path response) :
    answered table limit clock path response = response := by
  rw [answered_eq_answeredBy]
  unfold answeredBy
  split
  · rfl
  · rename_i ruled
    have small : response.body.size ≤ limit := Nat.not_lt.mp fun large => ruled (.inl large)
    rw [Rule.bodyAfter_of_unchanged (idle_of_untouched small untouched)]
    rfl

theorem values_answered_of_touched (touched : ¬ Untouched table limit clock path response) :
    let answer := answered table limit clock path response
    answer.headers.values .contentLength = [(Text.natText answer.body.size).toUTF8] ∧
      answer.headers.values .transferEncoding = [] := by
  intro answer
  obtain ⟨small, i, changed⟩ := not_untouched_iff.mp touched
  have replaced := Rule.replaced_bodyAfter_of_changed changed
  have sized := Rule.sized_bodyAfter clock 0 (table.responseRules path) (Body.sized_ofBytes response.body)
  have readable : ¬ (Text.ofBytes? response.body).isNone = true := fun broken =>
    touched (.notText (Option.isNone_iff_eq_none.mp broken))
  have same : answer = finishResponse response
      (Rule.bodyAfter clock 0 (table.responseRules path) (.ofBytes response.body)) := by
    show answered table limit clock path response = _
    rw [answered_eq_answeredBy, answeredBy, if_neg]
    exact not_or.mpr ⟨Nat.not_lt.mpr small, readable⟩
  rw [same]
  exact values_frame sized replaced response.headers

end Exchange

namespace Gateway
open Exchange

/-- Every response to a forwarded request is answered with, in its status and in all headers but three. If no
rule touches the body, then the body and its framing are those of the response; otherwise the answer declares
the length of its body, as the only one, and no transfer coding. -/
theorem answer_keeps_response (table : Route.Table) (settings : GatewaySettings) (world : World)
    (forwarder : Forwarder) (request : Request) :
    let run := (ofTable table settings).handle world forwarder request
    ∀ forward ∈ run.forwards, ∀ response, forwarder forward.dispatch = some response →
      let untouched :=
        Untouched table settings.maxBodyBytes (world.clock 3) request.uri.path response
      ∃ answer, run.result = some answer ∧ answer.status = response.status ∧
        (∀ name, name ≠ .contentLength → name ≠ .transferEncoding → name ≠ .correlationId →
          answer.headers.values name = response.headers.values name) ∧
        (untouched → answer.body = response.body ∧
          answer.headers.values .contentLength = response.headers.values .contentLength ∧
          answer.headers.values .transferEncoding = response.headers.values .transferEncoding) ∧
        (¬ untouched →
          answer.headers.values .contentLength = [(Text.natText answer.body.size).toUTF8] ∧
          answer.headers.values .transferEncoding = []) := by
  intro run forward handed response reply untouched
  obtain ⟨request', passed, rfl⟩ := of_mem_forwards handed
  obtain ⟨-, result⟩ := handle_of_onward passed forwarder
  obtain ⟨status, others⟩ := answered_keeps table settings.maxBodyBytes (world.clock 3) request.uri.path
    response
  have length : HeaderName.contentLength ≠ .correlationId := by decide
  have coding : HeaderName.transferEncoding ≠ .correlationId := by decide
  refine ⟨_, result.trans (congrArg _ reply), status, fun name => ?_, fun untouched => ?_, fun touched => ?_⟩
  · intro notLength notCoding notId
    rw [values_echoed_of_ne notId]
    exact others name notLength notCoding
  · rw [values_echoed_of_ne length, values_echoed_of_ne coding, answered_of_untouched untouched]
    exact ⟨congrArg (·.body) (answered_of_untouched untouched), rfl, rfl⟩
  · rw [values_echoed_of_ne length, values_echoed_of_ne coding]
    exact values_answered_of_touched touched

theorem replaced_value_is_framed :
    let route : Route := { responseRules := [.validateHeader (some "x-key") true,
      .modifyJsonValue (some "a") none (some "longer")] }
    let headers := (Headers.empty.insert .transferEncoding "chunked".toUTF8).append .contentType "b".toUTF8
    let response : Response := { status := 503, headers := headers, body := "\x7b\"a\":1\x7d".toUTF8 }
    let run := (ofTable (.always route) {}).handle .still (fun _ => some response) (.root .empty .empty)
    ∃ answer, run.result = some answer ∧ answer.status = 503 ∧
      answer.headers.values .contentType = ["b".toUTF8] ∧
      answer.headers.values .contentLength = [(Text.natText answer.body.size).toUTF8] ∧
      answer.headers.values .transferEncoding = [] := by
  intro route headers response run
  have unended : Rule.fatalError route.requestRules
      (draftOf route.requestRules 10485760 (.root .empty .empty)) = none := rfl
  have passed := onward_of_resolve {} .still (.root .empty .empty)
    (Route.Table.resolve_always route "/") unended
  have handed := mem_forwards_of_onward passed fun _ => some response
  have touched : ¬ Untouched (.always route) 10485760 (World.still.clock 3) "/" response := by
    refine not_untouched_iff.mpr ⟨by decide +kernel, 1, ?_⟩
    decide +kernel
  obtain ⟨answer, result, status, others, -, framed⟩ := answer_keeps_response (.always route) {} .still
    (fun _ => some response) (.root .empty .empty) _ handed response rfl
  refine ⟨answer, result, status, (others .contentType ?_ ?_ ?_).trans ?_, framed touched⟩
  all_goals decide +kernel

end Gateway
end Relay
