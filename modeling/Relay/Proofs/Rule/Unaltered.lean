import Relay.Proofs.Json.BlankText
import Relay.Proofs.Json.Rewriting
import Relay.Proofs.Rule.Step

/-!
# Bodies that rules leave unaltered

A rule marks a body as replaced when the text that comes of its edit is another one. For an edit that leaves the
document as it is this takes a value put in the place of its like, in a text that is not written as the document is:
`unaltered_unless_written_anew`.
-/

namespace Relay.Rule
open Http Json

theorem onRequest_of_requestEdit {rule : Rule} {edit : Edit} (edits : rule.requestEdit = some edit) :
    rule.onRequest = onHeldBody (rule.editBody edit) := by
  unfold onRequest
  split
  · cases edits
  · cases edits
  · cases edits
  · rw [edits]

theorem onResponse_of_responseEdit {now : Instant} {rule : Rule} {edit : Edit}
    (edits : rule.responseEdit now = some edit) : rule.onResponse now = rule.editBody edit := by
  unfold onResponse
  rw [edits]

/-- The text of a document is not blank, so that an edit comes to it. -/
theorem bodyText_of_parse {body : Body} {text : String} {document : Json} (read : body.text? = some text)
    (parsed : parse text = .ok document) (rule : Rule) : rule.bodyText body = .ok (some text) := by
  refine bodyText_eq_some.mpr ⟨Bool.eq_false_of_not_eq_true fun blank => ?_, read⟩
  obtain ⟨error, failed⟩ := parse_blank (isBlankChar_of_isBlank read blank)
  rw [parsed] at failed
  cases failed

theorem editBody_of_attempt {edit : Edit} {body : Body} {text output : String} {document : Json}
    (read : body.text? = some text) (parsed : parse text = .ok document)
    (attempted : edit.attempt text = .ok output) (rule : Rule) :
    (rule.editBody edit).on body =
      if output = text then (.ok .unchanged, body) else (.ok .changed, body.replace output.toUTF8) := by
  rw [on_editBody, bodyText_of_parse read parsed]
  simp only [attempted]

/-- An edit that leaves the document as it is leaves the text, unless it puts a value in the place of its like: then
the text is that of the document, which is another one only in how it is written. A rule that makes the edit alters
its message when the text is another one, and only then. -/
theorem unaltered_unless_written_anew {edit : Edit} {text : String} {document : Json} {draft : Draft}
    (parsed : parse text = .ok document) (drafted : edit.draft document = .ok draft)
    (same : draft.document = document) :
    ∃ output, edit.attempt text = .ok output ∧
      (¬ edit.Rewrites document → output = text) ∧
      (edit.Rewrites document → output = document.render) ∧
      ∀ (rule : Rule) (body : Body), body.text? = some text →
        (∀ request : RequestDraft, rule.requestEdit = some edit → request.body = some body →
          rule.onRequest.on request =
            if output = text then (.ok .unchanged, request)
            else (.ok .changed, { request with body := some (body.replace output.toUTF8) })) ∧
        ∀ now, rule.responseEdit now = some edit →
          (rule.onResponse now).on body =
            if output = text then (.ok .unchanged, body) else (.ok .changed, body.replace output.toUTF8) := by
  have attempted : edit.attempt text = .ok (draft.finish text) :=
    attempt_eq_ok.mpr ⟨document, draft, parsed, drafted, rfl⟩
  obtain ⟨kept, written⟩ := finish_of_same (legible_of_parse parsed) drafted same text
  refine ⟨_, attempted, kept, written, fun rule body read => ⟨fun request edits held => ?_, fun now edits => ?_⟩⟩
  · have itself : { request with body := some body } = request := by rw [← held]
    rw [onRequest_of_requestEdit edits, on_onHeldBody, held]
    simp only [editBody_of_attempt read parsed attempted]
    split
    · simp only [itself]
    · rfl
  · rw [onResponse_of_responseEdit edits]
    exact editBody_of_attempt read parsed attempted rule

/-- A mask is its own mask, and the text keeps its blanks, the order of its members and its escapes. -/
theorem masked_text_is_unaltered :
    let text := "\x7b \"z\": \"\\u0041\", \"pin\": \"****\" \x7d"
    let rule := Rule.maskSensitiveData ["$.pin"]
    let request : RequestDraft := ⟨⟨none, none, "/", none, rfl, nofun⟩, .empty, some (.ofBytes text.toUTF8)⟩
    rule.onRequest.on request = (.ok .unchanged, request) := by
  intro text rule request
  let document : Json := .obj [("pin", .str "****"), ("z", .str "A")]
  have parsed : parse text = .ok document := by
    simp only [parse, tokens, text, String.reduceToList]
    rfl
  have drafted : (Edit.mask ["$.pin"]).draft document = .ok (.start document) := rfl
  have read : (Body.ofBytes text.toUTF8).text? = some text := Text.ofBytes?_eq_some.mpr rfl
  obtain ⟨output, -, kept, -, alters⟩ := unaltered_unless_written_anew parsed drafted rfl
  obtain ⟨requests, -⟩ := alters rule (.ofBytes text.toUTF8) read
  rw [requests request rfl rfl, if_pos (kept id)]

/-- The value is already there, but the text is written with blanks. -/
theorem like_value_is_written_anew :
    let text := "\x7b \"a\": \"x\" \x7d"
    let edit := Edit.replace "$.a" none "x"
    ∃ document draft, parse text = .ok document ∧ edit.draft document = .ok draft ∧ draft.document = document ∧
      edit.attempt text = .ok "\x7b\"a\":\"x\"\x7d" ∧ document.render ≠ text := by
  intro text edit
  let document : Json := .obj [("a", .str "x")]
  have parsed : parse text = .ok document := by
    simp only [parse, tokens, text, String.reduceToList]
    rfl
  have drafted : edit.draft document = .ok ⟨document, true⟩ := rfl
  have rendered : document.render = "\x7b\"a\":\"x\"\x7d" := rfl
  refine ⟨document, _, parsed, drafted, rfl, ?_, ?_⟩
  · exact attempt_eq_ok.mpr ⟨document, _, parsed, drafted, rendered⟩
  · rw [rendered]
    decide

end Relay.Rule
