import Relay.Proofs.Rule.Wire
import Relay.Settings.Loading

/-!
# Settings that are written and read

Settings that a text holds are read again from the text that is written of them: every section, the routes in
their order, and the rules of each route with what their types own.
-/

namespace Relay
open Schema

namespace Route

/-- Every rule of a route comes back from its record. -/
def Legible (depth : Nat) (route : Route) : Prop :=
  (∀ rule ∈ route.requestRules, rule.Legible depth) ∧ ∀ rule ∈ route.responseRules, rule.Legible depth

variable {depth : Nat}

theorem yields_schema : Json.Yields (schema.json (depth + 4)) (Legible (depth + 1)) := by
  have rules := yields_listOf (Rule.yields_schema depth)
  refine Record.yields_schema ⟨nofun, nofun⟩ ?_
  simp only [record, List.forall_mem_cons]
  exact ⟨keeps_requiredField yields_text fun _ _ _ legible => legible,
    keeps_field yields_text fun _ _ _ legible => legible,
    keeps_requiredField yields_text fun _ _ _ legible => legible,
    keeps_field yields_text fun _ _ _ legible => legible,
    keeps_field yields_choice fun _ _ _ legible => legible,
    keeps_field rules fun _ _ each legible => ⟨each, legible.2⟩,
    keeps_field rules fun _ _ each legible => ⟨legible.1, each⟩, by simp⟩

theorem reads_toJson {route : Route} (legible : route.Legible (depth + 1)) :
    schema.Reads (depth + 4) route.toJson route := by
  have direction : directions.lookup route.direction.text = some route.direction := by
    cases route.direction <;> decide
  refine Record.reads_schema (by decide) ?_
  have requestRules := reads_listOf fun rule listed => Rule.reads_toJson (legible.1 rule listed)
  have responseRules := reads_listOf fun rule listed => Rule.reads_toJson (legible.2 rule listed)
  exact takes_requiredField (reads_text route.id) <| takes_field (reads_text route.description) <|
    takes_requiredField (reads_text route.path) <| takes_field (reads_text route.destination) <|
    takes_field (reads_choice direction) <| takes_field requestRules <| takes_field responseRules <|
    .nil route

end Route

namespace Settings

/-- The limit of bodies fits a word, and every rule comes back from its record. -/
structure Legible (depth : Nat) (s : Settings) : Prop where
  limit : Json.Number.InRange s.gateway.maxBodyBytes
  routes : ∀ route ∈ s.routes, route.Legible depth

variable {depth : Nat}

theorem yields_gateway : Json.Yields (GatewaySettings.record.schema.json (depth + 1))
    fun s => Json.Number.InRange s.maxBodyBytes := by
  refine Record.yields_schema (by decide) ?_
  simp only [GatewaySettings.record, List.forall_mem_cons]
  exact ⟨keeps_field yields_flag fun _ _ _ range => range,
    keeps_field yields_flag fun _ _ _ range => range,
    keeps_field yields_count fun _ _ range _ => range, by simp⟩

theorem yields_logging : Json.Yields (LogSection.record.schema.json (depth + 1)) fun _ => True := by
  refine Record.yields_schema trivial ?_
  simp only [LogSection.record, List.forall_mem_cons]
  exact ⟨keeps_field yields_text fun _ _ _ _ => trivial,
    keeps_field yields_choice fun _ _ _ _ => trivial,
    keeps_field yields_flag fun _ _ _ _ => trivial,
    keeps_field yields_flag fun _ _ _ _ => trivial, by simp⟩

theorem yields_schema : Json.Yields (schema.json (depth + 6)) (Legible (depth + 1)) := by
  have routes := yields_listOf (Route.yields_schema : Json.Yields (Route.schema.json (depth + 4)) _)
  refine Record.yields_schema ⟨by decide, nofun⟩ ?_
  simp only [record, List.forall_mem_cons]
  exact ⟨keeps_field yields_gateway fun _ _ range legible => ⟨range, legible.routes⟩,
    keeps_field yields_logging fun _ _ _ legible => ⟨legible.limit, legible.routes⟩,
    keeps_field routes fun _ _ each legible => ⟨legible.limit, each⟩, by simp⟩

theorem reads_gateway {s : GatewaySettings} (range : Json.Number.InRange s.maxBodyBytes) :
    GatewaySettings.record.schema.Reads (depth + 1) s.toJson s := by
  refine Record.reads_schema (by decide) ?_
  exact takes_field (reads_flag s.trustIncomingIds) <| takes_field (reads_flag s.logBodies) <|
    takes_field (reads_count range) <| .nil s

theorem reads_logging (s : LogSection) : LogSection.record.schema.Reads (depth + 1) s.toJson s := by
  have format : LogFormat.names.lookup s.format.text = some s.format := by cases s.format <;> decide
  refine Record.reads_schema (by decide) ?_
  exact takes_field (reads_text s.level) <| takes_field (reads_choice format) <|
    takes_field (reads_flag s.ansi) <| takes_field (reads_flag s.location) <| .nil s

theorem reads_toJson {s : Settings} (legible : s.Legible (depth + 1)) :
    schema.Reads (depth + 6) s.toJson s := by
  refine Record.reads_schema (by decide) ?_
  have routes := reads_listOf fun route listed => Route.reads_toJson (legible.routes route listed)
  exact takes_field (reads_gateway legible.limit) <| takes_field (reads_logging s.logging) <|
    takes_field routes <| .nil s

/-! ### Loading -/

theorem ofDocument_json {text : String} {s : Settings} :
    ofDocument .json text = .ok s ↔ schema.parseJson text = .ok s := by
  unfold ofDocument
  cases schema.parseJson text <;> simp [Except.mapError]

theorem ofDocument_toJson {text : String} {s : Settings} (read : ofDocument .json text = .ok s)
    (numbers : s.toJson.NumbersReadBack) : ofDocument .json s.toJson.render = .ok s := by
  have legible : s.Legible 122 := yields_parseJson yields_schema (ofDocument_json.mp read)
  exact ofDocument_json.mpr ((reads_toJson legible).parseJson numbers)

theorem step_text {files : Files} {loading loaded : Loading} {content format : String}
    (json : DocumentFormat.ofName? format = some .json)
    (accepted : loading.step files (.text content format) = .ok loaded) :
    ofDocument .json content = .ok loaded.settings := by
  simp only [Loading.step, json] at accepted
  obtain ⟨s, read, same⟩ := bind_ok accepted
  cases same
  exact read

/-- Settings that are loaded from a text are loaded again, with the same verdict, from the text that is
written of them, provided that the numbers in it are read back. A rule that is read from a text comes back from its
flat record, and from the text that is written of it, provided the same. -/
theorem settings_survive_writing :
    (∀ (files : Files) (loading loaded : Loading) (content format : String),
      DocumentFormat.ofName? format = some .json →
      loading.step files (.text content format) = .ok loaded → loaded.settings.toJson.NumbersReadBack →
      ∀ other : Loading, ∃ again,
        other.step files (.text loaded.settings.toJson.render "json") = .ok again ∧
          again.settings = loaded.settings ∧ again.settings.validate = loaded.settings.validate) ∧
    ∀ (text : String) (rule : Rule), Rule.schema.parseJson text = .ok rule →
      Rule.ofRecord rule.toRecord = rule ∧
        (rule.toJson.NumbersReadBack → Rule.schema.parseJson rule.toJson.render = .ok rule) := by
  refine ⟨fun files loading loaded content format json accepted numbers other => ?_, fun text rule read => ?_⟩
  · have again := ofDocument_toJson (step_text json accepted) numbers
    refine ⟨{ other with settings := loaded.settings }, ?_, rfl, rfl⟩
    have named : DocumentFormat.ofName? "json" = some .json := by decide +kernel
    simp only [Loading.step, named, again]
    rfl
  · have legible : rule.Legible 126 := yields_parseJson (Rule.yields_schema 125) read
    exact ⟨legible.kept, (Rule.reads_toJson legible).parseJson⟩

/-- A rule of an unknown type, and metadata with numbers of two kinds. -/
def variedText : String :=
  "\x7b\"routes\":[\x7b\"RouteId\":\"r\",\"MatchPath\":\"/\",\"Transformations\":[\x7b\"Type\":\"Nothing\"\x7d," ++
    "\x7b\"Type\":\"InjectMetadata\",\"Metadata\":\x7b\"m\":[-0.0,1e300]\x7d\x7d]\x7d]\x7d"

/-- A list that is empty, and fields that are null or of another type. -/
def variedRuleText : String :=
  "\x7b\"HeaderName\":\"x\",\"Type\":\"MaskSensitiveData\",\"JsonPaths\":[],\"NewValue\":null\x7d"

theorem varied_settings_survive_writing :
    (∃ loaded again : Loading,
      Loading.step .empty { environment := [] } (.text variedText "JSON") = .ok loaded ∧
        loaded.settings.routes.length = 1 ∧
        Loading.step .empty { environment := [] } (.text loaded.settings.toJson.render "json") = .ok again ∧
          again.settings = loaded.settings) ∧
      ∃ rule : Rule, Rule.schema.parseJson variedRuleText = .ok rule ∧
        Rule.schema.parseJson rule.toJson.render = .ok rule := by
  have json : DocumentFormat.ofName? "JSON" = some .json := by decide +kernel
  have counted : (Loading.step .empty { environment := [] } (.text variedText "JSON")).toOption.map (fun loaded =>
      (loaded.settings.routes.length, loaded.settings.toJson.reread == loaded.settings.toJson)) = some (1, true) := by
    decide +kernel
  have readable : (Rule.schema.parseJson variedRuleText).toOption.map (fun rule =>
      rule.toJson.reread == rule.toJson) = some true := by decide +kernel
  refine ⟨?_, ?_⟩
  · cases accepted : Loading.step .empty { environment := [] } (.text variedText "JSON") with
    | error e =>
      rw [accepted] at counted
      cases counted
    | ok loaded =>
      rw [accepted] at counted
      obtain ⟨length, numbers⟩ := Prod.mk.inj (Option.some.inj counted)
      obtain ⟨again, loads, same, -⟩ :=
        settings_survive_writing.1 _ _ _ _ _ json accepted (beq_iff_eq.mp numbers) { environment := [] }
      exact ⟨loaded, again, rfl, length, loads, same⟩
  · cases read : Rule.schema.parseJson variedRuleText with
    | error e =>
      rw [read] at readable
      cases readable
    | ok rule =>
      rw [read] at readable
      have numbers := beq_iff_eq.mp (Option.some.inj readable)
      exact ⟨rule, rfl, (settings_survive_writing.2 _ _ read).2 numbers⟩

end Settings
end Relay
