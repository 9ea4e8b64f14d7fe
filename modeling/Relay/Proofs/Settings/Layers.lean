import Mathlib.Data.List.Induction
import Relay.Proofs.Schema.Omission
import Relay.Settings.Loading

/-!
# Layers of settings

Loading goes through its calls one by one, and each call puts one of three things in place: settings, a prefix of
variables, or variables. Settings are not merged. So of all sources the last one alone says what the settings are,
wherever the other calls stand, and what a document leaves out has its default and not what an earlier source gave
(`last_source_decides`).
-/

namespace Relay

open Schema

/-! ### Formats and files -/

namespace DocumentFormat

def name : DocumentFormat → String
  | toml => "toml"
  | json => "json"

theorem ofName?_eq_some_iff {named : String} {format : DocumentFormat} :
    ofName? named = some format ↔ named.map Char.toLower = format.name := by
  unfold ofName?
  generalize named.map Char.toLower = lowered
  rw [List.lookup_cons, List.lookup_cons, List.lookup_nil]
  by_cases toml : lowered = "toml"
  · subst toml
    cases format <;> decide
  · by_cases json : lowered = "json"
    · subst json
      cases format <;> decide
    · rw [beq_eq_false_iff_ne.mpr toml, beq_eq_false_iff_ne.mpr json]
      cases format
      · exact ⟨nofun, fun same => absurd same toml⟩
      · exact ⟨nofun, fun same => absurd same json⟩

end DocumentFormat

/-- A path that leads to a file with a text and ends with the name of a format, letters in either case. -/
inductive Files.Readable (files : Files) (path : String) (format : DocumentFormat) (content : String) : Prop
  | intro (bytes : ByteArray) (ending : String) (there : files.at? path = some (.file bytes))
    (text : Text.ofBytes? bytes = some content) (extension : Files.extension path = some ending)
    (named : ending.map Char.toLower = format.name)

theorem Files.Readable.ofFile {files : Files} {path : String} {format : DocumentFormat} {content : String}
    (readable : files.Readable path format content) :
    Settings.ofFile files path = Settings.ofDocument format content := by
  obtain ⟨bytes, ending, there, text, extension, named⟩ := readable
  have known : (Files.extension path).bind DocumentFormat.ofName? = some format := by
    rw [extension]
    exact DocumentFormat.ofName?_eq_some_iff.mpr named
  simp only [Settings.ofFile, there, text, known]

theorem Files.readable_of_ofFile {files : Files} {path : String} {s : Settings}
    (read : Settings.ofFile files path = .ok s) :
    ∃ format content, files.Readable path format content ∧ Settings.ofDocument format content = .ok s := by
  unfold Settings.ofFile at read
  split at read
  · cases read
  · cases read
  · rename_i bytes there
    split at read
    · cases read
    · rename_i content text
      split at read
      · rename_i format known
        obtain ⟨ending, extension, named⟩ := Option.bind_eq_some_iff.mp known
        exact ⟨format, content, ⟨bytes, ending, there, text, extension,
          DocumentFormat.ofName?_eq_some_iff.mp named⟩, read⟩
      · cases read

/-! ### Sections that are left out -/

namespace Settings

/-- The names of the sections that a document gives. -/
def given (format : DocumentFormat) (content : String) : List String :=
  match format with
  | .json => record.given (Json.tokens content)
  | .toml => match Toml.parse content with
    | .ok v => record.givenToml v
    | .error _ => []

/-- Every section that is not given has its default. -/
structure LeftOut (given : List String) (s : Settings) : Prop where
  gateway : "gateway" ∉ given → s.gateway = {}
  logging : "logging" ∉ given → s.logging = {}
  routes : "routes" ∉ given → s.routes = []

theorem omitted {β : Type} {name : String} {get : Settings → β} (only : record.OnlyBy name get)
    {format : DocumentFormat} {content : String} {s : Settings} (read : ofDocument format content = .ok s)
    (absent : name ∉ given format content) : get s = get {} := by
  cases format with
  | json =>
    exact Record.omitted_json only skips_fields (read_of_parseJson (mapError_ok read)) absent
  | toml =>
    obtain ⟨v, parsed, read⟩ := bind_ok (mapError_ok read)
    simp only [given, parsed] at absent
    exact Record.omitted_toml only read absent

theorem leftOut_given {format : DocumentFormat} {content : String} {s : Settings}
    (read : ofDocument format content = .ok s) : s.LeftOut (given format content) := by
  have gateway : record.OnlyBy "gateway" Settings.gateway := by
    simp only [Record.OnlyBy, record, List.forall_mem_cons]
    exact ⟨fun other => absurd rfl other, fun _ => leaves_field fun _ _ => rfl,
      fun _ => leaves_field fun _ _ => rfl, by simp⟩
  have logging : record.OnlyBy "logging" Settings.logging := by
    simp only [Record.OnlyBy, record, List.forall_mem_cons]
    exact ⟨fun _ => leaves_field fun _ _ => rfl, fun other => absurd rfl other,
      fun _ => leaves_field fun _ _ => rfl, by simp⟩
  have routes : record.OnlyBy "routes" Settings.routes := by
    simp only [Record.OnlyBy, record, List.forall_mem_cons]
    exact ⟨fun _ => leaves_field fun _ _ => rfl, fun _ => leaves_field fun _ _ => rfl,
      fun other => absurd rfl other, by simp⟩
  exact ⟨omitted gateway read, omitted logging read, omitted routes read⟩

example : given .json "\x7b\"logging\":\x7b\"level\":\"gateway\"\x7d,\"routes\":[]\x7d" = ["routes", "logging"] := by
  decide +kernel

example : given .json "[\x7b\x7d,\x7b\"level\":\"debug\"\x7d]" = ["gateway", "logging"] := by decide +kernel

end Settings

/-! ### Calls -/

namespace LoadStep

/-- A call that puts settings in place. An optional file does so when there is something in its place. -/
def isSource (files : Files) : LoadStep → Bool
  | .defaults | .file _ | .text _ _ => true
  | .optionalFile path => (files.at? path).isSome
  | .overrides _ | .dotEnv => false

def start? : LoadStep → Option String
  | .overrides start => some start
  | _ => none

/-- The settings that a source gives, whatever there was before. -/
inductive Gives (files : Files) : LoadStep → Settings → Prop
  | defaults : Gives files .defaults {}
  | text {content named : String} {format : DocumentFormat} {s : Settings}
    (known : named.map Char.toLower = format.name) (read : Settings.ofDocument format content = .ok s) :
    Gives files (.text content named) s
  | file {path content : String} {format : DocumentFormat} {s : Settings}
    (readable : files.Readable path format content) (read : Settings.ofDocument format content = .ok s) :
    Gives files (.file path) s
  | optionalFile {path content : String} {format : DocumentFormat} {s : Settings}
    (readable : files.Readable path format content) (read : Settings.ofDocument format content = .ok s) :
    Gives files (.optionalFile path) s

end LoadStep

namespace Loading

open LoadStep (Gives)

variable {files : Files} {environment : Environment} {calls : List LoadStep} {call : LoadStep}
  {first before after loading : Loading} {path content named : String} {format : DocumentFormat} {s : Settings}

theorem step_file (readable : files.Readable path format content) :
    before.step files (.file path) =
      (Settings.ofDocument format content).map fun s => { before with settings := s } := by
  rw [step, readable.ofFile]
  rfl

theorem step_optionalFile (readable : files.Readable path format content) :
    before.step files (.optionalFile path) = before.step files (.file path) := by
  obtain ⟨bytes, ending, there, -⟩ := readable
  simp only [step, there, Option.isSome_some, if_true]

theorem step_text_named (known : named.map Char.toLower = format.name) :
    before.step files (.text content named) =
      (Settings.ofDocument format content).map fun s => { before with settings := s } := by
  rw [step, DocumentFormat.ofName?_eq_some_iff.mpr known]
  rfl

/-- A source replaces the settings and nothing else. -/
theorem step_of_gives (gives : Gives files call s) : before.step files call = .ok { before with settings := s } := by
  cases gives with
  | defaults => rfl
  | text known read => rw [step_text_named known, read]; rfl
  | file readable read => rw [step_file readable, read]; rfl
  | optionalFile readable read => rw [step_optionalFile readable, step_file readable, read]; rfl

/-- What a call can do. -/
inductive Effect (files : Files) (before : Loading) : LoadStep → Loading → Prop
  | settings {call : LoadStep} {s : Settings} (source : call.isSource files) (gives : Gives files call s) :
    Effect files before call { before with settings := s }
  | start (given : String) : Effect files before (.overrides given) { before with start := some (Text.upper given) }
  | dotEnv (environment : Environment)
    (reads : ∀ other : Loading, other.environment = before.environment →
      other.step files .dotEnv = .ok { other with environment }) :
    Effect files before .dotEnv { before with environment }
  | none {path : String} (absent : ¬ (files.at? path).isSome) : Effect files before (.optionalFile path) before

theorem effect (stepped : before.step files call = .ok after) : Effect files before call after := by
  cases call with
  | defaults =>
    cases stepped
    exact .settings rfl .defaults
  | file path =>
    obtain ⟨s, read, same⟩ := bind_ok stepped
    cases same
    obtain ⟨format, content, readable, read⟩ := Files.readable_of_ofFile read
    exact .settings rfl (.file readable read)
  | optionalFile path =>
    rw [step] at stepped
    split at stepped
    · rename_i there
      obtain ⟨s, read, same⟩ := bind_ok stepped
      cases same
      obtain ⟨format, content, readable, read⟩ := Files.readable_of_ofFile read
      exact .settings there (.optionalFile readable read)
    · rename_i absent
      cases stepped
      exact .none absent
  | text content named =>
    rw [step] at stepped
    split at stepped
    · rename_i format known
      obtain ⟨s, read, same⟩ := bind_ok stepped
      cases same
      exact .settings rfl (.text (DocumentFormat.ofName?_eq_some_iff.mp known) read)
    · cases stepped
  | overrides given =>
    cases stepped
    exact .start given
  | dotEnv =>
    rw [step] at stepped
    split at stepped
    · rename_i bytes there
      obtain ⟨environment, read, same⟩ := bind_ok stepped
      cases same
      refine .dotEnv environment fun other same => ?_
      rw [step, there, same]
      simp only [read]
      rfl
    · cases stepped
    · rename_i absent
      cases stepped
      refine .dotEnv before.environment fun other same => ?_
      rw [step, absent, ← same]

/-! ### Sequences of calls -/

/-- The calls that put settings in place. -/
def sources (files : Files) (calls : List LoadStep) : List LoadStep := calls.filter (·.isSource files)

/-- The prefixes that are given. -/
def starts (calls : List LoadStep) : List String := calls.filterMap LoadStep.start?

/-- What stands after a sequence of calls. Each part is left by calls of its own kind: the settings by the last
source, the prefix by the last that is given, and the variables by all the calls for the file of them. Without such a
call the part is as it was first. -/
structure Layered (files : Files) (first : Loading) (calls : List LoadStep) (loading : Loading) : Prop where
  blank : sources files calls = [] → loading.unchecked = first.unchecked
  last : ∀ call, (sources files calls).getLast? = some call → ∀ s, Gives files call s ↔ s = loading.unchecked
  start : loading.start = ((starts calls).getLast?.map Text.upper).or first.start
  dotEnv : (calls.filter (· = .dotEnv)).foldlM (step files) first =
    .ok { first with environment := loading.environment }

theorem gives_iff (gives : Gives files call s) (t : Settings) : Gives files call t ↔ t = s := by
  refine ⟨fun other => ?_, fun same => same ▸ gives⟩
  have stepped : step files { environment := [] } call = .ok { settings := s, environment := [] } :=
    step_of_gives gives
  rw [step_of_gives other] at stepped
  cases stepped
  rfl

/-- A call that is no source leaves the settings to the sources before it. -/
theorem sources_concat_of_not (other : ¬ call.isSource files) :
    sources files (calls ++ [call]) = sources files calls := by
  simp [sources, List.filter_append, other]

theorem start?_of_isSource (source : call.isSource files) : call.start? = none := by
  cases call <;> first | rfl | cases source

theorem Layered.step (layered : Layered files first calls before)
    (stepped : before.step files call = .ok after) : Layered files first (calls ++ [call]) after := by
  obtain ⟨blank, last, start, dotEnv⟩ := layered
  cases effect stepped with
  | settings source gives =>
    have sources : sources files (calls ++ [call]) = sources files calls ++ [call] := by
      simp [Loading.sources, List.filter_append, source]
    have foreign : call ≠ .dotEnv := by
      rintro rfl
      cases source
    refine ⟨by simp [sources], fun call' same => ?_, ?_, ?_⟩
    · rw [sources, List.getLast?_concat] at same
      cases same
      exact gives_iff gives
    · simpa [starts, start?_of_isSource source] using start
    · simpa [foreign] using dotEnv
  | start given =>
    have same : sources files (calls ++ [.overrides given]) = sources files calls := sources_concat_of_not nofun
    exact ⟨same ▸ blank, same ▸ last, by simp [starts, LoadStep.start?], by simpa using dotEnv⟩
  | dotEnv after reads =>
    have same : sources files (calls ++ [.dotEnv]) = sources files calls := sources_concat_of_not nofun
    refine ⟨same ▸ blank, same ▸ last, by simpa [starts, LoadStep.start?] using start, ?_⟩
    rw [List.filter_append, List.foldlM_append, dotEnv]
    show [LoadStep.dotEnv].foldlM (Loading.step files) { first with environment := before.environment } = _
    rw [List.foldlM_cons, reads { first with environment := before.environment } rfl]
    rfl
  | @none path absent =>
    have same : sources files (calls ++ [.optionalFile path]) = sources files calls := sources_concat_of_not absent
    exact ⟨same ▸ blank, same ▸ last, by simpa [starts, LoadStep.start?] using start, by simpa using dotEnv⟩

theorem layered_foldlM (ran : calls.foldlM (step files) first = .ok loading) :
    Layered files first calls loading := by
  induction calls using List.reverseRecOn generalizing loading with
  | nil =>
    cases ran
    exact ⟨fun _ => rfl, nofun, rfl, rfl⟩
  | append_singleton calls call ih =>
    rw [List.foldlM_append] at ran
    obtain ⟨before, ran, stepped⟩ := bind_ok ran
    rw [List.foldlM_cons] at stepped
    obtain ⟨after, stepped, same⟩ := bind_ok stepped
    cases same
    exact (ih ran).step stepped

/-- Settings as the variables of a prefix, in capitals, override them; without a prefix, as they were. -/
def OverriddenBy (environment : Environment) (start : Option String) (before after : Settings) : Prop :=
  match start with
  | none => after = before
  | some given => environment.overrideAll (Text.upper given) before = .ok after

theorem starts_of_last {front back : List LoadStep} {given : String}
    (others : ∀ call ∈ back, ∀ other, call ≠ .overrides other) :
    (starts (front ++ .overrides given :: back)).getLast? = some given := by
  have none : starts back = [] := by
    refine List.filterMap_eq_nil_iff.mpr fun call listed => ?_
    cases call with
    | overrides other => exact absurd rfl (others _ listed other)
    | _ => rfl
  have rest : starts (.overrides given :: back) = [given] := congrArg (given :: ·) none
  rw [starts, List.filterMap_append]
  show (starts front ++ starts (.overrides given :: back)).getLast? = _
  rw [rest, List.getLast?_concat]

theorem finish_eq_ok_iff : loading.finish = .ok s ↔ loading.overridden = .ok s ∧ s.validate = .ok () := by
  constructor
  · intro done
    obtain ⟨t, overridden, done⟩ := bind_ok done
    obtain ⟨⟨⟩, valid, same⟩ := bind_ok done
    cases same
    exact ⟨overridden, valid⟩
  · rintro ⟨overridden, valid⟩
    rw [finish, overridden]
    simp only [bind, Except.bind, valid]
    rfl

theorem Layered.finish_iff (layered : Layered files { environment } calls loading) (present : Environment) :
    { loading with environment := present }.finish = .ok s ↔
      OverriddenBy present (starts calls).getLast? loading.unchecked s ∧ s.validate = .ok () := by
  rw [finish_eq_ok_iff]
  refine and_congr_left' ?_
  rw [overridden, layered.start]
  unfold OverriddenBy
  cases (starts calls).getLast? with
  | none => exact ⟨fun same => (Except.ok.inj same).symm, fun same => congrArg _ same.symm⟩
  | some given => exact Iff.rfl

/-- After any calls that all succeed, the settings are those of the last source alone, be there a prefix or not, and a
document leaves what it does not give at its default. In the end the variables of the last prefix, as they stand then,
override them, and the outcome must be valid. A file is read as its text is read in the format that its name says. -/
theorem last_source_decides (ran : calls.foldlM (step files) { environment } = .ok loading) :
    Layered files { environment } calls loading ∧
      (∀ start present, { loading with start, environment := present }.unchecked = loading.unchecked) ∧
      (∀ present s, { loading with environment := present }.finish = .ok s ↔
        OverriddenBy present (starts calls).getLast? loading.unchecked s ∧ s.validate = .ok ()) ∧
      (∀ format content s, Settings.ofDocument format content = .ok s → s.LeftOut (Settings.given format content)) ∧
      ∀ (before : Loading) path format content named, files.Readable path format content →
        named.map Char.toLower = format.name →
        before.step files (.file path) = before.step files (.text content named) ∧
          before.step files (.optionalFile path) = before.step files (.text content named) := by
  have layered := layered_foldlM ran
  refine ⟨layered, fun _ _ => rfl, fun present s => layered.finish_iff present,
    fun format content s => Settings.leftOut_given, ?_⟩
  intro before path format content named readable known
  have same : before.step files (.file path) = before.step files (.text content named) :=
    (step_file readable).trans (step_text_named known).symm
  exact ⟨same, (step_optionalFile readable).trans same⟩

/-! ### A file after a text -/

def bodiesText : String := "\x7b\"gateway\":\x7b\"log_bodies\":true\x7d\x7d"

def warnText : String := "\x7b\"logging\":\x7b\"level\":\"warn\"\x7d\x7d"

def warnFiles : Files where
  at? path := if path = "/g.Json" then some (.file warnText.toUTF8) else none
  variables? := none

theorem pieces_warn : Files.pieces "/g.Json" = ["", "g.Json"] := by
  rw [Files.pieces, String.splitOn, if_neg (by decide)]
  rw [String.splitOnAux, if_neg (by decide), if_pos (by decide)]
  dsimp only
  rw [if_pos (by decide)]
  iterate 6 rw [String.splitOnAux, if_neg (by decide), if_neg (by decide)]
  rw [String.splitOnAux, if_pos (by decide)]
  decide

theorem splitOn_warn : "g.Json".splitOn "." = ["g", "Json"] := by
  rw [String.splitOn, if_neg (by decide)]
  rw [String.splitOnAux, if_neg (by decide), if_neg (by decide)]
  rw [String.splitOnAux, if_neg (by decide), if_pos (by decide)]
  dsimp only
  rw [if_pos (by decide)]
  iterate 4 rw [String.splitOnAux, if_neg (by decide), if_neg (by decide)]
  rw [String.splitOnAux, if_pos (by decide)]
  decide

theorem readable_warn : warnFiles.Readable "/g.Json" .json warnText := by
  refine ⟨warnText.toUTF8, "Json", rfl, Text.ofBytes?_eq_some.mpr rfl, ?_, by decide +kernel⟩
  have last : Files.lastName "/g.Json" = some "g.Json" := by
    rw [Files.lastName, pieces_warn]
    rfl
  simp only [Files.extension, last, Option.bind_eq_bind, Option.bind_some, splitOn_warn]
  rfl

/-- The text before the file leaves no trace, nor does the first prefix. -/
theorem file_after_text_decides :
    let calls : List LoadStep := [.text bodiesText "JSON", .overrides "a", .optionalFile "/g.Json", .overrides "app"]
    ∃ loading, calls.foldlM (step warnFiles) { environment := [] } = .ok loading ∧
      loading.unchecked = { logging := { level := "warn" } } ∧
      { loading with environment := [("APP__LOGGING__ANSI_ENABLED", "on")] }.finish =
        .ok { logging := { level := "warn", ansi := true } } := by
  intro calls
  have named : "JSON".map Char.toLower = DocumentFormat.json.name := by decide +kernel
  have early : Gives warnFiles (.text bodiesText "JSON") { gateway := { logBodies := true } } :=
    .text named rfl
  have late : Gives warnFiles (.optionalFile "/g.Json") { logging := { level := "warn" } } :=
    .optionalFile readable_warn rfl
  have upper : Text.upper "app" = "APP" := by decide
  have ran : calls.foldlM (step warnFiles) { environment := [] } =
      .ok { settings := { logging := { level := "warn" } }, start := some "APP", environment := [] } := by
    rw [← upper, List.foldlM_cons, step_of_gives early]
    show ((Loading.mk _ _ _).step warnFiles (.optionalFile "/g.Json") >>= _) = _
    rw [step_of_gives late]
    rfl
  obtain ⟨layered, -, finish, -⟩ := last_source_decides ran
  refine ⟨_, ran, ((layered.last (.optionalFile "/g.Json") rfl _).mp late).symm, (finish _ _).mpr ⟨?_, rfl⟩⟩
  show Environment.overrideAll _ (Text.upper "app") _ = _
  have ansi : Environment.setting? "APP" "APP__LOGGING__ANSI_ENABLED" = some .ansi := by decide +kernel
  have on : Setting.boolean "on" = .ok true := by decide +kernel
  rw [upper, Environment.overrideAll, Environment.sorted, List.mergeSort_singleton, List.foldlM_cons,
    Environment.override, ansi]
  simp only [Setting.apply, on]
  rfl

end Loading
end Relay
