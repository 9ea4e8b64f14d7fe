import Relay.Proofs.Settings.Layers
import Relay.Proofs.Settings.Variables

/-!
# Settings overridden from the environment

The variables are taken in the order of their names, each of which puts its value in one place, is refused, or does
nothing (`effect`). So what comes of all of them can be said setting by setting, and their order is of no consequence
but for the one that is reported: `overrides_act_setting_by_setting`.
-/

namespace Relay

namespace Environment

/-! ### Environments -/

/-- No two variables have one name. -/
def Distinct (environment : Environment) : Prop := (environment.map (·.1)).Nodup

section Values

variable {environment environment' : Environment} {entry : String × String} {rest : Environment} {name value : String}

theorem value?_cons : value? (entry :: rest) name = if entry.1 = name then some entry.2 else value? rest name := by
  rw [value?, List.lookup_cons, value?]
  by_cases same : entry.1 = name
  · simp [same]
  · have other : (name == entry.1) = false := beq_eq_false_iff_ne.mpr (Ne.symm same)
    rw [other, if_neg same]

theorem mem_of_value? (found : environment.value? name = some value) : (name, value) ∈ environment := by
  obtain ⟨front, back, same, -⟩ := List.lookup_eq_some_iff.mp found
  rw [same]
  exact List.mem_append_right _ List.mem_cons_self

theorem value?_eq_some_iff (distinct : environment.Distinct) :
    environment.value? name = some value ↔ (name, value) ∈ environment := by
  refine ⟨mem_of_value?, fun present => ?_⟩
  induction environment with
  | nil => cases present
  | cons entry rest ih =>
    obtain ⟨fresh, distinct⟩ := List.nodup_cons.mp distinct
    rw [value?_cons]
    rcases List.mem_cons.mp present with rfl | later
    · exact if_pos rfl
    · have listed : name ∈ rest.map (·.1) := List.mem_map_of_mem later
      have other : entry.1 ≠ name := by
        rintro rfl
        exact fresh listed
      rw [if_neg other, ih distinct later]

/-- Variables that have distinct names have the same values in any order. -/
theorem value?_of_perm (same : environment.Perm environment') (distinct : environment.Distinct) (name : String) :
    environment.value? name = environment'.value? name := by
  have distinct' : environment'.Distinct := (same.map _).nodup_iff.mp distinct
  refine Option.ext fun value => ?_
  rw [value?_eq_some_iff distinct, value?_eq_some_iff distinct', same.mem_iff]

theorem sorted_perm (environment : Environment) : environment.sorted.Perm environment :=
  List.mergeSort_perm ..

theorem distinct_sorted (distinct : environment.Distinct) : environment.sorted.Distinct :=
  ((sorted_perm environment).map _).nodup_iff.mpr distinct

theorem pairwise_sorted (distinct : environment.Distinct) :
    environment.sorted.Pairwise fun entry later => entry.1 < later.1 := by
  have ascending : environment.sorted.Pairwise fun entry later => decide (entry.1 ≤ later.1) = true := by
    refine List.pairwise_mergeSort (fun a b c first second => ?_) (fun a b => ?_) environment
    · exact decide_eq_true (le_trans (of_decide_eq_true first) (of_decide_eq_true second))
    · simpa using le_total a.1 b.1
  refine (ascending.and (List.pairwise_map.mp (distinct_sorted distinct))).imp ?_
  rintro a b ⟨before, other⟩
  exact lt_of_le_of_ne (of_decide_eq_true before) other

end Values

/-! ### One variable after another -/

/-- The variable of the setting has a value that the setting cannot take. -/
def Refuses (environment : Environment) (start : String) (setting : Setting) (wanted : WantedValue) : Prop :=
  ∃ value, environment.value? (setting.variableName start) = some value ∧ setting.read value = .error wanted

/-- Settings whose variable is there have its value, and all else is as before. -/
structure Overridden (environment : Environment) (start : String) (before after : Settings) : Prop where
  set : ∀ (setting : Setting) (value : String), environment.value? (setting.variableName start) = some value →
    setting.read value = .ok (setting.get after)
  unset : ∀ setting : Setting, environment.value? (setting.variableName start) = none →
    setting.get after = setting.get before
  routes : after.routes = before.routes

/-- What one variable can do. -/
inductive Effect (start : String) (entry : String × String) : Prop
  | refused (setting : Setting) (wanted : WantedValue) (named : entry.1 = setting.variableName start)
    (read : setting.read entry.2 = .error wanted)
    (fails : ∀ s, override start s entry = .error (.override (setting.variableName start) wanted))
  | put (setting : Setting) (x : SettingValue) (named : entry.1 = setting.variableName start)
    (read : setting.read entry.2 = .ok x) (puts : ∀ s, ∃ t, override start s entry = .ok t ∧ setting.Puts x s t)
  | foreign (unnamed : ∀ setting : Setting, entry.1 ≠ setting.variableName start)
    (passes : ∀ s, override start s entry = .ok s)

theorem effect (start : String) (entry : String × String) : Effect start entry := by
  cases found : setting? start entry.1 with
  | none =>
    refine .foreign (fun setting same => ?_) fun s => ?_
    · rw [setting?_eq_some_iff.mpr same] at found
      cases found
    · rw [override, found]
  | some setting =>
    have named : entry.1 = setting.variableName start := setting?_eq_some_iff.mp found
    cases read : setting.read entry.2 with
    | error wanted =>
      refine .refused setting wanted named read fun s => ?_
      rw [override, found]
      simp only [Setting.apply_of_read_error read s, named]
      rfl
    | ok x =>
      refine .put setting x named read fun s => ?_
      obtain ⟨t, applied, puts⟩ := Setting.apply_of_read_ok read s
      refine ⟨t, ?_, puts⟩
      rw [override, found]
      simp only [applied]
      rfl

/-- Of the settings whose variable is refused, the one whose variable has the least name. -/
structure FirstRefused (environment : Environment) (start : String) (setting : Setting) (wanted : WantedValue) :
    Prop where
  refuses : Refuses environment start setting wanted
  least : ∀ other wanted', Refuses environment start other wanted' → other ≠ setting →
    setting.variableName start < other.variableName start

section Runs

variable {entry : String × String} {rest entries environment : Environment} {start : String} {setting : Setting}
  {wanted : WantedValue} {x : SettingValue} {s t u : Settings}

theorem value?_cons_of_ne (other : entry.1 ≠ setting.variableName start) :
    value? (entry :: rest) (setting.variableName start) = value? rest (setting.variableName start) := by
  rw [value?_cons, if_neg other]

/-- The name of the first variable does not come again. -/
theorem value?_rest_of_distinct (distinct : Distinct (entry :: rest)) : value? rest entry.1 = none := by
  refine Option.eq_none_iff_forall_ne_some.mpr fun value found => ?_
  have listed : entry.1 ∈ rest.map (·.1) := List.mem_map.mpr ⟨_, mem_of_value? found, rfl⟩
  exact (List.nodup_cons.mp distinct).1 listed

theorem Refuses.of_rest (distinct : Distinct (entry :: rest)) (refuses : Refuses rest start setting wanted) :
    Refuses (entry :: rest) start setting wanted := by
  obtain ⟨value, found, read⟩ := refuses
  have other : entry.1 ≠ setting.variableName start := by
    intro same
    rw [← same, value?_rest_of_distinct distinct] at found
    cases found
  exact ⟨value, (value?_cons_of_ne other).trans found, read⟩

/-- A value that is refused is that of the first variable or of a later one. -/
theorem Refuses.first_or_rest (refuses : Refuses (entry :: rest) start setting wanted) :
    entry.1 = setting.variableName start ∧ setting.read entry.2 = .error wanted ∨ Refuses rest start setting wanted := by
  obtain ⟨value, found, read⟩ := refuses
  rw [value?_cons] at found
  split at found
  · rename_i same
    cases found
    exact .inl ⟨same, read⟩
  · exact .inr ⟨value, found, read⟩

/-- A variable that puts its value in one place joins what the later ones do. -/
theorem Overridden.cons (distinct : Distinct (entry :: rest)) (named : entry.1 = setting.variableName start)
    (read : setting.read entry.2 = .ok x) (puts : setting.Puts x s t) (later : Overridden rest start t u) :
    Overridden (entry :: rest) start s u := by
  have unset : value? rest (setting.variableName start) = none := named ▸ value?_rest_of_distinct distinct
  have other : ∀ setting', setting' ≠ setting → entry.1 ≠ setting'.variableName start := by
    intro setting' different same
    exact different (variableName_injective (same.symm.trans named))
  constructor
  · intro setting' value found
    by_cases same : setting' = setting
    · subst same
      rw [value?_cons, if_pos named] at found
      cases found
      rw [later.unset setting' unset, puts.value]
      exact read
    · rw [value?_cons_of_ne (other setting' same)] at found
      exact later.set setting' value found
  · intro setting' absent
    by_cases same : setting' = setting
    · subst same
      rw [value?_cons, if_pos named] at absent
      cases absent
    · rw [value?_cons_of_ne (other setting' same)] at absent
      rw [later.unset setting' absent, puts.others setting' same]
  · exact later.routes.trans puts.routes

theorem Overridden.skip (foreign : ∀ setting : Setting, entry.1 ≠ setting.variableName start)
    (later : Overridden rest start s t) : Overridden (entry :: rest) start s t := by
  constructor
  · intro setting value found
    rw [value?_cons_of_ne (foreign setting)] at found
    exact later.set setting value found
  · intro setting absent
    rw [value?_cons_of_ne (foreign setting)] at absent
    exact later.unset setting absent
  · exact later.routes

theorem overridden_foldlM (distinct : Distinct entries)
    (accepted : ∀ setting wanted, ¬ Refuses entries start setting wanted) (s : Settings) :
    ∃ t, entries.foldlM (override start) s = .ok t ∧ Overridden entries start s t := by
  induction entries generalizing s with
  | nil => exact ⟨s, rfl, nofun, fun _ _ => rfl, rfl⟩
  | cons entry rest ih =>
    have onward := ih (List.nodup_cons.mp distinct).2 fun setting wanted refuses =>
      accepted setting wanted (refuses.of_rest distinct)
    rw [List.foldlM_cons]
    cases effect start entry with
    | refused setting wanted named read fails =>
      refine absurd ⟨entry.2, ?_, read⟩ (accepted setting wanted)
      rw [value?_cons, if_pos named]
    | put setting x named read puts =>
      obtain ⟨t, taken, puts⟩ := puts s
      obtain ⟨u, run, later⟩ := onward t
      rw [taken]
      exact ⟨u, run, later.cons distinct named read puts⟩
    | foreign unnamed passes =>
      obtain ⟨t, run, later⟩ := onward s
      rw [passes]
      exact ⟨t, run, later.skip unnamed⟩

theorem FirstRefused.of_rest (distinct : Distinct (entry :: rest))
    (later : ∀ other wanted', Refuses (entry :: rest) start other wanted' → Refuses rest start other wanted')
    (first : FirstRefused rest start setting wanted) : FirstRefused (entry :: rest) start setting wanted :=
  ⟨first.refuses.of_rest distinct, fun other wanted' refuses => first.least other wanted' (later other wanted' refuses)⟩

/-- With the variables in order, the first that is refused ends the run. -/
theorem refused_foldlM (distinct : Distinct entries) (ordered : entries.Pairwise fun entry later => entry.1 < later.1)
    (refuses : Refuses entries start setting wanted) (s : Settings) :
    ∃ first wanted', FirstRefused entries start first wanted' ∧
      entries.foldlM (override start) s = .error (.override (first.variableName start) wanted') := by
  induction entries generalizing s with
  | nil =>
    obtain ⟨value, found, -⟩ := refuses
    cases found
  | cons entry rest ih =>
    obtain ⟨before, ordered'⟩ := List.pairwise_cons.mp ordered
    have onward := ih (List.nodup_cons.mp distinct).2 ordered'
    rw [List.foldlM_cons]
    cases effect start entry with
    | refused first wanted' named read fails =>
      refine ⟨first, wanted', ⟨⟨entry.2, ?_, read⟩, fun other wanted'' refuses different => ?_⟩, ?_⟩
      · rw [value?_cons, if_pos named]
      · rcases refuses.first_or_rest with ⟨same, -⟩ | ⟨value, found, -⟩
        · exact absurd (variableName_injective (same.symm.trans named)) different
        · exact named ▸ before _ (mem_of_value? found)
      · rw [fails]
        rfl
    | put set x named read puts =>
      have later : ∀ other wanted', Refuses (entry :: rest) start other wanted' → Refuses rest start other wanted' := by
        intro other wanted' refuses
        refine refuses.first_or_rest.resolve_left fun ⟨same, failed⟩ => ?_
        rw [variableName_injective (same.symm.trans named), read] at failed
        cases failed
      obtain ⟨t, taken, -⟩ := puts s
      obtain ⟨first, wanted', refused, run⟩ := onward (later _ _ refuses) t
      rw [taken]
      exact ⟨first, wanted', refused.of_rest distinct later, run⟩
    | foreign unnamed passes =>
      have later : ∀ other wanted', Refuses (entry :: rest) start other wanted' → Refuses rest start other wanted' :=
        fun other wanted' refuses => refuses.first_or_rest.resolve_left fun ⟨same, _⟩ => unnamed other same
      obtain ⟨first, wanted', refused, run⟩ := onward (later _ _ refuses) s
      rw [passes]
      exact ⟨first, wanted', refused.of_rest distinct later, run⟩

end Runs

/-! ### All variables -/

section Outcomes

variable {environment environment' : Environment} {start : String} {s t t' : Settings}

/-- The environments have the same values for the variables of settings. -/
def Agree (environment environment' : Environment) (start : String) : Prop :=
  ∀ setting : Setting,
    environment.value? (setting.variableName start) = environment'.value? (setting.variableName start)

theorem Agree.of_perm (same : environment.Perm environment') (distinct : environment.Distinct) :
    Agree environment environment' start := fun _ => value?_of_perm same distinct _

theorem Agree.refuses_iff (agree : Agree environment environment' start) {setting : Setting} {wanted : WantedValue} :
    Refuses environment start setting wanted ↔ Refuses environment' start setting wanted := by
  rw [Refuses, Refuses, agree]

theorem Agree.firstRefused (agree : Agree environment environment' start) {setting : Setting} {wanted : WantedValue}
    (first : FirstRefused environment start setting wanted) : FirstRefused environment' start setting wanted :=
  ⟨agree.refuses_iff.mp first.refuses, fun other wanted' refuses =>
    first.least other wanted' (agree.refuses_iff.mpr refuses)⟩

theorem Agree.overridden (agree : Agree environment environment' start)
    (overridden : Overridden environment start s t) : Overridden environment' start s t := by
  constructor
  · intro setting value found
    exact overridden.set setting value ((agree setting).trans found)
  · intro setting absent
    exact overridden.unset setting ((agree setting).trans absent)
  · exact overridden.routes

/-- What is said of the settings after the overrides determines them. -/
theorem Overridden.unique (overridden : Overridden environment start s t)
    (overridden' : Overridden environment start s t') : t = t' := by
  refine Settings.ext_get (fun setting => ?_) (overridden.routes.trans overridden'.routes.symm)
  cases found : environment.value? (setting.variableName start) with
  | none => rw [overridden.unset setting found, overridden'.unset setting found]
  | some value =>
    have read := overridden.set setting value found
    rw [overridden'.set setting value found] at read
    exact (Except.ok.inj read).symm

theorem FirstRefused.unique {setting setting' : Setting} {wanted wanted' : WantedValue}
    (first : FirstRefused environment start setting wanted) (first' : FirstRefused environment start setting' wanted') :
    setting = setting' ∧ wanted = wanted' := by
  have same : setting = setting' := by
    by_contra different
    have before := first.least setting' wanted' first'.refuses (Ne.symm different)
    exact String.lt_asymm before (first'.least setting wanted first.refuses different)
  subst same
  obtain ⟨value, found, read⟩ := first.refuses
  obtain ⟨value', found', read'⟩ := first'.refuses
  cases found.symm.trans found'
  exact ⟨rfl, Except.error.inj (read.symm.trans read')⟩

theorem agree_sorted (distinct : environment.Distinct) : Agree environment.sorted environment start :=
  .of_perm (sorted_perm environment) (distinct_sorted distinct)

theorem overrideAll_of_accepted (distinct : environment.Distinct)
    (accepted : ∀ setting wanted, ¬ Refuses environment start setting wanted) (s : Settings) :
    ∃ t, environment.overrideAll start s = .ok t ∧ Overridden environment start s t := by
  have agree : Agree environment.sorted environment start := agree_sorted distinct
  obtain ⟨t, run, overridden⟩ := overridden_foldlM (distinct_sorted distinct)
    (fun setting wanted refuses => accepted setting wanted (agree.refuses_iff.mp refuses)) s
  exact ⟨t, run, agree.overridden overridden⟩

theorem overrideAll_of_refused (distinct : environment.Distinct) {setting : Setting} {wanted : WantedValue}
    (refuses : Refuses environment start setting wanted) (s : Settings) :
    ∃ first wanted', FirstRefused environment start first wanted' ∧
      environment.overrideAll start s = .error (.override (first.variableName start) wanted') := by
  have agree : Agree environment.sorted environment start := agree_sorted distinct
  obtain ⟨first, wanted', refused, run⟩ :=
    refused_foldlM (distinct_sorted distinct) (pairwise_sorted distinct) (agree.refuses_iff.mpr refuses) s
  exact ⟨first, wanted', agree.firstRefused refused, run⟩

/-- Only the values of the variables of settings make a difference. -/
theorem overrideAll_congr (agree : Agree environment environment' start) (distinct : environment.Distinct)
    (distinct' : environment'.Distinct) (s : Settings) :
    environment.overrideAll start s = environment'.overrideAll start s := by
  by_cases refused : ∃ setting wanted, Refuses environment start setting wanted
  · obtain ⟨setting, wanted, refuses⟩ := refused
    obtain ⟨first, wanted, refused, run⟩ := overrideAll_of_refused distinct refuses s
    obtain ⟨first', wanted', refused', run'⟩ := overrideAll_of_refused distinct' (agree.refuses_iff.mp refuses) s
    obtain ⟨rfl, rfl⟩ := (agree.firstRefused refused).unique refused'
    rw [run, run']
  · simp only [not_exists] at refused
    obtain ⟨t, run, overridden⟩ := overrideAll_of_accepted distinct refused s
    obtain ⟨t', run', overridden'⟩ := overrideAll_of_accepted distinct'
      (fun setting wanted refuses => refused setting wanted (agree.refuses_iff.mpr refuses)) s
    rw [run, run', (agree.overridden overridden).unique overridden']

end Outcomes

end Environment

/-! ### Loading -/

namespace Loading
open Environment

theorem finish_of_overrideAll (loading : Loading) {start : String} (given : loading.start = some start) :
    loading.finish = loading.environment.overrideAll start loading.settings >>= fun s =>
      s.validate >>= fun _ => .ok s := by
  rw [finish, overridden, given]
  rfl

/-- A name stands for a setting just when it is the prefix in capitals, the section and the key, with two underscores
between them. Unless a variable has a value that its setting cannot take, each setting whose variable is there is set
to its value and all else is as before, and that is validated; otherwise loading fails with the variable of the least
name among those that are refused. The values of other variables make no difference, nor does the order in which
variables are listed. -/
theorem overrides_act_setting_by_setting {files : Files} {front back : List LoadStep} {given : String}
    {first loading : Loading} (others : ∀ call ∈ back, ∀ other, call ≠ .overrides other)
    (ran : (front ++ .overrides given :: back).foldlM (step files) first = .ok loading)
    (distinct : loading.environment.Distinct) :
    let start := Text.upper given
    (∀ name (setting : Setting), setting? start name = some setting ↔ name = setting.variableName start) ∧
      ((∀ setting wanted, ¬ Refuses loading.environment start setting wanted) →
        ∃ after, (∀ other, Overridden loading.environment start loading.settings other ↔ other = after) ∧
          loading.finish = (after.validate >>= fun _ => .ok after)) ∧
      (∀ setting wanted, Refuses loading.environment start setting wanted →
        ∃ least wanted', Refuses loading.environment start least wanted' ∧
          (∀ other wanted'', Refuses loading.environment start other wanted'' → other ≠ least →
            bytes (least.variableName start) < bytes (other.variableName start)) ∧
          loading.finish = .error (.override (least.variableName start) wanted')) ∧
      (∀ environment : Environment, environment.Distinct → Agree environment loading.environment start →
        { loading with environment }.finish = loading.finish) ∧
      ∀ environment : Environment, environment.Perm loading.environment →
        { loading with environment }.finish = loading.finish := by
  intro start
  have counts : loading.start = some start := by
    rw [(layered_foldlM ran).start, starts_of_last others]
    rfl
  have congr : ∀ environment : Environment, environment.Distinct → Agree environment loading.environment start →
      { loading with environment }.finish = loading.finish := by
    intro environment distinct' agree
    rw [finish_of_overrideAll loading counts, finish_of_overrideAll { loading with environment } counts]
    exact congrArg (· >>= _) (overrideAll_congr agree distinct' distinct loading.settings)
  refine ⟨fun name setting => setting?_eq_some_iff, fun accepted => ?_, fun setting wanted refuses => ?_, congr, ?_⟩
  · obtain ⟨after, run, overridden⟩ := overrideAll_of_accepted distinct accepted loading.settings
    refine ⟨after, fun other => ⟨fun overridden' => overridden'.unique overridden, fun same => same ▸ overridden⟩, ?_⟩
    rw [finish_of_overrideAll loading counts, run]
    rfl
  · obtain ⟨least, wanted', refused, run⟩ := overrideAll_of_refused distinct refuses loading.settings
    refine ⟨least, wanted', refused.refuses, fun other wanted'' refuses different => ?_, ?_⟩
    · exact bytes_variableName_lt (refused.least other wanted'' refuses different)
    · rw [finish_of_overrideAll loading counts, run]
      rfl
  · intro environment same
    have distinct' : environment.Distinct := (same.map _).nodup_iff.mpr distinct
    exact congr environment distinct' (.of_perm same distinct')

/-- One underscore too many, or a name that only starts like the prefix, and a variable changes nothing. -/
theorem near_names_change_nothing :
    let environment : Environment := [("APP__LOGGING__LEVEL", "debug"), ("APP__GATEWAY___LOG_BODIES", "on"),
      ("APP_HOME", "/opt"), ("APP__GATEWAY__MAX_BODY_BYTES", "4096")]
    ∃ loading : Loading, Loading.step .empty { environment } (.overrides "app") = .ok loading ∧
      loading.finish = .ok { gateway := { maxBodyBytes := 4096 }, logging := { level := "debug" } } := by
  intro environment
  let loading : Loading := { environment, start := some "APP" }
  let after : Settings := { gateway := { maxBodyBytes := 4096 }, logging := { level := "debug" } }
  have upper : Text.upper "app" = "APP" := by decide
  have stepped : Loading.step .empty { environment } (.overrides "app") = .ok loading := by
    simp only [Loading.step, upper, loading]
  have ran : ([] ++ LoadStep.overrides "app" :: []).foldlM (Loading.step .empty) { environment } = .ok loading := by
    rw [List.nil_append, List.foldlM_cons, stepped]
    rfl
  have distinct : environment.Distinct := by
    show (environment.map (·.1)).Nodup
    decide
  have values : ∀ setting : Setting, environment.value? (setting.variableName "APP") =
      [(Setting.level, "debug"), (.maxBodyBytes, "4096")].lookup setting := by
    intro setting
    cases setting <;> decide
  obtain ⟨-, accepted, -⟩ := overrides_act_setting_by_setting (List.forall_mem_nil _) ran distinct
  rw [upper] at accepted
  obtain ⟨set, only, finished⟩ := accepted <| by
    rintro setting wanted ⟨value, found, read⟩
    rw [values] at found
    cases setting <;> cases found
    · cases read
    · cases read
  have overridden : Overridden environment "APP" {} after := by
    refine ⟨fun setting value found => ?_, fun setting absent => ?_, rfl⟩
    · rw [values] at found
      cases setting <;> cases found <;> rfl
    · rw [values] at absent
      cases setting <;> first | rfl | cases absent
  have valid : after.validate = .ok () := by cbv
  refine ⟨loading, stepped, ?_⟩
  rw [finished, ← (only after).mp overridden, valid]
  rfl

end Loading
end Relay
