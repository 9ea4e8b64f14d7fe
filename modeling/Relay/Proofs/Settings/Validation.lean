import Mathlib.Data.List.Nodup
import Relay.Settings.Validation

/-!
# Valid settings

Routes are checked one after another, each against the ids of those before it. So the settings are accepted just when
they are well formed, and otherwise the route at the least place with a fault is reported, with its first fault:
`accepts_well_formed`.
-/

namespace Relay

namespace Text

/-- A text with a character that is not white space. -/
def Visible (s : String) : Prop := ∃ c ∈ s.toList, isBlank c = false

theorem isBlankText_eq_false_iff {s : String} : isBlankText s = false ↔ Visible s := by
  simp [isBlankText, Visible]

theorem isBlankText_iff {s : String} : isBlankText s = true ↔ ¬ Visible s := by
  rw [← isBlankText_eq_false_iff, Bool.not_eq_false]

end Text

open Text (Visible)

/-! ### Faults of routes -/

def Route.StartsWithSlash (route : Route) : Prop := route.path.toList.head? = some '/'

/-- The order in which the faults of one route are looked for. -/
def RouteFault.rank : RouteFault → Nat
  | blankId => 0
  | duplicateId => 1
  | relativePath _ => 2

/-- A fault of the route at a place of a list, by itself or next to the routes before it. -/
inductive HasFault (routes : List Route) (place : Nat) : RouteFault → Prop
  | blankId {route : Route} (here : routes[place]? = some route) (blank : ¬ Visible route.id) :
      HasFault routes place .blankId
  | duplicateId {route other : Route} {earlier : Nat} (here : routes[place]? = some route) (before : earlier < place)
      (there : routes[earlier]? = some other) (same : other.id = route.id) : HasFault routes place .duplicateId
  | relativePath {route : Route} (here : routes[place]? = some route) (relative : ¬ route.StartsWithSlash) :
      HasFault routes place (.relativePath route.path)

/-- Of the faults of the route at a place, the one that is looked for first. -/
structure FirstFaultAt (routes : List Route) (place : Nat) (fault : RouteFault) : Prop where
  has : HasFault routes place fault
  first : ∀ other, HasFault routes place other → fault.rank ≤ other.rank

structure WellFormedRoutes (routes : List Route) : Prop where
  ids : ∀ route ∈ routes, Visible route.id
  distinct : (routes.map (·.id)).Nodup
  paths : ∀ route ∈ routes, route.StartsWithSlash

theorem HasFault.inside {routes : List Route} {place : Nat} {fault : RouteFault} (has : HasFault routes place fault) :
    ∃ route, routes[place]? = some route := by
  cases has <;> exact ⟨_, ‹_›⟩

theorem wellFormedRoutes_iff {routes : List Route} :
    WellFormedRoutes routes ↔ ∀ place fault, ¬ HasFault routes place fault := by
  constructor
  · rintro ⟨ids, distinct, paths⟩ place fault has
    cases has with
    | blankId here blank => exact blank (ids _ (List.mem_of_getElem? here))
    | @duplicateId route other earlier here before there same =>
      have ids' : (routes.map (·.id))[earlier]? = (routes.map (·.id))[place]? := by
        rw [List.getElem?_map, List.getElem?_map, here, there, Option.map_some, Option.map_some, same]
      have inside : place < (routes.map (·.id)).length := by
        rw [List.length_map]
        exact (List.getElem?_eq_some_iff.mp here).1
      exact List.nodup_iff_getElem?_ne_getElem?.mp distinct earlier place before inside ids'
    | relativePath here relative => exact relative (paths _ (List.mem_of_getElem? here))
  · intro faultless
    refine ⟨fun route listed => ?_, ?_, fun route listed => ?_⟩
    · obtain ⟨place, here⟩ := List.mem_iff_getElem?.mp listed
      by_contra blank
      exact faultless place _ (.blankId here blank)
    · refine List.nodup_iff_getElem?_ne_getElem?.mpr fun earlier place before inside same => ?_
      rw [List.length_map] at inside
      have here : routes[place]? = some routes[place] := List.getElem?_eq_getElem inside
      have there : routes[earlier]? = some routes[earlier] := List.getElem?_eq_getElem (Nat.lt_trans before inside)
      rw [List.getElem?_map, List.getElem?_map, here, there] at same
      exact faultless place _ (.duplicateId here before there (Option.some.inj same))
    · obtain ⟨place, here⟩ := List.mem_iff_getElem?.mp listed
      by_contra relative
      exact faultless place _ (.relativePath here relative)

/-! ### One route after another -/

section Steps

variable {seen : List String} {before rest : List Route} {route : Route}

/-- The id of the route behind some others is that of one of them. -/
theorem duplicate_iff (listed : ∀ id, id ∈ seen ↔ id ∈ before.map (·.id)) :
    HasFault (before ++ route :: rest) before.length .duplicateId ↔ route.id ∈ seen := by
  have last : (before ++ route :: rest)[before.length]? = some route := by simp
  rw [listed, List.mem_map]
  constructor
  · intro has
    cases has with
    | duplicateId here less there same =>
      cases last.symm.trans here
      rw [List.getElem?_append_left less] at there
      exact ⟨_, List.mem_of_getElem? there, same⟩
  · rintro ⟨other, present, same⟩
    obtain ⟨earlier, less, stands⟩ := List.getElem_of_mem present
    refine .duplicateId last less ?_ same
    rw [List.getElem?_append_left less, List.getElem?_eq_getElem less, stands]

/-- What the check of one route finds, when the ids of the routes before it have been seen. -/
theorem fault_of (listed : ∀ id, id ∈ seen ↔ id ∈ before.map (·.id)) :
    (∀ fault, RouteFault.of seen route = some fault →
      FirstFaultAt (before ++ route :: rest) before.length fault) ∧
    (RouteFault.of seen route = none → ∀ fault, ¬ HasFault (before ++ route :: rest) before.length fault) := by
  have last : (before ++ route :: rest)[before.length]? = some route := by simp
  have duplicate := @duplicate_iff _ _ rest route listed
  unfold RouteFault.of
  by_cases blank : Text.isBlankText route.id = true
  · rw [if_pos blank]
    have has := HasFault.blankId last (Text.isBlankText_iff.mp blank)
    refine ⟨?_, nofun⟩
    rintro fault ⟨⟩
    exact ⟨has, fun other _ => Nat.zero_le _⟩
  · have visible : Visible route.id := Text.isBlankText_eq_false_iff.mp (Bool.not_eq_true _ ▸ blank)
    rw [if_neg blank]
    by_cases again : route.id ∈ seen
    · rw [if_pos again]
      refine ⟨?_, nofun⟩
      rintro fault ⟨⟩
      refine ⟨duplicate.mpr again, fun other has => ?_⟩
      cases has with
      | blankId here blank =>
        cases last.symm.trans here
        exact absurd visible blank
      | duplicateId | relativePath => simp [RouteFault.rank]
    · rw [if_neg again]
      by_cases relative : route.path.toList.head? ≠ some '/'
      · rw [if_pos relative]
        refine ⟨?_, nofun⟩
        rintro fault ⟨⟩
        refine ⟨.relativePath last relative, fun other has => ?_⟩
        cases has with
        | blankId here blank =>
          cases last.symm.trans here
          exact absurd visible blank
        | duplicateId here less there same => exact absurd (duplicate.mp (.duplicateId here less there same)) again
        | relativePath => exact Nat.le_refl _
      · rw [if_neg relative]
        refine ⟨nofun, fun _ fault has => ?_⟩
        cases has with
        | blankId here blank =>
          cases last.symm.trans here
          exact blank visible
        | duplicateId here less there same => exact again (duplicate.mp (.duplicateId here less there same))
        | relativePath here relative' =>
          cases last.symm.trans here
          exact relative relative'

end Steps

namespace Settings

/-- What comes of the check of routes: no fault, or the first fault at the least place that has one. -/
inductive Verdict (routes : List Route) : Except SettingsError Unit → Prop
  | accepted (faultless : ∀ place fault, ¬ HasFault routes place fault) : Verdict routes (.ok ())
  | refused {place : Nat} {route : Route} {fault : RouteFault} (here : routes[place]? = some route)
      (first : FirstFaultAt routes place fault) (least : ∀ earlier < place, ∀ other, ¬ HasFault routes earlier other) :
      Verdict routes (.error (.route place route.id fault))

theorem checkRoutes_verdict {seen : List String} {before rest : List Route}
    (listed : ∀ id, id ∈ seen ↔ id ∈ before.map (·.id))
    (faultless : ∀ place < before.length, ∀ fault, ¬ HasFault (before ++ rest) place fault) :
    Verdict (before ++ rest) (checkRoutes seen before.length rest) := by
  induction rest generalizing seen before with
  | nil =>
    refine .accepted fun place fault has => ?_
    obtain ⟨route, here⟩ := has.inside
    have inside := (List.getElem?_eq_some_iff.mp here).1
    rw [List.append_nil] at inside
    exact faultless place inside fault has
  | cons route rest ih =>
    obtain ⟨faulty, sound⟩ := @fault_of _ _ rest route listed
    have last : (before ++ route :: rest)[before.length]? = some route := by simp
    rw [checkRoutes]
    cases found : RouteFault.of seen route with
    | some fault => exact .refused last (faulty fault found) faultless
    | none =>
      have same : before ++ route :: rest = (before ++ [route]) ++ rest := by simp
      have length : (before ++ [route]).length = before.length + 1 := by simp
      have listed' : ∀ id, id ∈ route.id :: seen ↔ id ∈ (before ++ [route]).map (·.id) := by
        intro id
        rw [List.mem_cons, listed, List.map_append, List.mem_append, List.map_singleton, List.mem_singleton, or_comm]
      rw [same, ← length]
      refine ih listed' fun place less fault has => ?_
      rw [← same] at has
      rcases Nat.lt_or_eq_of_le (Nat.le_of_lt_succ (length ▸ less)) with less | rfl
      · exact faultless place less fault has
      · exact sound found fault has

/-! ### All settings -/

/-- All that is checked of settings. -/
structure WellFormed (s : Settings) : Prop where
  limit : 0 < s.gateway.maxBodyBytes
  level : Visible s.logging.level
  routes : WellFormedRoutes s.routes

theorem validate_of_level {s : Settings} (limit : 0 < s.gateway.maxBodyBytes) (level : Visible s.logging.level) :
    s.validate = checkRoutes [] 0 s.routes := by
  have visible : ¬ Text.isBlankText s.logging.level = true := by
    rw [Text.isBlankText_eq_false_iff.mpr level]
    exact Bool.false_ne_true
  rw [validate, if_neg (Nat.ne_of_gt limit), if_neg visible]

theorem validate_verdict {s : Settings} (limit : 0 < s.gateway.maxBodyBytes) (level : Visible s.logging.level) :
    Verdict s.routes s.validate := by
  rw [validate_of_level limit level]
  exact @checkRoutes_verdict [] [] s.routes (by simp) nofun

theorem Verdict.ok_iff {routes : List Route} {outcome : Except SettingsError Unit} (verdict : Verdict routes outcome) :
    outcome = .ok () ↔ WellFormedRoutes routes := by
  rw [wellFormedRoutes_iff]
  cases verdict with
  | accepted faultless => exact ⟨fun _ => faultless, fun _ => rfl⟩
  | refused here first least => exact ⟨nofun, fun faultless => absurd first.has (faultless _ _)⟩

theorem Verdict.error_iff {routes : List Route} {outcome : Except SettingsError Unit}
    (verdict : Verdict routes outcome) (place : Nat) :
    (∃ id fault, outcome = .error (.route place id fault)) ↔
      (∃ fault, HasFault routes place fault) ∧ ∀ earlier < place, ∀ fault, ¬ HasFault routes earlier fault := by
  cases verdict with
  | accepted faultless => exact ⟨nofun, fun ⟨⟨fault, has⟩, _⟩ => absurd has (faultless place fault)⟩
  | @refused found route fault here first least =>
    constructor
    · rintro ⟨id, fault', ⟨⟩⟩
      exact ⟨⟨fault, first.has⟩, least⟩
    · rintro ⟨⟨other, has⟩, least'⟩
      rcases Nat.lt_trichotomy place found with less | rfl | greater
      · exact absurd has (least place less other)
      · exact ⟨route.id, fault, rfl⟩
      · exact absurd first.has (least' found greater fault)

theorem Verdict.reason {routes : List Route} {outcome : Except SettingsError Unit} (verdict : Verdict routes outcome)
    {error : SettingsError} (failed : outcome = .error error) :
    ∃ place route fault, error = .route place route.id fault ∧ routes[place]? = some route ∧
      FirstFaultAt routes place fault := by
  cases verdict with
  | accepted faultless => cases failed
  | refused here first least =>
    cases failed
    exact ⟨_, _, _, rfl, here, first⟩

theorem validate_of_no_limit {s : Settings} (none : s.gateway.maxBodyBytes = 0) :
    s.validate = .error .noBodyLimit := by
  rw [validate, if_pos none]

theorem validate_of_blank_level {s : Settings} (limit : 0 < s.gateway.maxBodyBytes)
    (blank : ¬ Visible s.logging.level) : s.validate = .error .blankLevel := by
  rw [validate, if_neg (Nat.ne_of_gt limit), if_pos (Text.isBlankText_iff.mpr blank)]

theorem validate_eq_ok_iff {s : Settings} : s.validate = .ok () ↔ s.WellFormed := by
  constructor
  · intro accepted
    have limit : 0 < s.gateway.maxBodyBytes := by
      by_contra none
      cases accepted.symm.trans (validate_of_no_limit (Nat.eq_zero_of_not_pos none))
    have level : Visible s.logging.level := by
      by_contra blank
      cases accepted.symm.trans (validate_of_blank_level limit blank)
    exact ⟨limit, level, (validate_verdict limit level).ok_iff.mp accepted⟩
  · rintro ⟨limit, level, routes⟩
    exact (validate_verdict limit level).ok_iff.mpr routes

/-- Settings are accepted just when they are well formed, and otherwise the first fault is reported. If the limit of
bodies and the log level are right, that is one of the route at the least place with a fault, which is named by its
place and its id, and of the faults of this route it is the one that is looked for first. -/
theorem accepts_well_formed (s : Settings) :
    (s.validate = .ok () ↔ s.WellFormed) ∧
    (s.gateway.maxBodyBytes = 0 → s.validate = .error .noBodyLimit) ∧
    (0 < s.gateway.maxBodyBytes → ¬ Visible s.logging.level → s.validate = .error .blankLevel) ∧
    (0 < s.gateway.maxBodyBytes → Visible s.logging.level →
      (∀ place, (∃ id fault, s.validate = .error (.route place id fault)) ↔
        (∃ fault, HasFault s.routes place fault) ∧
          ∀ earlier < place, ∀ fault, ¬ HasFault s.routes earlier fault) ∧
      ∀ error, s.validate = .error error → ∃ place route fault, error = .route place route.id fault ∧
        s.routes[place]? = some route ∧ FirstFaultAt s.routes place fault) := by
  refine ⟨validate_eq_ok_iff, validate_of_no_limit, validate_of_blank_level, fun limit level => ?_⟩
  have verdict := validate_verdict limit level
  exact ⟨verdict.error_iff, fun error failed => verdict.reason failed⟩

/-- The second route has the id of the first one and no slash, and the third one has a blank id. -/
theorem duplicate_id_is_reported :
    let again : Route := { id := "a", path := "x" }
    let nameless : Route := { id := "\u3000", path := "/" }
    let routes : List Route := [{ id := "a", path := "/x" }, again, nameless]
    let s : Settings := { routes }
    HasFault routes 1 (.relativePath "x") ∧ HasFault routes 2 .blankId ∧
      s.validate = .error (.route 1 "a" .duplicateId) := by
  intro again nameless routes s
  have visible : Visible "a" := ⟨'a', by decide, by decide⟩
  have relative : HasFault routes 1 (.relativePath "x") :=
    .relativePath (show routes[1]? = some again from rfl) (by unfold Route.StartsWithSlash; decide)
  have blank : HasFault routes 2 .blankId :=
    .blankId (show routes[2]? = some nameless from rfl) (Text.isBlankText_iff.mp (by decide))
  have duplicate : HasFault routes 1 .duplicateId :=
    .duplicateId (show routes[1]? = some again from rfl) Nat.zero_lt_one rfl rfl
  have before : ∀ earlier < 1, ∀ fault, ¬ HasFault routes earlier fault := by
    intro earlier less fault has
    obtain rfl : earlier = 0 := Nat.lt_one_iff.mp less
    cases has with
    | blankId here blank =>
      cases here
      exact blank visible
    | duplicateId _ before => exact absurd before (Nat.not_lt_zero _)
    | relativePath here relative =>
      cases here
      exact relative rfl
  obtain ⟨-, -, -, refuses⟩ := accepts_well_formed s
  obtain ⟨places, reasons⟩ := refuses (by decide) ⟨'i', by decide, by decide⟩
  obtain ⟨id, fault, failed⟩ := (places 1).mpr ⟨⟨_, duplicate⟩, before⟩
  obtain ⟨place, route, fault', same, here, first⟩ := reasons _ failed
  cases same
  cases here
  refine ⟨relative, blank, failed.trans ?_⟩
  cases first.has with
  | blankId here blank =>
    cases here
    exact absurd visible blank
  | duplicateId => rfl
  | relativePath here =>
    -- The slash is looked for after the id.
    exact absurd (first.first _ duplicate) (by simp [RouteFault.rank])

end Settings
end Relay
