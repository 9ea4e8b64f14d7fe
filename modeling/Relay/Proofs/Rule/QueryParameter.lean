import Mathlib.Data.List.Nodup
import Mathlib.Data.List.TakeWhile
import Relay.Proofs.Http.QueryRoundTrip
import Relay.Proofs.Rule.Step

/-!
# Setting a query parameter

A rule that sets a query parameter takes a target apart, changes one parameter of its query and writes the target
anew. What is read of the new target is the old query with that one parameter bound (`binds_one_parameter`), so such
rules obey the laws of assignments: the same one again changes nothing, of two for one name the later one counts, and
two for different names do not get in each other's way.
-/

namespace Relay.Http

/-! ### Parameters -/

namespace Query

/-- Parameters after a name has been bound to a value: in its place if it was there, else at the end. All others stay
as they were. -/
inductive Binds (name value : String) : List (String × String) → List (String × String) → Prop
  | inPlace {front back : List (String × String)} (old : String)
      (before : name ∉ front.map (·.1)) (behind : name ∉ back.map (·.1)) :
      Binds name value (front ++ (name, old) :: back) (front ++ (name, value) :: back)
  | atEnd {params : List (String × String)} (new : name ∉ params.map (·.1)) :
      Binds name value params (params ++ [(name, value)])

theorem map_replaced_of_not_mem {name : String} {params : List (String × String)}
    (absent : name ∉ params.map (·.1)) (value : String) :
    (params.map fun param => if param.1 == name then (param.1, value) else param) = params := by
  conv => rhs; rw [← List.map_id params]
  refine List.map_congr_left fun param present => if_neg fun same => absent ?_
  exact List.mem_map.mpr ⟨param, present, beq_iff_eq.mp same⟩

theorem binds_set {query : Query} (formed : query.WellFormed) (name value : String) :
    Binds name value query.params (query.set name value).params := by
  by_cases there : name ∈ query.params.map (·.1)
  · obtain ⟨⟨_, old⟩, present, rfl⟩ := List.mem_map.mp there
    obtain ⟨front, back, split⟩ := List.append_of_mem present
    rw [WellFormed, split, List.map_append, List.map_cons, List.nodup_middle, List.nodup_cons, List.mem_append,
      not_or] at formed
    obtain ⟨⟨before, behind⟩, -⟩ := formed
    rw [set, upsert, if_pos (contains_iff.mpr there), split]
    simp only [List.map_append, List.map_cons, beq_self_eq_true, if_true, map_replaced_of_not_mem before,
      map_replaced_of_not_mem behind]
    exact .inPlace old before behind
  · rw [set, upsert_of_new there]
    exact .atEnd there

theorem lookup_eq_none {name : String} {params : List (String × String)} (absent : name ∉ params.map (·.1)) :
    params.lookup name = none := by
  rw [List.lookup_eq_none_iff]
  intro param present
  exact bne_iff_ne.mpr fun same => absent (List.mem_map.mpr ⟨param, present, same.symm⟩)

theorem Binds.lookup {name value : String} {before after : List (String × String)}
    (binds : Binds name value before after) (asked : String) :
    after.lookup asked = if asked = name then some value else before.lookup asked := by
  by_cases same : asked = name
  · subst same
    rw [if_pos rfl]
    cases binds with
    | inPlace old absent => simp [List.lookup_append, lookup_eq_none absent]
    | atEnd absent => simp [List.lookup_append, lookup_eq_none absent]
  · have passed : (asked == name) = false := beq_eq_false_iff_ne.mpr same
    rw [if_neg same]
    cases binds with
    | inPlace => simp [List.lookup_append, List.lookup_cons, passed]
    | atEnd => simp [List.lookup_append, List.lookup_cons, passed]

/-- Of two values for one name the later one counts, and it stands where the earlier one would. -/
theorem set_set (query : Query) (name earlier later : String) :
    (query.set name earlier).set name later = query.set name later := by
  by_cases there : name ∈ query.params.map (·.1)
  · have names : ((query.params.map fun param =>
        if param.1 == name then (param.1, earlier) else param).map (·.1)) = query.params.map (·.1) := by
      rw [List.map_map]
      refine List.map_congr_left fun param _ => ?_
      simp only [Function.comp_apply]
      split <;> rfl
    simp only [set, upsert, contains_iff, there, if_true, names, List.map_map]
    refine congrArg Query.mk (List.map_congr_left fun param _ => ?_)
    by_cases same : param.1 = name <;> simp [same]
  · have again : name ∈ (query.params ++ [(name, earlier)]).map (·.1) := by simp
    simp only [set, upsert_of_new there]
    rw [upsert, if_pos (contains_iff.mpr again)]
    simp only [List.map_append, map_replaced_of_not_mem there, List.map_cons, beq_self_eq_true, if_true, List.map_nil]

theorem hash_not_mem_render (query : Query) : '#' ∉ query.render.toList := by
  rw [render, String.toList_ofList]
  intro present
  rcases mem_chars present with encoded | mark
  · exact absurd encoded (by decide)
  · exact absurd mark (by decide)

end Query

/-! ### Targets -/

namespace Uri

theorem readTarget_query {path query : List Char} {target : Target} (clean : ∀ c ∈ path, endsPath c = false)
    (whole : '#' ∉ query) (read : readTarget (path ++ '?' :: query) = .ok target) :
    target.query = some (String.ofList query) := by
  have ends : (path ++ '?' :: query).dropWhile (!endsPath ·) = '?' :: query := by
    rw [List.dropWhile_append_of_pos fun c present => by simp [clean c present]]
    rfl
  have all : query.takeWhile (· != '#') = query :=
    List.takeWhile_eq_self_iff.mpr fun c present => bne_iff_ne.mpr fun same => whole (same ▸ present)
  unfold readTarget at read
  simp only [ends, all, bind, Except.bind, throw, throwThe, MonadExceptOf.throw, pure, Except.pure] at read
  repeat' split at read
  all_goals first
    | cases read; done
    | (obtain rfl := Except.ok.inj read; rfl)

theorem query_withQuery {uri new : Uri} {query : String} (whole : '#' ∉ query.toList)
    (built : uri.withQuery query = .ok new) : new.query = some query := by
  obtain ⟨target, read, -, rfl⟩ := withQuery_eq_ok built
  have clean : ∀ c ∈ uri.path.toList, endsPath c = false := fun c present =>
    endsPath_of_isPathChar (List.all_eq_true.mp uri.path_all c present)
  have kept := readTarget_query clean whole read
  rwa [String.ofList_toList] at kept

/-- The query that a target had has no part in giving it another one. -/
theorem withQuery_congr {uri uri' : Uri} (scheme : uri'.scheme = uri.scheme)
    (authority : uri'.authority = uri.authority) (path : uri'.path = uri.path) (query : String) :
    uri'.withQuery query = uri.withQuery query := by
  rw [withQuery, withQuery, scheme, authority, path]

/-- The parameters that are read of a target. -/
def parameters (uri : Uri) : Query := Query.parse (uri.query.getD "")

end Uri
end Relay.Http

namespace Relay.Rule
open Http

/-! ### Rules -/

/-- A rule that sets a parameter takes one request to another without an error. -/
def Sets (name value : String) (before after : RequestDraft) : Prop :=
  ∃ outcome, (modifyQueryParam (some name) (some value)).onRequest.on before = (.ok outcome, after)

theorem sets_iff {name value : String} {before after : RequestDraft} :
    Sets name value before after ↔
      before.uri.withQuery (before.uri.parameters.set name value).render = .ok after.uri ∧
        after.headers = before.headers ∧ after.body = before.body := by
  have ran : (modifyQueryParam (some name) (some value)).onRequest.on before =
      ((modifyQueryParam (some name) (some value)).setQueryParam name value).on before := rfl
  rw [Sets, ran, on_setQueryParam, ← Uri.parameters]
  obtain ⟨uri, headers, body⟩ := after
  cases built : before.uri.withQuery (before.uri.parameters.set name value).render with
  | error error => simp
  | ok new =>
    simp [eq_comm]

theorem Sets.keeps {name value : String} {before after : RequestDraft} (sets : Sets name value before after) :
    after.uri.scheme = before.uri.scheme ∧ after.uri.authority = before.uri.authority ∧
      after.uri.path = before.uri.path ∧ after.headers = before.headers ∧ after.body = before.body := by
  obtain ⟨built, headers, body⟩ := sets_iff.mp sets
  obtain ⟨scheme, authority, path⟩ := Uri.withQuery_keeps built
  exact ⟨scheme, authority, path, headers, body⟩

theorem Sets.parameters {name value : String} {before after : RequestDraft}
    (sets : Sets name value before after) : after.uri.parameters = before.uri.parameters.set name value := by
  obtain ⟨built, -⟩ := sets_iff.mp sets
  have formed : (before.uri.parameters.set name value).WellFormed :=
    Query.wellFormed_upsert (Query.wellFormed_parse _) ..
  rw [Uri.parameters, Uri.query_withQuery (Query.hash_not_mem_render _) built, Option.getD_some,
    Query.parse_render _ formed]

/-- After a rule for the same name a rule does what it does without that one. -/
theorem Sets.overwritten {name earlier : String} {before after : RequestDraft}
    (sets : Sets name earlier before after) (later : String) (last : RequestDraft) :
    Sets name later after last ↔ Sets name later before last := by
  obtain ⟨scheme, authority, path, headers, body⟩ := sets.keeps
  rw [sets_iff, sets_iff, sets.parameters, Query.set_set, Uri.withQuery_congr scheme authority path, headers, body]

theorem Sets.get? {name value : String} {before after : RequestDraft} (sets : Sets name value before after)
    (asked : String) :
    after.uri.parameters.get? asked = if asked = name then some value else before.uri.parameters.get? asked := by
  rw [sets.parameters]
  exact (Query.binds_set (Query.wellFormed_parse _) name value).lookup asked

/-- A rule that sets a parameter leaves a request that reads as before, but for that parameter, which is bound in
its place or at the end. The same rule again changes nothing, of two rules for one name the later one counts, and
two rules for different names may run in either order. -/
theorem binds_one_parameter {name value : String} {before after : RequestDraft}
    (sets : Sets name value before after) :
    Query.Binds name value before.uri.parameters.params after.uri.parameters.params ∧
      after.uri.scheme = before.uri.scheme ∧ after.uri.authority = before.uri.authority ∧
      after.uri.path = before.uri.path ∧ after.headers = before.headers ∧ after.body = before.body ∧
      (∀ again, Sets name value after again ↔ again = after) ∧
      (∀ later last, Sets name later after last ↔ Sets name later before last) ∧
      ∀ other value' both first swapped, other ≠ name → Sets other value' after both →
        Sets other value' before first → Sets name value first swapped →
        ∀ asked, both.uri.parameters.get? asked = swapped.uri.parameters.get? asked := by
  obtain ⟨scheme, authority, path, headers, body⟩ := sets.keeps
  refine ⟨?_, scheme, authority, path, headers, body, fun again => ?_, fun later last => sets.overwritten later last,
    fun other value' both first swapped different second alone swap asked => ?_⟩
  · rw [sets.parameters]
    exact Query.binds_set (Query.wellFormed_parse _) name value
  · rw [sets.overwritten]
    obtain ⟨outcome, ran⟩ := sets
    exact ⟨fun ⟨_, ran'⟩ => (Prod.mk.inj (ran'.symm.trans ran)).2, fun same => ⟨outcome, same ▸ ran⟩⟩
  · rw [second.get?, sets.get?, swap.get?, alone.get?]
    by_cases one : asked = name
    · rw [if_pos one, if_pos one, if_neg fun two => different (two.symm.trans one)]
    · rw [if_neg one, if_neg one]

/-- Two new names with separators, next to a name that is repeated and groups that are no text. The parameters stand
in the order of the rules, and read alike. -/
theorem binds_one_parameter_hostile :
    let draft : String → RequestDraft := fun query =>
      ⟨⟨none, none, "/p", some query, by decide, by decide⟩, .empty, some (.ofBytes .empty)⟩
    let before := draft "?a=1&%zz=%ff&a=2&b"
    let after := draft "a=1%2C2&%25zz=%25ff&b=&%3F%23=%26%3D%20"
    let both := draft "a=1%2C2&%25zz=%25ff&b=&%3F%23=%26%3D%20&%C3%A9=%2B"
    let swapped := draft "a=1%2C2&%25zz=%25ff&b=&%C3%A9=%2B&%3F%23=%26%3D%20"
    before.uri.parameters.params = [("a", "1,2"), ("%zz", "%ff"), ("b", "")] ∧
      after.uri.parameters.params = [("a", "1,2"), ("%zz", "%ff"), ("b", ""), ("?#", "&= ")] ∧
      Sets "?#" "&= " after after ∧ both.uri ≠ swapped.uri ∧
      ∀ asked, both.uri.parameters.get? asked = swapped.uri.parameters.get? asked := by
  intro draft before after both swapped
  have sets : Sets "?#" "&= " before after := sets_iff.mpr ⟨by decide +kernel, rfl, rfl⟩
  have second : Sets "é" "+" after both := sets_iff.mpr ⟨by decide +kernel, rfl, rfl⟩
  have alone : Sets "é" "+" before (draft "a=1%2C2&%25zz=%25ff&b=&%C3%A9=%2B") :=
    sets_iff.mpr ⟨by decide +kernel, rfl, rfl⟩
  have swap : Sets "?#" "&= " (draft "a=1%2C2&%25zz=%25ff&b=&%C3%A9=%2B") swapped :=
    sets_iff.mpr ⟨by decide +kernel, rfl, rfl⟩
  obtain ⟨-, -, -, -, -, -, again, -, commute⟩ := binds_one_parameter sets
  exact ⟨by decide +kernel, by decide +kernel, (again after).mpr rfl, by decide +kernel,
    commute _ _ both _ swapped (by decide) second alone swap⟩

end Relay.Rule
