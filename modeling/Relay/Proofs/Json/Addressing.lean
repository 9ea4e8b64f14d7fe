import Relay.Proofs.Json.Naming
import Relay.Proofs.Json.PathGrammar

/-!
# Every node has a path

A location is written as a path: its names in quotation marks and its indices in digits, each between brackets. That
path names the location, where there is a node, and nothing else: `every_location_has_a_path`.
-/

namespace Relay.Json

/-! ### Locations as paths -/

/-- A character of a name between single quotation marks. -/
def nameChar (c : Char) : List Char := if c = '\\' ∨ c = '\'' then ['\\', c] else [c]

namespace Step

def chars : Step → List Char
  | key name => '[' :: '\'' :: (name.toList.flatMap nameChar ++ ['\'', ']'])
  | index i => '[' :: (Text.natDigits i ++ [']'])

/-- The segment that leads one step down. -/
def segment : Step → Segment
  | key name => ⟨false, [.name name]⟩
  | index i => ⟨false, [.index i]⟩

end Step

/-- The path of a location. -/
def Location.pathText (location : Location) : String := String.ofList ('$' :: location.flatMap Step.chars)

/-! ### The path is read -/

theorem exists_quotedChar (c : Char) :
    ∃ quoted : QuotedChar '\'', quoted.chars = nameChar c ∧ quoted.letter = c := by
  by_cases special : c = '\\' ∨ c = '\''
  · exact ⟨.escaped c, (if_pos special).symm, rfl⟩
  · obtain ⟨literal, inside⟩ := not_or.mp special
    exact ⟨.plain c inside literal, (if_neg special).symm, rfl⟩

theorem exists_quotedName (cs : List Char) :
    ∃ body : List (QuotedChar '\''), body.flatMap QuotedChar.chars = cs.flatMap nameChar ∧
      body.map QuotedChar.letter = cs := by
  induction cs with
  | nil => exact ⟨[], rfl, rfl⟩
  | cons c cs ih =>
    obtain ⟨quoted, written, letter⟩ := exists_quotedChar c
    obtain ⟨body, writtenAll, letters⟩ := ih
    exact ⟨quoted :: body, by rw [List.flatMap_cons, List.flatMap_cons, written, writtenAll],
      by rw [List.map_cons, letter, letters]⟩

theorem indexFits_of_lt {i : Nat} (small : i < 2 ^ 63) : Path.indexFits (i : Int) = true := by
  simp only [Path.indexFits, Bool.and_eq_true, decide_eq_true_eq]
  omega

theorem exists_stepForm (step : Step) (small : ∀ i, step = .index i → i < 2 ^ 63) :
    ∃ form : SegmentForm, form.chars = step.chars ∧ form.segment = step.segment := by
  have alone : ∀ selector : SelectorForm, ∃ form : SegmentForm,
      form.chars = '[' :: (selector.chars ++ [']']) ∧ form.segment = ⟨false, [selector.selector]⟩ := by
    intro selector
    refine ⟨.list (.last ⟨[], selector, [], nofun, nofun⟩), ?_, rfl⟩
    simp [SegmentForm.chars, ListForm.chars, ItemForm.chars]
  cases step with
  | key name =>
    obtain ⟨body, written, letters⟩ := exists_quotedName name.toList
    obtain ⟨form, chars, segment⟩ := alone (.name '\'' (.inl rfl) body)
    refine ⟨form, chars.trans ?_, segment.trans ?_⟩
    · simp [SelectorForm.chars, Step.chars, written]
    · simp [SelectorForm.selector, Step.segment, letters]
  | index i =>
    have value : signedValue false (Text.natDigits i) = i := congrArg Int.ofNat (Text.digitsValue_natDigits i)
    have fits : Path.indexFits (signedValue false (Text.natDigits i)) = true := by
      rw [value]
      exact indexFits_of_lt (small i rfl)
    obtain ⟨form, chars, segment⟩ := alone (.index false (Text.natDigits i) (isDigits_natDigits i) fits)
    refine ⟨form, chars, segment.trans ?_⟩
    rw [SelectorForm.selector, value, Step.segment]

theorem exists_stepForms {location : Location} (small : ∀ i, .index i ∈ location → i < 2 ^ 63) :
    ∃ forms : List SegmentForm, forms.flatMap SegmentForm.chars = location.flatMap Step.chars ∧
      forms.map SegmentForm.segment = location.map Step.segment := by
  induction location with
  | nil => exact ⟨[], rfl, rfl⟩
  | cons step rest ih =>
    obtain ⟨form, chars, segment⟩ := exists_stepForm step fun i same => small i (same ▸ List.mem_cons_self)
    obtain ⟨forms, charsAll, segments⟩ := ih fun i later => small i (List.mem_cons_of_mem _ later)
    exact ⟨form :: forms, by rw [List.flatMap_cons, List.flatMap_cons, chars, charsAll],
      by rw [List.map_cons, List.map_cons, segment, segments]⟩

theorem trimmed_pathText (location : Location) :
    Text.trimmed location.pathText.toList = '$' :: location.flatMap Step.chars := by
  rw [Location.pathText, String.toList_ofList]
  refine Text.trimmed_eq_self (fun c first => ?_) (fun c last => ?_)
  · cases first
    rfl
  · rcases List.eq_nil_or_concat' location with rfl | ⟨front, step, rfl⟩
    · cases last
      rfl
    · have closed : ('$' :: (front ++ [step]).flatMap Step.chars).getLast? = some ']' := by
        cases step <;> simp [Step.chars, List.getLast?_cons, List.getLast?_append]
      rw [closed] at last
      cases last
      rfl

theorem parse_pathText {location : Location} (small : ∀ i, .index i ∈ location → i < 2 ^ 63) :
    Path.parse location.pathText = .ok ⟨location.pathText, location.map Step.segment⟩ := by
  obtain ⟨forms, written, segments⟩ := exists_stepForms small
  refine Path.parse_eq_ok_iff.mpr ⟨rfl, .root forms, ?_, segments⟩
  rw [trimmed_pathText, PathForm.chars, written]

/-! ### What the path names -/

theorem position_natCast (i length : Nat) : position i length = some i := by
  have counted : ¬ (i : Int) < 0 := by omega
  simp [position, counted]

theorem follow_key (name : String) (origin : Location) (v : Json) :
    (Step.key name).segment.follow (origin, v) =
      ((v.child? (.key name)).map fun child => (origin ++ [.key name], child)).toList := by
  simp only [Step.segment, Segment.follow, Bool.false_eq_true, if_false, List.flatMap_singleton, selectAll,
    choose_name]
  cases v.child? (.key name) <;> rfl

theorem follow_index (i : Nat) (origin : Location) (v : Json) :
    (Step.index i).segment.follow (origin, v) =
      ((v.child? (.index i)).map fun child => (origin ++ [.index i], child)).toList := by
  simp only [Step.segment, Segment.follow, Bool.false_eq_true, if_false, List.flatMap_singleton, selectAll]
  cases v with
  | arr items =>
    rw [choose_index, position_natCast, Option.bind_some, child?]
    cases items[i]? <;> rfl
  | _ => rfl

theorem follow_step (step : Step) (origin : Location) (v : Json) :
    step.segment.follow (origin, v) = ((v.child? step).map fun child => (origin ++ [step], child)).toList := by
  cases step with
  | key name => exact follow_key name origin v
  | index i => exact follow_index i origin v

theorem foldl_follow_nil (segments : List Segment) :
    segments.foldl (fun nodes segment => nodes.flatMap segment.follow) [] = [] := by
  induction segments with
  | nil => rfl
  | cons segment rest ih => exact ih

theorem foldl_follow_steps (location origin : Location) (v : Json) :
    (location.map Step.segment).foldl (fun nodes segment => nodes.flatMap segment.follow) [(origin, v)] =
      ((v.get? location).map fun node => (origin ++ location, node)).toList := by
  induction location generalizing origin v with
  | nil => simp [get?]
  | cons step rest ih =>
    rw [List.map_cons, List.foldl_cons, List.flatMap_singleton, follow_step, get?]
    cases v.child? step with
    | none => exact foldl_follow_nil _
    | some child =>
      have further : origin ++ step :: rest = origin ++ [step] ++ rest := by simp
      rw [Option.map_some, Option.toList_some, ih, Option.bind_some, further]

theorem locate_steps (source : String) (location : Location) (document : Json) :
    Path.locate ⟨source, location.map Step.segment⟩ document =
      if (document.get? location).isSome then [location] else [] := by
  have followed := foldl_follow_steps location [] document
  rw [Path.locate, follow, followed]
  cases document.get? location with
  | none => rfl
  | some node => simp [List.eraseDups_cons]

/-- The path of a location is read, if its indices are 64-bit numbers. In every document it names that location, if
there is a node at it, and nothing else. -/
theorem every_location_has_a_path {location : Location} (small : ∀ i, .index i ∈ location → i < 2 ^ 63) :
    ∃ path, Path.parse location.pathText = .ok path ∧ ∀ document,
      path.locate document = if (document.get? location).isSome then [location] else [] :=
  ⟨_, parse_pathText small, locate_steps location.pathText location⟩

/-- A name with quotation marks, a backslash, brackets and white space, the empty name, and the greatest index. -/
theorem hostile_names_have_a_path :
    let location : Location := [.key " it's\\ \"[$.*] ", .index 1, .key ""]
    let document : Json := .obj [(" it's\\ \"[$.*] ", .arr [.null, .obj [("", .bool true)]])]
    (∃ path, Path.parse "$[' it\\'s\\\\ \"[$.*] '][1]['']" = .ok path ∧ path.locate document = [location]) ∧
      ∃ path, Path.parse "$[9223372036854775807]" = .ok path ∧ path.locate document = [] := by
  intro location document
  have small : ∀ i, Step.index i ∈ location → i < 2 ^ 63 := by
    intro i present
    have second : i = 1 := by simpa [location] using present
    omega
  have smallFar : ∀ i, Step.index i ∈ [Step.index (2 ^ 63 - 1)] → i < 2 ^ 63 := by
    intro i present
    cases List.mem_singleton.mp present
    decide
  obtain ⟨path, read, named⟩ := every_location_has_a_path small
  obtain ⟨path', read', named'⟩ := every_location_has_a_path smallFar
  exact ⟨⟨path, read, named document⟩, path', read', named' document⟩

end Relay.Json
