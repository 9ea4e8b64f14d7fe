import Mathlib.Data.List.Forall2
import Mathlib.Data.List.Induction
import Mathlib.Data.List.TakeWhile
import Relay.Proofs.Http.QueryRoundTrip

/-!
# Queries are grouped by name

A query text is a list of pieces, each of which denotes a parameter. What is read of it are the groups of these
parameters: the names once each, in the order in which they come up, and with each name all its values, in order and
with commas between them. `groups_by_name` says so of every text.
-/

namespace Relay.Http.Query

/-! ### What a text denotes -/

/-- How a text is cut up: the question marks at its start, then what stands between ampersands. The empty pieces
denote nothing. -/
inductive Cut (s : String) : List (List Char) → Prop
  | mk {marks : Nat} {between : List (List Char)}
      (whole : s.toList = List.replicate marks '?' ++ ['&'].intercalate between)
      (all : (['&'].intercalate between).head? ≠ some '?') (some' : between ≠ [])
      (apart : ∀ piece ∈ between, '&' ∉ piece) : Cut s (between.filter (!·.isEmpty))

/-- The two sides of a piece: a name up to the first equals sign, and the value behind it. -/
inductive Sides : List Char → List Char → List Char → Prop
  | both {name : List Char} (value : List Char) (first : '=' ∉ name) : Sides (name ++ '=' :: value) name value
  | nameOnly {name : List Char} (bare : '=' ∉ name) : Sides name name []

def spaced (raw : List Char) : String := String.ofList (raw.map fun c => if c = '+' then ' ' else c)

/-- What a side stands for: the text whose bytes it encodes, or itself with spaces for plus signs if these bytes are
no text. -/
inductive Denotes (raw : List Char) : String → Prop
  | decoded {text : String}
      (encoded : Text.percentDecode (Text.utf8Bytes (spaced raw)) = Text.utf8Bytes text) : Denotes raw text
  | undecoded (broken : ∀ text, Text.percentDecode (Text.utf8Bytes (spaced raw)) ≠ Text.utf8Bytes text) :
      Denotes raw (spaced raw)

/-- The parameter that a piece gives. -/
inductive Gives (piece : List Char) : String × String → Prop
  | mk {rawName rawValue : List Char} {name value : String} (sides : Sides piece rawName rawValue)
      (named : Denotes rawName name) (valued : Denotes rawValue value) : Gives piece (name, value)

/-- The parameters that a text gives, one for each piece. -/
def GivesAll (s : String) (params : List (String × String)) : Prop :=
  ∃ pieces, Cut s pieces ∧ List.Forall₂ Gives pieces params

/-! ### Reading what is denoted -/

theorem split_ne_nil (mark : Char) (cs : List Char) : split mark cs ≠ [] := by
  fun_cases split mark cs <;> exact List.cons_ne_nil _ _

theorem intercalate_split (mark : Char) (cs : List Char) : [mark].intercalate (split mark cs) = cs := by
  fun_induction split mark cs with
  | case1 => rfl
  | case2 rest ih =>
    rw [List.intercalate_cons_of_ne_nil (split_ne_nil mark rest), ih]
    rfl
  | case3 c rest other none ih => exact absurd none (split_ne_nil mark rest)
  | case4 c rest other piece pieces same ih =>
    rw [same] at ih
    rw [← ih]
    cases pieces with
    | nil => simp
    | cons next pieces => simp [List.intercalate_cons_cons]

theorem not_mem_of_mem_split {mark : Char} {cs piece : List Char} (present : piece ∈ split mark cs) :
    mark ∉ piece := by
  fun_induction split mark cs generalizing piece with
  | case1 =>
    rw [List.mem_singleton.mp present]
    exact List.not_mem_nil
  | case2 rest ih =>
    rcases List.mem_cons.mp present with rfl | later
    · exact List.not_mem_nil
    · exact ih later
  | case3 c rest other none ih => exact absurd none (split_ne_nil mark rest)
  | case4 c rest other first pieces same ih =>
    rw [same] at ih
    rcases List.mem_cons.mp present with rfl | later
    · rw [List.mem_cons, not_or]
      exact ⟨Ne.symm other, ih List.mem_cons_self⟩
    · exact ih (List.mem_cons_of_mem _ later)

theorem dropWhile_marks {rest : List Char} (other : rest.head? ≠ some '?') (marks : Nat) :
    (List.replicate marks '?' ++ rest).dropWhile (· == '?') = rest := by
  rw [List.dropWhile_append_of_pos fun c present => beq_iff_eq.mpr (List.eq_of_mem_replicate present)]
  cases rest with
  | nil => rfl
  | cons c rest => exact List.dropWhile_cons_of_neg fun same => other (congrArg some (beq_iff_eq.mp same))

theorem cut_iff {s : String} {found : List (List Char)} : Cut s found ↔ found = pieces s := by
  constructor
  · rintro ⟨whole, other, some', apart⟩
    rw [pieces, whole, dropWhile_marks other, split_intercalate some' apart]
  · rintro rfl
    let marks := s.toList.takeWhile (· == '?')
    let rest := s.toList.dropWhile (· == '?')
    have only : marks = List.replicate marks.length '?' :=
      List.eq_replicate_iff.mpr ⟨rfl, fun c present => by simpa using List.mem_takeWhile_imp present⟩
    have joined : ['&'].intercalate (split '&' rest) = rest := intercalate_split '&' rest
    refine @Cut.mk s marks.length _ ?_ ?_ (split_ne_nil '&' rest) fun piece => not_mem_of_mem_split
    · rw [joined, ← only]
      exact List.takeWhile_append_dropWhile.symm
    · rw [joined]
      intro start
      have stops := List.head?_dropWhile_not (· == '?') s.toList
      rw [start] at stops
      cases stops

theorem splitFirst_of_not_mem {mark : Char} {cs : List Char} (absent : mark ∉ cs) : splitFirst mark cs = (cs, []) := by
  have before : ∀ c ∈ cs, (c != mark) = true := fun c present => bne_iff_ne.mpr fun same => absent (same ▸ present)
  rw [splitFirst, List.takeWhile_eq_self_iff.mpr before, List.dropWhile_eq_nil_iff.mpr before, List.drop_nil]

theorem not_mem_takeWhile (mark : Char) (cs : List Char) : mark ∉ cs.takeWhile (· != mark) := by
  intro present
  simpa using List.mem_takeWhile_imp present

theorem sides_iff {piece name value : List Char} :
    Sides piece name value ↔ splitFirst '=' piece = (name, value) := by
  constructor
  · intro sides
    cases sides with
    | both value first => exact splitFirst_append first value
    | nameOnly bare => exact splitFirst_of_not_mem bare
  · intro same
    have whole : piece.takeWhile (· != '=') ++ piece.dropWhile (· != '=') = piece := List.takeWhile_append_dropWhile
    have first := not_mem_takeWhile '=' piece
    obtain ⟨rfl, rfl⟩ := Prod.mk.inj same
    cases behind : piece.dropWhile (· != '=') with
    | nil =>
      rw [behind, List.append_nil] at whole
      rw [whole] at first ⊢
      exact .nameOnly first
    | cons c rest =>
      have stops := List.head?_dropWhile_not (· != '=') piece
      rw [behind] at stops whole
      obtain rfl : c = '=' := by simpa using stops
      conv => arg 1; rw [← whole]
      exact .both rest first

theorem denotes_iff {raw : List Char} {text : String} : Denotes raw text ↔ text = decode raw := by
  have same : decode raw =
      (Text.ofByteList? (Text.percentDecode (Text.utf8Bytes (spaced raw)))).getD (spaced raw) := rfl
  rw [same]
  cases found : Text.ofByteList? (Text.percentDecode (Text.utf8Bytes (spaced raw))) with
  | none =>
    have broken : ∀ text, Text.percentDecode (Text.utf8Bytes (spaced raw)) ≠ Text.utf8Bytes text := by
      intro text encoded
      rw [Text.ofByteList?_eq_some_iff.mpr encoded] at found
      cases found
    constructor
    · rintro (encoded | -)
      · exact absurd encoded (broken text)
      · rfl
    · rintro rfl
      exact .undecoded broken
  | some other =>
    have encoded := Text.ofByteList?_eq_some_iff.mp found
    constructor
    · rintro (encoded' | broken)
      · exact Option.some.inj ((Text.ofByteList?_eq_some_iff.mpr encoded').symm.trans found)
      · exact absurd encoded (broken other)
    · rintro rfl
      exact .decoded encoded

theorem gives_iff {piece : List Char} {p : String × String} : Gives piece p ↔ p = param piece := by
  constructor
  · rintro ⟨sides, named, valued⟩
    rw [param, sides_iff.mp sides, denotes_iff.mp named, denotes_iff.mp valued]
  · rintro rfl
    exact ⟨sides_iff.mpr rfl, denotes_iff.mpr rfl, denotes_iff.mpr rfl⟩

theorem forall₂_gives_iff {pieces : List (List Char)} {params : List (String × String)} :
    List.Forall₂ Gives pieces params ↔ params = pieces.map param := by
  induction pieces generalizing params with
  | nil => simp
  | cons piece pieces ih =>
    rw [List.forall₂_cons_left_iff, List.map_cons]
    simp only [gives_iff, ih]
    constructor
    · rintro ⟨p, rest, rfl, rfl, rfl⟩
      rfl
    · rintro rfl
      exact ⟨_, _, rfl, rfl, rfl⟩

theorem givesAll_iff {s : String} {params : List (String × String)} :
    GivesAll s params ↔ params = (pieces s).map param := by
  simp only [GivesAll, cut_iff, forall₂_gives_iff, exists_eq_left]

/-! ### Groups -/

/-- The values that parameters give a name, in order. -/
def valuesOf (params : List (String × String)) (name : String) : List String :=
  (params.filter (·.1 == name)).map (·.2)

/-- Each name once, in the order in which the names come up, with all its values. -/
def grouped (params : List (String × String)) : List (String × String) :=
  (params.map (·.1)).eraseDups.map fun name => (name, ",".intercalate (valuesOf params name))

section
variable {params : List (String × String)} {p : String × String} {name : String}

theorem valuesOf_concat_self : valuesOf (params ++ [p]) p.1 = valuesOf params p.1 ++ [p.2] := by
  simp [valuesOf, List.filter_append]

theorem valuesOf_concat_other (other : name ≠ p.1) : valuesOf (params ++ [p]) name = valuesOf params name := by
  simp [valuesOf, List.filter_append, Ne.symm other]

theorem valuesOf_ne_nil (there : name ∈ params.map (·.1)) : valuesOf params name ≠ [] := by
  obtain ⟨p, present, rfl⟩ := List.mem_map.mp there
  exact List.ne_nil_of_mem (List.mem_map_of_mem (List.mem_filter.mpr ⟨present, beq_self_eq_true _⟩))

theorem valuesOf_of_new (new : name ∉ params.map (·.1)) : valuesOf params name = [] := by
  rw [valuesOf, List.filter_eq_nil_iff.mpr, List.map_nil]
  intro p present same
  exact new (List.mem_map.mpr ⟨p, present, beq_iff_eq.mp same⟩)

theorem map_fst_grouped : (grouped params).map (·.1) = (params.map (·.1)).eraseDups := by
  simp [grouped, Function.comp_def]

theorem map_fst_concat : (params ++ [p]).map (·.1) = params.map (·.1) ++ [p.1] := by simp

theorem grouped_concat_of_new (new : p.1 ∉ params.map (·.1)) : grouped (params ++ [p]) = grouped params ++ [p] := by
  have one : ([p.1].removeAll (params.map (·.1))).eraseDups = [p.1] := by
    simp only [List.removeAll, List.filter_cons, List.filter_nil, List.elem_eq_mem, new, decide_false,
      Bool.not_false, if_true, List.eraseDups_cons, List.eraseDups_nil]
  have value : ",".intercalate (valuesOf (params ++ [p]) p.1) = p.2 := by
    rw [valuesOf_concat_self, valuesOf_of_new new, List.nil_append, String.intercalate_singleton]
  rw [grouped, map_fst_concat, List.eraseDups_append, one, List.map_append, List.map_singleton, value]
  refine congrArg (· ++ [p]) (List.map_congr_left fun name listed => ?_)
  have other : name ≠ p.1 := by
    rintro rfl
    exact new (List.mem_eraseDups.mp listed)
  rw [valuesOf_concat_other other]

theorem grouped_concat_of_mem (there : p.1 ∈ params.map (·.1)) :
    grouped (params ++ [p]) =
      (grouped params).map fun group => if group.1 == p.1 then (group.1, group.2 ++ "," ++ p.2) else group := by
  have none : [p.1].removeAll (params.map (·.1)) = [] := by simpa [List.removeAll] using there
  rw [grouped, map_fst_concat, List.eraseDups_append, none, List.eraseDups_nil, List.append_nil, grouped,
    List.map_map]
  refine List.map_congr_left fun name _ => ?_
  by_cases again : name = p.1
  · subst again
    rw [valuesOf_concat_self, String.intercalate_append_of_ne_nil (valuesOf_ne_nil there) (List.cons_ne_nil _ _)]
    simp
  · rw [valuesOf_concat_other again]
    simp [again]

/-- One more parameter changes the groups as it changes a query. -/
theorem add_grouped (params : List (String × String)) (p : String × String) :
    (⟨grouped params⟩ : Query).add p = ⟨grouped (params ++ [p])⟩ := by
  let query : Query := ⟨grouped params⟩
  have names : p.1 ∈ query.params.map (·.1) ↔ p.1 ∈ params.map (·.1) := by
    rw [map_fst_grouped, List.mem_eraseDups]
  show query.upsert p.1 _ _ = _
  by_cases there : p.1 ∈ params.map (·.1)
  · rw [upsert, if_pos (contains_iff.mpr (names.mpr there)), grouped_concat_of_mem there]
  · rw [upsert_of_new fun present => there (names.mp present), grouped_concat_of_new there]

theorem foldl_add_grouped (params : List (String × String)) : params.foldl add empty = ⟨grouped params⟩ := by
  induction params using List.reverseRecOn with
  | nil => rfl
  | append_singleton params p ih => rw [List.foldl_append, ih, List.foldl_cons, List.foldl_nil, add_grouped]

end

/-- Every text gives one list of parameters, one for each piece that is not empty. What is read of the text are the
groups of these parameters, so names that are alike once they are decoded stand for one group, and every value is in
the group of its name. -/
theorem groups_by_name (s : String) :
    ∃ params, (∀ other, GivesAll s other ↔ other = params) ∧ (parse s).params = grouped params ∧
      (parse s).WellFormed := by
  refine ⟨(pieces s).map param, fun other => givesAll_iff, ?_, wellFormed_parse s⟩
  rw [parse, foldl_add_grouped]

example : (parse "?a=1&&b&a=%ff+&%61=x=y").params = [("a", "1,%ff ,x=y"), ("b", "")] := by decide +kernel

end Relay.Http.Query
