import Relay.Http.Query
import Relay.Proofs.Text.Percent

/-!
# Written queries are read

A query that is written and read again is the same query, with the parameters in their order. Nothing that a
reader does to the texts of other queries is done to a written one: it has no leading question mark and no
empty piece, no plus sign, no repeated name and no group that is not UTF-8.
-/

namespace Relay.Http.Query
open Text (percentEncode IsEncodedChar isEncodedChar_of_mem_percentEncode)

theorem not_isEncodedChar_mark {c : Char} (mark : c ∈ ['=', '&', '+', '?']) : ¬ IsEncodedChar c := by
  simp only [List.mem_cons, List.not_mem_nil, or_false] at mark
  rcases mark with rfl | rfl | rfl | rfl <;> decide

theorem not_mem_percentEncode {mark : Char} (special : mark ∈ ['=', '&', '+', '?']) (s : String) :
    mark ∉ percentEncode s :=
  fun present => not_isEncodedChar_mark special (isEncodedChar_of_mem_percentEncode present)

/-! ### One parameter -/

theorem decode_percentEncode (s : String) : decode (percentEncode s) = s := by
  have spaced : (percentEncode s).map (fun c => if c = '+' then ' ' else c) = percentEncode s := by
    conv => rhs; rw [← List.map_id (percentEncode s)]
    refine List.map_congr_left fun c present => if_neg ?_
    rintro rfl
    exact not_mem_percentEncode (by decide) s present
  rw [decode, spaced, Text.percentDecode_percentEncode, Text.ofByteList?_utf8Bytes]
  rfl

theorem splitFirst_append {mark : Char} {name : List Char} (absent : mark ∉ name) (value : List Char) :
    splitFirst mark (name ++ mark :: value) = (name, value) := by
  have before : ∀ c ∈ name, (c != mark) = true := fun c present =>
    bne_iff_ne.mpr fun same => absent (same ▸ present)
  rw [splitFirst, List.takeWhile_append_of_pos before, List.dropWhile_append_of_pos before]
  simp

theorem param_paramChars (p : String × String) : param (paramChars p) = p := by
  rw [param, paramChars, splitFirst_append (not_mem_percentEncode (by decide) p.1)]
  dsimp only
  rw [decode_percentEncode, decode_percentEncode]

theorem isEncodedChar_of_mem_paramChars {p : String × String} {c : Char} (present : c ∈ paramChars p) :
    IsEncodedChar c ∨ c = '=' := by
  rcases List.mem_append.mp present with name | value
  · exact .inl (isEncodedChar_of_mem_percentEncode name)
  · rcases List.mem_cons.mp value with mark | value
    · exact .inr mark
    · exact .inl (isEncodedChar_of_mem_percentEncode value)

theorem not_mem_paramChars {mark : Char} (special : mark ∈ ['&', '?']) (p : String × String) :
    mark ∉ paramChars p := by
  intro present
  simp only [List.mem_cons, List.not_mem_nil, or_false] at special
  rcases isEncodedChar_of_mem_paramChars present with encoded | rfl
  · exact not_isEncodedChar_mark (by rcases special with rfl | rfl <;> decide) encoded
  · rcases special with same | same <;> exact absurd same (by decide)

/-! ### The pieces of a written query -/

def chars (query : Query) : List Char := List.intercalate ['&'] (query.params.map paramChars)

theorem split_of_not_mem {mark : Char} {cs : List Char} (absent : mark ∉ cs) : split mark cs = [cs] := by
  induction cs with
  | nil => rfl
  | cons c cs ih =>
    have other : c ≠ mark := fun same => absent (same ▸ List.mem_cons_self)
    rw [split, if_neg other, ih fun present => absent (List.mem_cons_of_mem _ present)]

theorem split_append {mark : Char} {piece : List Char} (absent : mark ∉ piece) (rest : List Char) :
    split mark (piece ++ mark :: rest) = piece :: split mark rest := by
  induction piece with
  | nil => rw [List.nil_append, split, if_pos rfl]
  | cons c piece ih =>
    have other : c ≠ mark := fun same => absent (same ▸ List.mem_cons_self)
    rw [List.cons_append, split, if_neg other, ih fun present => absent (List.mem_cons_of_mem _ present)]

theorem split_intercalate {mark : Char} {pieces : List (List Char)} (some' : pieces ≠ [])
    (absent : ∀ piece ∈ pieces, mark ∉ piece) : split mark (List.intercalate [mark] pieces) = pieces := by
  induction pieces with
  | nil => exact absurd rfl some'
  | cons piece pieces ih =>
    cases pieces with
    | nil =>
      rw [List.intercalate_singleton]
      exact split_of_not_mem (absent piece List.mem_cons_self)
    | cons next pieces =>
      rw [List.intercalate_cons_cons, List.append_assoc, List.singleton_append,
        split_append (absent piece List.mem_cons_self),
        ih nofun fun other present => absent other (List.mem_cons_of_mem _ present)]

theorem mem_intercalate {mark c : Char} {pieces : List (List Char)}
    (present : c ∈ List.intercalate [mark] pieces) : c = mark ∨ ∃ piece ∈ pieces, c ∈ piece := by
  induction pieces with
  | nil => cases present
  | cons piece pieces ih =>
    cases pieces with
    | nil =>
      rw [List.intercalate_singleton] at present
      exact .inr ⟨piece, List.mem_cons_self, present⟩
    | cons next pieces =>
      rw [List.intercalate_cons_cons, List.append_assoc, List.singleton_append] at present
      rcases List.mem_append.mp present with here | rest
      · exact .inr ⟨piece, List.mem_cons_self, here⟩
      · rcases List.mem_cons.mp rest with between | later
        · exact .inl between
        · rcases ih later with between | ⟨other, there, inside⟩
          · exact .inl between
          · exact .inr ⟨other, List.mem_cons_of_mem _ there, inside⟩

theorem mem_chars {query : Query} {c : Char} (present : c ∈ query.chars) :
    IsEncodedChar c ∨ c ∈ ['=', '&'] := by
  rcases mem_intercalate present with rfl | ⟨piece, there, inside⟩
  · exact .inr (by decide)
  · obtain ⟨p, -, rfl⟩ := List.mem_map.mp there
    rcases isEncodedChar_of_mem_paramChars inside with encoded | rfl
    · exact .inl encoded
    · exact .inr (by decide)

theorem dropWhile_chars (query : Query) : query.chars.dropWhile (· == '?') = query.chars := by
  have clean : '?' ∉ query.chars := by
    intro present
    rcases mem_chars present with encoded | mark
    · exact not_isEncodedChar_mark (by decide) encoded
    · exact absurd mark (by decide)
  cases start : query.chars with
  | nil => rfl
  | cons c rest =>
    have other : ¬ (c == '?') = true := by
      rw [beq_iff_eq]
      rintro rfl
      exact clean (start ▸ List.mem_cons_self)
    exact List.dropWhile_cons_of_neg other

theorem pieces_render (query : Query) : pieces query.render = query.params.map paramChars := by
  have filled : ∀ piece ∈ query.params.map paramChars, (!piece.isEmpty) = true := by
    intro piece present
    obtain ⟨p, -, rfl⟩ := List.mem_map.mp present
    simp [paramChars]
  rw [pieces, render, String.toList_ofList]
  change List.filter _ (split '&' (query.chars.dropWhile _)) = _
  rw [dropWhile_chars, chars]
  by_cases none : query.params = []
  · rw [none]
    rfl
  · rw [split_intercalate (by simpa using none), List.filter_eq_self.mpr filled]
    intro piece present
    obtain ⟨p, -, rfl⟩ := List.mem_map.mp present
    exact not_mem_paramChars (by decide) p

/-! ### Reading -/

theorem contains_iff {query : Query} {name : String} :
    query.contains name = true ↔ name ∈ query.params.map (·.1) := by
  simp [contains]

theorem upsert_of_new {query : Query} {name : String} (new : name ∉ query.params.map (·.1))
    (change : String → String) (value : String) :
    query.upsert name change value = ⟨query.params ++ [(name, value)]⟩ := by
  have absent : ¬ query.contains name = true := fun there => new (contains_iff.mp there)
  rw [upsert, if_neg absent]

theorem foldl_add_of_nodup {params : List (String × String)} {query : Query}
    (distinct : ((query.params ++ params).map (·.1)).Nodup) :
    params.foldl add query = ⟨query.params ++ params⟩ := by
  induction params generalizing query with
  | nil => simp
  | cons p params ih =>
    have new : p.1 ∉ query.params.map (·.1) := by
      rw [List.map_append, List.map_cons] at distinct
      exact fun there => (List.nodup_append.mp distinct).2.2 _ there _ List.mem_cons_self rfl
    rw [List.foldl_cons, add, upsert_of_new new, ih]
    · simp
    · simpa using distinct

theorem parse_render (query : Query) (formed : query.WellFormed) : parse query.render = query := by
  have params : (query.params.map paramChars).map param = query.params := by
    rw [List.map_map]
    conv => rhs; rw [← List.map_id query.params]
    exact List.map_congr_left fun p _ => param_paramChars p
  rw [parse, pieces_render, params]
  have distinct : ((empty.params ++ query.params).map (·.1)).Nodup := formed
  exact foldl_add_of_nodup distinct

theorem wellFormed_upsert {query : Query} (formed : query.WellFormed) (name : String)
    (change : String → String) (value : String) : (query.upsert name change value).WellFormed := by
  by_cases there : query.contains name = true
  · have names : ((query.params.map fun param =>
        if param.1 == name then (param.1, change param.2) else param).map (·.1)) =
          query.params.map (·.1) := by
      rw [List.map_map]
      refine List.map_congr_left fun param _ => ?_
      simp only [Function.comp_apply]
      split <;> rfl
    rw [upsert, if_pos there, WellFormed, names]
    exact formed
  · have new : name ∉ query.params.map (·.1) := fun present => there (contains_iff.mpr present)
    rw [upsert_of_new new, WellFormed, List.map_append, List.nodup_append]
    refine ⟨formed, List.pairwise_singleton _ _, fun other present last only => ?_⟩
    rw [List.mem_singleton.mp only]
    rintro rfl
    exact new present

theorem wellFormed_parse (s : String) : (parse s).WellFormed := by
  unfold parse
  have start : empty.WellFormed := List.nodup_nil
  generalize empty = query at start
  induction (pieces s).map param generalizing query with
  | nil => exact start
  | cons p params ih => exact ih _ (wellFormed_upsert start p.1 _ p.2)

/-- A written query consists of letters, digits and a few marks, and it is read as the query that was written.
So any text that is read, written and read again gives the same query, and different queries are written
differently. -/
theorem queries_survive_writing :
    (∀ query : Query, query.WellFormed → parse query.render = query) ∧
    (∀ query : Query, ∀ c ∈ query.render.toList,
      c.isAlphanum ∨ c ∈ ['-', '_', '.', '~', '%', '=', '&']) ∧
    (∀ s : String, parse (parse s).render = parse s) ∧
    ∀ query query' : Query, query.WellFormed → query'.WellFormed → query.render = query'.render →
      query = query' := by
  refine ⟨parse_render, fun query c present => ?_, fun s => parse_render _ (wellFormed_parse s),
    fun query query' formed formed' same => ?_⟩
  · rw [render, String.toList_ofList] at present
    rcases mem_chars present with (alphanumeric | mark) | mark
    · exact .inl alphanumeric
    · exact .inr (List.mem_append_left ['=', '&'] mark)
    · exact .inr (List.mem_append_right ['-', '_', '.', '~', '%'] mark)
  · rw [← parse_render query formed, same, parse_render query' formed']

theorem hostile_names_survive_writing :
    let query : Query := ⟨[("", ""), ("?a=b&c", "1+1 %41"), ("é", ","), ("??", "")]⟩
    query.WellFormed ∧ query.render = "=&%3Fa%3Db%26c=1%2B1%20%2541&%C3%A9=%2C&%3F%3F=" ∧
      parse query.render = query := by
  intro query
  have formed : query.WellFormed := by
    rw [WellFormed]
    decide
  exact ⟨formed, by decide +kernel, queries_survive_writing.1 query formed⟩

end Relay.Http.Query
