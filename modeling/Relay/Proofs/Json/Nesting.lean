import Relay.Proofs.Json.Legible

/-!
# Documents that nest too deep

The printer writes a document however deep it nests, and the reader refuses the text of one that nests deeper
than it goes. For a document that can be written at all, this is the only reason why its text is not read.
-/

namespace Relay.Json

mutual

theorem value_tooDeep (v : Json) (formed : v.WellFormed) {depth : Nat} (deep : depth < v.depth)
    (rest : List Token) : value depth (printed v ++ rest) = .error .tooDeep := by
  match v, depth with
  | .null, _ | .bool _, _ | .num _, _ | .str _, _ => exact absurd deep (Nat.not_lt_zero _)
  | .arr _, 0 | .obj _, 0 => rfl
  | .arr inner, depth + 1 =>
    have inside := items_tooDeep true inner formed (Nat.lt_of_succ_lt_succ deep) rest
      ((printedItems true inner ++ .listClose :: rest).length + 1) (by
        have counted := length_printedItems true inner
        simp; omega)
    simp only [printed, List.cons_append, List.append_assoc, List.nil_append, value, items, inside]
    rfl
  | .obj inner, depth + 1 =>
    have inside := members_tooDeep true inner formed.2 (Nat.lt_of_succ_lt_succ deep) [] rest
      ((printedMembers true inner ++ .mapClose :: rest).length + 1) (by
        have counted := length_printedMembers true inner
        simp; omega)
    simp only [printed, List.cons_append, List.append_assoc, List.nil_append, value, members, inside]
    rfl

theorem items_tooDeep (first : Bool) (inner : List Json) (formed : WellFormedItems inner) {depth : Nat}
    (deep : depth < depthItems inner) (rest : List Token) (fuel : Nat) (enough : inner.length < fuel) :
    itemsFrom (value depth) fuel first (printedItems first inner ++ .listClose :: rest) =
      .error .tooDeep := by
  match inner, fuel with
  | _, 0 => simp at enough
  | [], _ => exact absurd deep (Nat.not_lt_zero _)
  | v :: inner, fuel + 1 =>
    by_cases here : depth < v.depth
    · have stuck := value_tooDeep v formed.1 here (printedItems false inner ++ .listClose :: rest)
      simp only [printedItems, List.append_assoc, itemsFrom, nextItem_printed, stuck, bind, Except.bind]
    · have read := value_printed v formed.1 (Nat.le_of_not_lt here)
        (printedItems false inner ++ .listClose :: rest)
      have later : depth < depthItems inner := (lt_max_iff.mp deep).resolve_left here
      have stuck := items_tooDeep false inner formed.2 later rest fuel (by simpa using enough)
      simp only [printedItems, List.append_assoc, itemsFrom, nextItem_printed, read, stuck, bind, Except.bind]

theorem members_tooDeep (first : Bool) (inner : List (String × Json)) (formed : WellFormedMembers inner)
    {depth : Nat} (deep : depth < depthMembers inner) (read : Members Json) (rest : List Token)
    (fuel : Nat) (enough : inner.length < fuel) :
    membersFrom (bindMember (value depth)) fuel first read
        (printedMembers first inner ++ .mapClose :: rest) = .error .tooDeep := by
  match inner, fuel with
  | _, 0 => simp at enough
  | [], _ => exact absurd deep (Nat.not_lt_zero _)
  | (k, v) :: inner, fuel + 1 =>
    by_cases here : depth < v.depth
    · have stuck := value_tooDeep v formed.1 here (printedMembers false inner ++ .mapClose :: rest)
      simp only [printedMembers, List.append_assoc, List.cons_append, membersFrom, nextKey_printed,
        memberName, Except.map, bindMember, colon, stuck, bind, Except.bind]
    · have bound := value_printed v formed.1 (Nat.le_of_not_lt here)
        (printedMembers false inner ++ .mapClose :: rest)
      have later : depth < depthMembers inner := (lt_max_iff.mp deep).resolve_left here
      have stuck := members_tooDeep false inner formed.2 later (Members.insert k v read) rest fuel
        (by simpa using enough)
      simp only [printedMembers, List.append_assoc, List.cons_append, membersFrom, nextKey_printed,
        memberName, Except.map, bindMember, colon, bound, stuck, bind, Except.bind, pure, Except.pure]

end

/-- The text of a document that nests too deep is refused, and for that reason. -/
theorem parse_render_tooDeep {v : Json} {depth : Nat} (legible : v.Legible depth)
    (deep : maxDepth < v.depth) : parse v.render = .error .tooDeep := by
  have deep : maxDepth < v.reread.depth := by rwa [depth_reread]
  have stuck := value_tooDeep v.reread legible.formed.reread deep []
  rw [List.append_nil] at stuck
  rw [parse, tokens_render v legible.numbers.readable, stuck]
  rfl

/-- What the reader makes of the text of a document that can be written. -/
theorem parse_render_eq {v : Json} {depth : Nat} (legible : v.Legible depth) :
    parse v.render = if v.depth ≤ maxDepth then .ok v.reread else .error .tooDeep := by
  split
  · rename_i shallow
    exact Legible.parse_render ⟨legible.formed, legible.numbers, shallow⟩
  · rename_i deep
    exact parse_render_tooDeep legible (Nat.lt_of_not_le deep)

end Relay.Json
