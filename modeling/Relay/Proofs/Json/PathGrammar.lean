import Relay.Proofs.Json.EditedText
import Relay.Proofs.Json.PathForm

/-!
# Reading the grammar of path expressions

What is read has a form, and one form only. `reads_grammar_and_nothing_else` puts together what reading makes of a
text: the segments of its form, or a fault where it has none.
-/

namespace Relay

/-! ### Trimmed texts -/

namespace Text

theorem trimmed_eq_self {cs : List Char} (first : ∀ c ∈ cs.head?, isBlank c = false)
    (last : ∀ c ∈ cs.getLast?, isBlank c = false) : trimmed cs = cs := by
  have front : cs.dropWhile isBlank = cs := (Json.takeWhile_run (List.forall_mem_nil _) first).2
  rw [← List.head?_reverse] at last
  have back : cs.reverse.dropWhile isBlank = cs.reverse := (Json.takeWhile_run (List.forall_mem_nil _) last).2
  rw [trimmed, front, back, List.reverse_reverse]

theorem not_blank_getLast_trimmed (cs : List Char) : ∀ c ∈ (trimmed cs).getLast?, isBlank c = false := by
  intro c last
  rw [trimmed, List.getLast?_reverse] at last
  have stopped := List.head?_dropWhile_not isBlank (cs.dropWhile isBlank).reverse
  rw [Option.mem_def.mp last] at stopped
  exact stopped

theorem trimmed_isInfix (cs : List Char) : trimmed cs <:+: cs := by
  have front : trimmed cs <+: cs.dropWhile isBlank := by
    rw [← List.reverse_suffix, trimmed, List.reverse_reverse]
    exact List.dropWhile_suffix _
  exact front.isInfix.trans (List.dropWhile_suffix _).isInfix

/-- A character that shows may be put before a trimmed text. -/
theorem trimmed_cons {c : Char} {cs : List Char} (shown : isBlank c = false) (some : cs ≠ [])
    (trim : trimmed cs = cs) : trimmed (c :: cs) = c :: cs := by
  refine trimmed_eq_self (fun d first => ?_) (fun d last => ?_)
  · cases first
    exact shown
  · rw [List.getLast?_cons_of_ne_nil some, ← trim] at last
    exact not_blank_getLast_trimmed cs d last

end Text

namespace Json

namespace Path

/-! ### What is read has a form -/

theorem exists_memberForm {place : Nat} {cs rest : List Char} {selector : Selector}
    (read : readMember place cs = .ok (selector, rest)) :
    ∃ form : MemberForm, cs = form.chars ++ rest ∧ form.selector = selector := by
  unfold readMember at read
  split at read
  · cases read
    exact ⟨.star, rfl, rfl⟩
  · rename_i unstarred
    dsimp only at read
    split at read
    · cases read
    · rename_i some
      cases read
      have plain : ∀ c ∈ cs.takeWhile isNameChar, isNameChar c = true := List.all_eq_true.mp List.all_takeWhile
      refine ⟨.name (cs.takeWhile isNameChar) (by simpa using some) plain ?_, List.takeWhile_append_dropWhile.symm, rfl⟩
      intro star
      cases cs with
      | nil => cases star
      | cons c cs =>
        rw [List.takeWhile_cons] at star
        split at star
        · cases star
          exact unstarred cs rfl
        · cases star

theorem exists_quotedChars {mark : Char} {cs name rest : List Char} {selector : Selector}
    (read : readQuoted mark cs name = .ok (selector, rest)) :
    ∃ body : List (QuotedChar mark), cs = body.flatMap QuotedChar.chars ++ mark :: rest ∧
      selector = .name (String.ofList (name.reverse ++ body.map QuotedChar.letter)) := by
  fun_induction readQuoted mark cs name with
  | case1 => cases read
  | case2 c cs name ih =>
    obtain ⟨body, rfl, rfl⟩ := ih read
    exact ⟨.escaped c :: body, rfl, by simp [QuotedChar.letter]⟩
  | case3 => cases read
  | case4 =>
    cases read
    exact ⟨[], rfl, by simp⟩
  | case5 c cs name _ literal inside ih =>
    obtain ⟨body, rfl, rfl⟩ := ih read
    exact ⟨.plain c inside literal :: body, rfl, by simp [QuotedChar.letter]⟩

theorem readNat_eq_some_iff {cs : List Char} {n : Nat} :
    Text.readNat cs = some n ↔ IsDigits cs ∧ Text.digitsValue cs = n := by
  constructor
  · intro read
    unfold Text.readNat at read
    split at read
    · rename_i digits
      cases read
      simp only [Bool.and_eq_true, Bool.not_eq_true', List.isEmpty_eq_false_iff, List.all_eq_true] at digits
      exact ⟨⟨digits.1, digits.2⟩, rfl⟩
    · cases read
  · rintro ⟨digits, rfl⟩
    exact readNat_digits digits

theorem exists_indexForm {cs rest : List Char} {selector : Selector}
    (read : readIndex cs = .ok (selector, rest)) :
    ∃ form : SelectorForm, cs = form.chars ++ rest ∧ form.selector = selector := by
  unfold readIndex at read
  split at read
  rename_i negative digits cut
  have written : cs = if negative then '-' :: digits else digits := by split at cut <;> cases cut <;> rfl
  have whole : digits = digits.takeWhile Char.isDigit ++ digits.dropWhile Char.isDigit :=
    List.takeWhile_append_dropWhile.symm
  dsimp only at read
  split at read
  · cases read
  · rename_i magnitude counted
    obtain ⟨isDigits, rfl⟩ := readNat_eq_some_iff.mp counted
    by_cases fits : indexFits (signedValue negative (digits.takeWhile Char.isDigit)) = true
    · rw [signedValue] at fits
      rw [if_pos fits] at read
      cases read
      refine ⟨.index negative (digits.takeWhile Char.isDigit) isDigits fits, written.trans ?_, rfl⟩
      cases negative with
      | true => exact congrArg ('-' :: ·) whole
      | false => exact whole
    · rw [signedValue] at fits
      rw [if_neg fits] at read
      cases read

theorem exists_selectorForm {cs rest : List Char} {selector : Selector}
    (read : readSelector cs = .ok (selector, rest)) :
    ∃ form : SelectorForm, cs = form.chars ++ rest ∧ form.selector = selector := by
  unfold readSelector at read
  split at read
  case h_2 | h_3 =>
    obtain ⟨body, rfl, rfl⟩ := exists_quotedChars read
    exact ⟨.name _ (by simp) body, by simp [SelectorForm.chars], rfl⟩
  case h_4 =>
    cases read
    exact ⟨.star, rfl, rfl⟩
  case h_7 =>
    split at read
    · exact exists_indexForm read
    · cases read
  all_goals cases read

theorem exists_listForm {fuel : Nat} {cs rest : List Char} {selectors : List Selector}
    (read : readSelectors fuel cs = .ok (selectors, rest)) :
    ∃ form : ListForm, cs = form.chars ++ rest ∧ form.selectors = selectors := by
  induction fuel generalizing cs rest selectors with
  | zero => cases read
  | succ fuel ih =>
    obtain ⟨⟨first, behind⟩, here, read⟩ := bind_ok read
    obtain ⟨selector, taken, rfl⟩ := exists_selectorForm here
    let item : ItemForm := ⟨cs.takeWhile Text.isBlank, selector, behind.takeWhile Text.isBlank,
      List.all_eq_true.mp List.all_takeWhile, List.all_eq_true.mp List.all_takeWhile⟩
    have front : cs = item.chars ++ behind.dropWhile Text.isBlank := by
      calc
        cs = cs.takeWhile Text.isBlank ++ cs.dropWhile Text.isBlank := List.takeWhile_append_dropWhile.symm
        _ = item.chars ++ behind.dropWhile Text.isBlank := by
          rw [taken, ItemForm.chars, List.append_assoc, List.append_assoc, List.takeWhile_append_dropWhile]
    dsimp only at read
    split at read
    · rename_i left
      cases read
      refine ⟨.last item, ?_, rfl⟩
      rw [front, left]
      simp [ListForm.chars]
    · rename_i left
      obtain ⟨⟨more, last⟩, later, read⟩ := bind_ok read
      cases read
      obtain ⟨list, rfl, rfl⟩ := ih later
      refine ⟨.more item list, ?_, rfl⟩
      rw [front, left]
      simp [ListForm.chars]
    all_goals cases read

theorem exists_segmentForm {length : Nat} {cs rest : List Char} {segment : Segment}
    (read : readSegment length cs = .ok (segment, rest)) :
    ∃ form : SegmentForm, cs = form.chars ++ rest ∧ form.segment = segment := by
  unfold readSegment at read
  split at read
  case h_1 =>
    obtain ⟨⟨chosen, behind⟩, selectors, read⟩ := bind_ok read
    cases read
    obtain ⟨list, rfl, rfl⟩ := exists_listForm selectors
    exact ⟨.listBelow list, rfl, rfl⟩
  case h_2 =>
    obtain ⟨⟨chosen, behind⟩, member, read⟩ := bind_ok read
    cases read
    obtain ⟨form, rfl, rfl⟩ := exists_memberForm member
    exact ⟨.memberBelow form, rfl, rfl⟩
  case h_3 =>
    obtain ⟨⟨chosen, behind⟩, member, read⟩ := bind_ok read
    cases read
    obtain ⟨form, rfl, rfl⟩ := exists_memberForm member
    exact ⟨.member form, rfl, rfl⟩
  case h_4 =>
    obtain ⟨⟨chosen, behind⟩, selectors, read⟩ := bind_ok read
    cases read
    obtain ⟨list, rfl, rfl⟩ := exists_listForm selectors
    exact ⟨.list list, rfl, rfl⟩
  all_goals cases read

theorem exists_segmentForms {length fuel : Nat} {cs : List Char} {segments : List Segment}
    (enough : cs.length ≤ fuel) (read : readSegmentsFrom length fuel cs = .ok segments) :
    ∃ forms : List SegmentForm, cs = forms.flatMap SegmentForm.chars ∧ forms.map SegmentForm.segment = segments := by
  induction fuel generalizing cs segments with
  | zero =>
    cases List.eq_nil_of_length_eq_zero (Nat.le_zero.mp enough)
    cases read
    exact ⟨[], rfl, rfl⟩
  | succ fuel ih =>
    by_cases some : cs = []
    · subst some
      cases read
      exact ⟨[], rfl, rfl⟩
    · rw [readSegmentsFrom_cons length fuel some] at read
      obtain ⟨⟨first, behind⟩, here, read⟩ := bind_ok read
      obtain ⟨more, later, read⟩ := bind_ok read
      cases read
      obtain ⟨form, rfl, rfl⟩ := exists_segmentForm here
      have long := List.length_pos_of_ne_nil (chars_segment_ne_nil form)
      rw [List.length_append] at enough
      obtain ⟨forms, rfl, rfl⟩ := ih (by omega) later
      exact ⟨form :: forms, rfl, rfl⟩

theorem exists_relativeForm {length : Nat} {c : Char} {cs : List Char} {segments : List Segment}
    (read : readSegmentsFrom length (c :: cs).length (c :: cs) = .ok segments) :
    ∃ form : PathForm, form.chars = c :: cs ∧ form.segments = segments := by
  obtain ⟨forms, written, rfl⟩ := exists_segmentForms (Nat.le_refl _) read
  cases forms with
  | nil => cases written
  | cons first forms => exact ⟨.relative first forms, written.symm, rfl⟩

/-- Only the texts of forms are read. -/
theorem exists_pathForm {cs : List Char} {segments : List Segment} (read : readSegments cs = .ok segments) :
    ∃ form : PathForm, form.chars = cs ∧ form.segments = segments := by
  unfold readSegments at read
  split at read
  case h_1 => cases read
  case h_2 rest =>
    obtain ⟨forms, rfl, rfl⟩ := exists_segmentForms (Nat.le_succ _) read
    exact ⟨.root forms, rfl, rfl⟩
  case h_3 | h_4 => exact exists_relativeForm read
  case h_5 unrooted _ _ =>
    obtain ⟨⟨chosen, behind⟩, member, read⟩ := bind_ok read
    obtain ⟨more, later, read⟩ := bind_ok read
    cases read
    obtain ⟨first, rfl, rfl⟩ := exists_memberForm member
    obtain ⟨forms, rfl, rfl⟩ := exists_segmentForms (by simp) later
    obtain ⟨c, run, same, -⟩ := exists_chars_member first
    refine ⟨.bare first ?_ forms, rfl, rfl⟩
    intro root
    rw [same] at root
    cases root
    exact unrooted _ (by rw [same]; rfl)

/-! ### A text has one form only -/

theorem quotedChars_inj {mark : Char} (unescaping : mark ≠ '\\') {body body' : List (QuotedChar mark)}
    (same : body.flatMap QuotedChar.chars ++ [mark] = body'.flatMap QuotedChar.chars ++ [mark]) : body = body' := by
  induction body generalizing body' with
  | nil =>
    cases body' with
    | nil => rfl
    | cons first body' =>
      cases first with
      | plain c inside literal => exact absurd (List.cons.inj same).1.symm inside
      | escaped c => exact absurd (List.cons.inj same).1 unescaping
  | cons first body ih =>
    cases first with
    | plain c inside literal =>
      cases body' with
      | nil => exact absurd (List.cons.inj same).1 inside
      | cons first' body' =>
        cases first' with
        | plain c' inside' literal' =>
          obtain ⟨rfl, later⟩ := List.cons.inj same
          rw [ih later]
        | escaped c' => exact absurd (List.cons.inj same).1 literal
    | escaped c =>
      cases body' with
      | nil => exact absurd (List.cons.inj same).1.symm unescaping
      | cons first' body' =>
        cases first' with
        | plain c' inside' literal' => exact absurd (List.cons.inj same).1.symm literal'
        | escaped c' =>
          obtain ⟨rfl, later⟩ := List.cons.inj (List.cons.inj same).2
          rw [ih later]

theorem memberForm_inj {form form' : MemberForm} (same : form.chars = form'.chars) : form = form' := by
  have stops : StopsName [] := nofun
  have read := readMember_chars 0 form stops
  rw [same, readMember_chars 0 form' stops] at read
  have meaning : form'.selector = form.selector := congrArg Prod.fst (Except.ok.inj read)
  cases form <;> cases form'
  · rfl
  · cases meaning
  · cases meaning
  · cases same
    rfl

theorem selectorForm_inj {form form' : SelectorForm} (same : form.chars = form'.chars) : form = form' := by
  have stops : StopsDigits [] := nofun
  have read := readSelector_chars form stops
  rw [same, readSelector_chars form' stops] at read
  have meaning : form'.selector = form.selector := congrArg Prod.fst (Except.ok.inj read)
  cases form with
  | star =>
    cases form' with
    | star => rfl
    | _ => cases meaning
  | index negative digits isDigits fits =>
    cases form' with
    | index negative' digits' isDigits' fits' =>
      have unsigned : ∀ {ds ds' : List Char}, IsDigits ds → ds ≠ '-' :: ds' := by
        rintro ds ds' isDigits rfl
        cases isDigits.cons.1
      cases negative <;> cases negative'
      · cases same
        rfl
      · exact absurd same (unsigned isDigits)
      · exact absurd same.symm (unsigned isDigits')
      · cases same
        rfl
    | _ => cases meaning
  | name mark isMark body =>
    cases form' with
    | name mark' isMark' body' =>
      obtain ⟨rfl, inside⟩ := List.cons.inj same
      have unescaping : mark ≠ '\\' := by rcases isMark with rfl | rfl <;> decide
      rw [quotedChars_inj unescaping inside]
    | _ => cases meaning

theorem itemForm_inj {item item' : ItemForm} {close close' : Char} {rest rest' : List Char}
    (closes : close = ',' ∨ close = ']') (closes' : close' = ',' ∨ close' = ']')
    (same : item.chars ++ close :: rest = item'.chars ++ close' :: rest') :
    item = item' ∧ close = close' ∧ rest = rest' := by
  obtain ⟨read, left⟩ := readItem_chars item closes rest
  obtain ⟨read', left'⟩ := readItem_chars item' closes' rest'
  rw [same, read'] at read
  have behind : item'.after ++ close' :: rest' = item.after ++ close :: rest :=
    congrArg Prod.snd (Except.ok.inj read)
  rw [behind, left] at left'
  obtain ⟨rfl, rfl⟩ := List.cons.inj left'
  have whole : item.chars = item'.chars := List.append_cancel_right same
  rw [ItemForm.chars, ItemForm.chars] at whole
  have after : item'.after = item.after := List.append_cancel_right behind
  have before : item'.before = item.before := by
    have taken := (takeWhile_run item.blankBefore (not_blank_head_selector item.selector item.after)).1
    rw [whole, (takeWhile_run item'.blankBefore (not_blank_head_selector item'.selector item'.after)).1] at taken
    exact taken
  rw [before, after] at whole
  have selector : item'.selector = item.selector :=
    selectorForm_inj (List.append_cancel_right (List.append_cancel_left whole)).symm
  obtain ⟨b, s, a, blankBefore, blankAfter⟩ := item
  cases before
  cases selector
  cases after
  exact ⟨rfl, rfl, rfl⟩

theorem listForm_inj {list list' : ListForm} (same : list.chars = list'.chars) : list = list' := by
  induction list generalizing list' with
  | last item =>
    cases list' with
    | last item' =>
      obtain ⟨rfl, -, -⟩ := itemForm_inj (.inr rfl) (.inr rfl) same
      rfl
    | more item' list' =>
      obtain ⟨-, closed, -⟩ := itemForm_inj (.inr rfl) (.inl rfl) same
      cases closed
  | more item list ih =>
    cases list' with
    | last item' =>
      obtain ⟨-, closed, -⟩ := itemForm_inj (.inl rfl) (.inr rfl) same
      cases closed
    | more item' list' =>
      obtain ⟨rfl, -, later⟩ := itemForm_inj (.inl rfl) (.inl rfl) same
      rw [ih later]

theorem segmentForm_inj {form form' : SegmentForm} (same : form.chars = form'.chars) : form = form' := by
  have stops : StopsName [] := nofun
  have read := readSegment_chars 0 form stops
  rw [same, readSegment_chars 0 form' stops] at read
  have reach : form'.segment.recursive = form.segment.recursive :=
    congrArg (fun answer : Segment × List Char => answer.1.recursive) (Except.ok.inj read)
  have apart : ∀ (member : MemberForm) (list : ListForm), member.chars ≠ '[' :: list.chars := by
    intro member list same
    obtain ⟨c, cs, begins, -, unbracketed⟩ := exists_chars_member member
    exact unbracketed (List.cons.inj (begins.symm.trans same)).1
  cases form <;> cases form' <;> try cases reach
  · rw [memberForm_inj (List.cons.inj same).2]
  · cases (List.cons.inj same).1
  · rw [memberForm_inj (List.cons.inj (List.cons.inj same).2).2]
  · exact absurd (List.cons.inj (List.cons.inj same).2).2 (apart _ _)
  · exact absurd (List.cons.inj (List.cons.inj same).2).2.symm (apart _ _)
  · rw [listForm_inj (List.cons.inj (List.cons.inj (List.cons.inj same).2).2).2]
  · cases (List.cons.inj same).1
  · rw [listForm_inj (List.cons.inj same).2]

theorem segmentForms_inj {forms forms' : List SegmentForm}
    (same : forms.flatMap SegmentForm.chars = forms'.flatMap SegmentForm.chars) : forms = forms' := by
  induction forms generalizing forms' with
  | nil =>
    cases forms' with
    | nil => rfl
    | cons form forms' => exact absurd same.symm (List.append_ne_nil_of_left_ne_nil (chars_segment_ne_nil form) _)
  | cons form forms ih =>
    cases forms' with
    | nil => exact absurd same (List.append_ne_nil_of_left_ne_nil (chars_segment_ne_nil form) _)
    | cons form' forms' =>
      rw [List.flatMap_cons, List.flatMap_cons] at same
      have read := readSegment_chars 0 form (stopsName_segments forms)
      rw [same, readSegment_chars 0 form' (stopsName_segments forms')] at read
      have later : forms'.flatMap SegmentForm.chars = forms.flatMap SegmentForm.chars :=
        congrArg Prod.snd (Except.ok.inj read)
      rw [later] at same
      rw [segmentForm_inj (List.append_cancel_right same), ih later.symm]

/-- A text has one form at most. -/
theorem pathForm_inj {form form' : PathForm} (same : form.chars = form'.chars) : form = form' := by
  obtain ⟨c, cs, written, begins⟩ := exists_begins form
  obtain ⟨c', cs', written', begins'⟩ := exists_begins form'
  obtain ⟨rfl, -⟩ := List.cons.inj (written.symm.trans (same.trans written'))
  cases form with
  | root segments =>
    cases form' with
    | root segments' => rw [segmentForms_inj (List.cons.inj same).2]
    | bare => exact absurd begins begins'.1
    | relative => rcases begins' with rfl | rfl <;> cases begins
  | bare first unrooted segments =>
    cases form' with
    | root => exact absurd begins' begins.1
    | bare first' unrooted' segments' =>
      have read := readMember_chars 0 first (stopsName_segments segments)
      rw [PathForm.chars, PathForm.chars] at same
      rw [same, readMember_chars 0 first' (stopsName_segments segments')] at read
      have later : segments'.flatMap SegmentForm.chars = segments.flatMap SegmentForm.chars :=
        congrArg Prod.snd (Except.ok.inj read)
      rw [later] at same
      cases memberForm_inj (List.append_cancel_right same)
      rw [segmentForms_inj later]
    | relative => exact begins'.elim (absurd · begins.2.1) (absurd · begins.2.2)
  | relative first segments =>
    cases form' with
    | root => rcases begins with rfl | rfl <;> cases begins'
    | bare => exact begins.elim (absurd · begins'.2.1) (absurd · begins'.2.2)
    | relative first' segments' =>
      have whole : (first :: segments).flatMap SegmentForm.chars =
        (first' :: segments').flatMap SegmentForm.chars := same
      cases segmentForms_inj whole
      rfl

/-! ### Paths -/

/-- The segments that a text is read as. -/
def segmentsOf (source : String) : Option (List Segment) := (parse source).toOption.map (·.segments)

theorem parse_eq_ok_iff {source : String} {path : Path} : parse source = .ok path ↔
    path.source = source ∧ ∃ form : PathForm, form.chars = Text.trimmed source.toList ∧
      form.segments = path.segments := by
  constructor
  · intro read
    obtain ⟨segments, written, rfl⟩ := map_ok read
    exact ⟨rfl, exists_pathForm written⟩
  · rintro ⟨same, form, written, meaning⟩
    obtain ⟨source', segments⟩ := path
    cases same
    cases meaning
    rw [parse, ← written, readSegments_chars]
    rfl

theorem segmentsOf_eq_some_iff {source : String} {segments : List Segment} : segmentsOf source = some segments ↔
    ∃ form : PathForm, form.chars = Text.trimmed source.toList ∧ form.segments = segments := by
  rw [segmentsOf]
  constructor
  · intro found
    cases read : parse source with
    | error fault =>
      rw [read] at found
      cases found
    | ok path =>
      rw [read] at found
      cases found
      exact (parse_eq_ok_iff.mp read).2
  · rintro ⟨form, written, rfl⟩
    have read : parse source = .ok ⟨source, form.segments⟩ := parse_eq_ok_iff.mpr ⟨rfl, form, written, rfl⟩
    rw [read]
    rfl

theorem exists_root {form : PathForm} {cs : List Char} (written : form.chars = '$' :: cs) :
    ∃ forms, form = .root forms ∧ forms.flatMap SegmentForm.chars = cs := by
  obtain ⟨c, rest, begun, begins⟩ := exists_begins form
  obtain ⟨rfl, -⟩ := List.cons.inj (begun.symm.trans written)
  cases form with
  | root forms => exact ⟨forms, rfl, (List.cons.inj written).2⟩
  | bare => exact absurd rfl begins.1
  | relative => rcases begins with begins | begins <;> cases begins

/-- A path that begins with a name may have the root sign and a point before it. -/
theorem segmentsOf_member {source : String} {c : Char} {cs : List Char} (trim : Text.trimmed source.toList = c :: cs)
    (whole : source.toList = c :: cs) (other : c ≠ '$' ∧ c ≠ '.' ∧ c ≠ '[') :
    segmentsOf ("$." ++ source) = segmentsOf source := by
  have pointed : Text.trimmed ('.' :: c :: cs) = '.' :: c :: cs :=
    Text.trimmed_cons (by decide) (List.cons_ne_nil c cs) (whole ▸ trim)
  have rooted : Text.trimmed ("$." ++ source).toList = '$' :: '.' :: c :: cs := by
    rw [String.toList_append, whole]
    exact Text.trimmed_cons (by decide) (List.cons_ne_nil _ _) pointed
  refine Option.ext fun segments => ?_
  rw [segmentsOf_eq_some_iff, segmentsOf_eq_some_iff, trim, rooted]
  constructor
  · rintro ⟨form, written, rfl⟩
    obtain ⟨forms, rfl, behind⟩ := exists_root written
    cases forms with
    | nil => cases behind
    | cons first forms =>
      cases first with
      | member first =>
        have behind : first.chars ++ forms.flatMap SegmentForm.chars = c :: cs := (List.cons.inj behind).2
        obtain ⟨d, ds, begun, -⟩ := exists_chars_member first
        have same : d = c := by
          rw [begun] at behind
          exact (List.cons.inj behind).1
        have unrooted : first.chars.head? ≠ some '$' := by
          rw [begun, same]
          exact fun root => other.1 (Option.some.inj root)
        exact ⟨.bare first unrooted forms, behind, rfl⟩
      | memberBelow | listBelow => exact absurd (List.cons.inj (List.cons.inj behind).2).1.symm other.2.1
      | list => exact absurd (List.cons.inj behind).1 (by decide)
  · rintro ⟨form, written, rfl⟩
    obtain ⟨d, ds, begun, begins⟩ := exists_begins form
    obtain ⟨rfl, -⟩ := List.cons.inj (begun.symm.trans written)
    cases form with
    | root => exact absurd begins other.1
    | relative => exact absurd begins (not_or.mpr other.2)
    | bare first unrooted forms =>
      exact ⟨.root (.member first :: forms), congrArg ('$' :: '.' :: ·) written, rfl⟩

/-- A path that begins with a point or a bracket may have the root sign before it. -/
theorem segmentsOf_segment {source : String} {c : Char} {cs : List Char} (trim : Text.trimmed source.toList = c :: cs)
    (whole : source.toList = c :: cs) (starts : c = '.' ∨ c = '[') :
    segmentsOf ("$" ++ source) = segmentsOf source := by
  have rooted : Text.trimmed ("$" ++ source).toList = '$' :: c :: cs := by
    rw [String.toList_append, whole]
    exact Text.trimmed_cons (by decide) (List.cons_ne_nil c cs) (whole ▸ trim)
  refine Option.ext fun segments => ?_
  rw [segmentsOf_eq_some_iff, segmentsOf_eq_some_iff, trim, rooted]
  constructor
  · rintro ⟨form, written, rfl⟩
    obtain ⟨forms, rfl, behind⟩ := exists_root written
    cases forms with
    | nil => cases behind
    | cons first forms => exact ⟨.relative first forms, behind, rfl⟩
  · rintro ⟨form, written, rfl⟩
    obtain ⟨d, ds, begun, begins⟩ := exists_begins form
    obtain ⟨rfl, -⟩ := List.cons.inj (begun.symm.trans written)
    cases form with
    | root => rcases starts with rfl | rfl <;> cases begins
    | bare => exact starts.elim (absurd · begins.2.1) (absurd · begins.2.2)
    | relative first forms => exact ⟨.root (first :: forms), congrArg ('$' :: ·) written, rfl⟩

/-- The texts that are read are those of the forms, after white space at either end is left out. Such a text has one
form, and it is read as the segments of that form; all other texts are refused as malformed. Before a trimmed text
that begins with a name, the root sign and a point change nothing, and before one that begins with a point or a
bracket, the root sign alone. -/
theorem reads_grammar_and_nothing_else (source : String) :
    let text := Text.trimmed source.toList
    (∀ path, parse source = .ok path ↔
      path.source = source ∧ ∃ form : PathForm, form.chars = text ∧ form.segments = path.segments) ∧
    (∀ form form' : PathForm, form.chars = text → form'.chars = text → form = form') ∧
    ((∀ form : PathForm, form.chars ≠ text) → ∃ fault, readPath source = .error (.badPath source fault)) ∧
    (source.toList = text → ∀ c cs, text = c :: cs →
      (c ≠ '$' ∧ c ≠ '.' ∧ c ≠ '[' → segmentsOf ("$." ++ source) = segmentsOf source) ∧
      (c = '.' ∨ c = '[' → segmentsOf ("$" ++ source) = segmentsOf source)) := by
  intro text
  refine ⟨fun path => parse_eq_ok_iff, fun form form' written written' => ?_, fun formless => ?_, ?_⟩
  · exact pathForm_inj (written.trans written'.symm)
  · rw [readPath]
    cases read : parse source with
    | error fault => exact ⟨fault, rfl⟩
    | ok path =>
      obtain ⟨-, form, written, -⟩ := parse_eq_ok_iff.mp read
      exact absurd written (formless form)
  · intro whole c cs trim
    have same := whole.trans trim
    exact ⟨segmentsOf_member trim same, segmentsOf_segment trim same⟩

/-- A name with an escaped quotation mark, an index with a zero too many and white space around both. -/
theorem spaced_list_is_read :
    let source := "a..[ 'it\\'s' , -07 ]"
    let segments : List Segment := [⟨false, [.name "a"]⟩, ⟨true, [.name "it's", .index (-7)]⟩]
    parse source = .ok ⟨source, segments⟩ ∧ segmentsOf ("$." ++ source) = some segments := by
  intro source segments
  obtain ⟨reads, -, -, rooted⟩ := reads_grammar_and_nothing_else source
  let name : SelectorForm := .name '\'' (.inl rfl) [.plain 'i' (by decide) (by decide),
    .plain 't' (by decide) (by decide), .escaped '\'', .plain 's' (by decide) (by decide)]
  let index : SelectorForm := .index true ['0', '7'] ⟨by decide, List.all_eq_true.mp rfl⟩ (by decide)
  let spaced (selector : SelectorForm) : ItemForm :=
    ⟨[' '], selector, [' '], List.all_eq_true.mp rfl, List.all_eq_true.mp rfl⟩
  let list : ListForm := .more (spaced name) (.last (spaced index))
  let first : MemberForm := .name ['a'] (by decide) (List.all_eq_true.mp rfl) (by decide)
  let form : PathForm := .bare first (by decide) [.listBelow list]
  have written : form.chars = Text.trimmed source.toList := by decide
  have read : parse source = .ok ⟨source, segments⟩ := (reads _).mpr ⟨rfl, form, written, rfl⟩
  have trim : Text.trimmed source.toList = 'a' :: "..[ 'it\\'s' , -07 ]".toList := by decide
  obtain ⟨pointed, -⟩ := rooted (by decide) 'a' _ trim
  refine ⟨read, ?_⟩
  rw [pointed (by decide), segmentsOf, read]
  rfl

end Path
end Json
end Relay
