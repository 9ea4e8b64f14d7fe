import Relay.Json.Path.Reader
import Relay.Proofs.Json.NumberText

/-!
# Forms of path expressions

The grammar of path expressions, as trees: a form says part by part how a path is written. `chars` is its text and
`segments` its meaning. The text of every form is read as what the form means: `readSegments_chars`.
-/

namespace Relay.Json

/-! ### Members -/

/-- A star, or a name outside brackets. -/
inductive MemberForm where
  | star
  | name (run : List Char) (some : run ≠ []) (plain : ∀ c ∈ run, Path.isNameChar c = true)
      (unstarred : run.head? ≠ Option.some '*')

namespace MemberForm

def chars : MemberForm → List Char
  | star => ['*']
  | name run .. => run

def selector : MemberForm → Selector
  | star => .wildcard
  | name run .. => .name (String.ofList run)

end MemberForm

/-! ### Selectors -/

/-- A character of a name in quotation marks: one that stands for itself, or any one behind a backslash. -/
inductive QuotedChar (mark : Char) where
  | plain (c : Char) (inside : c ≠ mark) (literal : c ≠ '\\')
  | escaped (c : Char)

namespace QuotedChar

variable {mark : Char}

def chars : QuotedChar mark → List Char
  | plain c .. => [c]
  | escaped c => ['\\', c]

def letter : QuotedChar mark → Char
  | plain c .. => c
  | escaped c => c

end QuotedChar

/-- The number that digits denote, behind a minus sign or not. -/
def signedValue (negative : Bool) (digits : List Char) : Int :=
  if negative then -(Text.digitsValue digits : Int) else Text.digitsValue digits

/-- What selects, between brackets. -/
inductive SelectorForm where
  | star
  | index (negative : Bool) (digits : List Char) (isDigits : IsDigits digits)
      (fits : Path.indexFits (signedValue negative digits) = true)
  | name (mark : Char) (isMark : mark = '\'' ∨ mark = '"') (body : List (QuotedChar mark))

namespace SelectorForm

def chars : SelectorForm → List Char
  | star => ['*']
  | index negative digits .. => if negative then '-' :: digits else digits
  | name mark _ body => mark :: (body.flatMap QuotedChar.chars ++ [mark])

def selector : SelectorForm → Selector
  | star => .wildcard
  | index negative digits .. => .index (signedValue negative digits)
  | name _ _ body => .name (String.ofList (body.map QuotedChar.letter))

end SelectorForm

/-- A selector with white space around it. -/
structure ItemForm where
  before : List Char
  selector : SelectorForm
  after : List Char
  blankBefore : ∀ c ∈ before, Text.isBlank c = true
  blankAfter : ∀ c ∈ after, Text.isBlank c = true

def ItemForm.chars (item : ItemForm) : List Char := item.before ++ (item.selector.chars ++ item.after)

/-- What stands behind an opening bracket: items with commas between them, and the closing bracket. -/
inductive ListForm where
  | last (item : ItemForm)
  | more (item : ItemForm) (rest : ListForm)

namespace ListForm

def chars : ListForm → List Char
  | last item => item.chars ++ [']']
  | more item rest => item.chars ++ ',' :: rest.chars

def selectors : ListForm → List Selector
  | last item => [item.selector.selector]
  | more item rest => item.selector.selector :: rest.selectors

end ListForm

/-! ### Segments and paths -/

/-- A member behind one point, a member or a bracket behind two points, or a bracket. -/
inductive SegmentForm where
  | member (member : MemberForm)
  | memberBelow (member : MemberForm)
  | listBelow (list : ListForm)
  | list (list : ListForm)

namespace SegmentForm

def chars : SegmentForm → List Char
  | member m => '.' :: m.chars
  | memberBelow m => '.' :: '.' :: m.chars
  | listBelow l => '.' :: '.' :: '[' :: l.chars
  | list l => '[' :: l.chars

def segment : SegmentForm → Segment
  | member m => ⟨false, [m.selector]⟩
  | memberBelow m => ⟨true, [m.selector]⟩
  | listBelow l => ⟨true, l.selectors⟩
  | list l => ⟨false, l.selectors⟩

end SegmentForm

/-- The root sign and segments, a member and segments, or segments alone, one at least. -/
inductive PathForm where
  | root (segments : List SegmentForm)
  | bare (first : MemberForm) (unrooted : first.chars.head? ≠ some '$') (segments : List SegmentForm)
  | relative (first : SegmentForm) (segments : List SegmentForm)

namespace PathForm

def chars : PathForm → List Char
  | root segments => '$' :: segments.flatMap SegmentForm.chars
  | bare first _ segments => first.chars ++ segments.flatMap SegmentForm.chars
  | relative first segments => first.chars ++ segments.flatMap SegmentForm.chars

def segments : PathForm → List Segment
  | root segments => segments.map SegmentForm.segment
  | bare first _ segments => ⟨false, [first.selector]⟩ :: segments.map SegmentForm.segment
  | relative first segments => first.segment :: segments.map SegmentForm.segment

end PathForm

/-! ### Forms are read -/

namespace Path

/-- No character of a name outside brackets comes first. -/
def StopsName (cs : List Char) : Prop := ∀ c ∈ cs.head?, isNameChar c = false

theorem readMember_chars (place : Nat) (form : MemberForm) {rest : List Char} (stops : StopsName rest) :
    readMember place (form.chars ++ rest) = .ok (form.selector, rest) := by
  cases form with
  | star => rfl
  | name run some plain unstarred =>
    obtain ⟨taken, left⟩ := takeWhile_run plain stops
    rw [MemberForm.chars, readMember]
    · simp [taken, left, some, MemberForm.selector]
    · intro behind same
      cases run with
      | nil => exact some rfl
      | cons c run => exact unstarred (congrArg Option.some (List.cons.inj same).1)

theorem readQuoted_chars {mark : Char} (unescaping : mark ≠ '\\') (body : List (QuotedChar mark))
    (read rest : List Char) :
    readQuoted mark (body.flatMap QuotedChar.chars ++ mark :: rest) read =
      .ok (.name (String.ofList (read.reverse ++ body.map QuotedChar.letter)), rest) := by
  induction body generalizing read with
  | nil => simp [readQuoted, unescaping]
  | cons first body ih =>
    cases first with
    | plain c inside literal =>
      simp [QuotedChar.chars, QuotedChar.letter, readQuoted, literal, inside, ih]
    | escaped c => simp [QuotedChar.chars, QuotedChar.letter, readQuoted, ih]

theorem readNat_digits {digits : List Char} (isDigits : IsDigits digits) :
    Text.readNat digits = some (Text.digitsValue digits) := by
  have full : digits.all Char.isDigit = true := List.all_eq_true.mpr isDigits.all
  simp [Text.readNat, full, isDigits.some]

theorem ne_minus_of_isDigit {c : Char} (digit : c.isDigit = true) : c ≠ '-' := by
  rintro rfl
  cases digit

theorem readIndex_chars (negative : Bool) {digits rest : List Char} (isDigits : IsDigits digits)
    (fits : indexFits (signedValue negative digits) = true) (stops : StopsDigits rest) :
    readIndex ((SelectorForm.index negative digits isDigits fits).chars ++ rest) =
      .ok (.index (signedValue negative digits), rest) := by
  obtain ⟨taken, left⟩ := isDigits.takeWhile stops
  have value := readNat_digits isDigits
  cases negative with
  | true =>
    have fits : indexFits (-(Text.digitsValue digits : Int)) = true := fits
    simp [SelectorForm.chars, readIndex, taken, left, value, signedValue, fits]
  | false =>
    have fits : indexFits (Text.digitsValue digits : Int) = true := fits
    have unsigned : ∀ behind, digits ++ rest ≠ '-' :: behind := by
      intro behind same
      cases digits with
      | nil => exact isDigits.some rfl
      | cons d digits => exact ne_minus_of_isDigit isDigits.cons.1 (List.cons.inj same).1
    simp [SelectorForm.chars, readIndex, taken, left, value, signedValue, fits]

theorem readSelector_of_index {c : Char} (starts : c = '-' ∨ c.isDigit = true) (rest : List Char) :
    readSelector (c :: rest) = readIndex (c :: rest) := by
  unfold readSelector
  split
  case h_7 same =>
    obtain ⟨rfl, rfl⟩ := List.cons.inj same
    rw [if_pos (by simpa using starts)]
  all_goals
    rename_i same
    cases same
  all_goals rcases starts with starts | starts <;> cases starts

theorem readSelector_chars (form : SelectorForm) {rest : List Char} (stops : StopsDigits rest) :
    readSelector (form.chars ++ rest) = .ok (form.selector, rest) := by
  cases form with
  | star => rfl
  | index negative digits isDigits fits =>
    have read := readIndex_chars negative isDigits fits stops
    obtain ⟨c, cs, same, starts⟩ : ∃ c cs,
        (SelectorForm.index negative digits isDigits fits).chars = c :: cs ∧ (c = '-' ∨ c.isDigit = true) := by
      cases negative with
      | true => exact ⟨'-', digits, rfl, .inl rfl⟩
      | false =>
        cases digits with
        | nil => exact absurd rfl isDigits.some
        | cons d digits => exact ⟨d, digits, rfl, .inr isDigits.cons.1⟩
    rw [same] at read ⊢
    exact (readSelector_of_index starts _).trans read
  | name mark isMark body =>
    have read : readQuoted mark (body.flatMap QuotedChar.chars ++ mark :: rest) [] = _ :=
      readQuoted_chars (by rcases isMark with rfl | rfl <;> decide) body [] rest
    rw [SelectorForm.chars, List.cons_append, List.append_assoc]
    rcases isMark with rfl | rfl <;> exact read

/-- A selector does not begin with white space. -/
theorem not_blank_head_selector (form : SelectorForm) (rest : List Char) :
    ∀ c ∈ (form.chars ++ rest).head?, Text.isBlank c = false := by
  intro c first
  cases form with
  | star =>
    cases first
    rfl
  | index negative digits isDigits fits =>
    cases negative with
    | true =>
      cases first
      rfl
    | false =>
      cases digits with
      | nil => exact absurd rfl isDigits.some
      | cons d digits =>
        cases first
        refine Bool.eq_false_of_not_eq_true fun blank => ?_
        have digit := isDigits.cons.1
        rw [Text.not_digit_of_isBlank blank] at digit
        cases digit
  | name mark isMark body =>
    cases first
    rcases isMark with rfl | rfl <;> rfl

theorem stopsDigits_of_blank {blanks tail : List Char} (blank : ∀ c ∈ blanks, Text.isBlank c = true)
    (stops : StopsDigits tail) : StopsDigits (blanks ++ tail) := by
  cases blanks with
  | nil => exact stops
  | cons b blanks =>
    intro c first
    cases first
    exact Text.not_digit_of_isBlank (blank b List.mem_cons_self)

/-- An item is read up to a comma or a closing bracket. -/
theorem readItem_chars (item : ItemForm) {close : Char} (closes : close = ',' ∨ close = ']') (rest : List Char) :
    readSelector ((item.chars ++ close :: rest).dropWhile Text.isBlank) =
        .ok (item.selector.selector, item.after ++ close :: rest) ∧
      (item.after ++ close :: rest).dropWhile Text.isBlank = close :: rest := by
  have unblank : ∀ c ∈ (close :: rest).head?, Text.isBlank c = false := by
    intro c first
    cases first
    rcases closes with rfl | rfl <;> rfl
  have stops : StopsDigits (close :: rest) := by
    intro c first
    cases first
    rcases closes with rfl | rfl <;> rfl
  have left : (item.chars ++ close :: rest).dropWhile Text.isBlank =
      item.selector.chars ++ (item.after ++ close :: rest) := by
    rw [ItemForm.chars, List.append_assoc, List.append_assoc]
    exact (takeWhile_run item.blankBefore (not_blank_head_selector _ _)).2
  rw [left]
  exact ⟨readSelector_chars item.selector (stopsDigits_of_blank item.blankAfter stops),
    (takeWhile_run item.blankAfter unblank).2⟩

theorem readSelectors_chars (list : ListForm) {fuel : Nat} (enough : list.chars.length ≤ fuel) (rest : List Char) :
    readSelectors fuel (list.chars ++ rest) = .ok (list.selectors, rest) := by
  induction list generalizing fuel with
  | last item =>
    cases fuel with
    | zero => simp [ListForm.chars] at enough
    | succ fuel =>
      obtain ⟨read, left⟩ := readItem_chars item (.inr rfl) rest
      have same : (ListForm.last item).chars ++ rest = item.chars ++ ']' :: rest := by simp [ListForm.chars]
      rw [same, readSelectors, read]
      simp only [bind, Except.bind, left]
      rfl
  | more item list ih =>
    cases fuel with
    | zero => simp [ListForm.chars] at enough
    | succ fuel =>
      obtain ⟨read, left⟩ := readItem_chars item (.inl rfl) (list.chars ++ rest)
      have same : (ListForm.more item list).chars ++ rest = item.chars ++ ',' :: (list.chars ++ rest) := by
        simp [ListForm.chars]
      have fewer : list.chars.length ≤ fuel := by
        simp only [ListForm.chars, List.length_append, List.length_cons] at enough
        omega
      rw [same, readSelectors, read]
      simp only [bind, Except.bind, left, ih fewer]
      rfl

/-- A member begins with neither a point nor a bracket. -/
theorem exists_chars_member (form : MemberForm) : ∃ c cs, form.chars = c :: cs ∧ c ≠ '.' ∧ c ≠ '[' := by
  cases form with
  | star => exact ⟨'*', [], rfl, by decide, by decide⟩
  | name run some plain unstarred =>
    cases run with
    | nil => exact absurd rfl some
    | cons c run =>
      have inside : c ≠ '.' ∧ c ≠ '[' := by simpa [isNameChar] using plain c List.mem_cons_self
      exact ⟨c, run, rfl, inside⟩

theorem readSegment_chars (length : Nat) (form : SegmentForm) {rest : List Char} (stops : StopsName rest) :
    readSegment length (form.chars ++ rest) = .ok (form.segment, rest) := by
  cases form with
  | member m =>
    obtain ⟨c, cs, same, unpointed, -⟩ := exists_chars_member m
    have read : ∀ place, readMember place (m.chars ++ rest) = .ok (m.selector, rest) := fun place =>
      readMember_chars place m stops
    rw [SegmentForm.chars, List.cons_append]
    rw [same, List.cons_append] at read ⊢
    simp [readSegment, unpointed, read, bind, Except.bind, pure, Except.pure, SegmentForm.segment]
  | memberBelow m =>
    obtain ⟨c, cs, same, -, unbracketed⟩ := exists_chars_member m
    have read : ∀ place, readMember place (m.chars ++ rest) = .ok (m.selector, rest) := fun place =>
      readMember_chars place m stops
    rw [SegmentForm.chars, List.cons_append, List.cons_append]
    rw [same, List.cons_append] at read ⊢
    simp [readSegment, unbracketed, read, bind, Except.bind, pure, Except.pure, SegmentForm.segment]
  | listBelow l =>
    have enough : l.chars.length ≤ l.chars.length + rest.length + 1 := by omega
    have read := readSelectors_chars l enough rest
    simp [SegmentForm.chars, readSegment, read, bind, Except.bind, pure, Except.pure, SegmentForm.segment]
  | list l =>
    have enough : l.chars.length ≤ l.chars.length + rest.length + 1 := by omega
    have read := readSelectors_chars l enough rest
    simp [SegmentForm.chars, readSegment, read, bind, Except.bind, pure, Except.pure, SegmentForm.segment]

theorem exists_chars_segment (form : SegmentForm) : ∃ c cs, form.chars = c :: cs ∧ (c = '.' ∨ c = '[') := by
  cases form with
  | list l => exact ⟨_, _, rfl, .inr rfl⟩
  | _ => exact ⟨_, _, rfl, .inl rfl⟩

theorem chars_segment_ne_nil (form : SegmentForm) : form.chars ≠ [] := by
  obtain ⟨c, cs, same, -⟩ := exists_chars_segment form
  rw [same]
  exact List.cons_ne_nil c cs

theorem stopsName_segments (forms : List SegmentForm) : StopsName (forms.flatMap SegmentForm.chars) := by
  cases forms with
  | nil => exact nofun
  | cons form forms =>
    obtain ⟨c, cs, same, starts⟩ := exists_chars_segment form
    rw [List.flatMap_cons, same]
    intro d first
    cases first
    rcases starts with rfl | rfl <;> rfl

theorem readSegmentsFrom_cons (length fuel : Nat) {cs : List Char} (some : cs ≠ []) :
    readSegmentsFrom length (fuel + 1) cs = (do
      let (first, rest) ← readSegment length cs
      return first :: (← readSegmentsFrom length fuel rest)) := by
  cases cs with
  | nil => exact absurd rfl some
  | cons c cs => rfl

theorem readSegmentsFrom_chars (length : Nat) {fuel : Nat} {forms : List SegmentForm}
    (enough : (forms.flatMap SegmentForm.chars).length ≤ fuel) :
    readSegmentsFrom length fuel (forms.flatMap SegmentForm.chars) = .ok (forms.map SegmentForm.segment) := by
  induction forms generalizing fuel with
  | nil => cases fuel <;> rfl
  | cons form forms ih =>
    have some := chars_segment_ne_nil form
    have long := List.length_pos_of_ne_nil some
    rw [List.flatMap_cons, List.length_append] at enough
    obtain ⟨fuel, rfl⟩ : ∃ less, fuel = less + 1 := ⟨fuel - 1, by omega⟩
    have fewer : (forms.flatMap SegmentForm.chars).length ≤ fuel := by omega
    rw [List.flatMap_cons, readSegmentsFrom_cons _ _ (List.append_ne_nil_of_left_ne_nil some _),
      readSegment_chars length form (stopsName_segments forms)]
    simp only [bind, Except.bind, ih fewer]
    rfl

theorem readSegments_of_segment {c : Char} (starts : c = '.' ∨ c = '[') (cs : List Char) :
    readSegments (c :: cs) = readSegmentsFrom (c :: cs).length (c :: cs).length (c :: cs) := by
  rcases starts with rfl | rfl <;> rfl

theorem readSegments_of_member {c : Char} (unrooted : c ≠ '$') (unpointed : c ≠ '.') (unbracketed : c ≠ '[')
    (cs : List Char) :
    readSegments (c :: cs) = (do
      let (chosen, rest) ← readMember 0 (c :: cs)
      return ⟨false, [chosen]⟩ :: (← readSegmentsFrom (c :: cs).length (c :: cs).length rest)) := by
  simp [readSegments, unrooted, unpointed, unbracketed]

/-- What the first character of a path tells of its form. -/
def Begins (c : Char) : PathForm → Prop
  | .root .. => c = '$'
  | .bare .. => c ≠ '$' ∧ c ≠ '.' ∧ c ≠ '['
  | .relative .. => c = '.' ∨ c = '['

theorem exists_begins (form : PathForm) : ∃ c cs, form.chars = c :: cs ∧ Begins c form := by
  cases form with
  | root segments => exact ⟨'$', _, rfl, rfl⟩
  | bare first unrooted segments =>
    obtain ⟨c, cs, same, unpointed, unbracketed⟩ := exists_chars_member first
    have unrooted : c ≠ '$' := fun root => unrooted (by rw [same, root]; rfl)
    exact ⟨c, _, by rw [PathForm.chars, same, List.cons_append], unrooted, unpointed, unbracketed⟩
  | relative first segments =>
    obtain ⟨c, cs, same, starts⟩ := exists_chars_segment first
    exact ⟨c, _, by rw [PathForm.chars, same, List.cons_append], starts⟩

/-- The text of a form is read as what the form means. -/
theorem readSegments_chars (form : PathForm) : readSegments form.chars = .ok form.segments := by
  obtain ⟨c, cs, same, begins⟩ := exists_begins form
  cases form with
  | root segments =>
    have enough : (segments.flatMap SegmentForm.chars).length ≤ ('$' :: segments.flatMap SegmentForm.chars).length :=
      Nat.le_succ _
    exact readSegmentsFrom_chars _ enough
  | bare first unrooted segments =>
    have read : readMember 0 (PathForm.bare first unrooted segments).chars = _ :=
      readMember_chars 0 first (stopsName_segments segments)
    have enough : (segments.flatMap SegmentForm.chars).length ≤ (c :: cs).length := by
      rw [← same, PathForm.chars, List.length_append]
      omega
    rw [same] at read
    rw [same, readSegments_of_member begins.1 begins.2.1 begins.2.2, read]
    simp only [bind, Except.bind, readSegmentsFrom_chars _ enough]
    rfl
  | relative first segments =>
    have whole : (PathForm.relative first segments).chars = (first :: segments).flatMap SegmentForm.chars := rfl
    rw [same, readSegments_of_segment begins, ← same, whole]
    exact readSegmentsFrom_chars _ (Nat.le_refl _)

end Path
end Relay.Json
