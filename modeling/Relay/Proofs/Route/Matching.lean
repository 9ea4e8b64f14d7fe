import Mathlib.Data.List.Infix
import Relay.Proofs.Text.CaseFold
import Relay.Route.Pattern

/-!
# What a pattern matches

A pattern is taken apart as text: into the literal before the first marker, or else into the literals around its
placeholders (`Literals`). Then it matches the paths that begin with that literal, or those that are the literals in
their order with a piece between each two (`Separated`). That all ways to read a path are followed at once, each
remainder once, decides the same: `fitsAny_iff`.
-/

namespace Relay.Route

/-! ### The language of a pattern -/

/-- The sign behind which anything may follow. -/
def marker : List Char := ['\x7b', '*', '*']

/-- The text before the first marker. -/
structure IsBeforeMarker (text front : List Char) : Prop where
  marked : ∃ behind, text = front ++ marker ++ behind
  first : ∀ front' behind', text = front' ++ marker ++ behind' → front.length ≤ front'.length

/-- No brace of the text is closed behind it. -/
def Unclosed (text : List Char) : Prop := ∀ front back, text = front ++ '\x7b' :: back → '\x7d' ∉ back

/-- The literals of a pattern without a marker, one more than it has placeholders. A placeholder is the first opening
brace with everything up to the next closing one. -/
inductive Literals : List Char → List (List Char) → Prop where
  | last {text : List Char} (unclosed : Unclosed text) : Literals text [text]
  | placeholder {literal name rest : List Char} {literals : List (List Char)} (plain : '\x7b' ∉ literal)
      (nearest : '\x7d' ∉ name) (more : Literals rest literals) :
      Literals (literal ++ '\x7b' :: (name ++ '\x7d' :: rest)) (literal :: literals)

/-- A part of a path, within one segment of it. -/
structure IsPiece (part : List Char) : Prop where
  some : part ≠ []
  inside : '/' ∉ part

/-- The path is the literals in their order, up to case, with a piece between each two. -/
inductive Separated : List (List Char) → List Char → Prop where
  | last {literal path : List Char} (same : literal.map Text.fold = path.map Text.fold) : Separated [literal] path
  | piece {literal front piece path : List Char} {literals : List (List Char)}
      (same : literal.map Text.fold = front.map Text.fold) (isPiece : IsPiece piece)
      (more : Separated literals path) : Separated (literal :: literals) (front ++ (piece ++ path))

/-! ### Taking a pattern apart -/

theorem append_cons_inj {α : Type} {a : α} {xs ys us vs : List α} (outside : a ∉ xs) (outside' : a ∉ ys)
    (same : xs ++ a :: us = ys ++ a :: vs) : xs = ys ∧ us = vs := by
  induction xs generalizing ys with
  | nil =>
    cases ys with
    | nil => exact ⟨rfl, (List.cons.inj same).2⟩
    | cons y ys => exact absurd (List.cons.inj same).1 (List.ne_of_not_mem_cons outside')
  | cons x xs ih =>
    cases ys with
    | nil => exact absurd (List.cons.inj same).1.symm (List.ne_of_not_mem_cons outside)
    | cons y ys =>
      obtain ⟨rfl, later⟩ := List.cons.inj same
      obtain ⟨rfl, rfl⟩ :=
        ih (List.not_mem_of_not_mem_cons outside) (List.not_mem_of_not_mem_cons outside') later
      exact ⟨rfl, rfl⟩

theorem not_unclosed {literal name rest : List Char} :
    ¬ Unclosed (literal ++ '\x7b' :: (name ++ '\x7d' :: rest)) :=
  fun unclosed => unclosed literal _ rfl (List.mem_append_right name List.mem_cons_self)

theorem Unclosed.of_cons {c : Char} {text : List Char} (unclosed : Unclosed (c :: text)) : Unclosed text :=
  fun front back same => unclosed (c :: front) back (congrArg (c :: ·) same)

theorem unclosed_cons {c : Char} {text : List Char} (other : c ≠ '\x7b') (unclosed : Unclosed text) :
    Unclosed (c :: text) := by
  intro front back same
  cases front with
  | nil => exact absurd (List.cons.inj same).1 other
  | cons d front => exact unclosed front back (List.cons.inj same).2

theorem unclosed_of_not_mem {text : List Char} (open' : '\x7d' ∉ text) : Unclosed text := by
  rintro front back rfl closed
  exact open' (List.mem_append_right front (List.mem_cons_of_mem _ closed))

/-- What is behind the next closing brace. -/
theorem afterClose_append {name : List Char} (nearest : '\x7d' ∉ name) (rest : List Char) :
    afterClose (name ++ '\x7d' :: rest) = some rest := by
  induction name with
  | nil => rfl
  | cons c name ih =>
    rw [List.cons_append, afterClose, if_neg (List.ne_of_not_mem_cons nearest).symm]
    exact ih (List.not_mem_of_not_mem_cons nearest)

theorem afterClose_eq_none_iff {cs : List Char} : afterClose cs = none ↔ '\x7d' ∉ cs := by
  constructor
  · intro none closed
    obtain ⟨name, rest, rfl, nearest⟩ := List.eq_append_cons_of_mem closed
    rw [afterClose_append nearest] at none
    cases none
  · intro open'
    induction cs with
    | nil => rfl
    | cons c cs ih =>
      rw [afterClose, if_neg (List.ne_of_not_mem_cons open').symm]
      exact ih (List.not_mem_of_not_mem_cons open')

theorem exists_of_afterClose {cs rest : List Char} (found : afterClose cs = some rest) :
    ∃ name, '\x7d' ∉ name ∧ cs = name ++ '\x7d' :: rest := by
  by_cases closed : '\x7d' ∈ cs
  · obtain ⟨name, back, rfl, nearest⟩ := List.eq_append_cons_of_mem closed
    cases (afterClose_append nearest back).symm.trans found
    exact ⟨name, nearest, rfl⟩
  · rw [afterClose_eq_none_iff.mpr closed] at found
    cases found

theorem exists_literals (text : List Char) : ∃ literals, Literals text literals := by
  induction text using atomsOf.induct with
  | case1 => exact ⟨_, .last (unclosed_of_not_mem List.not_mem_nil)⟩
  | case2 rest behind found ih =>
    obtain ⟨literals, taken⟩ := ih
    obtain ⟨name, nearest, rfl⟩ := exists_of_afterClose found
    exact ⟨_, .placeholder List.not_mem_nil nearest taken⟩
  | case3 rest none =>
    refine ⟨_, .last (unclosed_of_not_mem fun closed => ?_)⟩
    rcases List.mem_cons.mp closed with brace | closed
    · cases brace
    · exact afterClose_eq_none_iff.mp none closed
  | case4 c rest other ih =>
    obtain ⟨literals, taken⟩ := ih
    cases taken with
    | last unclosed => exact ⟨_, .last (unclosed_cons other unclosed)⟩
    | placeholder plain nearest more =>
      exact ⟨_, .placeholder (List.not_mem_cons_of_ne_of_not_mem (Ne.symm other) plain) nearest more⟩

theorem Literals.unique {text : List Char} {literals literals' : List (List Char)} (taken : Literals text literals)
    (taken' : Literals text literals') : literals = literals' := by
  induction taken generalizing literals' with
  | last unclosed =>
    cases taken' with
    | last _ => rfl
    | placeholder _ _ _ => exact absurd unclosed not_unclosed
  | @placeholder literal name rest literals plain nearest more ih =>
    generalize same : literal ++ '\x7b' :: (name ++ '\x7d' :: rest) = text at taken'
    cases taken' with
    | last unclosed => exact absurd unclosed (same ▸ not_unclosed)
    | placeholder plain' nearest' more' =>
      obtain ⟨rfl, behind⟩ := append_cons_inj plain plain' same
      obtain ⟨rfl, rfl⟩ := append_cons_inj nearest nearest' behind
      rw [ih more']

/-! ### The atoms of a pattern -/

theorem atomsOf_placeholder {literal name : List Char} (plain : '\x7b' ∉ literal) (nearest : '\x7d' ∉ name)
    (rest : List Char) :
    atomsOf (literal ++ '\x7b' :: (name ++ '\x7d' :: rest)) = literal.map .letter ++ .piece :: atomsOf rest := by
  induction literal with
  | nil =>
    rw [List.nil_append, atomsOf, if_pos rfl]
    split
    · rename_i behind found
      cases (afterClose_append nearest rest).symm.trans found
      rfl
    · rename_i none
      cases (afterClose_append nearest rest).symm.trans none
  | cons c literal ih =>
    rw [List.cons_append, atomsOf, if_neg (List.ne_of_not_mem_cons plain).symm]
    exact congrArg (.letter c :: ·) (ih (List.not_mem_of_not_mem_cons plain))

theorem atomsOf_unclosed {text : List Char} (unclosed : Unclosed text) : atomsOf text = text.map .letter := by
  induction text with
  | nil => rw [atomsOf, List.map_nil]
  | cons c rest ih =>
    rw [atomsOf]
    split
    · rename_i brace
      subst brace
      have none : afterClose rest = none := afterClose_eq_none_iff.mpr (unclosed [] rest rfl)
      split
      · rename_i behind found
        cases none.symm.trans found
      · rfl
    · rw [ih unclosed.of_cons, List.map_cons]

theorem fits_letters {literal : List Char} {atoms : List Atom} {path : List Char} :
    Fits (literal.map .letter ++ atoms) path ↔
      ∃ front back, path = front ++ back ∧ literal.map Text.fold = front.map Text.fold ∧ Fits atoms back := by
  induction literal generalizing path with
  | nil =>
    constructor
    · intro fits
      exact ⟨[], path, rfl, rfl, fits⟩
    · rintro ⟨front, back, rfl, same, fits⟩
      cases List.map_eq_nil_iff.mp same.symm
      exact fits
  | cons a literal ih =>
    constructor
    · intro fits
      cases fits with
      | @letter _ c _ path same fits =>
        obtain ⟨front, back, rfl, same', fits⟩ := ih.mp fits
        refine ⟨c :: front, back, rfl, ?_, fits⟩
        rw [List.map_cons, List.map_cons, same', eq_of_beq same]
    · rintro ⟨front, back, rfl, same, fits⟩
      cases front with
      | nil => cases same
      | cons c front =>
        obtain ⟨first, same⟩ := List.cons.inj same
        exact .letter (beq_iff_eq.mpr first) (ih.mpr ⟨front, back, rfl, same, fits⟩)

theorem fits_piece {atoms : List Atom} {path : List Char} :
    Fits (.piece :: atoms) path ↔ ∃ piece back, path = piece ++ back ∧ IsPiece piece ∧ Fits atoms back := by
  constructor
  · intro fits
    induction path with
    | nil => cases fits
    | cons c path ih =>
      cases fits with
      | last inside fits =>
        exact ⟨[c], path, rfl, ⟨List.cons_ne_nil _ _, by simpa using inside.symm⟩, fits⟩
      | more inside fits =>
        obtain ⟨piece, back, rfl, isPiece, fits⟩ := ih fits
        exact ⟨c :: piece, back, rfl, ⟨List.cons_ne_nil _ _,
          List.not_mem_cons_of_ne_of_not_mem inside.symm isPiece.inside⟩, fits⟩
  · rintro ⟨piece, back, rfl, ⟨some, inside⟩, fits⟩
    induction piece with
    | nil => exact absurd rfl some
    | cons c piece ih =>
      have here : c ≠ '/' := (List.ne_of_not_mem_cons inside).symm
      cases piece with
      | nil => exact .last here fits
      | cons d piece => exact .more here (ih (List.cons_ne_nil d piece) (List.not_mem_of_not_mem_cons inside))

theorem fits_nil {path : List Char} : Fits [] path ↔ path = [] := by
  constructor
  · intro fits
    cases fits
    rfl
  · rintro rfl
    exact .nil

theorem fits_letters_only {literal path : List Char} :
    Fits (literal.map .letter) path ↔ literal.map Text.fold = path.map Text.fold := by
  rw [← List.append_nil (literal.map Atom.letter), fits_letters]
  constructor
  · rintro ⟨front, back, rfl, same, fits⟩
    rw [fits_nil.mp fits, List.append_nil, same]
  · intro same
    exact ⟨path, [], (List.append_nil path).symm, same, .nil⟩

/-- The atoms of a pattern are fitted by the paths that its literals and their gaps describe. -/
theorem Literals.fits_iff {text : List Char} {literals : List (List Char)} (taken : Literals text literals)
    {path : List Char} : Fits (atomsOf text) path ↔ Separated literals path := by
  induction taken generalizing path with
  | last unclosed =>
    rw [atomsOf_unclosed unclosed, fits_letters_only]
    constructor
    · exact .last
    · intro separated
      cases separated with
      | last same => exact same
      | piece _ _ more => cases more
  | placeholder plain nearest more ih =>
    rw [atomsOf_placeholder plain nearest, fits_letters]
    simp only [fits_piece, ih]
    constructor
    · rintro ⟨front, _, rfl, same, piece, back, rfl, isPiece, separated⟩
      exact .piece same isPiece separated
    · intro separated
      cases separated with
      | last _ => cases more
      | piece same isPiece separated => exact ⟨_, _, rfl, same, _, _, rfl, isPiece, separated⟩

/-! ### All ways at once -/

/-- A character takes a letter away, or it goes into a piece, which then ends or goes on. -/
theorem mem_advance_iff {c : Char} {left next : List Atom} :
    next ∈ advance c left ↔ (∃ a, left = .letter a :: next ∧ Text.sameLetter a c = true) ∨
      ∃ atoms, left = .piece :: atoms ∧ c ≠ '/' ∧ (next = atoms ∨ next = .piece :: atoms) := by
  cases left with
  | nil => simp [advance]
  | cons atom atoms =>
    cases atom with
    | letter a => cases same : Text.sameLetter a c <;> simp [advance, same, eq_comm (a := next)]
    | piece => by_cases slash : c = '/' <;> simp [advance, slash]

/-- What a character leaves of a path fits something that it may leave of the atoms. -/
theorem fits_cons {left : List Atom} {c : Char} {path : List Char} :
    Fits left (c :: path) ↔ ∃ next ∈ advance c left, Fits next path := by
  simp only [mem_advance_iff]
  constructor
  · intro fits
    cases fits with
    | letter same fits => exact ⟨_, .inl ⟨_, rfl, same⟩, fits⟩
    | last inside fits => exact ⟨_, .inr ⟨_, rfl, inside, .inl rfl⟩, fits⟩
    | more inside fits => exact ⟨_, .inr ⟨_, rfl, inside, .inr rfl⟩, fits⟩
  · rintro ⟨next, ⟨a, rfl, same⟩ | ⟨atoms, rfl, inside, rfl | rfl⟩, fits⟩
    · exact .letter same fits
    · exact .last inside fits
    · exact .more inside fits

theorem advance_suffix {c : Char} {left next : List Atom} (reached : next ∈ advance c left) : next <:+ left := by
  obtain ⟨a, rfl, -⟩ | ⟨atoms, rfl, -, rfl | rfl⟩ := mem_advance_iff.mp reached
  · exact List.suffix_cons _ next
  · exact List.suffix_cons _ next
  · exact List.suffix_refl _

theorem mem_eraseDupsBy {α : Type} {r : α → α → Bool} {xs : List α}
    (same : ∀ x ∈ xs, ∀ y ∈ xs, r x y = true → x = y) {x : α} : x ∈ xs.eraseDupsBy r ↔ x ∈ xs := by
  -- What is filtered is no part of the list, so the induction is on the length.
  induction length : xs.length using Nat.strong_induction_on generalizing xs with
  | _ n ih =>
    cases xs with
    | nil => rfl
    | cons y rest =>
      have shorter : (rest.filter fun z => decide (r z y = false)).length < n :=
        length ▸ Nat.lt_succ_of_le (List.length_filter_le _ _)
      have later := ih _ shorter (fun z present w present' => same z
        (List.mem_cons_of_mem y (List.mem_filter.mp present).1) w
        (List.mem_cons_of_mem y (List.mem_filter.mp present').1)) rfl
      rw [List.eraseDupsBy_cons, List.mem_cons, List.mem_cons, later, List.mem_filter, decide_eq_true_eq]
      constructor
      · exact Or.imp_right And.left
      · rintro (here | present)
        · exact .inl here
        · cases alike : r x y with
          | true => exact .inl (same x (List.mem_cons_of_mem y present) y List.mem_cons_self alike)
          | false => exact .inr ⟨present, rfl⟩

/-- Remainders of one list of atoms are equal when they are equally long, so that keeping one of each length keeps
them all. -/
theorem mem_advanceAll {atoms : List Atom} {left : List (List Atom)} (remainders : ∀ rest ∈ left, rest <:+ atoms)
    {c : Char} {next : List Atom} : next ∈ advanceAll c left ↔ ∃ rest ∈ left, next ∈ advance c rest := by
  have suffixes : ∀ next ∈ left.flatMap (advance c), next <:+ atoms := by
    intro next reached
    obtain ⟨rest, present, reached⟩ := List.mem_flatMap.mp reached
    exact (advance_suffix reached).trans (remainders rest present)
  rw [advanceAll, mem_eraseDupsBy, List.mem_flatMap]
  intro rest present rest' present' long
  have length : rest.length = rest'.length := eq_of_beq long
  have reaches : rest <:+ rest' :=
    List.suffix_of_suffix_length_le (suffixes rest present) (suffixes rest' present') length.le
  exact reaches.eq_of_length length

theorem fitsAny_iff {atoms : List Atom} {left : List (List Atom)} (remainders : ∀ rest ∈ left, rest <:+ atoms)
    (path : List Char) : fitsAny left path = true ↔ ∃ rest ∈ left, Fits rest path := by
  induction path generalizing left with
  | nil =>
    have done : ∀ rest : List Atom, rest.isEmpty = true ↔ Fits rest [] := by
      intro rest
      constructor
      · intro empty
        cases List.isEmpty_iff.mp empty
        exact .nil
      · intro fits
        cases fits
        rfl
    simp only [fitsAny, List.any_eq_true, done]
  | cons c path ih =>
    have remainders' : ∀ next ∈ advanceAll c left, next <:+ atoms := by
      intro next reached
      obtain ⟨rest, present, reached⟩ := (mem_advanceAll remainders).mp reached
      exact (advance_suffix reached).trans (remainders rest present)
    rw [fitsAny, ih remainders']
    constructor
    · rintro ⟨next, reached, fits⟩
      obtain ⟨rest, present, reached⟩ := (mem_advanceAll remainders).mp reached
      exact ⟨rest, present, fits_cons.mpr ⟨next, reached, fits⟩⟩
    · rintro ⟨rest, present, fits⟩
      obtain ⟨next, reached, fits⟩ := fits_cons.mp fits
      exact ⟨next, (mem_advanceAll remainders).mpr ⟨rest, present, reached⟩, fits⟩

/-! ### Markers -/

theorem IsBeforeMarker.unique {text front front' : List Char} (before : IsBeforeMarker text front)
    (before' : IsBeforeMarker text front') : front = front' := by
  obtain ⟨⟨behind, rfl⟩, first⟩ := before
  obtain ⟨⟨behind', same⟩, first'⟩ := before'
  have length : front.length = front'.length := Nat.le_antisymm (first _ _ same) (first' _ _ rfl)
  rw [List.append_assoc, List.append_assoc] at same
  exact (List.append_inj same length).1

theorem beforeMarker_eq_some {text front : List Char} (found : beforeMarker text = some front) :
    IsBeforeMarker text front := by
  fun_induction beforeMarker text generalizing front with
  | case1 behind =>
    cases found
    exact ⟨⟨behind, rfl⟩, fun _ _ _ => Nat.zero_le _⟩
  | case2 c rest other ih =>
    obtain ⟨front, inner, rfl⟩ := Option.map_eq_some_iff.mp found
    obtain ⟨⟨behind, rfl⟩, first⟩ := ih inner
    refine ⟨⟨behind, rfl⟩, fun front' behind' same => ?_⟩
    cases front' with
    | nil =>
      obtain ⟨brace, stars⟩ := List.cons.inj same
      exact absurd stars (other behind' brace)
    | cons d front' => exact Nat.succ_le_succ (first front' behind' (List.cons.inj same).2)
  | case3 => cases found

theorem not_infix_of_beforeMarker {text : List Char} (none : beforeMarker text = none) : ¬ marker <:+: text := by
  fun_induction beforeMarker text with
  | case1 => cases none
  | case2 c rest other ih =>
    intro inside
    rcases List.infix_cons_iff.mp inside with ⟨behind, same⟩ | inside
    · obtain ⟨brace, stars⟩ := List.cons.inj same
      exact other behind brace.symm stars.symm
    · exact ih (Option.map_eq_none_iff.mp none) inside
  | case3 => exact fun inside => List.cons_ne_nil _ _ (List.infix_nil.mp inside)

theorem exists_isBeforeMarker {text : List Char} (marked : marker <:+: text) :
    ∃ front, IsBeforeMarker text front := by
  cases found : beforeMarker text with
  | none => exact absurd marked (not_infix_of_beforeMarker found)
  | some front => exact ⟨front, beforeMarker_eq_some found⟩

theorem IsBeforeMarker.beforeMarker_eq {text front : List Char} (before : IsBeforeMarker text front) :
    beforeMarker text = some front := by
  cases found : beforeMarker text with
  | none =>
    obtain ⟨behind, same⟩ := before.marked
    exact absurd ⟨front, behind, same.symm⟩ (not_infix_of_beforeMarker found)
  | some front' => rw [(beforeMarker_eq_some found).unique before]

theorem beforeMarker_of_not_infix {text : List Char} (unmarked : ¬ marker <:+: text) : beforeMarker text = none := by
  cases found : beforeMarker text with
  | none => rfl
  | some front =>
    obtain ⟨behind, same⟩ := (beforeMarker_eq_some found).marked
    exact absurd ⟨front, behind, same.symm⟩ unmarked

theorem fitsPrefix_iff {literal path : List Char} :
    fitsPrefix (literal.map .letter) path = true ↔ literal.map Text.fold <+: path.map Text.fold := by
  induction literal generalizing path with
  | nil => simp [fitsPrefix]
  | cons a literal ih =>
    cases path with
    | nil => simp [fitsPrefix]
    | cons c path => simp [fitsPrefix, ih, Text.sameLetter, List.cons_prefix_cons]

/-! ### Patterns -/

theorem matches_of_marked {text front : List Char} (before : IsBeforeMarker text front) (path : String) :
    (Pattern.ofChars text).matches path = true ↔ front.map Text.fold <+: path.toList.map Text.fold := by
  rw [Pattern.ofChars, before.beforeMarker_eq]
  exact fitsPrefix_iff

theorem matches_of_unmarked {text : List Char} (unmarked : ¬ marker <:+: text) (path : String) :
    (Pattern.ofChars text).matches path = true ↔ Fits (atomsOf text) path.toList := by
  have followed : (Pattern.ofChars text).matches path = fitsAny [atomsOf text] path.toList := by
    rw [Pattern.ofChars, beforeMarker_of_not_infix unmarked, Pattern.matches]
    dsimp only
    cases (atomsOf text).contains .piece <;> rfl
  have whole : ∀ rest ∈ [atomsOf text], rest <:+ atomsOf text := by
    intro rest present
    cases List.mem_singleton.mp present
    exact List.suffix_refl _
  rw [followed, fitsAny_iff whole]
  simp only [List.mem_singleton, exists_eq_left]

/-- The pattern of a text is the same whenever it compiles. If it has a marker, it matches the paths that begin with
the text before the first one, up to case. Otherwise it matches the paths that are its literals in their order, up to
case, with a piece for each placeholder; without placeholders it matches the paths that are equal to it up to case.
Characters that are not letters, those with a meaning in regular expressions among them, are equal up to case to
themselves only. -/
theorem matches_declared_language (source path : String) :
    let text := source.toList
    let pattern := Pattern.ofChars text
    (∀ compiles accepted, Pattern.parse compiles source = .ok accepted → accepted = pattern) ∧
    (marker <:+: text → ∃ front, IsBeforeMarker text front ∧
      (pattern.matches path = true ↔ front.map Text.fold <+: path.toList.map Text.fold)) ∧
    (¬ marker <:+: text → ∃ literals, Literals text literals ∧
      (∀ literals', Literals text literals' → literals' = literals) ∧
      (pattern.matches path = true ↔ Separated literals path.toList)) ∧
    (¬ marker <:+: text → Unclosed text →
      (pattern.matches path = true ↔ text.map Text.fold = path.toList.map Text.fold)) ∧
    ∀ c, Text.IsSign c → ∀ d, Text.fold c = Text.fold d ↔ d = c := by
  intro text pattern
  refine ⟨fun compiles accepted parsed => ?_, fun marked => ?_, fun unmarked => ?_, fun unmarked unclosed => ?_,
    fun c => Text.fold_eq_fold_sign⟩
  · exact (Pattern.parse_eq_ok.mp parsed).2.symm
  · obtain ⟨front, before⟩ := exists_isBeforeMarker marked
    exact ⟨front, before, matches_of_marked before path⟩
  · obtain ⟨literals, taken⟩ := exists_literals text
    refine ⟨literals, taken, fun literals' taken' => taken'.unique taken, ?_⟩
    rw [matches_of_unmarked unmarked, taken.fits_iff]
  · rw [matches_of_unmarked unmarked, atomsOf_unclosed unclosed, fits_letters_only]

/-- Three placeholders in one segment, one with a brace in it, one empty and one with a slash; the last brace stays
open. -/
theorem crowded_segment_is_matched :
    let source := "/v1.0/\x7b\x7ba\x7d-\x7b\x7d.\x7bb/c\x7d/\x7b"
    ∃ pattern, Pattern.parse (fun _ => true) source = .ok pattern ∧ pattern.matches "/V1.0/x--y.z/\x7b" = true ∧
      Text.fold '.' ≠ Text.fold 'x' := by
  intro source
  have text : source.toList = "/v1.0/".toList ++ '\x7b' :: ("\x7ba".toList ++ '\x7d' ::
      ("-".toList ++ '\x7b' :: ([] ++ '\x7d' :: (".".toList ++ '\x7b' :: ("b/c".toList ++ '\x7d' ::
      "/\x7b".toList))))) := by decide
  have taken : Literals source.toList ["/v1.0/".toList, "-".toList, ".".toList, "/\x7b".toList] := by
    rw [text]
    refine .placeholder (by decide) (by decide) (.placeholder (by decide) (by decide)
      (.placeholder (by decide) (by decide) (.last (unclosed_of_not_mem (by decide)))))
  have separated : Separated ["/v1.0/".toList, "-".toList, ".".toList, "/\x7b".toList]
      ("/V1.0/".toList ++ (['x'] ++ (['-'] ++ (['-', 'y'] ++ (['.'] ++ (['z'] ++ "/\x7b".toList)))))) :=
    .piece (by decide) ⟨by decide, by decide⟩ (.piece (by decide) ⟨by decide, by decide⟩
      (.piece (by decide) ⟨by decide, by decide⟩ (.last (by decide))))
  have unmarked : ¬ marker <:+: source.toList := by decide
  obtain ⟨-, -, apart, -, signs⟩ := matches_declared_language source "/V1.0/x--y.z/\x7b"
  obtain ⟨literals, -, only, matched⟩ := apart unmarked
  rw [← only _ taken] at matched
  refine ⟨Pattern.ofChars source.toList, rfl, matched.mpr separated, fun same => ?_⟩
  have sign : Text.IsSign '.' := ⟨by decide, by decide, by decide⟩
  exact absurd ((signs '.' sign 'x').mp same) (by decide)

end Relay.Route
