import Relay.Text.CaseFold
import Relay.Text.Digits

/-!
# Path patterns

A pattern is literal text with placeholders. A placeholder stands for a piece of a path, at least one
character long and without a slash. Behind a catch-all marker anything may follow. Letters are compared
up to case. `Pattern.matches` follows all ways to read a path at once; `Fits` says what it decides.
-/

namespace Relay.Route

inductive Atom where
  | letter (c : Char)
  /-- A piece of a path without a slash. -/
  | piece
  deriving Repr, DecidableEq

inductive PatternKind where
  | catchAll
  | template
  | exact
  deriving Repr, DecidableEq

def PatternKind.text : PatternKind → String
  | catchAll => "catch_all"
  | template => "template"
  | exact => "exact"

structure Pattern where
  kind : PatternKind
  atoms : List Atom
  deriving Repr, DecidableEq

/-! ### Reading -/

/-- The text before the first catch-all marker, an opening brace with two stars. -/
def beforeMarker : List Char → Option (List Char)
  | '\x7b' :: '*' :: '*' :: _ => some []
  | c :: rest => (beforeMarker rest).map (c :: ·)
  | [] => none

def afterClose : List Char → Option (List Char)
  | [] => none
  | c :: rest => if c = '\x7d' then some rest else afterClose rest

theorem length_afterClose {cs rest : List Char} (h : afterClose cs = some rest) :
    rest.length < cs.length := by
  induction cs with
  | nil => simp [afterClose] at h
  | cons c cs ih =>
    unfold afterClose at h
    split at h
    · simp_all
    · have := ih h
      simp; omega

/-- The parts of a pattern without a marker: a brace and everything up to the next closing brace is a
placeholder, all else is literal. -/
def atomsOf : List Char → List Atom
  | [] => []
  | c :: rest =>
    if c = '\x7b' then
      match _ : afterClose rest with
      | some behind => .piece :: atomsOf behind
      | none => .letter c :: rest.map .letter
    else .letter c :: atomsOf rest
termination_by cs => cs.length
decreasing_by
  · rename_i found
    have := length_afterClose found
    simp; omega
  · simp

def Pattern.ofChars (cs : List Char) : Pattern :=
  match beforeMarker cs with
  | some literal => ⟨.catchAll, literal.map .letter⟩
  | none =>
    let atoms := atomsOf cs
    ⟨if atoms.contains .piece then .template else .exact, atoms⟩

/-- The greatest size of a compiled pattern, in bytes. -/
def maxPatternSize : Nat := 10485760

structure PatternError where
  pattern : String
  deriving Repr, DecidableEq

def PatternError.message (e : PatternError) : String :=
  "invalid route pattern '" ++ e.pattern ++ "': Compiled regex exceeds size limit of " ++
    Text.natText maxPatternSize ++ " bytes."

/-- The pattern that a text denotes, if it compiles. How large a pattern gets when it is compiled, and so which
ones compile, is left open. -/
def Pattern.parse (compiles : Pattern → Bool) (s : String) : Except PatternError Pattern :=
  let pattern := ofChars s.toList
  if compiles pattern then .ok pattern else .error ⟨s⟩

theorem Pattern.parse_eq_ok {compiles : Pattern → Bool} {s : String} {pattern : Pattern} :
    parse compiles s = .ok pattern ↔ compiles (ofChars s.toList) = true ∧ ofChars s.toList = pattern := by
  simp only [parse]
  split <;> simp [*]

/-! ### Matching -/

/-- `Fits atoms path` says that the path consists of the letters of the pattern, up to case, with a piece
for each placeholder. -/
inductive Fits : List Atom → List Char → Prop where
  | nil : Fits [] []
  | letter {a c : Char} {atoms : List Atom} {path : List Char} (same : Text.sameLetter a c = true)
      (rest : Fits atoms path) : Fits (.letter a :: atoms) (c :: path)
  | last {c : Char} {atoms : List Atom} {path : List Char} (inside : c ≠ '/')
      (rest : Fits atoms path) : Fits (.piece :: atoms) (c :: path)
  | more {c : Char} {atoms : List Atom} {path : List Char} (inside : c ≠ '/')
      (rest : Fits (.piece :: atoms) path) : Fits (.piece :: atoms) (c :: path)

/-- What may be left of a pattern after one character of a path. -/
def advance (c : Char) : List Atom → List (List Atom)
  | [] => []
  | .letter a :: atoms => if Text.sameLetter a c then [atoms] else []
  | .piece :: atoms => if c = '/' then [] else [atoms, .piece :: atoms]

/-- All that may be left of a pattern after one character, each remainder once. Remainders of one
pattern are equal when they are equally long. -/
def advanceAll (c : Char) (left : List (List Atom)) : List (List Atom) :=
  (left.flatMap (advance c)).eraseDupsBy fun a b => a.length == b.length

def fitsAny : List (List Atom) → List Char → Bool
  | left, [] => left.any (·.isEmpty)
  | left, c :: path => fitsAny (advanceAll c left) path

/-- Whether a path begins with the letters of a pattern, up to case. -/
def fitsPrefix : List Atom → List Char → Bool
  | [], _ => true
  | .letter a :: atoms, c :: path => Text.sameLetter a c && fitsPrefix atoms path
  | _, _ => false

def Pattern.matches (pattern : Pattern) (path : String) : Bool :=
  match pattern.kind with
  | .catchAll => fitsPrefix pattern.atoms path.toList
  | _ => fitsAny [pattern.atoms] path.toList

end Relay.Route
