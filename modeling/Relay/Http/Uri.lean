import Relay.Text.Utf8

/-!
# Request targets

A request target is a path with a query, an authority, both behind a scheme, or a star. A fragment is
dropped when a target is read.
-/

namespace Relay.Http

def isPathChar (c : Char) : Bool :=
  let n := c.toNat
  n == 0x21 || n == 0x22 || (0x24 ≤ n && n ≤ 0x3B) || n == 0x3D || (0x40 ≤ n && n ≤ 0x5F) ||
    (0x61 ≤ n && n != 0x7F)

def isQueryChar (c : Char) : Bool :=
  let n := c.toNat
  n == 0x21 || (0x24 ≤ n && n ≤ 0x3B) || n == 0x3D || (0x3F ≤ n && n != 0x7F)

/-- A request target. The path is empty only next to an authority without a scheme. -/
structure Uri where
  scheme : Option String
  authority : Option String
  path : String
  query : Option String
  path_all : path.toList.all isPathChar = true
  path_empty : path = "" → scheme = none ∧ authority.isSome
  deriving Repr, DecidableEq

structure Target where
  path : String
  query : Option String
  path_all : path.toList.all isPathChar = true
  path_ne : path ≠ ""

def Target.at (target : Target) (scheme authority : Option String) : Uri :=
  { target with scheme, authority, path_empty := fun empty => absurd empty target.path_ne }

inductive UriError where
  | tooLong
  | invalidChar
  | noSlash
  | schemeMissing
  | invalid
  deriving Repr, DecidableEq

def UriError.message : UriError → String
  | tooLong => "uri too long"
  | invalidChar => "invalid uri character"
  | noSlash => "path does not start with slash"
  | schemeMissing => "scheme missing"
  | invalid => "invalid format"

namespace Uri

/-- The greatest length in bytes of a target, and of a path with its query. -/
def maxLength : Nat := 65534

def byteLength (cs : List Char) : Nat := (String.ofList cs).utf8ByteSize

/-- The target of a path, which is a slash when there are no characters. -/
def targetOf (path : List Char) (valid : path.all isPathChar = true) (query : Option String) : Target where
  path := if path.isEmpty then "/" else String.ofList path
  query := query
  path_all := by
    split
    · decide
    · simpa using valid
  path_ne := by
    split
    · decide
    · rename_i filled
      simpa using filled

def endsPath (c : Char) : Bool := c == '?' || c == '#'

/-- A path with its query, before the fragment. -/
def readTarget (cs : List Char) : Except UriError Target := do
  if maxLength < byteLength cs then throw .tooLong
  let path := cs.takeWhile (!endsPath ·)
  if valid : path.all isPathChar then
    match cs.dropWhile (!endsPath ·) with
    | '?' :: rest =>
      let query := rest.takeWhile (· != '#')
      if !query.all isQueryChar then throw .invalidChar
      return targetOf path valid (some (String.ofList query))
    | _ => return targetOf path valid none
  else throw .invalidChar

theorem endsPath_of_isPathChar {c : Char} (valid : isPathChar c = true) : endsPath c = false := by
  cases ends : endsPath c with
  | false => rfl
  | true =>
    have : c = '?' ∨ c = '#' := by simpa [endsPath] using ends
    rcases this with rfl | rfl <;> exact absurd valid (by decide)

theorem readTarget_path {cs : List Char} {target : Target} (read : readTarget cs = .ok target) :
    target.path = if (cs.takeWhile (!endsPath ·)).isEmpty then "/"
      else String.ofList (cs.takeWhile (!endsPath ·)) := by
  unfold readTarget at read
  simp only [bind, Except.bind, throw, throwThe, MonadExceptOf.throw, pure, Except.pure] at read
  repeat' split at read
  all_goals first
    | cases read; done
    | (obtain rfl := Except.ok.inj read; rfl)

/-- A path with its query, for a target that has none yet. It starts with a slash, or with the query. -/
def readPathAndQuery (cs : List Char) : Except UriError Target := do
  if maxLength < byteLength cs then throw .tooLong
  match cs with
  | '/' :: _ | '?' :: _ | [] | ['*'] => readTarget cs
  | _ => throw .noSlash

def isAuthorityChar (c : Char) : Bool :=
  c.isAlphanum || "!$&'()*+,-.:;=@[]_~%".toList.contains c

structure Seen where
  colons : Nat := 0
  opened : Bool := false
  closed : Bool := false
  percent : Bool := false
  lastAt : Bool := false

def Seen.step (seen : Seen) (c : Char) : Option Seen :=
  let seen := { seen with lastAt := false }
  match c with
  | ':' => if 8 ≤ seen.colons then none else some { seen with colons := seen.colons + 1 }
  | '[' => if seen.percent || seen.opened then none else some { seen with opened := true }
  | ']' =>
    if !seen.opened || seen.closed then none
    else some { seen with closed := true, colons := 0, percent := false }
  | '@' => some { seen with colons := 0, percent := false, lastAt := true }
  | '%' => some { seen with percent := true }
  | c => if isAuthorityChar c then some seen else none

/-- Whether a text is an authority: a host with what may stand before and behind it. -/
def isAuthority (cs : List Char) : Bool :=
  match cs.foldlM Seen.step {} with
  | some seen => seen.opened == seen.closed && seen.colons ≤ 1 && !seen.percent && !seen.lastAt
  | none => false

def isSchemeChar (c : Char) : Bool :=
  c.isAlphanum || c == '+' || c == '-' || c == '.' || c == '~'

/-- The schemes that are known, whose letters may be in either case. Other schemes stay as they are. -/
def knownSchemes : List String := ["http", "https"]

def schemeText (cs : List Char) : String :=
  let lower := String.ofList (cs.map Char.toLower)
  if knownSchemes.contains lower then lower else String.ofList cs

def readScheme (cs : List Char) : Option (List Char × List Char) :=
  let scheme := cs.takeWhile isSchemeChar
  match cs.dropWhile isSchemeChar with
  | ':' :: '/' :: '/' :: rest => if scheme.length ≤ 64 then some (scheme, rest) else none
  | _ => none

def parse (s : String) : Except UriError Uri := do
  let cs := s.toList
  if maxLength < byteLength cs then throw .tooLong
  match cs with
  | [] => throw .invalid
  | ['*'] => return ⟨none, none, "*", none, by decide, by decide⟩
  | '/' :: _ =>
    let target ← readTarget cs
    return target.at none none
  | cs =>
    match readScheme cs with
    | some (scheme, rest) =>
      let ends := fun c => c == '/' || c == '?' || c == '#'
      let authority := rest.takeWhile (!ends ·)
      if authority.isEmpty || !isAuthority authority then throw .invalid
      let target ← readTarget (rest.dropWhile (!ends ·))
      return target.at (some (schemeText scheme)) (some (String.ofList authority))
    | none =>
      if isAuthority cs then return ⟨none, some (String.ofList cs), "", none, by decide, by simp⟩
      else throw .invalid

def withQuery (uri : Uri) (query : String) : Except UriError Uri := do
  let target ← readPathAndQuery (uri.path.toList ++ '?' :: query.toList)
  if uri.scheme.isNone && uri.authority.isSome then throw .schemeMissing
  return target.at uri.scheme uri.authority

theorem withQuery_eq_ok {uri new : Uri} {query : String} (built : uri.withQuery query = .ok new) :
    ∃ target, readTarget (uri.path.toList ++ '?' :: query.toList) = .ok target ∧
      (uri.scheme.isNone && uri.authority.isSome) = false ∧ new = target.at uri.scheme uri.authority := by
  unfold withQuery readPathAndQuery at built
  simp only [bind, Except.bind, throw, throwThe, MonadExceptOf.throw, pure, Except.pure] at built
  split at built
  · cases built
  · rename_i target read
    split at built
    · cases built
    · rename_i schemed
      refine ⟨target, ?_, by simpa using schemed, (Except.ok.inj built).symm⟩
      split at read
      · cases read
      · split at read <;> first | exact read | cases read

/-- Another query leaves all else of a target as it is. -/
theorem withQuery_keeps {uri new : Uri} {query : String} (built : uri.withQuery query = .ok new) :
    new.scheme = uri.scheme ∧ new.authority = uri.authority ∧ new.path = uri.path := by
  obtain ⟨target, read, schemed, rfl⟩ := withQuery_eq_ok built
  refine ⟨rfl, rfl, ?_⟩
  have filled : uri.path ≠ "" := by
    intro empty
    obtain ⟨none, some⟩ := uri.path_empty empty
    simp [none, some] at schemed
  have clean : (uri.path.toList ++ '?' :: query.toList).takeWhile (!endsPath ·) = uri.path.toList := by
    rw [List.takeWhile_append_of_pos]
    · simp [endsPath]
    · intro c inside
      simp [endsPath_of_isPathChar (List.all_eq_true.mp uri.path_all c inside)]
  show target.path = uri.path
  rw [readTarget_path read, clean]
  simp [filled]

def text (uri : Uri) : String :=
  let scheme := match uri.scheme with
    | some scheme => scheme ++ "://"
    | none => ""
  let query := match uri.query with
    | some query => "?" ++ query
    | none => ""
  scheme ++ uri.authority.getD "" ++ uri.path ++ query

end Uri
end Relay.Http
