import Relay.Toml.Scalar
import Relay.Toml.Table

/-!
# Reading TOML

A document is a list of statements, and its meaning is what they put together. Values nest at most
`maxDepth` deep.
-/

namespace Relay.Toml

def maxDepth : Nat := 79

def itemsFrom (value : Scan Toml) : Nat → Scan (List Toml)
  | 0, _ => none
  | fuel + 1, cs =>
    match skipTrivia false cs with
    | ']' :: rest => some ([], rest)
    | cs => do
      let (v, rest) ← value cs
      match skipTrivia false rest with
      | ',' :: rest =>
        let (vs, rest) ← itemsFrom value fuel rest
        return (v :: vs, rest)
      | ']' :: rest => return ([v], rest)
      | _ => none

/-- A path of names, an equals sign and a value. -/
def pair (value : Scan Toml) (cs : List Char) : Option ((List String × Toml) × List Char) := do
  let (names, rest) ← path cs
  let (v, rest) ← value (skipBlanks (← expect '=' rest))
  return ((names, v), rest)

/-- The pairs of a table on one line, at least one, up to its closing brace. -/
def pairsFrom (value : Scan Toml) : Nat → Scan (List (List String × Toml))
  | 0, _ => none
  | fuel + 1, cs => do
    let (first, rest) ← pair value cs
    match skipBlanks rest with
    | ',' :: rest =>
      let (pairs, rest) ← pairsFrom value fuel rest
      return (first :: pairs, rest)
    | '\x7d' :: rest => return ([first], rest)
    | _ => none

/-- The entries of a table on one line whose opening brace has been read. -/
def tableRest (value : Scan Toml) (cs : List Char) : Option (Toml × List Char) := do
  match skipBlanks cs with
  | '\x7d' :: rest => return (.table [], rest)
  | _ =>
    let (pairs, rest) ← pairsFrom value (cs.length + 1) cs
    return (← (inlineTable pairs).toOption, rest)

def scalar (cs : List Char) : Option (Toml × List Char) :=
  match cs with
  | [] => none
  | c :: _ =>
    if c = '"' || c = '\'' then (string cs).map fun (text, rest) => (.str (String.ofList text), rest)
    else if c = 't' then (expectAll "true".toList cs).map (.bool true, ·)
    else if c = 'f' then (expectAll "false".toList cs).map (.bool false, ·)
    else dateTime cs <|> number cs

/-- A value in which arrays and tables nest at most `depth` deep. -/
def value : Nat → List Char → Option (Toml × List Char)
  | depth, '[' :: rest =>
    match depth with
    | 0 => none
    | depth + 1 =>
      (itemsFrom (value depth) (rest.length + 1) rest).map fun (vs, rest) => (.arr vs, rest)
  | depth, '\x7b' :: rest =>
    match depth with
    | 0 => none
    | depth + 1 => tableRest (value depth) rest
  | _, cs => scalar cs

def statement (cs : List Char) : Option (Statement × List Char) :=
  match cs with
  | '[' :: '[' :: rest => do
    let (names, rest) ← path rest
    return (.item names, ← expectAll [']', ']'] rest)
  | '[' :: rest => do
    let (names, rest) ← path rest
    return (.table names, ← expect ']' rest)
  | cs => (pair (value maxDepth) cs).map fun ((names, v), rest) => (.pair names v, rest)

/-- The statements of a document, each on a line of its own. The fuel is more than their number. -/
def statementsFrom : Nat → List Char → Option (List Statement)
  | 0, _ => none
  | fuel + 1, cs =>
    match skipTrivia false cs with
    | [] => some []
    | cs => do
      let (first, rest) ← statement cs
      return first :: (← statementsFrom fuel (← endLine rest))

def withoutMark : List Char → List Char
  | '\uFEFF' :: rest => rest
  | cs => cs

def parse (s : String) : Except TomlError Toml :=
  let cs := unifyLines (withoutMark s.toList)
  match statementsFrom (cs.length + 1) cs with
  | some statements => assemble statements
  | none => .error .malformed

end Relay.Toml
