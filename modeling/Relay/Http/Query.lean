import Relay.Text.Percent

/-!
# Query parameters

A query is an ordered list of names with one value each. Reading decodes plus signs and percent groups
and joins the values of a repeated name with commas; writing percent-encodes both sides.
-/

namespace Relay.Http

/-- The parameters of a query: distinct names in order, each with its value. -/
structure Query where
  params : List (String × String)
  deriving Repr, DecidableEq

namespace Query

def empty : Query := ⟨[]⟩

def WellFormed (query : Query) : Prop := (query.params.map (·.1)).Nodup

def get? (query : Query) (name : String) : Option String := query.params.lookup name

def contains (query : Query) (name : String) : Bool := query.params.any (·.1 == name)

/-- Changes the value of a name where it stands, or adds the name at the end. -/
def upsert (name : String) (change : String → String) (value : String) (query : Query) : Query :=
  if query.contains name then
    ⟨query.params.map fun param => if param.1 == name then (param.1, change param.2) else param⟩
  else ⟨query.params ++ [(name, value)]⟩

def set (name value : String) (query : Query) : Query := query.upsert name (fun _ => value) value

/-- Adds a value to a name: behind a comma if the name has one already. -/
def add (query : Query) (param : String × String) : Query :=
  query.upsert param.1 (fun old => old ++ "," ++ param.2) param.2

def split (separator : Char) : List Char → List (List Char)
  | [] => [[]]
  | c :: rest =>
    if c = separator then [] :: split separator rest
    else match split separator rest with
      | [] => [[c]]
      | piece :: pieces => (c :: piece) :: pieces

/-- The text before and after the first place where a character stands. -/
def splitFirst (separator : Char) (cs : List Char) : List Char × List Char :=
  (cs.takeWhile (· != separator), (cs.dropWhile (· != separator)).drop 1)

/-- One side of a parameter as it was meant: plus signs are spaces, then percent groups are bytes. What
is then no text stays undecoded. -/
def decode (raw : List Char) : String :=
  let spaced := String.ofList (raw.map fun c => if c = '+' then ' ' else c)
  (Text.ofByteList? (Text.percentDecode (Text.utf8Bytes spaced))).getD spaced

def param (piece : List Char) : String × String :=
  let (name, value) := splitFirst '=' piece
  (decode name, decode value)

/-- The pieces of a query text that are not empty, after the question marks at its start. -/
def pieces (s : String) : List (List Char) :=
  (split '&' (s.toList.dropWhile (· == '?'))).filter (!·.isEmpty)

def parse (s : String) : Query := ((pieces s).map param).foldl add empty

def paramChars (param : String × String) : List Char :=
  Text.percentEncode param.1 ++ '=' :: Text.percentEncode param.2

def render (query : Query) : String :=
  String.ofList (List.intercalate ['&'] (query.params.map paramChars))

end Query
end Relay.Http
