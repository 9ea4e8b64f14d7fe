import Relay.Json.Basic
import Relay.Json.Token

/-!
# Reading documents

A document is read from its tokens. `nextItem` and `nextKey` say how lists and objects go on; they serve
the reading of whole documents here and of typed values elsewhere. Nesting is limited, and the limit
is what the recursion goes down on.
-/

namespace Relay.Json

abbrev Reading (α : Type) := List Token → Except ReadError (α × List Token)

def maxDepth : Nat := 127

/-- Where the next item of a list starts; `none` at the end of the list, which is left standing. -/
def nextItem (first : Bool) : List Token → Except ReadError (Option (List Token))
  | [] => .error .endInList
  | .listClose :: _ => .ok none
  | t :: rest =>
    if first then .ok (some (t :: rest))
    else match t, rest with
      | .comma, [] => .error .endInValue
      | .comma, .listClose :: _ => .error .trailingComma
      | .comma, rest => .ok (some rest)
      | _, _ => .error .expectedListEnd

def endList : List Token → Except ReadError (List Token)
  | .listClose :: rest => .ok rest
  | .comma :: .listClose :: _ => .error .trailingComma
  | [] => .error .endInList
  | _ => .error .trailingText

def Token.startsString : Token → Bool
  | .str _ | .brokenString _ _ => true
  | _ => false

/-- Where the next key of an object starts; `none` at the end of the object, which is left standing. -/
def nextKey (first : Bool) : List Token → Except ReadError (Option (List Token))
  | [] => .error .endInObject
  | .mapClose :: _ => .ok none
  | t :: rest =>
    if first then
      if t.startsString then .ok (some (t :: rest)) else .error .keyNotString
    else match t, rest with
      | .comma, [] => .error .endInValue
      | .comma, .mapClose :: _ => .error .trailingComma
      | .comma, u :: rest =>
        if u.startsString then .ok (some (u :: rest)) else .error .keyNotString
      | _, _ => .error .expectedObjectEnd

def memberName : Reading String
  | .str name :: rest => name.map fun name => (name, rest)
  | .brokenString e _ :: _ => .error e
  | _ => .error .keyNotString

def colon : List Token → Except ReadError (List Token)
  | .colon :: rest => .ok rest
  | [] => .error .endInObject
  | _ => .error .expectedColon

def itemsFrom {α : Type} (item : Reading α) : Nat → Bool → Reading (List α)
  | 0, _, _ => .error .endInList
  | fuel + 1, first, tokens => do
    match ← nextItem first tokens with
    | none => return ([], tokens.drop 1)
    | some tokens =>
      let (x, tokens) ← item tokens
      let (xs, tokens) ← itemsFrom item fuel false tokens
      return (x :: xs, tokens)

def items {α : Type} (item : Reading α) : Reading (List α) :=
  fun tokens => itemsFrom item (tokens.length + 1) true tokens

/-- Reads the members of an object up to its end, folding them into an answer. A member is handed on
after its name, before its colon. -/
def membersFrom {α : Type} (member : α → String → Reading α) : Nat → Bool → α → Reading α
  | 0, _, _, _ => .error .endInObject
  | fuel + 1, first, read, tokens => do
    match ← nextKey first tokens with
    | none => return (read, tokens.drop 1)
    | some tokens =>
      let (name, tokens) ← memberName tokens
      let (read, tokens) ← member read name tokens
      membersFrom member fuel false read tokens

def members {α : Type} (member : α → String → Reading α) (start : α) : Reading α :=
  fun tokens => membersFrom member (tokens.length + 1) true start tokens

/-- One more member of an object; it replaces an earlier one of the same name. -/
def bindMember (value : Reading Json) (read : Members Json) (name : String) :
    Reading (Members Json) := fun tokens => do
  let (v, tokens) ← value (← colon tokens)
  return (Members.insert name v read, tokens)

/-- Reads one document, in which arrays and objects nest at most `depth` deep. -/
def value : Nat → List Token → Except ReadError (Json × List Token)
  | _, [] => .error .endInValue
  | _, .null :: rest => .ok (.null, rest)
  | _, .bool b :: rest => .ok (.bool b, rest)
  | _, .num n :: rest => n.map fun n => (.num n, rest)
  | _, .str s :: rest => s.map fun s => (.str s, rest)
  | _, .brokenString e _ :: _ => .error e
  | _, .broken e _ :: _ => .error e
  | 0, .listOpen :: _ => .error .tooDeep
  | 0, .mapOpen :: _ => .error .tooDeep
  | depth + 1, .listOpen :: rest =>
    (items (value depth) rest).map fun (xs, rest) => (.arr xs, rest)
  | depth + 1, .mapOpen :: rest =>
    (members (bindMember (value depth)) [] rest).map fun (xs, rest) => (.obj xs, rest)
  | _, _ => .error .expectedValue

/-- Nothing may follow a document. -/
def finished {α : Type} : α × List Token → Except ReadError α
  | (x, []) => .ok x
  | (_, _ :: _) => .error .trailingText

def parse (s : String) : Except ReadError Json := do
  finished (← value maxDepth (tokens s))

end Relay.Json
