import Relay.Json.Reader

/-!
# Passing over a value

A value that nobody asks for is passed over token by token. Nesting is not limited, and of strings and
numbers only the form is looked at.
-/

namespace Relay.Json

/-- A list or an object that is still open. -/
inductive Frame where
  | list
  | map

inductive Skipping where
  | value
  | firstItem
  | firstKey
  | key
  | colon
  | next

namespace Skipping

def start (frames : List Frame) : Token → Except ReadError (Skipping × List Frame)
  | .null | .bool _ | .num _ | .str _ => .ok (.next, frames)
  | .listOpen => .ok (.firstItem, .list :: frames)
  | .mapOpen => .ok (.firstKey, .map :: frames)
  | .brokenString _ e | .broken _ e => .error e
  | _ => .error .expectedValue

def name (frames : List Frame) : Token → Except ReadError (Skipping × List Frame)
  | .str _ => .ok (.colon, frames)
  | .brokenString _ e => .error e
  | _ => .error .keyNotString

def step (frames : List Frame) : Skipping → Token → Except ReadError (Skipping × List Frame)
  | .value, t => start frames t
  | .firstItem, .listClose => .ok (.next, frames.drop 1)
  | .firstItem, t => start frames t
  | .firstKey, .mapClose => .ok (.next, frames.drop 1)
  | .firstKey, t => name frames t
  | .key, t => name frames t
  | .colon, .colon => .ok (.value, frames)
  | .colon, _ => .error .expectedColon
  | .next, t =>
    match frames, t with
    | .list :: _, .comma => .ok (.value, frames)
    | .map :: _, .comma => .ok (.key, frames)
    | .list :: frames, .listClose => .ok (.next, frames)
    | .map :: frames, .mapClose => .ok (.next, frames)
    | .list :: _, _ => .error .expectedListEnd
    | _, _ => .error .expectedObjectEnd

def ending (frames : List Frame) : Skipping → ReadError
  | .value => .endInValue
  | .firstItem => .endInList
  | .firstKey | .key | .colon => .endInObject
  | .next => match frames with
    | .list :: _ => .endInList
    | _ => .endInObject

def run (mode : Skipping) (frames : List Frame) : List Token → Except ReadError (List Token)
  | [] => .error (mode.ending frames)
  | t :: rest =>
    match mode.step frames t with
    | .error e => .error e
    | .ok (.next, []) => .ok rest
    | .ok (mode, frames) => run mode frames rest

end Skipping

def skip : List Token → Except ReadError (List Token) := Skipping.run .value []

end Relay.Json
