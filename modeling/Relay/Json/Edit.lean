import Relay.Json.Edit.Document
import Relay.Json.Path.Reader
import Relay.Json.Reader
import Relay.Telemetry.Event
import Relay.Time.Instant

/-!
# Edits of texts

An edit is applied to the text of a document. `attempt` says why it could not be applied; `apply` then
hands the text back as it was. An edit that changes nothing hands back the same text, not a new
spelling of it.
-/

namespace Relay.Json

def timestampMark : String := "\x7b\x7btimestamp\x7d\x7d"

inductive Edit where
  /-- Replaces the members that a path names, those of the expected text only when there is one. -/
  | replace (path : String) (expected : Option String) (value : String)
  | inject (path : String) (metadata : Members Json) (now : Instant)
  /-- Masks the scalar members that each of the paths names. -/
  | mask (paths : List String)
  | remove (path : String)
  | rename (old new : String)

inductive EditError where
  | unreadable (error : ReadError)
  | badPath (path : String) (fault : PathFault)
  | noNodes (path : String)
  deriving Repr, DecidableEq

def EditError.message : EditError → String
  | unreadable error => "invalid JSON document: " ++ error.message
  | badPath path fault => "invalid JSON path '" ++ path ++ "': " ++ fault.message
  | noNodes path => "no nodes found at path '" ++ path ++ "'"

def readPath (path : String) : Except EditError Path :=
  (Path.parse path).mapError (EditError.badPath path)

/-- The locations that a path names in a document, at least one. -/
def located (path : String) (document : Json) : Except EditError (List Location) := do
  match (← readPath path).locate document with
  | [] => throw (.noNodes path)
  | locations => return locations

/-- Metadata with the time in place of the mark for it. Only whole values count as marks. -/
def stamped (now : Instant) (metadata : Members Json) : Members Json :=
  metadata.map fun member =>
    match member.2 with
    | .str s => if s = timestampMark then (member.1, .str now.text) else member
    | _ => member

/-- Masks along a list of paths, in order. The first malformed path ends it. -/
def maskPaths (draft : Draft) : List String → Except EditError Draft
  | [] => .ok draft
  | path :: rest => do
    let path ← readPath path
    maskPaths (maskPath draft path) rest

def Edit.draft (edit : Edit) (document : Json) : Except EditError Draft :=
  match edit with
  | .replace path expected value => do
    return replaceMembers expected value (← located path document) document
  | .inject path metadata now => do
    return mergeAt (stamped now metadata) (← located path document) document
  | .mask paths => maskPaths (.start document) paths
  | .remove path => do return removeMembers (← located path document) document
  | .rename old new =>
    if old = new then .ok (.start document)
    else .ok ⟨renamed old new document, renameCount old document != 0⟩

/-- The text of a draft: the given text when nothing changed. -/
def Draft.finish (draft : Draft) (text : String) : String :=
  if draft.changed then draft.document.render else text

/-- The text after an edit, or why the edit cannot be applied. -/
def Edit.attempt (edit : Edit) (text : String) : Except EditError String := do
  let document ← (parse text).mapError EditError.unreadable
  return (← edit.draft document).finish text

/-- What an attempt reports: how many members a renaming moved. -/
def Edit.attemptEvents (edit : Edit) (text : String) : List Event :=
  match edit, parse text with
  | .rename old new, .ok document =>
    if old = new then [] else [.membersRenamed old new (renameCount old document)]
  | _, _ => []

def Edit.operation : Edit → String
  | replace .. => "modify_value"
  | inject .. => "inject_metadata"
  | mask .. => "mask_fields"
  | remove .. => "remove_field"
  | rename .. => "rename_field"

/-- What applying an edit reports: also why it could not be applied. -/
def Edit.applyEvents (edit : Edit) (text : String) : List Event :=
  edit.attemptEvents text ++
    match edit.attempt text with
    | .ok _ => []
    | .error (.noNodes path) => [.noNodes edit.operation path]
    | .error error => [.editFailed edit.operation error.message]

/-- The text after an edit; the same text when the edit cannot be applied. -/
def Edit.apply (edit : Edit) (text : String) : String :=
  match edit.attempt text with
  | .ok text => text
  | .error _ => text

end Relay.Json
