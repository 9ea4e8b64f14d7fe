import Relay.Json.Path
import Relay.Json.Printer
import Relay.Text.Mask

/-!
# Edits of documents

The five ways in which a document is edited. Four of them visit a list of locations in order and say of
the node there whether it becomes another one; the fifth renames members wherever they are.
-/

namespace Relay.Json

/-- A document under edit, and whether any node of it has become another one. -/
structure Draft where
  document : Json
  changed : Bool

def Draft.start (document : Json) : Draft := ⟨document, false⟩

/-- Puts the answer of `f` in place of the node at a location, if there is a node and an answer. -/
def Draft.change (f : Json → Option Json) (draft : Draft) (location : Location) : Draft :=
  match (draft.document.get? location).bind f with
  | some node => ⟨draft.document.update (fun _ => node) location, true⟩
  | none => draft

def Draft.changeAll (f : Json → Option Json) (draft : Draft) (locations : List Location) : Draft :=
  locations.foldl (Draft.change f) draft

/-! ### Replacing values -/

/-- The string that takes the place of a node. With an expected text only a node of that text is
replaced. -/
def replacement (expected : Option String) (value : String) (node : Json) : Option Json :=
  match expected with
  | some text => if node.plainText = text then some (.str value) else none
  | none => some (.str value)

def replaceMembers (expected : Option String) (value : String) (locations : List Location)
    (document : Json) : Draft :=
  (Draft.start document).changeAll (replacement expected value) (locations.filter Location.isMember)

/-! ### Merging -/

/-- The object with every member of `metadata` bound in it; `none` for other nodes and for nothing to
bind. -/
def merged (metadata : Members Json) : Json → Option Json
  | .obj members =>
    if metadata.isEmpty then none
    else some (.obj (metadata.foldl (fun read member => Members.insert member.1 member.2 read) members))
  | _ => none

def mergeAt (metadata : Members Json) (locations : List Location) (document : Json) : Draft :=
  (Draft.start document).changeAll (merged metadata) locations

/-! ### Masking -/

def scalarText : Json → Option String
  | .str s => some s
  | .num n => some n.text
  | .bool b => some (if b then "true" else "false")
  | _ => none

/-- The masked form of a scalar, if it differs from the scalar. Blank texts stay. -/
def maskedNode (node : Json) : Option Json :=
  match scalarText node with
  | none => none
  | some text =>
    if Text.isBlankText text then none
    else
      let masked : Json := .str (Text.mask text)
      if masked == node then none else some masked

def maskPath (draft : Draft) (path : Path) : Draft :=
  draft.changeAll maskedNode ((path.locate draft.document).filter Location.isMember)

/-! ### Removing -/

/-- The object without a member; `none` where there is no such member. -/
def without (key : String) : Json → Option Json
  | .obj members =>
    if (Members.get? key members).isSome then some (.obj (Members.erase key members)) else none
  | _ => none

/-- Removes the member at a location. Elements of lists and the root stay. -/
def removeAt (draft : Draft) (location : Location) : Draft :=
  match location.getLast? with
  | some (.key name) => draft.change (without name) location.dropLast
  | _ => draft

def removeMembers (locations : List Location) (document : Json) : Draft :=
  locations.foldl removeAt (Draft.start document)

/-! ### Renaming -/

mutual

/-- Renames every member called `old`. Its value moves as it is and takes the place of a member that
already has the new name. -/
def renamed (old new : String) : Json → Json
  | .arr items => .arr (renamedItems old new items)
  | .obj members =>
    let rest := renamedMembers old new members
    match Members.get? old members with
    | some value => .obj (Members.insert new value rest)
    | none => .obj rest
  | v => v

def renamedItems (old new : String) : List Json → List Json
  | [] => []
  | v :: rest => renamed old new v :: renamedItems old new rest

/-- The members not called `old`, with the members inside them renamed. -/
def renamedMembers (old new : String) : List (String × Json) → List (String × Json)
  | [] => []
  | (k, v) :: rest =>
    if k = old then renamedMembers old new rest
    else (k, renamed old new v) :: renamedMembers old new rest

end

mutual

def renameCount (old : String) : Json → Nat
  | .arr items => renameCountItems old items
  | .obj members => renameCountMembers old members
  | _ => 0

def renameCountItems (old : String) : List Json → Nat
  | [] => 0
  | v :: rest => renameCount old v + renameCountItems old rest

def renameCountMembers (old : String) : List (String × Json) → Nat
  | [] => 0
  | (k, v) :: rest =>
    (if k = old then 1 else renameCount old v) + renameCountMembers old rest

end

end Relay.Json
