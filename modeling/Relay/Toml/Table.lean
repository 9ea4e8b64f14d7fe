import Relay.Toml.Value

/-!
# Tables under construction

The parts of a TOML document may come in any order, but every part comes once. `Part` keeps, for each
table, what it came from, because that decides what may still be added to it.
-/

namespace Relay.Toml

inductive Origin where
  | header
  | inner
  | dotted
  deriving Repr, DecidableEq

inductive Part where
  | value (v : Toml)
  | table (origin : Origin) (entries : List (String × Part))
  /-- Tables under one header, the last one first. -/
  | tables (items : List (List (String × Part)))

abbrev Entries := List (String × Part)

namespace Entries

def replace (name : String) (part : Part) (entries : Entries) : Entries :=
  entries.map fun entry => if entry.1 = name then (name, part) else entry

def add (name : String) (part : Part) (entries : Entries) : Except TomlError Entries :=
  if (entries.lookup name).isSome then .error .malformed else .ok (entries ++ [(name, part)])

/-- Changes the table at the end of a path of headers. Tables on the way that are not there are
made. -/
def atHeader (change : Entries → Except TomlError Entries) :
    List String → Entries → Except TomlError Entries
  | [], entries => change entries
  | name :: path, entries =>
    match entries.lookup name with
    | none => do
      return entries ++ [(name, .table .inner (← atHeader change path []))]
    | some (.table origin inner) => do
      return replace name (.table origin (← atHeader change path inner)) entries
    | some (.tables (last :: before)) => do
      return replace name (.tables ((← atHeader change path last) :: before)) entries
    | some _ => .error .malformed

/-- Adds a value at the end of a path of dotted names, the last of which is the name of the value. A
table with a header cannot be reached, and the table that gets the value must have come from dotted
names. -/
def addDotted (v : Toml) (last : String) : Bool → List String → Entries → Except TomlError Entries
  | extensible, [], entries => if extensible then add last (.value v) entries else .error .malformed
  | _, name :: path, entries =>
    match entries.lookup name with
    | none => do
      return entries ++ [(name, .table .dotted (← addDotted v last true path []))]
    | some (.table origin inner) => do
      if origin = .header then throw .malformed
      return replace name (.table origin (← addDotted v last (origin = .dotted) path inner)) entries
    | some (.tables (item :: before)) => do
      return replace name (.tables ((← addDotted v last false path item) :: before)) entries
    | some _ => .error .malformed

def addValue (names : List String) (v : Toml) (entries : Entries) : Except TomlError Entries :=
  match names.getLast? with
  | some last => addDotted v last true names.dropLast entries
  | none => .error .malformed

/-- Opens the table of a header. A table that only inner headers have made gives its entries to it and
moves to the end. -/
def openTable (name : String) (entries : Entries) : Except TomlError Entries :=
  match entries.lookup name with
  | none => .ok (entries ++ [(name, .table .header [])])
  | some (.table .inner inner) =>
    .ok (entries.filter (·.1 ≠ name) ++ [(name, .table .header inner)])
  | some _ => .error .malformed

def openItem (name : String) (entries : Entries) : Except TomlError Entries :=
  match entries.lookup name with
  | none => .ok (entries ++ [(name, .tables [[]])])
  | some (.tables items) => .ok (replace name (.tables ([] :: items)) entries)
  | some _ => .error .malformed

end Entries

mutual

def Part.toToml : Part → Toml
  | .value v => v
  | .table _ entries => .table (entriesToToml entries)
  | .tables items => .arr (itemsToToml items).reverse

def entriesToToml : List (String × Part) → List (String × Toml)
  | [] => []
  | (name, part) :: rest => (name, part.toToml) :: entriesToToml rest

def itemsToToml : List (List (String × Part)) → List Toml
  | [] => []
  | entries :: rest => .table (entriesToToml entries) :: itemsToToml rest

end

def inlineTable (pairs : List (List String × Toml)) : Except TomlError Toml := do
  let entries ← pairs.foldlM (fun entries pair => Entries.addValue pair.1 pair.2 entries) []
  return .table (entriesToToml entries)

inductive Statement where
  | pair (names : List String) (v : Toml)
  | table (names : List String)
  | item (names : List String)

/-- A document that is being put together: its parts, and the path of the table that gets the next
pairs. -/
structure Draft where
  entries : Entries := []
  current : List String := []

/-- Opens what the last name of a header names, in the table that the names before it lead to. -/
def Draft.enter (draft : Draft) (names : List String)
    (start : String → Entries → Except TomlError Entries) : Except TomlError Draft :=
  match names.getLast? with
  | some last => do
    return ⟨← Entries.atHeader (start last) names.dropLast draft.entries, names⟩
  | none => .error .malformed

def Draft.add (draft : Draft) : Statement → Except TomlError Draft
  | .pair names v => do
    return { draft with
      entries := ← Entries.atHeader (Entries.addValue names v) draft.current draft.entries }
  | .table names => draft.enter names Entries.openTable
  | .item names => draft.enter names Entries.openItem

def assemble (statements : List Statement) : Except TomlError Toml := do
  let draft ← statements.foldlM Draft.add {}
  return .table (entriesToToml draft.entries)

end Relay.Toml
