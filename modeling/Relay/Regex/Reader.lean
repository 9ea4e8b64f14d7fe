import Relay.Regex.Basic
import Relay.Text.Alphanumeric
import Relay.Text.Blank
import Relay.Text.Digits

/-!
# Reading regular expressions

An expression is read from left to right with a stack of what is open. The texts that are read hold no
closing brace, so whatever would need one is refused at its opening brace.
-/

namespace Relay.Regex

/-! ### White space -/

/-- A text without the white space and the comments at its start. -/
def dropBlanks (inComment : Bool) : List Char → List Char
  | [] => []
  | c :: rest =>
    if inComment then dropBlanks (c != '\n') rest
    else if Text.isBlank c then dropBlanks false rest
    else if c = '#' then dropBlanks true rest
    else c :: rest

def onward (spaced : Bool) (cs : List Char) : List Char := if spaced then dropBlanks false cs else cs

/-- The next character that counts. Of a comment the first character that shows counts. -/
def peek (spaced : Bool) (cs : List Char) : Option Char :=
  if spaced then
    match cs.dropWhile Text.isBlank with
    | '#' :: rest => (rest.dropWhile Text.isBlank).head?
    | rest => rest.head?
  else cs.head?

/-! ### Escapes -/

def hexNumber (spaced : Bool) : Nat → Nat → List Char → Option (Nat × List Char)
  | 0, value, cs => some (value, cs)
  | count + 1, value, c :: rest => do
    let digit ← Text.hexValue c
    hexNumber spaced count (16 * value + digit) (onward spaced rest)
  | _, _, [] => none

def numbered (spaced : Bool) (count : Nat) (cs : List Char) : Option (Regex × List Char) := do
  let (value, rest) ← hexNumber spaced count 0 (onward spaced cs)
  if value.isValidChar then return (.char (Char.ofNat value) (count == 2), rest) else none

/-- Letters that stand for a control behind a backslash. -/
def controls : List (Char × Char) := [
  ('a', '\x07'), ('f', '\x0c'), ('t', '\t'), ('n', '\n'), ('r', '\r'), ('v', '\x0b')]

def escape (spaced : Bool) : List Char → Option (Regex × List Char)
  | [] => none
  | 'x' :: rest => numbered spaced 2 rest
  | 'u' :: rest => numbered spaced 4 rest
  | 'U' :: rest => numbered spaced 8 rest
  | c :: rest =>
    if c = 'p' || c = 'P' then
      match onward spaced rest with
      | [] => none
      | letter :: rest =>
        if letter = '\x7b' || letter = '\\' then none
        else some (.category letter, onward spaced rest)
    else if c = 'd' || c = 's' || c = 'w' then some (.shorthand false, rest)
    else if c = 'D' || c = 'S' || c = 'W' then some (.shorthand true, rest)
    else if c = 'A' || c = 'z' then some (.anchor, rest)
    else if c = 'b' || c = 'B' || c = '<' || c = '>' then some (.wordEdge, rest)
    else match controls.lookup c with
      | some control => some (.char control false, rest)
      | none => if c.toNat < 128 && !c.isAlphanum then some (.char c false, rest) else none

/-! ### Classes -/

def classNames : List String := [
  "alnum", "alpha", "ascii", "blank", "cntrl", "digit", "graph", "lower", "print", "punct", "space",
  "upper", "word", "xdigit"]

/-- A class of ASCII characters, behind its opening bracket. -/
def namedClass (cs : List Char) : Option (Item × List Char) :=
  match cs with
  | ':' :: rest =>
    let (negated, rest) := match rest with
      | '^' :: rest => (true, rest)
      | rest => (false, rest)
    match rest.dropWhile (· != ':') with
    | ':' :: ']' :: behind =>
      if classNames.contains (String.ofList (rest.takeWhile (· != ':'))) then
        some (.named negated, behind)
      else none
    | _ => none
  | _ => none

/-- What is open inside a class: a bracket with what stood before it, or a combination with its left
side. -/
inductive Frame where
  | bracket (negated : Bool) (before : List Item)
  | combination (left : Item)

/-- A class between brackets that is being read, its last items first. -/
structure InClass where
  frames : List Frame
  items : List Item := []

namespace InClass

/-- What has been read since the last bracket was opened, and the frames around it. -/
def finished (state : InClass) : Item × List Frame :=
  let item := Item.ofItems state.items.reverse
  match state.frames with
  | .combination left :: frames => (.combined left item, frames)
  | frames => (item, frames)

def combine (state : InClass) : InClass :=
  let (left, frames) := state.finished
  { frames := .combination left :: frames }

def add (state : InClass) (item : Item) : InClass := { state with items := item :: state.items }

def hyphens (spaced : Bool) : Nat → List Item → List Char → List Item × List Char
  | fuel + 1, items, '-' :: rest =>
    hyphens spaced fuel (.char '-' :: items) (onward spaced rest)
  | _, items, cs => (items, cs)

/-- The state behind an opening bracket. A closing bracket that comes first stands for itself. -/
def enter (spaced : Bool) (state : InClass) (cs : List Char) : InClass × List Char :=
  let (negated, cs) := match onward spaced cs with
    | '^' :: rest => (true, onward spaced rest)
    | cs => (false, cs)
  let frames := .bracket negated state.items :: state.frames
  match hyphens spaced cs.length [] cs with
  | ([], ']' :: rest) => (⟨frames, [.char ']']⟩, onward spaced rest)
  | (items, cs) => (⟨frames, items⟩, cs)

def atom (spaced : Bool) : List Char → Option (Regex × List Char)
  | [] => none
  | '\\' :: rest => escape spaced rest
  | c :: rest => some (.char c false, rest)

def itemOrRange (spaced : Bool) (cs : List Char) : Option (Item × List Char) := do
  let (first, rest) ← atom spaced cs
  match onward spaced rest with
  | [] => none
  | '-' :: behind =>
    let next := peek spaced behind
    if next = some ']' || next = some '-' then return (← first.toItem?, '-' :: behind)
    match first, ← atom spaced (onward spaced behind) with
    | .char a _, (.char b _, rest) => if a ≤ b then return (.range a b, rest) else none
    | _, _ => none
  | rest => return (← first.toItem?, rest)

/-- The rest of a class, up to its closing bracket. -/
def readFrom (spaced : Bool) : Nat → InClass → List Char → Option (Regex × List Char)
  | 0, _, _ => none
  | fuel + 1, state, cs =>
    match onward spaced cs with
    | [] => none
    | '[' :: rest =>
      match namedClass rest with
      | some (item, rest) => readFrom spaced fuel (state.add item) rest
      | none =>
        let (state, rest) := state.enter spaced rest
        readFrom spaced fuel state rest
    | ']' :: rest =>
      match state.finished with
      | (item, [.bracket negated _]) => some (.bracketed negated item, rest)
      | (item, .bracket negated before :: frames) =>
        readFrom spaced fuel ⟨frames, .bracketed negated item :: before⟩ rest
      | _ => none
    | '&' :: '&' :: rest => readFrom spaced fuel state.combine rest
    | '-' :: '-' :: rest => readFrom spaced fuel state.combine rest
    | '~' :: '~' :: rest => readFrom spaced fuel state.combine rest
    | cs => do
      let (item, rest) ← itemOrRange spaced cs
      readFrom spaced fuel (state.add item) rest

def read (spaced : Bool) (cs : List Char) : Option (Regex × List Char) :=
  let (state, rest) := enter spaced { frames := [] } cs
  readFrom spaced (rest.length + 1) state rest

end InClass

/-! ### Groups -/

/-- The changes of flags behind a question mark, the character that ends them, and the rest. A minus
sign turns the flags behind it off; it stands once, and not at the end. -/
def readChanges (minus atEnd : Bool) (changes : Changes) :
    List Char → Option (Changes × Char × List Char)
  | [] => none
  | c :: rest =>
    if c = ':' || c = ')' then
      if atEnd then none else some (changes, c, rest)
    else if c = '-' then
      if minus then none else readChanges true true changes rest
    else do
      let flag ← Flag.ofChar? c
      if (changes.lookup flag).isSome then none
      else readChanges minus false (changes ++ [(flag, !minus)]) rest

def isGroupName : List Char → Bool
  | [] => false
  | c :: rest =>
    (c == '_' || Text.isAlphabetic c) &&
      rest.all fun c => c == '_' || c == '.' || c == '[' || c == ']' || Text.isAlphanumeric c

/-! ### Expressions -/

/-- What has been read at one level of groups: the options before the last bar, and the parts behind it,
the last ones first. -/
structure Level where
  options : List Regex := []
  parts : List Regex := []

def Level.body (level : Level) : Regex :=
  let last := ofParts level.parts.reverse
  if level.options.isEmpty then last else .choice (level.options.reverse ++ [last])

structure Outer where
  level : Level
  changes : Changes
  spaced : Bool

structure InRegex where
  outer : List Outer := []
  level : Level := {}
  spaced : Bool := false
  names : List (List Char) := []

namespace InRegex

def add (state : InRegex) (part : Regex) : InRegex :=
  { state with level := { state.level with parts := part :: state.level.parts } }

def enter (state : InRegex) (changes : Changes) : InRegex :=
  { state with
    outer := ⟨state.level, changes, state.spaced⟩ :: state.outer
    level := {}
    spaced := changes.get .spaced state.spaced }

/-- The state behind the closing parenthesis of a group. -/
def leave (state : InRegex) : Option InRegex :=
  match state.outer with
  | [] => none
  | around :: outer =>
    let behind := { state with outer := outer, level := around.level, spaced := around.spaced }
    some (behind.add (.group around.changes state.level.body))

/-- The state inside a group with a name, which must be new. -/
def enterNamed (state : InRegex) (cs : List Char) : Option (InRegex × List Char) :=
  let name := cs.takeWhile (· != '>')
  match cs.dropWhile (· != '>') with
  | _ :: rest =>
    if isGroupName name && !state.names.contains name then
      some ({ state with names := name :: state.names }.enter [], rest)
    else none
  | [] => none

/-- The state behind an opening parenthesis. Flags without a group hold up to the end of the group
around them. -/
def openGroup (state : InRegex) (cs : List Char) : Option (InRegex × List Char) :=
  match onward state.spaced cs with
  | '?' :: 'P' :: '<' :: rest => state.enterNamed rest
  | '?' :: '<' :: rest => state.enterNamed rest
  | '?' :: rest => do
    let (changes, last, rest) ← readChanges false false [] rest
    if last = ':' then return (state.enter changes, rest)
    if changes.isEmpty then none
    return ({ state with spaced := changes.get .spaced state.spaced }.add (.flags changes), rest)
  | cs => some (state.enter [], cs)

/-- The state with the last part repeated. There must be one that is more than flags. -/
def repeatLast (state : InRegex) : Option InRegex :=
  match state.level.parts with
  | [] | .empty :: _ | .flags _ :: _ => none
  | part :: before => some { state with level := { state.level with parts := .repeated part :: before } }

/-- Reads on from a character that counts. A question mark behind a repetition belongs to it. -/
def step (state : InRegex) : List Char → Option (InRegex × List Char)
  | [] => none
  | '(' :: rest => state.openGroup rest
  | ')' :: rest => state.leave.map (·, rest)
  | '|' :: rest =>
    let option := ofParts state.level.parts.reverse
    some ({ state with level := { options := option :: state.level.options } }, rest)
  | '[' :: rest => (InClass.read state.spaced rest).map fun (part, rest) => (state.add part, rest)
  | '\\' :: rest => (escape state.spaced rest).map fun (part, rest) => (state.add part, rest)
  | '.' :: rest => some (state.add .dot, rest)
  | c :: rest =>
    if c = '?' || c = '*' || c = '+' then
      let rest := match rest with
        | '?' :: rest => rest
        | rest => rest
      state.repeatLast.map (·, rest)
    else if c = '^' || c = '$' then some (state.add .anchor, rest)
    else if c = '\x7b' then none
    else some (state.add (.char c false), rest)

/-- The expression that the rest of a text completes. The fuel is more than its length. -/
def readFrom : Nat → InRegex → List Char → Option Regex
  | 0, _, _ => none
  | fuel + 1, state, cs =>
    match onward state.spaced cs with
    | [] => if state.outer.isEmpty then some state.level.body else none
    | cs => do
      let (state, rest) ← state.step cs
      readFrom fuel state rest

end InRegex

def parse (s : String) : Option Regex :=
  InRegex.readFrom (s.toList.length + 1) {} s.toList

end Relay.Regex
