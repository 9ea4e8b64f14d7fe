import Relay.Settings.Environment
import Relay.Text.Alphanumeric
import Relay.Text.Blank
import Relay.Text.Utf8

/-!
# Files of variables

A file of variables holds one definition a line, a name, an equals sign and a value. A value may be
quoted and may then go over several lines; a dollar sign stands for the value of another variable.
Variables that the environment has keep their values, and of several definitions of a name the first
one holds.
-/

namespace Relay.DotEnv

/-! ### Logical lines -/

/-- Where the reading of a line stands: outside of quotations, in one of either kind, behind a
backslash, or behind a blank. -/
inductive LineState where
  | plain
  | escaped
  | single
  | singleEscaped
  | double
  | doubleEscaped
  | blank
  deriving Repr, DecidableEq

/-- The state after a character that stands outside of quotations. -/
def LineState.outside (c : Char) : LineState :=
  if c = '\\' then escaped
  else if c = '"' then double
  else if c = '\'' then single
  else plain

/-- The state after a character; nothing at the start of a comment. -/
def LineState.next (state : LineState) (c : Char) : Option LineState :=
  match state with
  | plain =>
    if Text.isBlank c && c != '\n' && c != '\r' then some blank else some (outside c)
  | blank => if c = '#' then none else some (outside c)
  | escaped => some plain
  | single => some (if c = '\\' then singleEscaped else if c = '\'' then plain else single)
  | singleEscaped => some single
  | double => some (if c = '\\' then doubleEscaped else if c = '"' then plain else double)
  | doubleEscaped => some double

/-- What a physical line adds to a logical one: its text, up to a comment if there is one, and the
state at its end, which is nothing after a comment. -/
def scan : LineState → List Char → List Char × Option LineState
  | state, [] => ([], some state)
  | state, c :: rest =>
    match state.next c with
    | none => ([], none)
    | some state =>
      let (text, last) := scan state rest
      (c :: text, last)

/-- The physical lines of a text, each with the line feed at its end. -/
def physicalLines : List Char → List (List Char)
  | [] => []
  | c :: rest =>
    if c = '\n' then [c] :: physicalLines rest
    else match physicalLines rest with
      | [] => [[c]]
      | line :: lines => (c :: line) :: lines

/-- A line without the line feed at its end, and without the carriage return before it. -/
def chomp (line : List Char) : List Char :=
  match line.reverse with
  | '\n' :: '\r' :: rest => rest.reverse
  | '\n' :: rest => rest.reverse
  | _ => line

/-- The logical lines, given what has been read of the first of them. A line whose first character that
shows is a number sign counts as empty. A text that ends inside a logical line has none. -/
def logicalLines (begun : List Char) (state : LineState) :
    List (List Char) → Except SettingsError (List (List Char))
  | [] => if state = .plain then .ok [] else .error .dotEnv
  | line :: rest =>
    let whole := begun ++ line
    if (whole.dropWhile Text.isBlank).head? = some '#' then
      (logicalLines [] .plain rest).map ([] :: ·)
    else match scan state line with
      | (text, none) => (logicalLines [] .plain rest).map ((begun ++ text) :: ·)
      | (_, some .plain) => (logicalLines [] .plain rest).map (chomp whole :: ·)
      | (_, some state) => logicalLines whole state rest

/-! ### Values -/

inductive Mode where
  | plain
  | single
  | double
  /-- Behind a backslash, in double quotation marks or not. -/
  | escaped (quoted : Bool)
  /-- In the name of a variable behind a dollar sign. -/
  | name (quoted : Bool) (name : List Char)
  /-- In such a name between braces. -/
  | braced (quoted : Bool) (name : List Char)
  | ended
  deriving Repr, DecidableEq

def Mode.back (quoted : Bool) : Mode := if quoted then double else plain

/-- What stands for a name: the value in the environment, else that of the latest definition, else
nothing. -/
def lookup (environment defined : Environment) (name : List Char) : List Char :=
  let name := String.ofList name
  ((environment.value? name <|> defined.lookup name).getD "").toList

/-- What one character adds to a value, and the mode after it. -/
def step (value : List Char → List Char) (mode : Mode) (c : Char) :
    Except SettingsError (List Char × Mode) :=
  match mode with
  | .ended => if c = ' ' || c = '\t' then .ok ([], .ended) else .error .dotEnv
  | .escaped quoted =>
    if c = '\\' || c = '\'' || c = '"' || c = '$' || c = ' ' then .ok ([c], .back quoted)
    else if c = 'n' then .ok (['\n'], .back quoted)
    else .error .dotEnv
  | .single => .ok (if c = '\'' then ([], .plain) else ([c], .single))
  | .name quoted name =>
    if Text.isAlphanumeric c then .ok ([], .name quoted (name ++ [c]))
    else if c = '\x7b' && name.isEmpty then .ok ([], .braced quoted [])
    else if c = '$' then .ok (value name, .name quoted [])
    else .ok (value name ++ [c], .back quoted)
  | .braced quoted name =>
    if c = '\x7d' then .ok (value name, .back quoted)
    else .ok ([], .braced quoted (name ++ [c]))
  | .double =>
    .ok <|
      if c = '$' then ([], .name true [])
      else if c = '"' then ([], .plain)
      else if c = '\\' then ([], .escaped true)
      else ([c], .double)
  | .plain =>
    .ok <|
      if c = '$' then ([], .name false [])
      else if c = '\'' then ([], .single)
      else if c = '"' then ([], .double)
      else if c = '\\' then ([], .escaped false)
      else if c = ' ' || c = '\t' then ([], .ended)
      else ([c], .plain)

def valueFrom (value : List Char → List Char) : Mode → List Char → Except SettingsError (List Char)
  | .ended, '#' :: _ => .ok []
  | mode, c :: rest => do
    let (added, mode) ← step value mode c
    return added ++ (← valueFrom value mode rest)
  | .single, [] | .double, [] | .braced .., [] | .name true _, [] | .escaped true, [] =>
    .error .dotEnv
  | .name false name, [] => .ok (value name)
  | _, [] => .ok []

/-! ### Definitions -/

def isNameStart (c : Char) : Bool := c.isAlpha || c == '_'

def isNameChar (c : Char) : Bool := c.isAlphanum || c == '_' || c == '.'

/-- The name at the start of a line, and the rest behind the white space after it. -/
def takeName (line : List Char) : Except SettingsError (List Char × List Char) :=
  if line.head?.any isNameStart then
    .ok (line.takeWhile isNameChar, (line.dropWhile isNameChar).dropWhile Text.isBlank)
  else .error .dotEnv

/-- The rest of a line behind an equals sign and white space. -/
def takeEquals : List Char → Except SettingsError (List Char)
  | '=' :: rest => .ok (rest.dropWhile Text.isBlank)
  | _ => .error .dotEnv

/-- The name that a line defines and the text of its value. The word `export` may stand before the
name; it is a name itself if an equals sign follows it. -/
def takeDefinition (line : List Char) : Except SettingsError (List Char × List Char) := do
  let (name, rest) ← takeName line
  if name = "export".toList && rest.head? ≠ some '=' then
    let (name, rest) ← takeName rest
    return (name, ← takeEquals rest)
  return (name, ← takeEquals rest)

/-- The definition on a logical line, if there is one, given the environment and the definitions before
it, the latest first. -/
def definition (environment defined : Environment) (line : List Char) :
    Except SettingsError (Option (String × String)) :=
  let line := Text.trimmed line
  if line.isEmpty || line.head? = some '#' then .ok none
  else do
    let (name, text) ← takeDefinition line
    let value ←
      if text.head? = some '#' then pure []
      else valueFrom (lookup environment defined) .plain text
    return some (String.ofList name, String.ofList value)

/-- The environment with the definitions of logical lines, given those of the lines before. -/
def define (environment defined : Environment) :
    List (List Char) → Except SettingsError Environment
  | [] => .ok environment
  | line :: rest => do
    match ← definition environment defined line with
    | none => define environment defined rest
    | some (name, value) =>
      let environment :=
        if (environment.value? name).isSome then environment else environment ++ [(name, value)]
      define environment ((name, value) :: defined) rest

/-- The characters of a text without a byte order mark at its start. -/
def withoutMark (cs : List Char) : List Char :=
  match cs with
  | '\uFEFF' :: rest => rest
  | cs => cs

/-- The environment with the definitions of a file. -/
def load (environment : Environment) (file : ByteArray) : Except SettingsError Environment := do
  match Text.ofBytes? file with
  | none => .error .dotEnv
  | some text =>
    define environment [] (← logicalLines [] .plain (physicalLines (withoutMark text.toList)))

end Relay.DotEnv
