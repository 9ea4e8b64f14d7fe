import Relay.Decimal.Numeral
import Relay.Regex.Usable
import Relay.Telemetry.Event
import Relay.Text.Alphanumeric
import Relay.Text.Blank
import Relay.Text.Digits
import Relay.Text.Utf8

/-!
# Filters of the log

A filter is a list of directives between commas. A directive names a target, a span with fields, a
level, or several of them; without a level it lets everything through.
-/

namespace Relay

def Verbosity.rank (verbosity : Verbosity) : Nat := (verbosity.map Level.rank).getD 0

def Verbosity.text : Verbosity → String
  | none => "off"
  | some .error => "error"
  | some .warn => "warn"
  | some .info => "info"
  | some .debug => "debug"
  | some .trace => "trace"

/-- All verbosities; each stands at the place of its rank. -/
def Verbosity.all : List Verbosity :=
  [none, some .error, some .warn, some .info, some .debug, some .trace]

/-- A condition on a field of a span: it is there, or it has a value that fits. -/
structure FieldMatch where
  name : String
  value : Option String
  deriving Repr, DecidableEq

structure Directive where
  target : Option String := none
  span : Option String := none
  fields : List FieldMatch := []
  level : Verbosity := some .trace
  deriving Repr, DecidableEq

namespace Directive

/-- The verbosity that a text names: by its rank, or by its name, letters in either case. -/
def levelNamed? (cs : List Char) : Option Verbosity :=
  match Text.readCount cs with
  | some n => Verbosity.all[n]?
  | none =>
    let name := String.ofList (cs.map Char.toLower)
    Verbosity.all.find? (·.text == name)

/-- What may start a directive, apart from the bracket of a span. -/
def isStart (c : Char) : Bool := c == '-' || c == ':' || c == '_' || Text.isAlphanumeric c

/-- Whether a value can be compared: it is a number, or an expression that can be used. -/
def isValue (cs : List Char) : Bool := Decimal.isNumeral cs || Regex.isUsable (String.ofList cs)

/-- A condition on a field, written as its name, or as its name, an equals sign and a value. -/
def fieldOf (cs : List Char) : Option FieldMatch :=
  if cs.isEmpty then none
  else
    let name := String.ofList (cs.takeWhile (· != '='))
    match cs.dropWhile (· != '=') with
    | [] => some ⟨name, none⟩
    | _ :: rest =>
      let value := rest.takeWhile (· != '=')
      if isValue value then some ⟨name, some (String.ofList value)⟩ else none

def byteLength (cs : List Char) : Nat := (String.ofList cs).utf8ByteSize

/-- The piece of a directive whose end and whose rest are given. Places are counted from the first
character that shows, but from the start of the directive when it is cut, so white space before it
moves the piece to the front. -/
def cut (whole inner piece rest : List Char) : Option (List Char) :=
  let stop := byteLength inner - byteLength rest
  (Text.ofBytes? ((String.ofList whole).toUTF8.extract (stop - byteLength piece) stop)).map
    String.toList

/-- A directive with the level behind its equals sign, if there is one; no level behind it means every
level. White space at either end of a directive spoils its level. -/
def withLevel (whole inner : List Char) (directive : Directive) : List Char → Option Directive
  | [] => some directive
  | '=' :: rest =>
    if inner ≠ whole then none
    else if rest.isEmpty then some directive
    else (levelNamed? rest).map fun level => { directive with level := level }
  | _ => none

/-- A directive with the span behind its opening bracket, and what follows it. -/
def withSpan (whole inner : List Char) (directive : Directive) (cs : List Char) :
    Option Directive :=
  let name := String.ofList (cs.takeWhile fun c => c != ']' && c != '\x7b')
  match cs.dropWhile fun c => c != ']' && c != '\x7b' with
  | ']' :: rest => withLevel whole inner { directive with span := some name } rest
  | '\x7b' :: rest => do
    let behind := rest.dropWhile (· != '\x7d')
    let field ← fieldOf (← cut whole inner (rest.takeWhile (· != '\x7d')) behind)
    let span := if name.isEmpty then none else some name
    match behind with
    | '\x7d' :: ']' :: rest =>
      withLevel whole inner { directive with span := span, fields := [field] } rest
    | _ => none
  | _ => none

/-- The directive that a text denotes. A text that could be a level is one. -/
def parse (cs : List Char) : Option Directive :=
  let inner := Text.trimmed cs
  match inner with
  | [] => none
  | '[' :: rest => withSpan cs inner {} rest
  | c :: _ =>
    if !isStart c then none
    else
      let target := some (String.ofList (inner.takeWhile fun c => c != '=' && c != '['))
      match inner.dropWhile fun c => c != '=' && c != '[' with
      | [] =>
        match levelNamed? cs with
        | some level => some { level := level }
        | none => some { target := some (String.ofList cs) }
      | '[' :: rest => withSpan cs inner { target := target } rest
      | rest => withLevel cs inner { target := target } rest

end Directive

structure Filter where
  directives : List Directive
  deriving Repr, DecidableEq

namespace Filter

/-- The filter that a text denotes. Nothing between two commas counts for nothing. -/
def parse (s : String) : Option Filter :=
  (((s.splitOn ",").filter (!·.isEmpty)).mapM fun part => Directive.parse part.toList).map Filter.mk

def comparesValues (filter : Filter) : Bool :=
  filter.directives.any fun directive => directive.fields.any (·.value.isSome)

def moreVerbose (a b : Verbosity) : Verbosity := if a.rank < b.rank then b else a

/-- The most verbose level that a filter can let through. Whether a value fits is known only later, so
a filter that compares values lets everything through at first. -/
def verbosity (filter : Filter) : Verbosity :=
  if filter.comparesValues then some .trace
  else (filter.directives.map (·.level)).foldl moreVerbose none

end Filter
end Relay
