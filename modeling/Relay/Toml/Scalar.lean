import Relay.Toml.Lexeme
import Relay.Toml.Value

/-!
# Numbers and dates of TOML

Underscores may stand between the digits of a number. A whole number must fit 64 bits with a sign. A
date is kept as text, in one form for each date.
-/

namespace Relay.Toml

/-! ### Numbers -/

/-- Digits of a kind, single underscores between them. -/
def digitsFrom (isDigit : Char → Bool) : Scan (List Char)
  | [] => some ([], [])
  | c :: rest =>
    if isDigit c then (digitsFrom isDigit rest).map fun (digits, rest) => (c :: digits, rest)
    else match c, rest with
      | '_', d :: rest =>
        if isDigit d then (digitsFrom isDigit rest).map fun (digits, rest) => (d :: digits, rest)
        else none
      | '_', [] => none
      | c, rest => some ([], c :: rest)

def digits (isDigit : Char → Bool) (cs : List Char) : Option (List Char × List Char) :=
  if cs.head?.any isDigit then digitsFrom isDigit cs else none

def whole (n : Int) : Option Toml :=
  if -9223372036854775808 ≤ n ∧ n ≤ 9223372036854775807 then some (.int n) else none

def sign : List Char → Bool × List Char
  | '-' :: rest => (true, rest)
  | '+' :: rest => (false, rest)
  | rest => (false, rest)

/-- The digits before the point: a leading zero stands alone. -/
def leading : Scan (List Char)
  | '0' :: rest => some (['0'], rest)
  | rest => digits Char.isDigit rest

def fraction : Scan (Option (List Char))
  | '.' :: rest => (digits Char.isDigit rest).map fun (digits, rest) => (some digits, rest)
  | rest => some (none, rest)

def power (cs : List Char) : Option (Option Int × List Char) :=
  match cs with
  | c :: rest =>
    if c = 'e' || c = 'E' then
      let (negative, rest) := sign rest
      (digits Char.isDigit rest).map fun (digits, rest) =>
        let n : Int := Text.digitsValue digits
        (some (if negative then -n else n), rest)
    else some (none, cs)
  | [] => some (none, cs)

/-- A number in base ten, whole unless it has a fraction or a power. A float that is too large is
refused unless it is negative. -/
def decimal (cs : List Char) : Option (Toml × List Char) := do
  let (negative, rest) := sign cs
  let (units, rest) ← leading rest
  let (fraction, rest) ← fraction rest
  let (power, rest) ← power rest
  match fraction, power with
  | none, none =>
    let n : Int := Text.digitsValue units
    return (← whole (if negative then -n else n), rest)
  | _, _ =>
    let fraction := fraction.getD []
    let x := Binary64.ofDecimal negative (Text.digitsValue (units ++ fraction))
      (power.getD 0 - fraction.length)
    if x.isNone && !negative then none
    return (.float x, rest)

def valueIn (base : Nat) (digits : List Char) : Int :=
  digits.foldl (fun n c => n * base + (Text.hexValue c).getD 0) 0

/-- Whether a character is a digit in a base up to sixteen. -/
def isDigitIn (base : Nat) (c : Char) : Bool := (Text.hexValue c).any (· < base)

def based (base : Nat) (cs : List Char) : Option (Toml × List Char) := do
  let (digits, rest) ← digits (isDigitIn base) cs
  return (← whole (valueIn base digits), rest)

def number (cs : List Char) : Option (Toml × List Char) :=
  match cs with
  | '0' :: 'x' :: rest => based 16 rest
  | '0' :: 'o' :: rest => based 8 rest
  | '0' :: 'b' :: rest => based 2 rest
  | cs =>
    match (sign cs).2 with
    | 'i' :: 'n' :: 'f' :: rest => some (.float none, rest)
    | 'n' :: 'a' :: 'n' :: rest => some (.float none, rest)
    | _ => decimal cs

/-! ### Dates -/

def field (width least most : Nat) (cs : List Char) : Option (List Char × List Char) :=
  let digits := cs.take width
  let n := Text.digitsValue digits
  if digits.length = width && digits.all Char.isDigit && least ≤ n && n ≤ most then
    some (digits, cs.drop width)
  else none

def monthLength (year month : Nat) : Nat :=
  if month = 2 then if year % 4 = 0 ∧ (year % 100 ≠ 0 ∨ year % 400 = 0) then 29 else 28
  else if month = 4 ∨ month = 6 ∨ month = 9 ∨ month = 11 then 30
  else 31

def day (cs : List Char) : Option (List Char × List Char) := do
  let (year, rest) ← field 4 0 9999 cs
  let (month, rest) ← field 2 1 12 (← expect '-' rest)
  let most := monthLength (Text.digitsValue year) (Text.digitsValue month)
  let (day, rest) ← field 2 1 most (← expect '-' rest)
  return (year ++ '-' :: month ++ '-' :: day, rest)

/-- The part of a second, without zeros at its end and cut after nine places. -/
def secondPart (cs : List Char) : List Char × List Char :=
  match cs with
  | '.' :: rest =>
    let digits := rest.takeWhile Char.isDigit
    let shown := ((digits.take 9).reverse.dropWhile (· == '0')).reverse
    if digits.isEmpty then ([], cs)
    else (if shown.isEmpty then [] else '.' :: shown, rest.dropWhile Char.isDigit)
  | cs => ([], cs)

def time (cs : List Char) : Option (List Char × List Char) := do
  let (hour, rest) ← field 2 0 23 cs
  let (minute, rest) ← field 2 0 59 (← expect ':' rest)
  let (second, rest) ← field 2 0 60 (← expect ':' rest)
  let (part, rest) := secondPart rest
  return (hour ++ ':' :: minute ++ ':' :: second ++ part, rest)

/-- The distance from universal time, if it is given. A distance of nothing has a plus sign. -/
def offset (cs : List Char) : List Char × List Char :=
  let signed (mark : Char) (rest : List Char) : Option (List Char × List Char) := do
    let (hour, rest) ← field 2 0 23 rest
    let (minute, rest) ← field 2 0 59 (← expect ':' rest)
    let zero := Text.digitsValue (hour ++ minute) = 0
    return ((if zero then '+' else mark) :: hour ++ ':' :: minute, rest)
  match cs with
  | c :: rest =>
    if c = 'Z' || c = 'z' then (['Z'], rest)
    else if c = '+' || c = '-' then (signed c rest).getD ([], cs)
    else ([], cs)
  | [] => ([], cs)

/-- The time behind a day, if there is one: behind a letter, or behind a single space. -/
def timeOfDay (cs : List Char) : List Char × List Char :=
  match cs with
  | c :: rest =>
    if c = 'T' || c = 't' || c = ' ' then
      match time rest with
      | some (time, rest) =>
        let (offset, rest) := offset rest
        ('T' :: time ++ offset, rest)
      | none => ([], cs)
    else ([], cs)
  | [] => ([], cs)

def dateTime (cs : List Char) : Option (Toml × List Char) :=
  match day cs with
  | some (day, rest) =>
    let (time, rest) := timeOfDay rest
    some (.datetime (String.ofList (day ++ time)), rest)
  | none => (time cs).map fun (time, rest) => (.datetime (String.ofList time), rest)

end Relay.Toml
