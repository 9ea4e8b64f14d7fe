/-!
# Regular expressions

The parts of a regular expression, as far as they decide whether it can be used. What an expression
matches does not matter here.
-/

namespace Relay

namespace Regex

inductive Flag where
  | foldCase
  | manyLines
  | dotMatchesAll
  | swapGreed
  | unicode
  | carriageReturn
  /-- White space and comments do not count. -/
  | spaced
  deriving Repr, DecidableEq

def Flag.ofChar? : Char → Option Flag
  | 'i' => some foldCase
  | 'm' => some manyLines
  | 's' => some dotMatchesAll
  | 'U' => some swapGreed
  | 'u' => some unicode
  | 'R' => some carriageReturn
  | 'x' => some spaced
  | _ => none

abbrev Changes := List (Flag × Bool)

/-- Whether a flag is on after some changes. -/
def Changes.get (changes : Changes) (flag : Flag) (before : Bool) : Bool :=
  (changes.lookup flag).getD before

/-- What stands in a class between brackets. -/
inductive Item where
  | nothing
  | char (c : Char)
  | range (first last : Char)
  | named (negated : Bool)
  | category (letter : Char)
  /-- Digits, white space or word characters by one letter. -/
  | shorthand (negated : Bool)
  | bracketed (negated : Bool) (item : Item)
  | union (items : List Item)
  /-- What two classes have in common, or what only one of them has. -/
  | combined (left right : Item)

end Regex

inductive Regex where
  | empty
  | flags (changes : Regex.Changes)
  /-- A character; it may be written as the number of a byte. -/
  | char (c : Char) (byte : Bool)
  | dot
  /-- The start or the end of a line or a text. -/
  | anchor
  /-- A place where a word starts or ends, or none does. -/
  | wordEdge
  | category (letter : Char)
  /-- Digits, white space or word characters by one letter. -/
  | shorthand (negated : Bool)
  | bracketed (negated : Bool) (item : Regex.Item)
  | repeated (body : Regex)
  | group (changes : Regex.Changes) (body : Regex)
  | sequence (parts : List Regex)
  | choice (options : List Regex)

namespace Regex

def ofParts : List Regex → Regex
  | [] => .empty
  | [part] => part
  | parts => .sequence parts

def Item.ofItems : List Item → Item
  | [] => .nothing
  | [item] => item
  | items => .union items

def toItem? : Regex → Option Item
  | .char c _ => some (.char c)
  | .category letter => some (.category letter)
  | .shorthand negated => some (.shorthand negated)
  | _ => none

/-! ### Depth -/

mutual

/-- How deep the brackets, lists and combinations of a class nest. -/
def Item.depth : Item → Nat
  | .bracketed _ item => item.depth + 1
  | .union items => depthItems items + 1
  | .combined left right => max left.depth right.depth + 1
  | _ => 0

def depthItems : List Item → Nat
  | [] => 0
  | item :: rest => max item.depth (depthItems rest)

end

mutual

def depth : Regex → Nat
  | .bracketed _ item => item.depth + 1
  | .repeated body => body.depth + 1
  | .group _ body => body.depth + 1
  | .sequence parts => depthParts parts + 1
  | .choice options => depthParts options + 1
  | _ => 0

def depthParts : List Regex → Nat
  | [] => 0
  | part :: rest => max part.depth (depthParts rest)

end

end Regex
end Relay
