import Relay.Regex.Reader

/-!
# Expressions that can be used

An expression can be used if it does not nest too deep and if an automaton over the bytes of texts can
decide it. Without the flag for Unicode it may name ASCII characters only, and with it no edges of
words, which the automaton does not know.
-/

namespace Relay.Regex

def maxDepth : Nat := 250

/-- The letters of the general categories, in either case. -/
def isCategory (letter : Char) : Bool := "CLMNPSZclmnpsz".toList.contains letter

def isAscii (c : Char) : Bool := c.toNat < 128

mutual

def Item.usable (unicode : Bool) : Item → Bool
  | .nothing => true
  | .char c => unicode || isAscii c
  | .range first last => unicode || (isAscii first && isAscii last)
  | .named negated | .shorthand negated => unicode || !negated
  | .category letter => unicode && isCategory letter
  | .bracketed negated item => (unicode || !negated) && item.usable unicode
  | .union items => usableItems unicode items
  | .combined left right => left.usable unicode && right.usable unicode

def usableItems (unicode : Bool) : List Item → Bool
  | [] => true
  | item :: rest => item.usable unicode && usableItems unicode rest

end

mutual

/-- Whether the flag for Unicode is on behind an expression, which is nothing if the expression cannot be
used. A group keeps its flags to itself. -/
def unicodeAfter (unicode : Bool) : Regex → Option Bool
  | .empty | .anchor => some unicode
  | .flags changes => some (changes.get .unicode unicode)
  | .char c byte => if unicode || !byte || isAscii c then some unicode else none
  | .dot => if unicode then some unicode else none
  | .wordEdge => if unicode then none else some unicode
  | .category letter => if unicode && isCategory letter then some unicode else none
  | .shorthand negated => if unicode || !negated then some unicode else none
  | .bracketed negated item =>
    if (unicode || !negated) && item.usable unicode then some unicode else none
  | .repeated body => unicodeAfter unicode body
  | .group changes body => (unicodeAfter (changes.get .unicode unicode) body).map fun _ => unicode
  | .sequence parts => unicodeAfterParts unicode parts
  | .choice options => unicodeAfterParts unicode options

def unicodeAfterParts (unicode : Bool) : List Regex → Option Bool
  | [] => some unicode
  | part :: rest => (unicodeAfter unicode part).bind fun unicode => unicodeAfterParts unicode rest

end

def usable (regex : Regex) : Bool := regex.depth ≤ maxDepth && (unicodeAfter true regex).isSome

def isUsable (s : String) : Bool := (parse s).any usable

end Relay.Regex
