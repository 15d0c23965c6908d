import Wayfarer.Unicode.CodeSet

/-!
Patterns as they are written. What a part means may depend on the flags set in front of it, so a
tree keeps the flags where they stand.
-/
namespace Wayfarer.Pattern

open Unicode (CodeSet)

inductive Flag
  | ignoreCase
  | multiLine
  /-- The dot matches line ends too. -/
  | dotAll
  /-- Repetitions are lazy unless marked. -/
  | swapGreed
  | unicode
  /-- A carriage return ends a line too. -/
  | crlf
  /-- Blanks and comments in the pattern do not count. -/
  | spaced
  deriving DecidableEq, Repr

structure Literal where
  char : Char
  /-- Written by the two digits of an octet. -/
  octet : Bool := false
  deriving DecidableEq, Repr

/-- A set of characters that has a letter of its own. -/
inductive Shorthand
  | digit
  | blank
  | word
  deriving DecidableEq, Repr

inductive Property
  | named (name : String)
  | valued (name value : String)
  deriving DecidableEq, Repr

/-- Places where nothing is read. -/
inductive Anchor
  | lineStart
  | lineEnd
  | textStart
  | textEnd
  | wordEdge
  | noWordEdge
  | wordStart
  | wordEnd
  /-- No word in front. -/
  | wordStartHalf
  /-- No word behind. -/
  | wordEndHalf
  deriving DecidableEq, Repr

/-- What stands for at most one character. -/
inductive Atom
  | literal (l : Literal)
  | dot
  | anchor (a : Anchor)
  | shorthand (s : Shorthand) (negated : Bool)
  | property (p : Property) (negated : Bool)
  deriving DecidableEq, Repr

inductive SetOp
  | inter
  | diff
  | symmDiff
  deriving DecidableEq, Repr

/-- The inside of brackets. -/
inductive Class
  | literal (l : Literal)
  | range (first last : Literal)
  | shorthand (s : Shorthand) (negated : Bool)
  | property (p : Property) (negated : Bool)
  /-- A set of ASCII characters with a name between colons. -/
  | ascii (s : CodeSet) (negated : Bool)
  | union (items : List Class)
  | combine (op : SetOp) (left right : Class)
  | bracket (negated : Bool) (inner : Class)
  deriving Repr

/-- Flags with what becomes of them. -/
abbrev FlagChanges := List (Flag × Bool)

inductive Tree
  | flags (changes : FlagChanges)
  | atom (a : Atom)
  | brackets (c : Class)
  | repeated (least : Nat) (most : Option Nat) (greedy : Bool) (t : Tree)
  /-- A group that is remembered, by its number. -/
  | capture (number : Nat) (t : Tree)
  | group (changes : FlagChanges) (t : Tree)
  | sequence (ts : List Tree)
  | choice (ts : List Tree)
  deriving Repr, Inhabited

mutual

/-- How deeply brackets, unions and combinations are nested. -/
def Class.depth : Class → Nat
  | .union [] => 0
  | .union items => 1 + Class.depths items
  | .combine _ left right => 1 + max left.depth right.depth
  | .bracket _ inner => 1 + inner.depth
  | _ => 0

def Class.depths : List Class → Nat
  | [] => 0
  | c :: rest => max c.depth (Class.depths rest)

end

mutual

/-- How deeply the parts of a pattern are nested. A sequence of nothing has no depth. -/
def Tree.depth : Tree → Nat
  | .flags _ => 0
  | .atom _ => 0
  | .brackets c => c.depth
  | .repeated _ _ _ t => 1 + t.depth
  | .capture _ t => 1 + t.depth
  | .group _ t => 1 + t.depth
  | .sequence [] => 0
  | .sequence (t :: rest) => 1 + Tree.depths (t :: rest)
  | .choice ts => 1 + Tree.depths ts

def Tree.depths : List Tree → Nat
  | [] => 0
  | t :: rest => max t.depth (Tree.depths rest)

end

end Wayfarer.Pattern
