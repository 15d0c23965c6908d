import Wayfarer.Pattern.Brackets
import Wayfarer.Unicode.Lookup

/-!
Reading a pattern. There is no looking ahead or behind and no reference to a group, so such patterns
are broken, and so are those nested more deeply than 250 parts.
-/
namespace Wayfarer.Pattern

open Unicode (CodeSet)

/-- How a group treats what is in it. -/
inductive GroupKind
  | capture (number : Nat)
  | plain (changes : FlagChanges)

def GroupKind.tree (t : Tree) : GroupKind → Tree
  | capture number => .capture number t
  | plain changes => .group changes t

/-- Choices whose last alternative is being read, and groups that are still open. Trees are kept
last first. -/
inductive OpenGroup
  | choice (done : List Tree)
  | group (before : List Tree) (kind : GroupKind) (spaced : Bool)

structure Reading where
  stack : List OpenGroup := []
  /-- The sequence being read, last first. -/
  items : List Tree := []
  /-- How many groups are remembered so far. -/
  captures : Nat := 0
  /-- Their names. -/
  names : List (List Char) := []
  spaced : Bool := false
  rest : List Char

def sequenceOf : List Tree → Tree
  | [t] => t
  | items => .sequence items.reverse

namespace Reading

def add (r : Reading) (t : Tree) (rest : List Char) : Reading :=
  { r with items := t :: r.items, rest }

/-- The sequence that ends here, or the choice whose last alternative it is, and what is open around
it. -/
def completed (r : Reading) : Tree × List OpenGroup :=
  match r.stack with
  | .choice done :: stack => (.choice (sequenceOf r.items :: done).reverse, stack)
  | stack => (sequenceOf r.items, stack)

/-- Begins another alternative. -/
def nextAlternative (r : Reading) (rest : List Char) : Reading :=
  match r.stack with
  | .choice done :: stack =>
    { r with stack := .choice (sequenceOf r.items :: done) :: stack, items := [], rest }
  | stack => { r with stack := .choice [sequenceOf r.items] :: stack, items := [], rest }

def closeGroup (r : Reading) (rest : List Char) : Option Reading :=
  match r.completed with
  | (t, .group before kind spaced :: stack) =>
    some { r with stack, items := kind.tree t :: before, spaced, rest }
  | _ => none

def openGroup (r : Reading) (kind : GroupKind) (spaced : Bool) (rest : List Char) : Reading :=
  { r with stack := .group r.items kind r.spaced :: r.stack, items := [], spaced, rest }

def openCapture (r : Reading) (rest : List Char) : Reading :=
  { r with captures := r.captures + 1 }.openGroup (.capture (r.captures + 1)) r.spaced rest

/-- Repeats what was read last. Nothing and flags cannot be repeated. -/
def repeatLast (r : Reading) (least : Nat) (most : Option Nat) (rest : List Char) :
    Option Reading :=
  let (greedy, rest) := match rest with
    | '?' :: rest => (false, rest)
    | _ => (true, rest)
  match r.items with
  | [] => none
  | .flags _ :: _ => none
  | t :: items => some { r with items := .repeated least most greedy t :: items, rest }

end Reading

/-- Digits, each with what does not count behind it. -/
def digitRun (spaced : Bool) : (fuel : Nat) → List Char → List Char × List Char
  | fuel + 1, c :: rest =>
    if Text.isDigit c then
      let (digits, rest) := digitRun spaced fuel (skip spaced rest)
      (c :: digits, rest)
    else ([], c :: rest)
  | _, s => ([], s)

/-- A count of repetitions, with blanks on both sides. -/
def count (spaced : Bool) (s : List Char) : Option (Nat × List Char) :=
  let (digits, rest) := digitRun spaced s.length (s.dropWhile Text.isBlank)
  match Text.readNumeral Text.halfWordBound digits with
  | .ok n => some (n, skip spaced (rest.dropWhile Text.isBlank))
  | .error _ => none

/-- Least and greatest number of repetitions, behind the opening brace. -/
def counts (spaced : Bool) (s : List Char) : Option ((Nat × Option Nat) × List Char) := do
  let (least, rest) ← count spaced s
  match rest with
  | '\x7d' :: rest => return ((least, some least), rest)
  | ',' :: rest =>
    match skip spaced rest with
    | '\x7d' :: rest => return ((least, none), rest)
    | rest =>
      let (most, rest) ← count spaced rest
      match rest with
      | '\x7d' :: rest => if least ≤ most then return ((least, some most), rest) else none
      | _ => none
  | _ => none

def flag? : Char → Option Flag
  | 'i' => some .ignoreCase
  | 'm' => some .multiLine
  | 's' => some .dotAll
  | 'U' => some .swapGreed
  | 'u' => some .unicode
  | 'R' => some .crlf
  | 'x' => some .spaced
  | _ => none

/-- The changes that letters make, of which those behind a hyphen switch off. Neither a letter nor
the hyphen stands twice, and the hyphen not at the end. -/
def flagChanges (letters : List Char) : Option FlagChanges := do
  let (on, off) := letters.span (· != '-')
  if !letters.Nodup || off == ['-'] then none
  let on ← on.mapM flag?
  let off ← (off.drop 1).mapM flag?
  return on.map (·, true) ++ off.map (·, false)

def spacedAfter (changes : FlagChanges) (spaced : Bool) : Bool :=
  match changes.find? (·.1 == .spaced) with
  | some (_, on) => on
  | none => spaced

/-- The name of a group: a letter or an underscore, then also digits, dots and brackets. -/
def isGroupName : List Char → Bool
  | [] => false
  | c :: rest =>
    (c == '_' || CodeSet.nameLetter.hasChar c) && rest.all fun c =>
      c == '_' || c == '.' || c == '[' || c == ']' || CodeSet.nameLetter.hasChar c ||
      CodeSet.nameNumber.hasChar c

namespace Reading

/-- Opens a group that has a name. -/
def openNamed (r : Reading) (s : List Char) : Option Reading :=
  match s.span (· != '>') with
  | (name, '>' :: rest) =>
    if isGroupName name && !r.names.contains name then
      some ({ r with names := name :: r.names }.openCapture rest)
    else none
  | _ => none

/-- Flags in a group of their own hold from there on, others for their group. -/
def openFlagged (r : Reading) (s : List Char) : Option Reading := do
  let (letters, rest) := s.span fun c => c != ':' && c != ')'
  let changes ← flagChanges letters
  let spaced := spacedAfter changes r.spaced
  match rest with
  | ':' :: rest => return r.openGroup (.plain changes) spaced rest
  | ')' :: rest =>
    if changes.isEmpty then none
    else return { r with items := .flags changes :: r.items, spaced, rest }
  | _ => none

/-- Reads on behind an opening parenthesis. -/
def openAny (r : Reading) (s : List Char) : Option Reading :=
  match skip r.spaced s with
  | '?' :: '=' :: _ => none
  | '?' :: '!' :: _ => none
  | '?' :: '<' :: '=' :: _ => none
  | '?' :: '<' :: '!' :: _ => none
  | '?' :: 'P' :: '<' :: rest => r.openNamed rest
  | '?' :: '<' :: rest => r.openNamed rest
  | '?' :: rest => r.openFlagged rest
  | rest => some (r.openCapture rest)

/-- Reads the part that begins with `c`. -/
def part (r : Reading) (c : Char) (rest : List Char) : Option Reading :=
  match c with
  | '(' => r.openAny rest
  | ')' => r.closeGroup rest
  | '|' => some (r.nextAlternative rest)
  | '[' => (brackets r.spaced rest).map fun found => r.add (.brackets found.1) found.2
  | '?' => r.repeatLast 0 (some 1) rest
  | '*' => r.repeatLast 0 none rest
  | '+' => r.repeatLast 1 none rest
  | '\x7b' => do
    let ((least, most), rest) ← counts r.spaced (skip r.spaced rest)
    r.repeatLast least most (skip r.spaced rest)
  | '\\' => (escape r.spaced rest).map fun found => r.add (.atom found.1) found.2
  | '.' => some (r.add (.atom .dot) rest)
  | '^' => some (r.add (.atom (.anchor .lineStart)) rest)
  | '$' => some (r.add (.atom (.anchor .lineEnd)) rest)
  | c => some (r.add (.atom (.literal ⟨c, false⟩)) rest)

/-- Reads to the end. Each part takes a character, so the fuel of one more than their number
suffices. -/
def run : (fuel : Nat) → Reading → Option Tree
  | 0, _ => none
  | fuel + 1, r =>
    match skip r.spaced r.rest with
    | [] =>
      match r.completed with
      | (t, []) => some t
      | _ => none
    | c :: rest => (r.part c rest).bind (run fuel)

end Reading

def Tree.maxDepth : Nat := 250

/-- The tree that a text writes. -/
def Tree.ofText? (text : String) : Option Tree :=
  (Reading.run (text.length + 1) { rest := text.toList }).filter (·.depth ≤ Tree.maxDepth)

end Wayfarer.Pattern
