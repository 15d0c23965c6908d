import Wayfarer.Unicode.Lookup

/-!
What patterns mean once their flags are resolved. Where a text matches in several ways, the left
side of a choice and the greedy side of a repetition are preferred.

Expressions are simplified as they are built: sequences and choices are flat, characters that follow
each other are one text, and a choice among single characters is a set. The alternatives of a choice
share the parts that they begin with, which are then matched once for all of them.
-/
namespace Wayfarer.Pattern

open Unicode (CodeSet)

/-- Conditions on the characters on both sides of a place. -/
inductive Look
  | textStart
  | textEnd
  | lineStart (crlf : Bool)
  | lineEnd (crlf : Bool)
  | wordEdge (unicode : Bool)
  | noWordEdge (unicode : Bool)
  | wordStart (unicode : Bool)
  | wordEnd (unicode : Bool)
  | wordStartHalf (unicode : Bool)
  | wordEndHalf (unicode : Bool)
  deriving DecidableEq, Repr

/-- Whether a character, if there is one, belongs to a word. -/
def inWord (unicode : Bool) (c : Option Char) : Bool :=
  c.any (if unicode then CodeSet.word else CodeSet.asciiWord).hasChar

/-- Whether the condition holds between `before` and `after`. The two characters of a line end are
not parted. -/
def Look.holds (before after : Option Char) : Look → Bool
  | textStart => before.isNone
  | textEnd => after.isNone
  | lineStart false => before.isNone || before == some '\n'
  | lineStart true =>
    before.isNone || before == some '\n' || (before == some '\r' && after != some '\n')
  | lineEnd false => after.isNone || after == some '\n'
  | lineEnd true =>
    after.isNone || after == some '\r' || (after == some '\n' && before != some '\r')
  | wordEdge u => inWord u before != inWord u after
  | noWordEdge u => inWord u before == inWord u after
  | wordStart u => !inWord u before && inWord u after
  | wordEnd u => inWord u before && !inWord u after
  | wordStartHalf u => !inWord u before
  | wordEndHalf u => !inWord u after

inductive Expr
  | empty
  /-- One character after the other. -/
  | text (cs : List Char)
  /-- One character of a set, which Unicode or ASCII characters make up. -/
  | set (unicode : Bool) (s : CodeSet)
  | look (l : Look)
  | repeated (least : Nat) (most : Option Nat) (greedy : Bool) (e : Expr)
  | capture (number : Nat) (e : Expr)
  | sequence (es : List Expr)
  | choice (es : List Expr)
  deriving Repr, Inhabited

namespace Expr

/-- What never matches. -/
def never : Expr := set false CodeSet.empty

mutual

def same : Expr → Expr → Bool
  | empty, empty => true
  | text a, text b => a == b
  | set u a, set v b => u == v && a == b
  | look a, look b => a == b
  | repeated l m g a, repeated l' m' g' b => l == l' && m == m' && g == g' && same a b
  | capture n a, capture n' b => n == n' && same a b
  | sequence as, sequence bs => sameAll as bs
  | choice as, choice bs => sameAll as bs
  | _, _ => false

def sameAll : List Expr → List Expr → Bool
  | [], [] => true
  | a :: as, b :: bs => same a b && sameAll as bs
  | _, _ => false

end

/-- The sum of two lengths that are known. -/
def sumLength (a b : Option Nat) : Option Nat := do
  return (← a) + (← b)

/-- The combination of all lengths, if there are any and all are known. -/
def combineLengths (combine : Nat → Nat → Nat) : List (Option Nat) → Option Nat
  | [] => none
  | [a] => a
  | a :: rest => do return combine (← a) (← combineLengths combine rest)

mutual

/-- The length of the shortest match in octets. What never matches has none, and neither has what it
is a part of. -/
def leastLength : Expr → Option Nat
  | empty => some 0
  | text cs => some ((cs.map Char.utf8Size).sum)
  | set _ s => s.ranges.head?.map fun r => (Char.ofNat r.1).utf8Size
  | look _ => some 0
  | repeated least _ _ e => (leastLength e).map (least * ·)
  | capture _ e => leastLength e
  | sequence es => (leastLengths es).foldl sumLength (some 0)
  | choice es => combineLengths min (leastLengths es)

def leastLengths : List Expr → List (Option Nat)
  | [] => []
  | e :: es => leastLength e :: leastLengths es

end

mutual

/-- The length of the longest match in octets, if there is a bound. -/
def greatestLength : Expr → Option Nat
  | empty => some 0
  | text cs => some ((cs.map Char.utf8Size).sum)
  | set _ s => s.ranges.getLast?.map fun r => (Char.ofNat r.2).utf8Size
  | look _ => some 0
  | repeated _ none _ _ => none
  | repeated _ (some most) _ e => (greatestLength e).map (most * ·)
  | capture _ e => greatestLength e
  | sequence es => (greatestLengths es).foldl sumLength (some 0)
  | choice es => combineLengths max (greatestLengths es)

def greatestLengths : List Expr → List (Option Nat)
  | [] => []
  | e :: es => greatestLength e :: greatestLengths es

end

/-- Every match takes a character. -/
def takes (e : Expr) : Bool :=
  e.leastLength.any (0 < ·)

/-- No match takes a character. -/
def takesNone (e : Expr) : Bool :=
  e.greatestLength == some 0

/-- One character of a set. -/
def ofSet (unicode : Bool) (s : CodeSet) : Expr :=
  match s.ranges with
  | [] => never
  | [(first, last)] => if first == last then text [Char.ofNat first] else set unicode s
  | _ => set unicode s

/-- The expression repeated. What never takes a character need not be repeated. -/
def times (least : Nat) (most : Option Nat) (greedy : Bool) (e : Expr) : Expr :=
  let (least, most) :=
    if e.takesNone then (min least 1, some (min (most.getD 1) 1)) else (least, most)
  if least == 0 && most == some 0 then empty
  else if least == 1 && most == some 1 then e
  else repeated least most greedy e

/-- The parts of an expression in a sequence. -/
def parts : Expr → List Expr
  | empty => []
  | sequence es => es
  | e => [e]

/-- Texts that follow each other become one. -/
def joinTexts : List Expr → List Expr
  | [] => []
  | e :: es =>
    match e, joinTexts es with
    | text a, text b :: rest => text (a ++ b) :: rest
    | e, rest => e :: rest

/-- One expression after the other. -/
def ofParts (es : List Expr) : Expr :=
  match joinTexts (es.flatMap parts) with
  | [] => empty
  | [e] => e
  | es => sequence es

def alternatives : Expr → List Expr
  | choice es => es
  | e => [e]

/-- The character that is all of the text. -/
def char? : Expr → Option Char
  | text [c] => some c
  | _ => none

def set? : Expr → Option (Bool × CodeSet)
  | set unicode s => some (unicode, s)
  | _ => none

/-- The set of the characters that the alternatives are, if each is a character or each a set. -/
def merged? (es : List Expr) : Option Expr :=
  match es.mapM char? with
  | some cs => some (ofSet true (CodeSet.ofRanges (cs.map fun c => (c.toNat, c.toNat))))
  | none => (es.mapM set?).map fun sets => ofSet true (CodeSet.unions (sets.map (·.2)))

/-- How many parts two sequences have in common at their beginnings. -/
def sharedLength : List Expr → List Expr → Nat
  | a :: as, b :: bs => if a.same b then sharedLength as bs + 1 else 0
  | _, _ => 0

def sequence? : Expr → Option (List Expr)
  | sequence es => some es
  | _ => none

/-- The parts that all sequences begin with, and what is left of each. -/
def shared? (es : List Expr) : Option (List Expr × List (List Expr)) := do
  match ← es.mapM sequence? with
  | [] => none
  | first :: rest =>
    let n := rest.foldl (fun n es => min n (sharedLength (first.take n) es)) first.length
    if n == 0 then none else some (first.take n, (first :: rest).map (·.drop n))

mutual

/-- How many expressions it is made of, itself included. -/
def nodes : Expr → Nat
  | repeated _ _ _ e => e.nodes + 1
  | capture _ e => e.nodes + 1
  | sequence es => nodesOf es + 1
  | choice es => nodesOf es + 1
  | _ => 1

def nodesOf : List Expr → Nat
  | [] => 0
  | e :: es => e.nodes + nodesOf es

end

/-- A choice among alternatives. What is left behind the parts that all begin with is a choice again
and made of less, so the fuel of one more than all nodes suffices. -/
def ofAlternatives : (fuel : Nat) → List Expr → Expr
  | 0, es => choice es
  | fuel + 1, es =>
    match es.flatMap alternatives with
    | [] => never
    | [e] => e
    | es =>
      match merged? es with
      | some e => e
      | none =>
        match shared? es with
        | some (front, rests) => ofParts (front ++ [ofAlternatives fuel (rests.map ofParts)])
        | none => choice es

/-- The first of the alternatives that matches. -/
def anyOf (es : List Expr) : Expr :=
  ofAlternatives (nodesOf es + 1) es

end Expr

end Wayfarer.Pattern
