import Wayfarer.Pattern.Openings
import Wayfarer.Pattern.Tally.Sets
import Wayfarer.Pattern.Tally.Texts

/-!
How large the automata of a pattern are. There are two: one reads octets forwards and remembers
groups, the other reads backwards.
-/
namespace Wayfarer.Pattern

open Tallied (add join closed)

/-- `count` copies one after the other. -/
def tallyCopies (copy : Tallied Bool) : (count : Nat) → (fork : Bool) → Tallied Bool
  | 0, fork => pure fork
  | count + 1, fork => do
    join fork
    tallyCopies copy count (← copy)

/-- Exactly `count` copies, of which there may be none. -/
def tallyExactly (copy : Tallied Bool) (count : Nat) : Tallied Bool :=
  if count == 0 then closed (add 1) else tallyCopies copy count false

/-- At most `count` copies, each behind a fork. -/
def tallyOptional (copy : Tallied Bool) : (count : Nat) → (fork : Bool) → Tallied Bool
  | 0, fork => pure fork
  | count + 1, fork => do
    join fork
    add 1 0 2
    tallyOptional copy count (← copy)

/-- Copies without a bound. What takes a character whenever it matches is left from the fork where
it begins; other expressions have one fork in front of them and one behind. -/
def tallyUnbounded (copy : Tallied Bool) (takes : Bool) : (least : Nat) → Tallied Bool
  | 0 =>
    if takes then do
      add 1 0 1
      join (← copy)
      return true
    else closed do
      join (← copy)
      add 3 0 4
  | least + 1 => do
    join (← tallyCopies copy least false)
    join (← copy)
    add 1 0 1
    return true

/-- The text that is all of the expression. -/
def Expr.text? : Expr → Option (List Char)
  | text cs => some cs
  | _ => none

mutual

/-- Adds the nodes of the expression. Answers whether the last is a fork. Only the automaton that
reads forwards remembers groups. -/
def Expr.tally (d : Direction) : Expr → Tallied Bool
  | .empty => closed (add 1)
  | .look _ => closed (add 1)
  | .text cs => closed (add (encodeText cs).length)
  | .set _ s => closed (setTally d s)
  | .capture _ e =>
    match d with
    | .forwards => closed do
      add 1
      join (← e.tally d)
      add 1
    | .backwards => e.tally d
  | .sequence es => Expr.tallyAll d es false
  | .choice es => closed do
    match es.mapM Expr.text? with
    | some texts => textChoice d texts
    | none => Expr.tallyAny d es 0
  | .repeated least none _ e => tallyUnbounded (e.tally d) e.takes least
  | .repeated 0 (some 1) _ e => closed do
    add 1 0 2
    join (← e.tally d)
    add 1
  | .repeated least (some most) _ e =>
    if least == most then tallyExactly (e.tally d) least
    else closed do
      let fork ← tallyExactly (e.tally d) least
      add 1
      join (← tallyOptional (e.tally d) (most - least) fork)

/-- Adds the nodes of expressions that follow each other and a node that may be a fork. -/
def Expr.tallyAll (d : Direction) : List Expr → (fork : Bool) → Tallied Bool
  | [], fork => pure fork
  | e :: es, fork =>
    match d with
    | .forwards => do
      join fork
      Expr.tallyAll d es (← e.tally d)
    | .backwards => do
      join (← Expr.tallyAll d es fork)
      e.tally d

/-- Adds the nodes of alternatives behind `count` others, and those where they part and meet. -/
def Expr.tallyAny (d : Direction) : List Expr → (count : Nat) → Tallied Unit
  | [], _ => pure ()
  | e :: es, count => do
    join (← e.tally d)
    add 0 0 1
    if count == 1 then add 2
    Expr.tallyAny d es (count + 1)

end

namespace Expr

mutual

/-- Whether the condition holds wherever a match begins. -/
def beginsWith (l : Look) : Expr → Bool
  | look k => k == l
  | repeated least _ _ e => 0 < least && e.beginsWith l
  | capture _ e => e.beginsWith l
  | sequence es => beginsWithAny l es
  | choice es => beginsWithAll l es
  | _ => false

/-- Of expressions in a sequence, one that takes no character, or the first that may, decides. -/
def beginsWithAny (l : Look) : List Expr → Bool
  | [] => false
  | e :: es => e.beginsWith l || (e.takesNone && beginsWithAny l es)

def beginsWithAll (l : Look) : List Expr → Bool
  | [] => true
  | e :: es => e.beginsWith l && beginsWithAll l es

end

mutual

/-- Whether the condition holds wherever a match ends. -/
def endsWith (l : Look) : Expr → Bool
  | look k => k == l
  | repeated least _ _ e => 0 < least && e.endsWith l
  | capture _ e => e.endsWith l
  | sequence es => endsWithAny l es
  | choice es => endsWithAll l es
  | _ => false

def endsWithAny (l : Look) : List Expr → Bool
  | [] => false
  | e :: es => endsWithAny l es || (takesNoneAll es && e.endsWith l)

def endsWithAll (l : Look) : List Expr → Bool
  | [] => true
  | e :: es => e.endsWith l && endsWithAll l es

def takesNoneAll : List Expr → Bool
  | [] => true
  | e :: es => e.takesNone && takesNoneAll es

end

/-- The automaton that finds a match anywhere: any octets before it are skipped, unless it begins at
an end of the text. -/
def automaton (d : Direction) (e : Expr) : Tallied Unit := do
  let fixed := match d with
    | .forwards => e.beginsWith .textStart
    | .backwards => e.endsWith .textEnd
  if fixed then add 1 else add 3 1 2
  join (← (Expr.capture 0 e).tally d)
  add 1

/-- So many texts that they are searched for without an automaton. -/
def isManyTexts : Expr → Bool
  | choice es => 3000 ≤ es.length && es.all (·.text?.isSome)
  | _ => false

/-- Neither automaton is too large. -/
def fits (e : Expr) : Bool :=
  ((e.automaton .forwards).run {}).isSome && ((e.automaton .backwards).run {}).isSome

/-- An expression that matches the same, if it may be searched for. -/
def feasible? (e : Expr) : Option Expr :=
  if e.fits || e.isManyTexts then some e
  else e.decidingTexts?.map fun texts => anyOf (texts.map text)

end Expr

end Wayfarer.Pattern
