import Wayfarer.Pattern.Expr

/-!
Programs that match expressions. An operation goes on at others, by their places in the program; of
two ways to go on the first is preferred.
-/
namespace Wayfarer.Pattern

open Unicode (CodeSet)

inductive Op
  | take (s : CodeSet) (next : Nat)
  | look (l : Look) (next : Nat)
  | fork (first second : Nat)
  | accept
  deriving Repr, Inhabited

abbrev Ops := Array Op

namespace Op

/-- Goes on at `body` or `exit`, whichever a greedy or a lazy repetition prefers. -/
def branch (greedy : Bool) (body exit : Nat) : Op :=
  if greedy then fork body exit else fork exit body

end Op

/-- Adds an operation and answers its place. -/
def place (op : Op) : StateM Ops Nat :=
  modifyGet fun ops => (ops.size, ops.push op)

/-- Writes `count` copies, each of which goes on at the one behind it. -/
def copies (emit : Nat → StateM Ops Nat) : (count : Nat) → (next : Nat) → StateM Ops Nat
  | 0, next => pure next
  | count + 1, next => do copies emit count (← emit next)

/-- Writes at most `count` copies, each of which may be left for `exit`. -/
def optionalCopies (emit : Nat → StateM Ops Nat) (greedy : Bool) (exit : Nat) :
    (count : Nat) → (next : Nat) → StateM Ops Nat
  | 0, next => pure next
  | count + 1, next => do
    let body ← emit next
    optionalCopies emit greedy exit count (← place (.branch greedy body exit))

/-- Writes a body that is run again until it is left for `next`. Answers the body and the branch
behind it. -/
def loop (emit : Nat → StateM Ops Nat) (greedy : Bool) (next : Nat) : StateM Ops (Nat × Nat) := do
  let again ← place .accept
  let body ← emit again
  modify (·.setIfInBounds again (.branch greedy body next))
  return (body, again)

/-- Writes operations that take characters of which the last is named first. -/
def takeAll (next : Nat) : List Char → StateM Ops Nat
  | [] => pure next
  | c :: rest => do takeAll (← place (.take (CodeSet.ofChar c) next)) rest

mutual

/-- Writes operations that match the expression and go on at `next`; answers where they begin. -/
def Expr.emit : Expr → (next : Nat) → StateM Ops Nat
  | .empty, next => pure next
  | .text cs, next => takeAll next cs.reverse
  | .set _ s, next => place (.take s next)
  | .look l, next => place (.look l next)
  | .capture _ e, next => e.emit next
  | .sequence es, next => Expr.emitAll es next
  | .choice es, next => Expr.emitAny es next
  | .repeated least none greedy e, next => do
    let (body, again) ← loop e.emit greedy next
    if least == 0 then
      if e.takes then pure again else place (.branch greedy body next)
    else copies e.emit (least - 1) body
  | .repeated least (some most) greedy e, next => do
    copies e.emit least (← optionalCopies e.emit greedy next (most - least) next)

def Expr.emitAll : List Expr → (next : Nat) → StateM Ops Nat
  | [], next => pure next
  | e :: es, next => do e.emit (← Expr.emitAll es next)

def Expr.emitAny : List Expr → (next : Nat) → StateM Ops Nat
  | [], next => place (.take CodeSet.empty next)
  | [e], next => e.emit next
  | e :: es, next => do
    let first ← e.emit next
    let second ← Expr.emitAny es next
    place (.fork first second)

end

/-- Operations and the place of the first. -/
structure Program where
  ops : Ops
  start : Nat

/-- The program that accepts where the expression ends. -/
def Expr.program (e : Expr) : Program :=
  let (start, ops) := (e.emit 0).run #[.accept]
  ⟨ops, start⟩

end Wayfarer.Pattern
