import Std.Data.HashMap
import Wayfarer.Pattern.Octets
import Wayfarer.Pattern.Tally

/-!
Tallies of sets of characters. Sequences of octets that begin or end alike share nodes, as far as a
table knows of them: it has few places and forgets what was in a place that is taken again. Which
place a node has depends on the numbers of nodes, so these are tallied with them.
-/
namespace Wayfarer.Pattern

open Tallied (add node)
open Unicode (CodeSet)

/-- A hash of numbers, one after the other. -/
def hashOf (ns : List Nat) : UInt64 :=
  ns.foldl (fun h n => (h ^^^ n.toUInt64) * 1099511628211) 14695981039346656037

/-- Nodes by what is known of them. Each is in the place that its hash gives it. -/
abbrev Places := Std.HashMap UInt64 (List Nat × Nat)

/-- The node that is in its place, or else a new one, which then is. -/
def shared (places : UInt64) (key : List Nat) (edges : Nat) : StateT Places Tallied Nat := do
  let place := hashOf key % places
  match (← get).get? place with
  | some (k, n) => if k == key then return n
  | none => pure ()
  let n ← node edges
  modify (·.insert place (key, n))
  return n

/-! ## Sets that are read forwards -/

/-- An edge over some octets to a node. -/
structure Edge where
  octets : OctetRange
  next : Nat

/-- A node that is still open: its edges, the last of them first, and the octets that lead to the
open node behind it. -/
structure OpenNode where
  edges : List Edge
  last : OctetRange

/-- A node by its edges. -/
def edgesNode (edges : List Edge) : StateT Places Tallied Nat :=
  shared 10000 (edges.reverse.flatMap fun e => [e.octets.1, e.octets.2, e.next]) edges.length

/-- Closes open nodes, each of which goes on at the one behind it. -/
def closeNodes (target : Nat) : List OpenNode → StateT Places Tallied Nat
  | [] => pure target
  | n :: rest => do edgesNode (⟨n.last, ← closeNodes target rest⟩ :: n.edges)

/-- Adds a sequence of octets to open nodes. Those that do not lead to it are closed. -/
def addSequence (target : Nat) :
    List OpenNode → List OctetRange → StateT Places Tallied (List OpenNode)
  | n :: rest, r :: more => do
    if n.last == r then return n :: (← addSequence target rest more)
    else
      let next ← closeNodes target rest
      return ⟨⟨n.last, next⟩ :: n.edges, r⟩ :: more.map (⟨[], ·⟩)
  | _, more => return more.map (⟨[], ·⟩)

/-- Sequences in ascending order share the octets that they begin with, and the nodes behind octets
from which the same is read. -/
def forwardSet (sequences : List (List OctetRange)) : Tallied Unit := do
  let target ← node 0
  let addAll : StateT Places Tallied Nat := do
    closeNodes target (← sequences.foldlM (addSequence target) [])
  discard (addAll.run' ∅)

/-! ## Sets that are read backwards -/

/-- A sequence that ends in `after`, of which the first octet is read last. -/
def backwardSequence (after : Nat) : List OctetRange → StateT Places Tallied Unit
  | [] => add 0 0 1
  | r :: rest => do backwardSequence (← shared 1000 [after, r.1, r.2] 0) rest

/-- Sequences share the nodes of the octets that they begin with. -/
def backwardSet (sequences : List (List OctetRange)) : Tallied Unit := do
  add 1
  let after ← node 0
  discard ((sequences.forM (backwardSequence after)).run' ∅)

/-- One character of a set. ASCII characters are octets, for which one node suffices. -/
def setTally (d : Direction) (s : CodeSet) : Tallied Unit :=
  if s.isAscii then add 2 s.ranges.length
  else
    match d with
    | .forwards => forwardSet (sequences s)
    | .backwards => backwardSet (sequences s)

end Wayfarer.Pattern
