/-!
Tallies of automata: of the nodes of an automaton and the edges out of them a count is kept, as if
they were added one after the other, but no automaton is built. A tally ends where it exceeds what
is allowed, so copies that are counted in millions are not made.
-/
namespace Wayfarer.Pattern

/-- How many nodes there are, how many edges lead out of them over octets, and in how many ways
forks go on. -/
structure Tally where
  nodes : Nat := 0
  edges : Nat := 0
  ways : Nat := 0
  deriving DecidableEq, Repr

namespace Tally

/-- What is tallied takes so many bytes. -/
def size (t : Tally) : Nat :=
  32 * t.nodes + 8 * t.edges + 4 * t.ways

def maxSize : Nat := 10 * 1024 * 1024

end Tally

/-- A tally that goes on. There is none that is too large. -/
abbrev Tallied := StateT Tally Option

/-- The direction in which an automaton reads. -/
inductive Direction
  | forwards
  | backwards
  deriving DecidableEq, Repr

namespace Tallied

/-- Adds nodes, edges and ways. -/
def add (nodes : Nat) (edges : Nat := 0) (ways : Nat := 0) : Tallied Unit := fun t =>
  let t : Tally := ⟨t.nodes + nodes, t.edges + edges, t.ways + ways⟩
  if t.size ≤ Tally.maxSize then some ((), t) else none

/-- Adds a node and answers its number. -/
def node (edges : Nat) : Tallied Nat := do
  let number := (← get).nodes
  add 1 edges
  return number

/-- Goes on from a node that may be a fork, for which that is one more way. -/
def join (fork : Bool) : Tallied Unit :=
  if fork then add 0 0 1 else pure ()

/-- What does not end in a fork. -/
def closed (t : Tallied Unit) : Tallied Bool := do
  t
  return false

end Tallied

end Wayfarer.Pattern
