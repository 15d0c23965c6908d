import Wayfarer.Definitions

/-!
Ways and detours that can reach themselves. The graph has their ids as nodes and their references to
ways and detours as edges; catch lists are left out, since the budget of a walk bounds them.
-/
namespace Wayfarer.Definitions

/-- The references of a list that lead to ways and detours. -/
def onward (ids : List Ident) : List Ident :=
  ids.filter (·.kind ≠ .step)

/-- Where `node` leads. Records with one id count as one node. -/
def targets (d : Definitions) (node : Ident) : List Ident :=
  (d.ways.filter (·.id == node)).flatMap (fun w => onward w.steps) ++
  (d.detours.filter (·.id == node)).flatMap fun t => t.entries.flatMap fun e => onward e.steps

/-- The ids of the ways and detours, in order and each once. -/
def nodes (d : Definitions) : List Ident :=
  Ident.sorted (d.ways.map (·.id) ++ d.detours.map (·.id))

/-- What a search has found so far. -/
structure Search where
  /-- The nodes whose targets have all been followed. -/
  done : List Ident := []
  /-- The nodes that a search met again below themselves, in order. -/
  looping : List Ident := []
  deriving Inhabited

/-- Follows `node`, which was reached through the nodes of `trail`. A node met again on the trail
closes a cycle. The trail never holds a node twice, so `fuel` need not exceed the number of nodes by
more than one. -/
def visit (d : Definitions) : (fuel : Nat) → (trail : List Ident) → Search → Ident → Search
  | 0, _, s, _ => s
  | fuel + 1, trail, s, node =>
    if s.done.contains node then s
    else if trail.contains node then { s with looping := Ident.insertSorted node s.looping }
    else
      let s := (d.targets node).foldl (visit d fuel (node :: trail)) s
      { s with done := node :: s.done }

/-- Every id that a node is, or leads to. -/
def reach (d : Definitions) : List Ident :=
  Ident.sorted (d.nodes ++ d.nodes.flatMap d.targets)

/-- Ids such that every cycle runs through one of them, in order and each once. -/
def cycles (d : Definitions) : List Ident :=
  (d.nodes.foldl (visit d (d.reach.length + 1) []) {}).looping

def cycleMessage (id : Ident) : String :=
  s!"traversal cycle through {id}"

end Wayfarer.Definitions
