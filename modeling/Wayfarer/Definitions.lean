import Wayfarer.Record

/-!
A set of definitions: the step, way and detour records of a workflow in the order of their files. Of
several records with one identifier the first is the one found.
-/
namespace Wayfarer

structure Definitions where
  steps : List Step := []
  ways : List Way := []
  detours : List Detour := []
  deriving DecidableEq, Inhabited

namespace Definitions

def step? (d : Definitions) (id : Ident) : Option Step :=
  d.steps.find? (·.id == id)

def way? (d : Definitions) (id : Ident) : Option Way :=
  d.ways.find? (·.id == id)

def detour? (d : Definitions) (id : Ident) : Option Detour :=
  d.detours.find? (·.id == id)

/-- Some record answers to the identifier, among those of its kind. -/
def has (d : Definitions) (id : Ident) : Bool :=
  match id.kind with
  | .step => (d.step? id).isSome
  | .way => (d.way? id).isSome
  | .detour => (d.detour? id).isSome

end Definitions

end Wayfarer
