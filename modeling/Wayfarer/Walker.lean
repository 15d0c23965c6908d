import Wayfarer.Walk

/-!
Walkers. The activations of a walker share one trail, the index at every active depth: an activation
puts its index on it, moves that from reference to reference, and takes it off again however it ends.
So one walker can be sent on one walk after the other.
-/
namespace Wayfarer

/-- What walks change, and where the activations stand. -/
structure Walker (π ω : Type) extends Walk.State π ω where
  /-- The current index at every active depth, outermost first. -/
  trail : Array Nat := #[]

/-- A computation of a walker. As a walk it may end in an error, or have no result. -/
abbrev Tour (π ω α : Type) := ExceptT WalkError (StateT (Walker π ω) Option) α

namespace Walker

/-- A walker that has not walked yet. -/
def new (page : π) (pockets : Pockets) (settle : Nat) (world : ω) : Walker π ω :=
  { page, pockets, settle, world }

/-- Does to the state what a walk does, and leaves the trail alone. -/
def lift (x : Walk π ω α) : Tour π ω α :=
  ExceptT.mk fun k => (x k.toState).map fun (result, s) => (result, { k with toState := s })

/-- Moves the innermost index. -/
def setPosition (index : Nat) : Tour π ω Unit :=
  ExceptT.mk fun k =>
    some (.ok (), { k with trail := k.trail.modify (k.trail.size - 1) fun _ => index })

def reportPosition (w : Walk.Setting π ω) : Tour π ω Unit :=
  ExceptT.mk fun k => lift (Walk.report w (.ofPath k.trail.toList)) k

/-- Works with one more index on the trail, and takes that off whether or not the work has failed. -/
def activate (work : Tour π ω α) : Tour π ω α :=
  ExceptT.mk fun k =>
    (work { k with trail := k.trail.push 0 }).map fun (result, k) =>
      (result, { k with trail := k.trail.pop })

/-- Follows one reference with the budget `limit` and hands back what is left of it. -/
def follow (w : Walk.Setting π ω) (descend : Way → Spot → Nat → Tour π ω Unit) (index : Nat)
    (target : Ident) (inner : Spot) (limit : Nat) : Tour π ω Nat := do
  setPosition index
  match target.kind with
  | .step =>
    reportPosition w
    match ← lift (Walk.within (runStep w.definitions w.actions target index)) with
    | none => pure limit
    | some way =>
      if way.steps.isEmpty then pure limit
      else do
        let left ← lift (Walk.spend target limit)
        descend way inner left
        pure left
  | .way =>
    descend (← lift (Walk.lookUpWay w target)) inner limit
    pure limit
  | .detour =>
    descend (← lift (Walk.resolve w target)) inner limit
    pure limit

/-- Follows references from position `index` on. -/
def followAll (visit : Nat → Ident → Nat → Tour π ω Nat) :
    (index : Nat) → List Ident → (limit : Nat) → Tour π ω Nat
  | _, [], limit => pure limit
  | index, target :: rest, limit => do
    let left ← visit index target limit
    followAll visit (index + 1) rest left

/-- Makes one pass over a way. Pass 0 begins at the index of the spot, and the reference there gets
the rest of it. -/
def pass (w : Walk.Setting π ω) (descend : Way → Spot → Nat → Tour π ω Unit) (way : Way)
    (spot : Spot) (number limit : Nat) : Tour π ω Nat :=
  let first := if number = 0 then spot.index else 0
  let inner (index : Nat) := if number = 0 ∧ index = spot.index then spot.inner else .start
  followAll (fun index target => follow w descend index target (inner index)) first
    (way.steps.drop first) limit

/-- Makes `n` passes from `number` on, each with what the one before has left of the budget. -/
def passes (once : Nat → Nat → Tour π ω Nat) : (n number limit : Nat) → Tour π ω Nat
  | 0, _, limit => pure limit
  | n + 1, number, limit => do
    let left ← once number limit
    passes once n (number + 1) left

/-- Walks a way from `spot`. `depth` bounds how deep activations may nest. -/
def walk (w : Walk.Setting π ω) : (depth : Nat) → Way → Spot → (limit : Nat) → Tour π ω Unit
  | 0, _, _, _ => ExceptT.mk fun _ => none
  | depth + 1, way, spot, limit => activate do
    lift (Walk.note (.walking way spot limit))
    -- passes over nothing need not be made
    if way.steps.isEmpty then pure ()
    else discard (passes (pass w (walk w depth) way spot) way.repeats 0 limit)

end Walker

end Wayfarer
