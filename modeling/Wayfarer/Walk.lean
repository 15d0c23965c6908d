import Wayfarer.Walk.Branch
import Wayfarer.Walk.Step

/-!
Walking a way. A walk descends into nested ways and resolved detours, which share the budget of the
activation they stand in, and into the catch ways of failed steps, each of which costs one unit of
it. Every activation has a budget of its own: what its children spend is not given back and not
charged.
-/
namespace Wayfarer

/-- How many steps were run and how many catch ways were entered. -/
structure Stats where
  steps : Nat := 0
  recoveries : Nat := 0
  deriving DecidableEq, Repr, Inhabited

namespace Walk

/-- What a walk is given and never changes. -/
structure Setting (π ω : Type) where
  definitions : Definitions
  actions : ActionTable π
  /-- What is done in the world with each position before its step runs. -/
  keep : Spot → ω → ω × Array (Moment ω) := fun _ world => (world, #[])

/-- What a walk changes: the page, the pockets, the pause behind a navigation, the world in which
positions are kept, its counters, and the journal of what has happened. -/
structure State (π ω : Type) where
  page : π
  pockets : Pockets
  /-- Milliseconds to pause behind a navigation. An action may set them for those behind it. -/
  settle : Nat
  world : ω
  stats : Stats := {}
  journal : Array (Moment ω) := #[]

end Walk

/-- A walk over a state. It ends well or with an error, in some state; or it has no result, because
it would nest deeper than it was allowed to. -/
abbrev Walk (π ω α : Type) := ExceptT WalkError (StateT (Walk.State π ω) Option) α

namespace Walk

/-- The state after an event. -/
def State.note (s : State π ω) (e : Event) : State π ω :=
  { s with journal := s.journal.push ⟨e, s.world⟩ }

/-- The session in which a step is run. -/
def State.session (s : State π ω) : Session π where
  page := s.page
  pockets := s.pockets
  settle := s.settle

def note (e : Event) : Walk π ω Unit :=
  ExceptT.mk fun s => some (.ok (), s.note e)

/-- Reports the position of the step that is about to run, and counts the step. -/
def report (w : Setting π ω) (spot : Spot) : Walk π ω Unit :=
  ExceptT.mk fun s =>
    let s := s.note (.reached spot)
    let (world, moments) := w.keep spot s.world
    some (.ok (), { s with world, journal := s.journal ++ moments,
                           stats := { s.stats with steps := s.stats.steps + 1 } })

/-- Works on the session of the walk. What it leaves there is what the next step finds. -/
def within (work : Session π → Except WalkError α × Session π) : Walk π ω α :=
  ExceptT.mk fun s =>
    let (result, session) := work s.session
    some (result, { s with page := session.page, pockets := session.pockets, settle := session.settle,
                           journal := s.journal ++ session.events.map (⟨·, s.world⟩) })

/-- Takes one unit off the budget for the catch way of `step`. -/
def spend (step : Ident) (limit : Nat) : Walk π ω Nat :=
  match limit with
  | 0 => throw (.budgetExhausted step)
  | left + 1 => ExceptT.mk fun s =>
    let s := { s with stats := { s.stats with recoveries := s.stats.recoveries + 1 } }
    some (.ok left, s.note (.recovering step left))

def lookUpWay (w : Setting π ω) (id : Ident) : Walk π ω Way :=
  match w.definitions.way? id with
  | some way => pure way
  | none => throw (.unknownWay id)

def resolve (w : Setting π ω) (id : Ident) : Walk π ω Way :=
  ExceptT.mk fun s =>
    match w.definitions.resolve s.pockets id with
    | .ok branch => some (.ok branch.way, s.note branch.event)
    | .error e => some (.error e, s)

/-- Follows one reference with the budget `limit` and hands back what is left of it. `outer` are the
indices of the activations around this one, and `descend` walks a way below it. -/
def follow (w : Setting π ω) (descend : List Nat → Way → Spot → Nat → Walk π ω Unit)
    (outer : List Nat) (index : Nat) (target : Ident) (inner : Spot) (limit : Nat) :
    Walk π ω Nat := do
  let here := outer ++ [index]
  match target.kind with
  | .step =>
    report w (.ofPath here)
    match ← within (runStep w.definitions w.actions target index) with
    | none => pure limit
    | some way =>
      if way.steps.isEmpty then pure limit
      else do
        let left ← spend target limit
        descend here way inner left
        pure left
  | .way =>
    descend here (← lookUpWay w target) inner limit
    pure limit
  | .detour =>
    descend here (← resolve w target) inner limit
    pure limit

/-- Follows references from position `index` on. The first gets `inner`, the others start afresh. -/
def followAll (visit : Nat → Ident → Spot → Nat → Walk π ω Nat) :
    (index : Nat) → List Ident → (inner : Spot) → (limit : Nat) → Walk π ω Nat
  | _, [], _, limit => pure limit
  | index, target :: rest, inner, limit => do
    let left ← visit index target inner limit
    followAll visit (index + 1) rest .start left

/-- Makes `n` passes, each with what the one before has left of the budget. -/
def passes (once : Nat → Walk π ω Nat) : (n : Nat) → (limit : Nat) → Walk π ω Nat
  | 0, limit => pure limit
  | n + 1, limit => do
    let left ← once limit
    passes once n left

/-- Walks a way from `spot`. Only the first pass begins at the index of the spot, and only the
reference there gets the rest of it. `depth` bounds how deep activations may nest. -/
def walk (w : Setting π ω) : (depth : Nat) → (outer : List Nat) → Way → Spot → (limit : Nat) →
    Walk π ω Unit
  | 0, _, _, _, _ => ExceptT.mk fun _ => none
  | depth + 1, outer, way, spot, limit => do
    note (.walking way spot limit)
    let visit := follow w (walk w depth) outer
    match way.repeats with
    | 0 => pure ()
    | more + 1 =>
      let left ← followAll visit spot.index (way.steps.drop spot.index) spot.inner limit
      if way.steps.isEmpty then pure ()
      else discard (passes (followAll visit 0 way.steps .start) more left)

end Walk

end Wayfarer
