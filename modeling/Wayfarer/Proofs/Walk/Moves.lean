import Wayfarer.Proofs.Partial
import Wayfarer.Walk

/-!
# What an activation does at a reference

Following a reference is a decision and perhaps a descent. The decision always has a result; only a
descent may nest too deep.
-/

namespace Wayfarer.Walk

inductive Move where
  /-- There is nothing to descend into. -/
  | advance
  /-- The catch way of a failed step is entered, with what is then left of the budget. -/
  | recover (way : Way) (left : Nat)
  | enter (way : Way)

/-- The state in which the position of a step has been kept. -/
def State.reach (w : Setting π ω) (spot : Spot) (s : State π ω) : State π ω :=
  let s := s.note (.reached spot)
  let (world, moments) := w.keep spot s.world
  { s with world, journal := s.journal ++ moments,
           stats := { s.stats with steps := s.stats.steps + 1 } }

/-- Runs a step in the session of the state. -/
def State.act (w : Setting π ω) (target : Ident) (ordinal : Nat) (s : State π ω) :
    Except WalkError (Option Way) × State π ω :=
  let (result, session) := runStep w.definitions w.actions target ordinal s.session
  (result, { s with page := session.page, pockets := session.pockets, settle := session.settle,
                    journal := s.journal ++ session.events.map (⟨·, s.world⟩) })

def State.spent (step : Ident) (left : Nat) (s : State π ω) : State π ω :=
  { s with stats := { s.stats with recoveries := s.stats.recoveries + 1 } }.note
    (.recovering step left)

/-- What is decided once a step has been run: whether its catch way is entered. -/
def respond (step : Ident) (limit : Nat) :
    Except WalkError (Option Way) × State π ω → Except WalkError Move × State π ω
  | (.error e, s) => (.error e, s)
  | (.ok none, s) => (.ok .advance, s)
  | (.ok (some way), s) =>
    if way.steps.isEmpty then (.ok .advance, s)
    else
      match limit with
      | 0 => (.error (.budgetExhausted step), s)
      | left + 1 => (.ok (.recover way left), s.spent step left)

def meet (w : Setting π ω) (outer : List Nat) (index : Nat) (target : Ident) (limit : Nat)
    (s : State π ω) : Except WalkError Move × State π ω :=
  match target.kind with
  | .step => respond target limit ((s.reach w (.ofPath (outer ++ [index]))).act w target index)
  | .way =>
    match w.definitions.way? target with
    | none => (.error (.unknownWay target), s)
    | some way => (.ok (.enter way), s)
  | .detour =>
    match w.definitions.resolve s.pockets target with
    | .error e => (.error e, s)
    | .ok branch => (.ok (.enter branch.way), s.note branch.event)

theorem follow_apply (w : Setting π ω) (descend : List Nat → Way → Spot → Nat → Walk π ω Unit)
    (outer : List Nat) (index : Nat) (target : Ident) (inner : Spot) (limit : Nat) (s : State π ω) :
    follow w descend outer index target inner limit s =
      match meet w outer index target limit s with
      | (.error e, t) => some (.error e, t)
      | (.ok .advance, t) => some (.ok limit, t)
      | (.ok (.recover way left), t) =>
        (descend (outer ++ [index]) way inner left >>= fun _ => pure left) t
      | (.ok (.enter way), t) =>
        (descend (outer ++ [index]) way inner limit >>= fun _ => pure limit) t := by
  unfold follow meet
  cases target.kind with
  | step =>
    have act : ∀ t : State π ω, within (runStep w.definitions w.actions target index) t =
        some (t.act w target index) := fun _ => rfl
    simp only
    rw [bind_apply, show report w (.ofPath (outer ++ [index])) s =
      some (.ok (), s.reach w (.ofPath (outer ++ [index]))) from rfl]
    simp only [bind_apply _ _ (s.reach w _), act]
    rcases (s.reach w (.ofPath (outer ++ [index]))).act w target index with ⟨_ | _ | way, t⟩
    · rfl
    · rfl
    · simp only [respond]
      by_cases nothing : way.steps.isEmpty
      · simp only [nothing, if_true]
        rfl
      · simp only [nothing]
        cases limit <;> rfl
  | way =>
    simp only [lookUpWay]
    rw [bind_apply]
    cases w.definitions.way? target <;> rfl
  | detour =>
    simp only [resolve]
    rw [bind_apply]
    simp only [ExceptT.mk]
    cases w.definitions.resolve s.pockets target <;> rfl

end Wayfarer.Walk
