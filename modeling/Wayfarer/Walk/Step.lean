import Wayfarer.Action

/-!
Running one step. A failed action is no error: it hands back the catch way of the step.
-/
namespace Wayfarer

/-- Runs the step at position `ordinal` of its way. A step that is missing, or whose kind has no
action, ends the walk. -/
def runStep (d : Definitions) (actions : ActionTable π) (id : Ident) (ordinal : Nat)
    (s : Session π) : Except WalkError (Option Way) × Session π :=
  match d.step? id with
  | none => (.error (.unknownStep id), s)
  | some step =>
    let s := s.note (.running ordinal step)
    match actions step.action with
    | none => (.error (.missingAction step.id step.action), s)
    | some action =>
      match action step s with
      | (.ok (), s) => (.ok none, s)
      | (.error failure, s) => (.ok (some step.catchWay), s.note (.stepFailed step.id failure))

end Wayfarer
