import Wayfarer.Spot

/-!
The commands of the program.
-/
namespace Wayfarer

inductive Command where
  /-- Sets up a workspace, over one that is there if `force` says so. -/
  | init (force : Bool)
  /-- Tells what is wrong with the workspace. -/
  | validate
  /-- Marks the cursor running for a way. -/
  | arm (way : String) (limit : Option Nat) (spot : Option Spot)
  /-- Prints the cursor. -/
  | status
  /-- Walks once if the cursor is marked running. -/
  | run
  /-- Walks whenever the cursor is marked running. -/
  | loop (ticks : Option Nat)
  deriving DecidableEq, Repr

structure Invocation where
  /-- Pauses are told and not slept. -/
  noPause : Bool := false
  command : Command
  deriving DecidableEq, Repr

end Wayfarer
