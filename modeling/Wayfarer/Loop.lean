import Wayfarer.Run

/-!
Looking at the cursor again and again, and walking whenever it is marked running. A walk that ends
in an error does not end the loop; a failure does. The pockets live as long as the loop.
-/
namespace Wayfarer

/-- How often the loop has looked, and how the walks have ended. -/
structure Summary where
  ticks : Nat := 0
  completed : Nat := 0
  failed : Nat := 0
  deriving DecidableEq, Repr, Inhabited

def Summary.count (s : Summary) : Outcome → Summary
  | .idle => { s with ticks := s.ticks + 1 }
  | .completed _ _ => { s with ticks := s.ticks + 1, completed := s.completed + 1 }
  | .failed _ _ _ => { s with ticks := s.ticks + 1, failed := s.failed + 1 }

namespace Loop

open Workspace

/-- Marks the cursor running, if the settings say so. -/
def begin : Run π Unit := do
  let settings ← Run.work loadSettings
  if settings.armOnStart then
    discard (Run.work ((setRunning true).during .armingOnStart))
    Run.note .armedOnStart

/-- Looks at the cursor once. Behind an idle tick the loop sleeps. -/
def tick (actions : ActionTable π) (depth : Nat) : Run π Outcome := do
  let outcome ← Run.once actions depth
  if outcome = .idle then
    let settings ← Run.work loadSettings
    Run.note (.idling settings.pollInterval)
  return outcome

structure State (π σ : Type) where
  run : Run.State π
  summary : Summary := {}
  /-- What belongs to those who use the loop. -/
  outside : σ

end Loop

/-- A loop over a state. It has no result if one of its walks has none. -/
abbrev Loop (π σ α : Type) := ExceptT Failure (StateT (Loop.State π σ) Option) α

namespace Loop

/-- What is done behind each tick. It may change the files. -/
abbrev Hook (σ : Type) := Outcome → Workspace → σ → Files × σ

def run (r : Run π α) : Loop π σ α :=
  ExceptT.mk fun s => (r s.run).map fun (result, run) => (result, { s with run })

/-- Counts an outcome and calls the hook. -/
def finish (hook : Hook σ) (outcome : Outcome) : Loop π σ Unit :=
  ExceptT.mk fun s =>
    let (files, outside) := hook outcome s.run.workspace s.outside
    some (.ok (), { run := { s.run with workspace := { s.run.workspace with files } },
                    summary := s.summary.count outcome, outside })

/-- Ticks so many times. -/
def ticks (actions : ActionTable π) (depth : Nat) (hook : Hook σ) : (count : Nat) → Loop π σ Unit
  | 0 => pure ()
  | count + 1 => do
    finish hook (← run (tick actions depth))
    ticks actions depth hook count

/-- Begins, and ticks at most `count` times. -/
def loop (actions : ActionTable π) (depth : Nat) (hook : Hook σ) (count : Nat) : Loop π σ Unit := do
  run begin
  ticks actions depth hook count

end Loop

end Wayfarer
