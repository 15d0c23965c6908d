import Wayfarer.Failure
import Wayfarer.Toml.Reader

/-!
The settings of a workspace and their text, which is TOML. Settings that are left out have defaults;
keys that are no settings do not count.
-/
namespace Wayfarer

structure Settings where
  /-- Milliseconds between two looks at the cursor while nothing runs. -/
  pollInterval : Nat := 3000
  /-- Milliseconds to pause behind a navigation. -/
  settle : Nat := 3000
  /-- The loop marks the cursor running when it starts. -/
  armOnStart : Bool := true
  /-- The position of every step is kept in the cursor. -/
  checkpoint : Bool := true
  /-- The pockets are written to their file behind every walk. -/
  persistPockets : Bool := false
  deriving DecidableEq, Repr, Inhabited

namespace Settings

/-- The loop must not spin. -/
def check (s : Settings) : Except Failure Unit :=
  if s.pollInterval == 0 then .error ⟨.noInterval, []⟩ else .ok ()

/-- One line for each setting, and an empty one. -/
def text (s : Settings) : String :=
  s!"poll_interval_ms = {s.pollInterval}\n" ++
  s!"open_page_settle_ms = {s.settle}\n" ++
  s!"arm_on_start = {s.armOnStart}\n" ++
  s!"checkpoint_spot = {s.checkpoint}\n" ++
  s!"persist_pockets = {s.persistPockets}\n" ++
  "\n"

/-- Reads a setting with the default `d`. -/
def entry (read : Toml.Value → Option α) (d : α) (key : String) (es : Toml.Entries) : Option α :=
  match es.find? key with
  | none => some d
  | some (.value v) => read v
  | some _ => none

def millis : Toml.Value → Option Nat
  | .integer n => if 0 ≤ n && n < Text.wordBound then some n.toNat else none
  | _ => none

def flag : Toml.Value → Option Bool
  | .boolean b => some b
  | _ => none

/-- The settings that a text makes, if it is TOML and each setting has its type. -/
def ofText? (text : String) : Option Settings := do
  let es ← Toml.read? text
  let d : Settings := {}
  return {
    pollInterval := ← entry millis d.pollInterval "poll_interval_ms" es
    settle := ← entry millis d.settle "open_page_settle_ms" es
    armOnStart := ← entry flag d.armOnStart "arm_on_start" es
    checkpoint := ← entry flag d.checkpoint "checkpoint_spot" es
    persistPockets := ← entry flag d.persistPockets "persist_pockets" es }

end Settings

end Wayfarer
