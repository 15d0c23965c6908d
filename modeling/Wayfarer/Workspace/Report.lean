import Wayfarer.Definitions.Cycle
import Wayfarer.Workspace.CursorFile
import Wayfarer.Workspace.RecordFiles

/-!
What is wrong with a workspace. Files that cannot be read are failures; all else is collected.
-/
namespace Wayfarer

structure Report where
  definitions : Definitions
  pockets : List Pocket
  cursor : Cursor

namespace Report

/-- Faults of the definitions, then references that dangle, then a cursor on no way. -/
def errors (r : Report) : List String :=
  r.definitions.violations.map Violation.message ++
  r.definitions.dangling.map Dangling.message ++
  (if (r.definitions.way? r.cursor.way).isSome then []
    else [s!"cursor: unknown root way {r.cursor.way}"])

/-- Cycles, since a detour may leave them. -/
def warnings (r : Report) : List String :=
  r.definitions.cycles.map Definitions.cycleMessage

def isValid (r : Report) : Bool :=
  r.errors.isEmpty

end Report

/-- Reads everything but the settings. -/
def Workspace.examine : Work Report := do
  let definitions ← readDefinitions
  let pockets ← loadPockets
  let cursor ← loadCursor.during .loadingCursor
  return { definitions, pockets, cursor }

end Wayfarer
