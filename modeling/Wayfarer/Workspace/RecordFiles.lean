import Wayfarer.Json.Printer
import Wayfarer.Pockets
import Wayfarer.Record.Form
import Wayfarer.Workspace

/-!
The files that hold lists of records: steps, ways, detours, and the pockets to begin with.
-/
namespace Wayfarer.Workspace

def recordsText (toJson : α → Json) (records : List α) : String :=
  (Json.array (records.map toJson)).pretty ++ "\n"

def readRecords (record : Json → Json.Decode α) (p : Path) : Work (List α) := do
  let text ← (Work.readText p).during (.reading p)
  (Work.decode (Json.toList record) text).during (.parsing p)

def writeRecords (toJson : α → Json) (p : Path) (records : List α) : Work Unit :=
  Work.write p (recordsText toJson records)

/-- The definitions as they stand in their files. -/
def readDefinitions : Work Definitions := do
  let steps ← readRecords Step.ofJson stepsPath
  let ways ← readRecords Way.ofJson waysPath
  let detours ← readRecords Detour.ofJson detoursPath
  Work.note (.definitionsRead steps.length ways.length detours.length)
  return { steps, ways, detours }

/-- The definitions, which must not violate anything. References may dangle. -/
def loadDefinitions : Work Definitions := do
  let d ← readDefinitions
  if d.violations.isEmpty then return d else throw ⟨.invalid d.violations, []⟩

def writeDefinitions (d : Definitions) : Work Unit := do
  writeRecords Step.toJson stepsPath d.steps
  writeRecords Way.toJson waysPath d.ways
  writeRecords Detour.toJson detoursPath d.detours

/-- The pockets in the order of their file. -/
def loadPockets : Work (List Pocket) :=
  readRecords Pocket.ofJson pocketsPath

def writePockets (s : Pockets) : Work Unit :=
  Work.replace pocketsPath (recordsText Pocket.toJson s.cells)

end Wayfarer.Workspace
