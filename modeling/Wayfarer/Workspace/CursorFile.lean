import Wayfarer.Json.Printer
import Wayfarer.Workspace

/-!
The cursor in its file. A change reads the cursor that is there and writes it back whole.
-/
namespace Wayfarer.Workspace

def cursorText (c : Cursor) : String :=
  c.toJson.pretty ++ "\n"

def loadCursor : Work Cursor := do
  Work.note (.readingCursor cursorPath)
  let text ← (Work.readText cursorPath).during (.readingCursor cursorPath)
  let cursor ← (Work.decode Cursor.ofJson text).during (.parsingCursor cursorPath)
  Work.note (.cursorRead cursor)
  return cursor

def writeCursor (c : Cursor) : Work Unit := do
  Work.note (.writingCursor cursorPath c)
  Work.replace cursorPath (cursorText c)

/-- Answers the cursor as it was written. -/
def updateCursor (change : Cursor → Cursor) : Work Cursor := do
  let cursor := change (← loadCursor)
  writeCursor cursor
  return cursor

def setRunning (running : Bool) : Work Cursor :=
  updateCursor fun c => { c with running }

end Wayfarer.Workspace
