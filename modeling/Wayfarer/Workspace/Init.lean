import Wayfarer.Workspace.CursorFile
import Wayfarer.Workspace.RecordFiles
import Wayfarer.Workspace.SettingsFile

/-!
Setting up a workspace: no definitions, no pockets, an idle cursor and the default settings.
-/
namespace Wayfarer.Workspace

/-- The cursor of a new workspace. -/
def firstCursor : Cursor :=
  .idle (.way "main") 3

def emptyList : String := "[]\n"

/-- Sets up a workspace. What is there already is only written over if `force` says so. -/
def init (force : Bool) : Work Unit := do
  let there ← Work.look (·.isThere dataDirectory)
  if there && !force then throw ⟨.workspaceExists, []⟩
  if there && !(← Work.look (·.isDirectory dataDirectory)) then
    throw ⟨.workspaceNotDirectory, []⟩
  (Work.change (·.makeDirectories dataDirectory)).during (.creating dataDirectory)
  for p in [stepsPath, waysPath, detoursPath, pocketsPath] do
    Work.write p emptyList
  writeCursor firstCursor
  writeSettings {}

end Wayfarer.Workspace
