import Wayfarer.Settings
import Wayfarer.Workspace

/-!
The settings in their file. A workspace without the file has the default settings.
-/
namespace Wayfarer.Workspace

def loadSettings : Work Settings := do
  if !(← Work.look (·.isThere settingsPath)) then return {}
  let text ← (Work.readText settingsPath).during (.reading settingsPath)
  match Settings.ofText? text with
  | none => throw ⟨.settings, [.parsing settingsPath]⟩
  | some settings =>
    Work.ofExcept settings.check
    return settings

def writeSettings (s : Settings) : Work Unit := do
  Work.ofExcept s.check
  Work.replace settingsPath s.text

end Wayfarer.Workspace
