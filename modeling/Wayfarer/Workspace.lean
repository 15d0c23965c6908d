import Wayfarer.Event

/-!
A workspace: the files below some directory, with a journal of what has been done there. Work on a
workspace may fail, and keeps what it has done until then.
-/
namespace Wayfarer

structure Workspace where
  files : Files := {}
  /-- Every event, with the files as they were at that moment. -/
  journal : Array (Moment Files) := #[]

abbrev Work (α : Type) := ExceptT Failure (StateM Workspace) α

namespace Workspace

def note (w : Workspace) (e : Event) : Workspace :=
  { w with journal := w.journal.push ⟨e, w.files⟩ }

/-! ### The layout of a workspace -/

def dataDirectory : Path := [".waywalk"]

def stepsPath : Path := dataDirectory ++ ["step.json"]

def waysPath : Path := dataDirectory ++ ["way.json"]

def detoursPath : Path := dataDirectory ++ ["detour.json"]

def pocketsPath : Path := dataDirectory ++ ["pocket.json"]

def cursorPath : Path := dataDirectory ++ ["inSpot.json"]

def settingsPath : Path := dataDirectory ++ ["config.toml"]

end Workspace

namespace Work

def note (e : Event) : Work Unit :=
  ExceptT.mk fun w => (.ok (), w.note e)

/-- Says of a failure in what undertaking it arose. -/
def during (u : Undertaking) (work : Work α) : Work α :=
  ExceptT.mk fun w =>
    match work w with
    | (.ok a, w) => (.ok a, w)
    | (.error f, w) => (.error (f.within u), w)

/-- What was found out, or why it could not be. -/
def ofExcept (result : Except Failure α) : Work α :=
  ExceptT.mk fun w => (result, w)

/-- Looks at the files. -/
def look (question : Files → α) : Work α :=
  ExceptT.mk fun w => (.ok (question w.files), w)

/-- Changes the files, all of them or none. -/
def change (operation : Files → Except FileFault Files) : Work Unit :=
  ExceptT.mk fun w =>
    match operation w.files with
    | .ok files => (.ok (), { w with files })
    | .error fault => (.error (.ofSystem fault), w)

def readText (p : Path) : Work String := do
  ofExcept ((← look (·.readText p)).mapError Failure.ofSystem)

def write (p : Path) (text : String) : Work Unit :=
  (change (·.write p (.text text))).during (.writing p)

/-- Puts a whole new text into the place of a file: it is written beside the file and then takes its
name, so that the file never holds a part of it. -/
def replace (p : Path) (text : String) : Work Unit := do
  let parent := p.dropLast
  let beside := p.withEnding ".tmp"
  (change (·.makeDirectories parent)).during (.creatingDirectory parent)
  (change (·.write beside (.text text))).during (.writingTemporary beside)
  (change (·.rename beside p)).during (.replacing p)

/-- Reads the value that a text writes in JSON. -/
def decode (value : Json → Json.Decode α) (text : String) : Work α :=
  ofExcept ((Json.decode value text).mapError Failure.ofJson)

end Work

end Wayfarer
