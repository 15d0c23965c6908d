import Wayfarer.Definitions.Check
import Wayfarer.Files
import Wayfarer.Json.Decode
import Wayfarer.Spot

/-!
Failures that can be recovered from or reported: a cause and the undertakings in which it arose. The
causes and undertakings are data; their wording is in `message`.
-/
namespace Wayfarer

/-- What went wrong at the bottom. -/
inductive Cause where
  | badIdent (text : String)
  | badNumeral (fault : Text.NumeralFault)
  | system (fault : FileFault)
  | json (fault : Json.Fault)
  /-- The settings are not TOML, or TOML of another shape. -/
  | settings
  /-- The pattern is not well formed, or too large. -/
  | pattern
  | blankSpot
  | pocketMissing (name : String)
  | nothingToPaste (pocket : String)
  /-- The page refused a call and said why. -/
  | page (reason : String)
  | noInterval
  | invalid (violations : List Violation)
  | workspaceExists
  | workspaceNotDirectory
  | notWay (id : Ident)
  /-- A workspace that does not validate; one finding a line. -/
  | findings (list : List String)
  deriving DecidableEq, Repr

namespace Cause

def message : Cause → String
  | badIdent text => s!"invalid identifier '{text}'"
  | badNumeral fault => fault.message
  | system fault => fault.message
  | json fault => fault.message
  | settings => "(toml)"
  | pattern => "(regex)"
  | blankSpot => "empty spot"
  | pocketMissing name => s!"pocket '{name}' not found"
  | nothingToPaste pocket => s!"pocket '{pocket}' not found and no payload"
  | page reason => reason
  | noInterval => "poll_interval_ms must be > 0"
  | invalid violations =>
    "definition invariants failed: " ++ "; ".intercalate (violations.map Violation.message)
  | workspaceExists => "waywalk init: .waywalk already exists (use --force to overwrite)"
  | workspaceNotDirectory => "waywalk init: .waywalk exists but is not a directory"
  | notWay id => s!"{id} is not a way identifier"
  | findings list => "invariant violations:\n- " ++ "\n- ".intercalate list

end Cause

/-- What was being done. -/
inductive Undertaking where
  | reading (p : Path)
  | parsing (p : Path)
  | readingCursor (p : Path)
  | parsingCursor (p : Path)
  | writing (p : Path)
  | creating (p : Path)
  | creatingDirectory (p : Path)
  | writingTemporary (p : Path)
  | replacing (p : Path)
  | readingIndex (part raw : String)
  | compiling (pattern : String)
  | loadingDefinitions
  | loadingCursor
  | persistingPockets
  | clearingFlag
  | arming
  | armingOnStart
  deriving DecidableEq, Repr

namespace Undertaking

def message : Undertaking → String
  | reading p => s!"read {p.text}"
  | parsing p => s!"parse {p.text}"
  | readingCursor p => s!"read cursor {p.text}"
  | parsingCursor p => s!"parse cursor {p.text}"
  | writing p => s!"write {p.text}"
  | creating p => s!"create {p.text}"
  | creatingDirectory p => s!"create directory {p.text}"
  | writingTemporary p => s!"write temp file {p.text}"
  | replacing p => s!"replace {p.text}"
  | readingIndex part raw => s!"invalid spot index '{part}' in '{raw}'"
  | compiling pattern => s!"invalid pattern '{pattern}'"
  | loadingDefinitions => "load definitions"
  | loadingCursor => "load cursor"
  | persistingPockets => "persist pockets"
  | clearingFlag => "clear running flag"
  | arming => "arm cursor"
  | armingOnStart => "arm cursor on start"

end Undertaking

structure Failure where
  cause : Cause
  /-- What was being done, the outermost first. -/
  during : List Undertaking := []
  deriving DecidableEq, Repr

namespace Failure

/-- The undertakings from the outside in, then the cause. -/
def message (f : Failure) : String :=
  ": ".intercalate (f.during.map Undertaking.message ++ [f.cause.message])

def within (u : Undertaking) (f : Failure) : Failure :=
  { f with during := u :: f.during }

def ofSpot : SpotFault → Failure
  | .blank => ⟨.blankSpot, []⟩
  | .badIndex part raw fault => ⟨.badNumeral fault, [.readingIndex part raw]⟩

def ofJson (fault : Json.Fault) : Failure :=
  ⟨.json fault, []⟩

def ofSystem (fault : FileFault) : Failure :=
  ⟨.system fault, []⟩

end Failure

end Wayfarer
