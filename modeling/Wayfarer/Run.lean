import Wayfarer.Walk
import Wayfarer.Workspace.CursorFile
import Wayfarer.Workspace.RecordFiles
import Wayfarer.Workspace.SettingsFile

/-!
One attempt to walk the way of the cursor. Once an attempt has begun the cursor is marked idle
again, however the attempt ends; a walk that ends well also rewinds it.
-/
namespace Wayfarer

inductive Outcome where
  /-- The cursor was not marked running. -/
  | idle
  | completed (way : Ident) (stats : Stats)
  /-- The walk ended in an error. The cursor keeps the position. -/
  | failed (way : Ident) (error : WalkError) (stats : Stats)
  deriving DecidableEq, Repr

namespace Run

/-- What an attempt changes. The pockets outlive it. -/
structure State (π : Type) where
  page : π
  pockets : Pockets := .empty
  workspace : Workspace

end Run

/-- An attempt over a state. It has no result if its walk would nest deeper than allowed. -/
abbrev Run (π α : Type) := ExceptT Failure (StateT (Run.State π) Option) α

namespace Run

open Workspace

def work (w : Work α) : Run π α :=
  ExceptT.mk fun s =>
    let (result, workspace) := w s.workspace
    some (result, { s with workspace })

def note (e : Event) : Run π Unit :=
  work (Work.note e)

/-- The result of an attempt, which may be its failure. -/
def observe (r : Run π α) : Run π (Except Failure α) :=
  ExceptT.mk fun s => (r s).map fun (result, s) => (.ok result, s)

def ofExcept (result : Except Failure α) : Run π α :=
  ExceptT.mk fun s => some (result, s)

/-- Puts pockets over those that are there. -/
def seed (pockets : List Pocket) : Run π Unit :=
  ExceptT.mk fun s => some (.ok (), { s with pockets := s.pockets.seed pockets })

def persist : Run π Unit :=
  ExceptT.mk fun s => work ((writePockets s.pockets).during .persistingPockets) s

/-- Keeps a position in the cursor. That it cannot be kept does not end the walk. -/
def keepSpot (spot : Spot) (files : Files) : Files × Array (Moment Files) :=
  match (updateCursor fun c => { c with spot }) { files } with
  | (.ok _, w) => (w.files, w.journal)
  | (.error f, w) =>
    let w := w.note (.checkpointFailed f spot)
    (w.files, w.journal)

/-- What walks are given by the settings. -/
def setting (definitions : Definitions) (actions : ActionTable π) (settings : Settings) :
    Walk.Setting π Files :=
  let setting : Walk.Setting π Files := { definitions, actions }
  if settings.checkpoint then { setting with keep := keepSpot } else setting

/-- Walks a way, with how the walk ended. -/
def walk (setting : Walk.Setting π Files) (settle depth : Nat) (way : Way) (spot : Spot) (limit : Nat) :
    Run π (Except WalkError Unit × Stats) :=
  ExceptT.mk fun s => do
    let start : Walk.State π Files :=
      { page := s.page, pockets := s.pockets, settle, world := s.workspace.files,
        journal := s.workspace.journal }
    let (result, t) ← Walk.walk setting depth [] way spot limit start
    return (.ok (result, t.stats),
      { page := t.page, pockets := t.pockets, workspace := ⟨t.world, t.journal⟩ })

/-- Loads what a walk needs, walks the way of the cursor, and writes the pockets if they are to
stay. -/
def attempt (actions : ActionTable π) (depth : Nat) (cursor : Cursor) :
    Run π (Except WalkError Unit × Stats) := do
  let settings ← work loadSettings
  let definitions ← work (loadDefinitions.during .loadingDefinitions)
  seed (← work loadPockets)
  let walked ←
    match definitions.way? cursor.way with
    | none => pure (.error (.unknownWay cursor.way), {})
    | some way =>
      walk (setting definitions actions settings) settings.settle depth way cursor.spot cursor.limit
  if settings.persistPockets then persist
  return walked

/-- The cursor behind an attempt. -/
def cleared (completed : Bool) (c : Cursor) : Cursor :=
  { c with running := false, spot := if completed then .start else c.spot }

def isCompleted : Except Failure (Except WalkError Unit × Stats) → Bool
  | .ok (.ok (), _) => true
  | _ => false

/-- Walks the way of the cursor if it is marked running. What went wrong in the attempt is told
before what went wrong with the cursor behind it. -/
def once (actions : ActionTable π) (depth : Nat) : Run π Outcome := do
  let cursor ← work loadCursor
  if !cursor.running then return .idle
  note (.starting cursor.way cursor.spot cursor.limit)
  let attempted ← observe (attempt actions depth cursor)
  let clearing ← observe
    (work ((updateCursor (cleared (isCompleted attempted))).during .clearingFlag))
  let (result, stats) ← ofExcept attempted
  discard (ofExcept clearing)
  match result with
  | .ok () =>
    note (.completed cursor.way stats.steps stats.recoveries)
    return .completed cursor.way stats
  | .error e =>
    note (.failed cursor.way e stats.steps)
    return .failed cursor.way e stats

end Run

end Wayfarer
