import Wayfarer.Command.Request
import Wayfarer.Loop
import Wayfarer.Page.Narrated
import Wayfarer.Workspace.Init
import Wayfarer.Workspace.Report

/-!
Doing what a command says. A job is done in strides, of which all but those of a loop take one. A
stride changes the files and prints; between strides the files may change from outside.
-/
namespace Wayfarer

inductive Job where
  | command (c : Command)
  /-- A loop that has begun, with the number of ticks that are left, if it is bounded. -/
  | looping (left : Option Nat) (summary : Summary) (pockets : Pockets)

/-- What a stride did and printed. -/
structure Stride where
  workspace : Workspace
  out : String := ""
  err : String := ""
  /-- The job that is left, or the exit code. -/
  next : Job ⊕ Nat

namespace Job

/-- How a command ends. -/
structure Ending where
  out : String := ""
  err : String := ""
  code : Nat := 0

def invalidCode : Nat := 1
def failedCode : Nat := 2
def idleCode : Nat := 3

def stride (w : Workspace) (e : Ending) : Stride :=
  { workspace := w, out := e.out, err := e.err, next := .inr e.code }

/-- A failure is told and ends the job. -/
def failure (f : Failure) : Ending :=
  { err := f.message ++ "\n", code := invalidCode }

/-- Work that ends the job. -/
def ofWork (work : Work Ending) (w : Workspace) : Stride :=
  match work w with
  | (.ok e, w) => stride w e
  | (.error f, w) => stride w (failure f)

/-- What is printed for an outcome, and the exit code that tells it. -/
def outcome : Outcome → Ending
  | .idle => { out := "idle: cursor is not marked running\n", code := idleCode }
  | .completed way stats =>
    { out := s!"completed {way}: {stats.steps} steps, {stats.recoveries} catch descents\n" }
  | .failed way error _ => { out := s!"failed {way}: {error.message}\n", code := failedCode }

/-- A way by its identifier or by its bare name. -/
def wayIdent (raw : String) : Except Failure Ident :=
  if raw.toList.contains '>' then
    match Ident.parse? raw with
    | none => .error ⟨.badIdent raw, []⟩
    | some id => if id.kind = .way then .ok id else .error ⟨.notWay id, []⟩
  else .ok (.way raw)

/-- The cursor marked running for a way. Without a limit it keeps the one it has. -/
def armed (way : Ident) (limit : Option Nat) (spot : Option Spot) (c : Cursor) : Cursor :=
  { running := true, limit := limit.getD c.limit, way, spot := spot.getD .start }

open Workspace

def init (force : Bool) : Work Ending := do
  Workspace.init force
  return { out := s!"initialized {dataDirectory.text}\n" }

/-- Warnings are told in any case. -/
def validate (w : Workspace) : Stride :=
  match examine w with
  | (.error f, w) => stride w (failure f)
  | (.ok report, w) =>
    let warnings := String.join (report.warnings.map fun text => s!"warning: {text}\n")
    let e :=
      if report.isValid then
        let d := report.definitions
        { out := s!"ok: {d.steps.length} steps, {d.ways.length} ways, " ++
            s!"{d.detours.length} detours, {report.pockets.length} pockets\n" }
      else failure ⟨.findings report.errors, []⟩
    stride w { e with err := warnings ++ e.err }

def arm (way : String) (limit : Option Nat) (spot : Option Spot) : Work Ending := do
  let way ← Work.ofExcept (wayIdent way)
  let c ← (updateCursor (armed way limit spot)).during .arming
  return { out := s!"armed {c.way} at {c.spot.text} with limit {c.limit}\n" }

def status : Work Ending := do
  return { out := cursorText (← loadCursor) }

/-- The page of the command line. -/
def fresh (w : Workspace) (pockets : Pockets := .empty) : Run.State NarratedPage :=
  { page := {}, pockets, workspace := w }

def run (depth : Nat) (w : Workspace) : Option Stride := do
  match ← Run.once .standard depth (fresh w) with
  | (.ok result, s) => return stride s.workspace (outcome result)
  | (.error f, s) => return stride s.workspace (failure f)

def begin (ticks : Option Nat) (w : Workspace) : Option Stride := do
  match ← Loop.begin (fresh w) with
  | (.ok (), s) => return { workspace := s.workspace, next := .inl (.looping ticks {} .empty) }
  | (.error f, s) => return stride s.workspace (failure f)

/-- One tick of a loop. Idle ones are not told. -/
def tick (depth : Nat) (left : Option Nat) (summary : Summary) (pockets : Pockets) (w : Workspace) :
    Option Stride := do
  match ← Loop.tick .standard depth (fresh w pockets) with
  | (.ok result, s) =>
    return { workspace := s.workspace
             out := if result = .idle then "" else (outcome result).out
             next := .inl (.looping left (summary.count result) s.pockets) }
  | (.error f, s) => return stride s.workspace (failure f)

def summaryText (s : Summary) : String :=
  s!"{s.ticks} ticks: {s.completed} completed, {s.failed} failed\n"

/-- Takes one stride. There is none if a walk would nest deeper than allowed. -/
def step (depth : Nat) (w : Workspace) : Job → Option Stride
  | .command (.init force) => some (ofWork (init force) w)
  | .command .validate => some (validate w)
  | .command (.arm way limit spot) => some (ofWork (arm way limit spot) w)
  | .command .status => some (ofWork status w)
  | .command .run => run depth w
  | .command (.loop ticks) => begin ticks w
  | .looping (some 0) summary _ => some (stride w { out := summaryText summary })
  | .looping left summary pockets => tick depth (left.map (· - 1)) summary pockets w

/-- Takes at most so many strides, one after the other. -/
def finish (depth : Nat) : (strides : Nat) → Job → Workspace → Option (Workspace × Ending)
  | 0, _, _ => none
  | strides + 1, job, w => do
    let s ← step depth w job
    match s.next with
    | .inr code => return (s.workspace, { out := s.out, err := s.err, code })
    | .inl job =>
      let (w, e) ← finish depth strides job s.workspace
      return (w, { out := s.out ++ e.out, err := s.err ++ e.err, code := e.code })

end Job

end Wayfarer
