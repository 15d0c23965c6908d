import Wayfarer.Command.Job
import Wayfarer.Files.Change

/-!
The program: does commands on the workspace in the current directory. What a stride of a job does is
worked out on the files as they were read, and then played back: files are changed, the log is told
and pauses are slept in the order of the journal.
-/
namespace Wayfarer.Main

/-- How deep walks may nest. -/
def depth : Nat := 1000000

/-- What stands at a path of the file system. -/
def readEntry (p : Path) : IO (Option FileEntry) := do
  try
    let bytes ← IO.FS.readBinFile p.text
    return some (.file (.ofBytes bytes.toList))
  catch
    | .noFileOrDirectory .. => return none
    | .inappropriateType .. => return some .directory
    | e => throw e

/-- The files of the workspace, and those beside them that may be in the way. -/
def readFiles : IO Files := do
  let mut files : Files := {}
  match ← readEntry Workspace.dataDirectory with
  | none => return files
  | some (.file content) => return files.set Workspace.dataDirectory (.file content)
  | some .directory =>
    files := files.set Workspace.dataDirectory .directory
    for p in [Workspace.stepsPath, Workspace.waysPath, Workspace.detoursPath,
        Workspace.pocketsPath, Workspace.cursorPath, Workspace.settingsPath] do
      for p in [p, p.withEnding ".tmp"] do
        if let some e ← readEntry p then files := files.set p e
    return files

/-- Makes a change in the file system. A file gets its content in one stroke. -/
def apply : Files.Change → IO Unit
  | .make p => IO.FS.createDirAll p.text
  | .drop p => IO.FS.removeFile p.text
  | .put p content => do
    let beside := p.withEnding ".new"
    match content with
    | .text s => IO.FS.writeFile beside.text s
    | .octets bytes => IO.FS.writeBinFile beside.text ⟨bytes.toArray⟩
    IO.FS.rename beside.text p.text

def sync (old new : Files) : IO Unit :=
  (old.changes new).forM apply

/-- The least rank of the lines that the log shows. -/
def logRank : IO Nat := do
  match ← IO.getEnv "WAYWALK_LOG" with
  | some "debug" => return Level.debug.rank
  | some "warn" => return Level.warn.rank
  | some "error" => return Level.error.rank
  | some "off" => return Level.error.rank + 1
  | _ => return Level.info.rank

def tell (rank : Nat) (e : Event) : IO Unit :=
  match e.logLine? with
  | some l => if rank ≤ l.level.rank then IO.eprintln l.text else pure ()
  | none => pure ()

/-- Sleeps as long as one sleep can be, or shorter. -/
def sleep (millis : Nat) : IO Unit :=
  IO.sleep (min millis (Text.halfWordBound - 1)).toUInt32

/-- Sleeps where the event is a pause. -/
def await (noPause : Bool) : Event → IO Unit
  | .called (.pause millis) => if noPause then pure () else sleep millis
  | .idling millis => sleep millis
  | _ => pure ()

/-- Plays back what happened since the files were `files`. -/
def replay (rank : Nat) (noPause : Bool) (files : Files) (w : Workspace) : IO Unit := do
  let mut now := files
  for moment in w.journal do
    sync now moment.world
    now := moment.world
    tell rank moment.event
    await noPause moment.event
  sync now w.files

/-- Takes strides until the job is done. -/
partial def drive (rank : Nat) (noPause : Bool) (job : Job) : IO UInt32 := do
  let files ← readFiles
  match job.step depth { files } with
  | none =>
    IO.eprintln "walk nests too deep"
    return 134
  | some stride =>
    replay rank noPause files stride.workspace
    IO.print stride.out
    (← IO.getStdout).flush
    IO.eprint stride.err
    match stride.next with
    | .inl job => drive rank noPause job
    | .inr code => return code.toUInt32

end Wayfarer.Main

def main (args : List String) : IO UInt32 := do
  match Wayfarer.Request.ofArguments args with
  | .invoke i => Wayfarer.Main.drive (← Wayfarer.Main.logRank) i.noPause (.command i.command)
  | .version =>
    IO.print Wayfarer.Request.versionText
    return 0
  | .help =>
    IO.print Wayfarer.Command.usage
    return 0
  | .misuse =>
    IO.eprint Wayfarer.Command.usage
    return 2
