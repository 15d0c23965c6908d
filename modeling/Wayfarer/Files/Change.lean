import Wayfarer.Files

/-!
What has to be done to turn one tree of files into another.
-/
namespace Wayfarer.Files

inductive Change where
  | make (directory : Path)
  | put (file : Path) (content : Content)
  | drop (file : Path)
  deriving DecidableEq

/-- The change at one path of the new tree. Directories have none when they are there already. -/
def changeAt (old : Files) : Path × FileEntry → Option Change
  | (p, .directory) => if old.find? p = some .directory then none else some (.make p)
  | (p, .file content) => if old.find? p = some (.file content) then none else some (.put p content)

/-- Directories stand in front of what is in them. Files that are in the old tree alone are dropped
last. -/
def changes (old new : Files) : List Change :=
  new.entries.filterMap old.changeAt ++
  old.entries.filterMap fun (p, e) =>
    match e with
    | .file _ => if (new.find? p).isNone then some (.drop p) else none
    | .directory => none

end Wayfarer.Files
