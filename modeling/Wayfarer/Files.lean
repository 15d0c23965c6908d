import Wayfarer.Text.Lossy

/-!
A tree of files and directories, and the operations of an operating system on it. Paths are lists of
names below the root, which is always a directory.
-/
namespace Wayfarer

abbrev Path := List String

/-- The path as messages show it. -/
def Path.text (p : Path) : String :=
  "/".intercalate ("." :: p)

/-- The path with `ending` behind its last name. -/
def Path.withEnding (ending : String) : Path → Path
  | [] => []
  | [name] => [name ++ ending]
  | name :: rest => name :: withEnding ending rest

/-- What a file holds. -/
inductive Content where
  | text (s : String)
  /-- Octets that are no text in UTF-8. -/
  | octets (bytes : List UInt8)
  deriving DecidableEq, Inhabited

namespace Content

def ofBytes (bytes : List UInt8) : Content :=
  match String.fromUTF8? ⟨bytes.toArray⟩ with
  | some s => .text s
  | none => .octets bytes

/-- What can be shown of it. -/
def shown : Content → String
  | text s => s
  | octets bytes => Text.lossy bytes

end Content

inductive FileEntry where
  | file (content : Content)
  | directory
  deriving DecidableEq, Inhabited

/-- Why the operating system refuses. -/
inductive FileFault where
  | notFound
  | alreadyThere
  | notDirectory
  | isDirectory
  | notText
  deriving DecidableEq, Repr

namespace FileFault

def message : FileFault → String
  | notFound => "No such file or directory (os error 2)"
  | alreadyThere => "File exists (os error 17)"
  | notDirectory => "Not a directory (os error 20)"
  | isDirectory => "Is a directory (os error 21)"
  | notText => "stream did not contain valid UTF-8"

end FileFault

/-- Every path below the root with what stands there. -/
structure Files where
  entries : List (Path × FileEntry) := []
  deriving DecidableEq, Inhabited

namespace Files

def find? (fs : Files) (p : Path) : Option FileEntry :=
  if p.isEmpty then some .directory else (fs.entries.find? (·.1 == p)).map (·.2)

/-- Puts an entry in the place of the one at `p`, or behind all others. -/
def setIn (p : Path) (e : FileEntry) : List (Path × FileEntry) → List (Path × FileEntry)
  | [] => [(p, e)]
  | (q, f) :: rest => if q == p then (p, e) :: rest else (q, f) :: setIn p e rest

def set (fs : Files) (p : Path) (e : FileEntry) : Files :=
  ⟨setIn p e fs.entries⟩

def erase (fs : Files) (p : Path) : Files :=
  ⟨fs.entries.filter (·.1 != p)⟩

theorem find?_setIn (p q : Path) (e : FileEntry) (entries : List (Path × FileEntry)) :
    ((setIn p e entries).find? (·.1 == q)).map (·.2) =
      if q = p then some e else (entries.find? (·.1 == q)).map (·.2) := by
  induction entries with
  | nil =>
    by_cases h : q = p
    · simp [setIn, h]
    · simp [setIn, h, Ne.symm h]
  | cons entry rest ih =>
    obtain ⟨r, f⟩ := entry
    by_cases hr : r = p
    · subst hr
      by_cases h : q = r
      · simp [setIn, h]
      · simp [setIn, h, Ne.symm h]
    · by_cases h : r = q
      · subst h
        simp [setIn, hr]
      · simpa [setIn, hr, List.find?_cons, h] using ih

/-- Setting an entry changes what stands at its own path alone. -/
theorem find?_set (fs : Files) {p : Path} (q : Path) (e : FileEntry) (h : p ≠ []) :
    (fs.set p e).find? q = if q = p then some e else fs.find? q := by
  by_cases hq : q = []
  · subst hq
    simp [find?, h.symm]
  · simp [find?, set, hq, find?_setIn]

/-- Erasing an entry changes what stands at its own path alone. -/
theorem find?_erase (fs : Files) {p : Path} (q : Path) (h : p ≠ []) :
    (fs.erase p).find? q = if q = p then none else fs.find? q := by
  by_cases hq : q = []
  · subst hq
    simp [find?, h.symm]
  · by_cases hp : q = p
    · subst hp
      simp [find?, erase, hq, List.find?_filter]
    · have same : (fun entry : Path × FileEntry => !decide (entry.1 = p) && decide (entry.1 = q)) =
          fun entry => entry.1 == q := by
        funext entry
        by_cases he : entry.1 = q <;> simp [he, hp]
      simp [find?, erase, hp, List.find?_filter, same]

/-- Follows `rest` from `here`, which must be directories all the way. -/
def locateFrom (fs : Files) (here : Path) : Path → Except FileFault FileEntry
  | [] =>
    match fs.find? here with
    | some e => .ok e
    | none => .error .notFound
  | name :: rest =>
    match fs.find? here with
    | some .directory => locateFrom fs (here ++ [name]) rest
    | some (.file _) => .error .notDirectory
    | none => .error .notFound

def locate (fs : Files) (p : Path) : Except FileFault FileEntry :=
  fs.locateFrom [] p

def isThere (fs : Files) (p : Path) : Bool :=
  (fs.locate p).isOk

def isDirectory (fs : Files) (p : Path) : Bool :=
  match fs.locate p with
  | .ok .directory => true
  | _ => false

def readText (fs : Files) (p : Path) : Except FileFault String :=
  match fs.locate p with
  | .ok (.file (.text s)) => .ok s
  | .ok (.file (.octets _)) => .error .notText
  | .ok .directory => .error .isDirectory
  | .error fault => .error fault

/-- Writes a file into a directory that is there, over the file of its name if there is one. -/
def write (fs : Files) (p : Path) (content : Content) : Except FileFault Files :=
  match fs.locate p with
  | .ok .directory => .error .isDirectory
  | .ok (.file _) => .ok (fs.set p (.file content))
  | .error fault =>
    match fs.locate p.dropLast with
    | .ok .directory => .ok (fs.set p (.file content))
    | .ok (.file _) => .error .notDirectory
    | .error _ => .error fault

/-- Makes the directories of `rest` below `here` that are missing. -/
def makeFrom (fs : Files) (here : Path) : Path → Except FileFault Files
  | [] => .ok fs
  | name :: rest =>
    let next := here ++ [name]
    match fs.find? next with
    | some .directory => makeFrom fs next rest
    | some (.file _) => .error (if rest.isEmpty then .alreadyThere else .notDirectory)
    | none => makeFrom (fs.set next .directory) next rest

/-- Makes a directory with all its parents; what is there already stays. -/
def makeDirectories (fs : Files) (p : Path) : Except FileFault Files :=
  fs.makeFrom [] p

/-- Moves a file to another place, over a file that stands there. -/
def rename (fs : Files) (source target : Path) : Except FileFault Files :=
  match fs.locate source, fs.locate target with
  | .error fault, _ => .error fault
  | .ok .directory, _ => .error .isDirectory
  | .ok (.file _), .ok .directory => .error .isDirectory
  | .ok (.file content), _ =>
    match fs.locate target.dropLast with
    | .ok .directory => .ok ((fs.erase source).set target (.file content))
    | .ok (.file _) => .error .notDirectory
    | .error fault => .error fault

/-- Removes a file, or a directory with all that is in it. -/
def remove (fs : Files) (p : Path) : Except FileFault Files :=
  match fs.locate p with
  | .ok _ => .ok ⟨fs.entries.filter (!p.isPrefixOf ·.1)⟩
  | .error fault => .error fault

end Files

end Wayfarer
