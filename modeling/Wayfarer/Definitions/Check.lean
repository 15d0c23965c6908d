import Wayfarer.Definitions

/-!
Static checks. `violations` are the faults that keep a set of definitions from being loaded;
`dangling` lists the references to records that do not exist, which a walk only minds when it
reaches one.
-/
namespace Wayfarer

/-- A fault of a set of definitions. -/
inductive Violation where
  | wrongKind (id : Ident) (expected : Kind)
  | repeatedId (id : Ident)
  | noPass (way : Ident)
  | manyDefaults (detour : Ident)
  | repeatedValue (detour : Ident) (value : String)
  deriving DecidableEq, Repr

namespace Violation

def message : Violation → String
  | wrongKind id expected => s!"{id}: expected a {expected.word} identifier"
  | repeatedId id => s!"duplicate id {id}"
  | noPass way => s!"{way}: repeat must be >= 1"
  | manyDefaults detour => s!"{detour}: more than one default entry"
  | repeatedValue detour value => s!"{detour}: duplicate entry value '{value}'"

end Violation

/-- A reference from a record to one that does not exist. -/
structure Dangling where
  owner : Ident
  target : Ident
  deriving DecidableEq, Repr

def Dangling.message (d : Dangling) : String :=
  s!"{d.owner}: unknown reference {d.target}"

/-- The later occurrences of elements that occur more than once, in order. -/
def repeats [BEq α] (seen : List α) : List α → List α
  | [] => []
  | a :: rest => if seen.contains a then a :: repeats seen rest else repeats (a :: seen) rest

namespace Definitions

/-- Checks the ids of a list whose records should be of `kind`, those in `seen` having come before.
An id can be at fault twice. -/
def idViolations (kind : Kind) (seen : List Ident) : List Ident → List Violation
  | [] => []
  | id :: rest =>
    (if id.kind = kind then [] else [.wrongKind id kind]) ++
    (if seen.contains id then .repeatedId id :: idViolations kind seen rest
      else idViolations kind (id :: seen) rest)

/-- At most one entry is the default, and no other value has two. -/
def entryViolations (d : Detour) : List Violation :=
  (if (d.entries.filter (·.isDefault)).length > 1 then [.manyDefaults d.id] else []) ++
  (repeats [] ((d.entries.filter (!·.isDefault)).map (·.value))).map (.repeatedValue d.id)

def violations (d : Definitions) : List Violation :=
  idViolations .step [] (d.steps.map (·.id)) ++
  idViolations .way [] (d.ways.map (·.id)) ++
  idViolations .detour [] (d.detours.map (·.id)) ++
  (d.ways.filter (·.repeats == 0)).map (.noPass ·.id) ++
  d.detours.flatMap entryViolations

/-- The references that `owner` makes in vain. -/
def danglingFrom (d : Definitions) (owner : Ident) (targets : List Ident) : List Dangling :=
  (targets.filter (!d.has ·)).map (⟨owner, ·⟩)

def dangling (d : Definitions) : List Dangling :=
  d.steps.flatMap (fun s => d.danglingFrom s.id s.onFailure) ++
  d.ways.flatMap (fun w => d.danglingFrom w.id w.steps) ++
  d.detours.flatMap fun t => t.entries.flatMap fun e => d.danglingFrom t.id e.steps

end Definitions

end Wayfarer
