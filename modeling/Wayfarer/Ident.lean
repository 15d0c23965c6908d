/-!
Identifiers of definitions, written `Step>name`, `Way>name` or `Detour>name`, and their order.
-/
namespace Wayfarer

/-- What an identifier points at. -/
inductive Kind where
  | step
  | way
  | detour
  deriving DecidableEq, Repr, Inhabited

namespace Kind

def word : Kind → String
  | step => "Step"
  | way => "Way"
  | detour => "Detour"

def ofWord? : String → Option Kind
  | "Step" => some step
  | "Way" => some way
  | "Detour" => some detour
  | _ => none

/-- Steps sort before ways, ways before detours. -/
def rank : Kind → Nat
  | step => 0
  | way => 1
  | detour => 2

end Kind

/-- A kind and the name behind the first `>`. -/
structure Ident where
  kind : Kind
  name : String
  deriving DecidableEq, Repr, Inhabited

namespace Ident

def step (name : String) : Ident := ⟨.step, name⟩

def way (name : String) : Ident := ⟨.way, name⟩

def detour (name : String) : Ident := ⟨.detour, name⟩

def text (id : Ident) : String :=
  id.kind.word ++ ">" ++ id.name

instance : ToString Ident := ⟨text⟩

def withKind (id : Ident) (kind : Kind) : Ident :=
  ⟨kind, id.name⟩

/-- The text in front of the first `>` names the kind; the rest, which may hold more of them and
must not be empty, is the name. -/
def parse? (raw : String) : Option Ident :=
  match raw.toList.dropWhile (· ≠ '>') with
  | [] => none
  | _ :: name =>
    if name.isEmpty then none
    else
      (Kind.ofWord? (String.ofList (raw.toList.takeWhile (· ≠ '>')))).map (⟨·, String.ofList name⟩)

/-- Kind first, then the name by code points, which is also the order of its UTF-8 bytes. -/
def Before (a b : Ident) : Prop :=
  a.kind.rank < b.kind.rank ∨ a.kind = b.kind ∧ a.name < b.name

instance : DecidableRel Before := fun _ _ => inferInstanceAs (Decidable (_ ∨ _))

/-- Puts `id` in front of the first later one, and nowhere if it is there already. -/
def insertSorted (id : Ident) : List Ident → List Ident
  | [] => [id]
  | other :: rest =>
    if id = other then other :: rest
    else if Before id other then id :: other :: rest
    else other :: insertSorted id rest

/-- The ids in ascending order, each once. -/
def sorted (ids : List Ident) : List Ident :=
  ids.foldl (fun found id => insertSorted id found) []

end Ident

end Wayfarer
