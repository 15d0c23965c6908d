import Wayfarer.Toml.Scalar

/-!
Tables of TOML while they are filled, and the rules by which keys and headers may go on with what is
there. Nothing is ever written over.
-/
namespace Wayfarer.Toml

/-- How a table came to be. -/
structure Origin where
  /-- No header names the table itself. -/
  implicit : Bool := false
  /-- The table was made by a dotted key. -/
  dotted : Bool := false
  deriving DecidableEq, Repr

inductive Node
  | value (v : Value)
  | table (origin : Origin) (entries : List (String × Node))
  /-- An array of tables, of which the last is kept. -/
  | tables (last : List (String × Node))
  deriving Repr, Inhabited

abbrev Entries := List (String × Node)

namespace Entries

def find? (key : String) (es : Entries) : Option Node :=
  (List.find? (·.1 == key) es).map (·.2)

/-- Puts a node under a key, in the place of the one that is there. -/
def put (key : String) (node : Node) : Entries → Entries
  | [] => [(key, node)]
  | (k, n) :: rest => if k == key then (key, node) :: rest else (k, n) :: put key node rest

/-- Changes the table at the end of `path`, making tables that are missing on the way. Values are no
tables, and a dotted key does not go into a table that has a header. -/
def within (dotted : Bool) (change : Origin → Entries → Option Entries) :
    (path : List String) → Origin → Entries → Option Entries
  | [], origin, es => change origin es
  | key :: path, _, es =>
    match es.find? key with
    | none => do
      let made : Origin := ⟨true, dotted⟩
      return es.put key (.table made (← within dotted change path made []))
    | some (.value _) => none
    | some (.tables last) => do return es.put key (.tables (← within dotted change path {} last))
    | some (.table origin inner) =>
      if dotted && !origin.implicit then none
      else do return es.put key (.table origin (← within dotted change path origin inner))

/-- Adds a value under a dotted key. -/
def addValue (path : List String) (key : String) (v : Value) (es : Entries) : Option Entries :=
  within true (fun origin es =>
    if origin.dotted == path.isEmpty || (es.find? key).isSome then none
    else some (es ++ [(key, .value v)])) path {} es

/-- Adds a value in the table of a header. -/
def addValueIn (header path : List String) (key : String) (v : Value) (es : Entries) :
    Option Entries :=
  within false (fun _ es => es.addValue path key v) header {} es

/-- Begins the table of a header. Tables that headers of others made may still be begun. -/
def begin (path : List String) (key : String) (es : Entries) : Option Entries :=
  within false (fun _ es =>
    match es.find? key with
    | none => some (es.put key (.table {} []))
    | some (.table ⟨true, false⟩ inner) => some (es.put key (.table {} inner))
    | some _ => none) path {} es

/-- Begins another table of an array of tables. -/
def beginNext (path : List String) (key : String) (es : Entries) : Option Entries :=
  within false (fun _ es =>
    match es.find? key with
    | none | some (.tables _) => some (es.put key (.tables []))
    | some _ => none) path {} es

end Entries

end Wayfarer.Toml
