import Wayfarer.Ident.Form
import Wayfarer.Spot.Form

/-!
The resume cursor: whether a walk should run, with which budget, from which way, and where to pick
it up; and its JSON form.
-/
namespace Wayfarer

structure Cursor where
  running : Bool
  /-- How many recoveries a walk may make. -/
  limit : Nat
  way : Ident
  spot : Spot := .start
  deriving DecidableEq, Repr, Inhabited

namespace Cursor

open Json (Decode RecordField)

/-- An idle cursor at the start of `way`. -/
def idle (way : Ident) (limit : Nat) : Cursor where
  running := false
  limit
  way

def toJson (c : Cursor) : Json :=
  .record [("isRun", .bool c.running), ("limit", .nat c.limit), ("wayId", c.way.toJson),
    ("spot", c.spot.toJson)]

/-- The fields of a cursor read so far. -/
structure Draft where
  running : Option Bool := none
  limit : Option Nat := none
  way : Option Ident := none
  spot : Option Spot := none

/-- The cursor itself is open while its spot is read. -/
def fields : List (RecordField Draft) :=
  [.required "isRun" Json.toBool (·.running) fun x d => { d with running := x },
   .required "limit" (Json.toNatBelow Text.halfWordBound) (·.limit)
     fun x d => { d with limit := x },
   .required "wayId" Ident.ofJson (·.way) fun x d => { d with way := x },
   .optionalOf "spot" (Spot.ofJson (Json.maxDepth - 1)) (·.spot) fun x d => { d with spot := x }]

def build (d : Draft) : Decode Cursor := do
  let running ← Json.need "isRun" d.running
  let limit ← Json.need "limit" d.limit
  let way ← Json.need "wayId" d.way
  return { running, limit, way, spot := d.spot.getD .start }

def ofJson : Json → Decode Cursor :=
  Json.toRecord fields {} build

end Cursor

end Wayfarer
