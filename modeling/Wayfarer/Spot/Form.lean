import Wayfarer.Spot
import Wayfarer.Json.Decode

/-!
The JSON form of spots: `[2,[1]]` is index 2 of the outermost way and index 1 below it. Spots are
the only records that nest without bound, so reading them takes the number of arrays that may still
be opened.
-/
namespace Wayfarer

namespace Json

/-- How many arrays and objects a text may have open at once. -/
def maxDepth : Nat := 127

end Json

namespace Spot

def pathJson (i : Nat) : List Nat → Json
  | [] => .array [.nat i]
  | j :: deeper => .array [.nat i, pathJson j deeper]

def toJson (s : Spot) : Json :=
  pathJson s.index s.deeper

/-- The indices of nested arrays, of which `room` may be opened. An index that is missing is 0, and
`null` below an index is nothing. -/
def readPath : (room : Nat) → Json → Json.Decode (List Nat)
  | room + 1, .array items => do
    match items with
    | [] => pure [0]
    | first :: rest =>
      let i ← first.toNatBelow Text.wordBound
      match rest with
      | [] => pure [i]
      | below :: rest =>
        let deeper ← match below with
          | .null => pure []
          | j => readPath room j
        match rest with
        | [] => pure (i :: deeper)
        | extra :: _ => throw (if extra.sound then .crowded else .malformed)
  | _, _ => throw .malformed

def ofJson (room : Nat) (j : Json) : Json.Decode Spot :=
  return ofPath (← readPath room j)

end Spot

end Wayfarer
