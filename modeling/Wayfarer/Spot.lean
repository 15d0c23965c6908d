import Wayfarer.Text.Blank
import Wayfarer.Text.Numeral

/-!
Positions of a walk. A spot holds one index per nested way, outermost first, and never none: the
start is index 0 of the outermost way. In text form the indices are joined by dots.
-/
namespace Wayfarer

structure Spot where
  /-- The index in the outermost way. -/
  index : Nat
  /-- The indices in the ways below it, outermost first. -/
  deeper : List Nat := []
  deriving DecidableEq, Repr, Inhabited

/-- Why a dotted text is not a spot. -/
inductive SpotFault where
  | blank
  | badIndex (part raw : String) (fault : Text.NumeralFault)
  deriving DecidableEq, Repr

namespace Spot

def start : Spot := ⟨0, []⟩

def path (s : Spot) : List Nat :=
  s.index :: s.deeper

/-- The spot with these indices; no index at all is the start. -/
def ofPath : List Nat → Spot
  | [] => start
  | i :: rest => ⟨i, rest⟩

theorem path_ofPath {path : List Nat} (h : path ≠ []) : (ofPath path).path = path := by
  cases path with
  | nil => exact absurd rfl h
  | cons i deeper => rfl

theorem ofPath_path (s : Spot) : ofPath s.path = s := rfl

/-- What remains of the spot for the way that its first index leads into. -/
def inner (s : Spot) : Spot :=
  ofPath s.deeper

def isStart (s : Spot) : Bool :=
  s.path.all (· == 0)

def text (s : Spot) : String :=
  ".".intercalate (s.path.map toString)

instance : ToString Spot := ⟨text⟩

/-- The parts of a text between its dots. -/
def splitDots : List Char → List (List Char)
  | [] => [[]]
  | '.' :: rest => [] :: splitDots rest
  | c :: rest =>
    match splitDots rest with
    | [] => [[c]]
    | part :: parts => (c :: part) :: parts

/-- Reads a dotted text. Blank space around the whole text is dropped, inside it is not; the
message about a bad part quotes the text as it was given. -/
def parse (raw : String) : Except SpotFault Spot :=
  match Text.trim raw.toList with
  | [] => .error .blank
  | trimmed => do
    let indices ← (splitDots trimmed).mapM fun part =>
      (Text.readNumeral Text.wordBound part).mapError (.badIndex (String.ofList part) raw)
    return ofPath indices

end Spot

end Wayfarer
