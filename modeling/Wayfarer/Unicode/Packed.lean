import Wayfarer.Unicode.CodeSet

/-!
Numbers packed into text. Each number is written in base 32, its most significant digit first, with
the letters `A`-`Z` and `a`-`f` for the last digit and the letters `g`-`z`, the digits, `-` and `_`
for the digits in front of it.
-/
namespace Wayfarer.Unicode.Packed

/-- The place of a letter among the 64 of the code. -/
def letterValue (c : Char) : Nat :=
  if 'A' ≤ c && c ≤ 'Z' then c.toNat - 'A'.toNat
  else if 'a' ≤ c && c ≤ 'z' then c.toNat - 'a'.toNat + 26
  else if '0' ≤ c && c ≤ '9' then c.toNat - '0'.toNat + 52
  else if c == '-' then 62
  else 63

/-- The numbers in `letters`, the first of which goes on from `n`. -/
def numbersFrom (n : Nat) : List Char → List Nat
  | [] => []
  | c :: rest =>
    let v := letterValue c
    if v < 32 then (n * 32 + v) :: numbersFrom 0 rest else numbersFrom (n * 32 + (v - 32)) rest

def numbers (lines : List String) : List Nat :=
  numbersFrom 0 (lines.flatMap String.toList)

/-- Ranges written as the gap in front of each and its length less one. -/
def rangesFrom (next : Nat) : List Nat → List (Nat × Nat)
  | gap :: more :: rest =>
    let first := next + gap
    (first, first + more) :: rangesFrom (first + more + 1) rest
  | _ => []

def codeSet (lines : List String) : CodeSet :=
  ⟨rangesFrom 0 (numbers lines)⟩

/-- Runs that cover all code points, each written as a label and its length less one. -/
def runsFrom (next : Nat) : List Nat → List (Nat × Nat × Nat)
  | label :: more :: rest => (label, next, next + more) :: runsFrom (next + more + 1) rest
  | _ => []

def runs (lines : List String) : List (Nat × Nat × Nat) :=
  runsFrom 0 (numbers lines)

/-- The code points with a label. -/
def labelled (rs : List (Nat × Nat × Nat)) (label : Nat) : CodeSet :=
  CodeSet.ofRanges ((rs.filter (·.1 == label)).map (·.2))

end Wayfarer.Unicode.Packed
