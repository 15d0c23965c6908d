/-!
Sets of code points, as ranges in ascending order. The surrogates lie between the neighbours U+D7FF
and U+E000: they are no characters, so no range begins or ends with one, though a range may run
across them.
-/
namespace Wayfarer.Unicode

/-- The largest code point. -/
def lastCode : Nat := 0x10FFFF

/-- The code point of the character behind that of `n`. -/
def nextCode (n : Nat) : Nat :=
  if n == 0xD7FF then 0xE000 else n + 1

/-- The code point of the character in front of that of `n`. -/
def prevCode (n : Nat) : Nat :=
  if n == 0xE000 then 0xD7FF else n - 1

structure CodeSet where
  /-- First and last code point of each range. -/
  ranges : List (Nat × Nat) := []
  deriving DecidableEq, Repr, Inhabited

namespace CodeSet

def empty : CodeSet := ⟨[]⟩

def full : CodeSet := ⟨[(0, lastCode)]⟩

/-- Joins the range `a` with the ranges behind it that it meets or touches. They begin no earlier
than `a` does. -/
def join : Nat × Nat → List (Nat × Nat) → List (Nat × Nat)
  | a, [] => [a]
  | a, b :: rest => if b.1 ≤ a.2 + 1 then join (a.1, max a.2 b.2) rest else a :: join b rest

/-- The set of the code points in ranges of any order. A range that ends before it begins is
empty. -/
def ofRanges (ranges : List (Nat × Nat)) : CodeSet :=
  match (ranges.filter fun r => r.1 ≤ r.2).mergeSort (fun a b => a.1 ≤ b.1) with
  | [] => empty
  | a :: rest => ⟨join a rest⟩

def single (n : Nat) : CodeSet :=
  ⟨[(n, n)]⟩

def ofChar (c : Char) : CodeSet :=
  single c.toNat

def has (s : CodeSet) (n : Nat) : Bool :=
  s.ranges.any fun r => r.1 ≤ n && n ≤ r.2

def hasChar (s : CodeSet) (c : Char) : Bool :=
  s.has c.toNat

def isEmpty (s : CodeSet) : Bool :=
  s.ranges.isEmpty

/-- No member lies beyond ASCII. -/
def isAscii (s : CodeSet) : Bool :=
  s.ranges.all (·.2 < 0x80)

def union (s t : CodeSet) : CodeSet :=
  ofRanges (s.ranges ++ t.ranges)

def unions (sets : List CodeSet) : CodeSet :=
  ofRanges (sets.flatMap (·.ranges))

/-- The range between two places, whichever comes first. -/
def between (a b : Nat) : Nat × Nat :=
  (min a b, max a b)

/-- What lies between ranges and behind them; the range in front of them ends with `last`. Two
ranges between which there is nothing but surrogates leave the characters on both sides of these. -/
def gaps (last : Nat) : List (Nat × Nat) → List (Nat × Nat)
  | [] => if last < lastCode then [(nextCode last, lastCode)] else []
  | r :: rest => between (nextCode last) (prevCode r.1) :: gaps r.2 rest

def complement (s : CodeSet) : CodeSet :=
  match s.ranges with
  | [] => full
  | r :: rest => ⟨(if 0 < r.1 then [(0, prevCode r.1)] else []) ++ gaps r.2 rest⟩

def interRanges : List (Nat × Nat) → List (Nat × Nat) → List (Nat × Nat)
  | [], _ => []
  | _, [] => []
  | a :: s, b :: t =>
    let rest := if a.2 < b.2 then interRanges s (b :: t) else interRanges (a :: s) t
    if max a.1 b.1 ≤ min a.2 b.2 then (max a.1 b.1, min a.2 b.2) :: rest else rest
  termination_by s t => s.length + t.length

def inter (s t : CodeSet) : CodeSet :=
  ⟨interRanges s.ranges t.ranges⟩

/-- What is left of the range `a` without some others. -/
def cut (a : Nat × Nat) : List (Nat × Nat) → List (Nat × Nat)
  | [] => [a]
  | b :: rest =>
    if b.2 < a.1 then cut a rest
    else if a.2 < b.1 then [a]
    else
      (if a.1 < b.1 then [(a.1, prevCode b.1)] else []) ++
      (if b.2 < a.2 then cut (nextCode b.2, a.2) rest else [])

def diff (s t : CodeSet) : CodeSet :=
  ⟨s.ranges.flatMap fun a => cut a t.ranges⟩

/-- The members of exactly one of the two. -/
def symmDiff (s t : CodeSet) : CodeSet :=
  (s.union t).diff (s.inter t)

end CodeSet

end Wayfarer.Unicode
