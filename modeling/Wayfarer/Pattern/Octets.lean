import Wayfarer.Unicode.CodeSet

/-!
Sets of characters as octets of UTF-8. A set is written as sequences of octet ranges: it holds the
characters whose octets lie each in its range of one sequence.
-/
namespace Wayfarer.Pattern

open Unicode (CodeSet)

/-- The octets that encode a code point. -/
def encode (n : Nat) : List Nat :=
  if n < 0x80 then [n]
  else if n < 0x800 then [0xC0 + n / 64, 0x80 + n % 64]
  else if n < 0x10000 then [0xE0 + n / 4096, 0x80 + n / 64 % 64, 0x80 + n % 64]
  else [0xF0 + n / 262144, 0x80 + n / 4096 % 64, 0x80 + n / 64 % 64, 0x80 + n % 64]

def encodeText (cs : List Char) : List Nat :=
  cs.flatMap fun c => encode c.toNat

/-- First and last of the octets at one place. -/
abbrev OctetRange := Nat × Nat

/-- The parts of a range of code points up to `last` and behind it, of which the second begins with
`next`. -/
def partAt (last next : Nat) (r : Nat × Nat) : List (Nat × Nat) :=
  if r.1 ≤ last && last < r.2 then
    if next ≤ r.2 then [(r.1, last), (next, r.2)] else [(r.1, last)]
  else [r]

/-- The parts of a range that does not lie in one block of `size` code points: what it has of its
first block, the whole blocks, and what it has of its last. -/
def partBlocks (size : Nat) (r : Nat × Nat) : List (Nat × Nat) :=
  let partLast (r : Nat × Nat) :=
    if r.1 / size != r.2 / size && r.2 % size != size - 1 then
      [(r.1, r.2 / size * size - 1), (r.2 / size * size, r.2)]
    else [r]
  if r.1 / size != r.2 / size && r.1 % size != 0 then
    let last := r.1 / size * size + size - 1
    (r.1, last) :: partLast (last + 1, r.2)
  else partLast r

/-- Ranges whose first and last code point differ in octets that are free but for them. -/
def uniform (r : Nat × Nat) : List (Nat × Nat) :=
  (((((partAt 0xD7FF 0xE000 r).flatMap (partAt 0x7F 0x80)).flatMap
    (partAt 0x7FF 0x800)).flatMap (partAt 0xFFFF 0x10000)).flatMap
    (partBlocks 64)).flatMap fun r => (partBlocks 4096 r).flatMap (partBlocks 262144)

/-- The sequences of a set, in ascending order. -/
def sequences (s : CodeSet) : List (List OctetRange) :=
  (s.ranges.flatMap uniform).map fun r => (encode r.1).zip (encode r.2)

end Wayfarer.Pattern
