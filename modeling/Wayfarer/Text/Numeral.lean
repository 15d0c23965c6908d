/-!
Decimal numerals with an upper bound: one leading plus sign is allowed, then ASCII digits only.
-/
namespace Wayfarer.Text

/-- Why a text is not a numeral below the bound. -/
inductive NumeralFault where
  | empty
  | notDigit
  | tooLarge
  deriving DecidableEq, Repr

namespace NumeralFault

def message : NumeralFault → String
  | empty => "cannot parse integer from empty string"
  | notDigit => "invalid digit found in string"
  | tooLarge => "number too large to fit in target type"

end NumeralFault

def isDigit (c : Char) : Bool :=
  '0' ≤ c && c ≤ '9'

def digitValue (c : Char) : Nat :=
  c.toNat - '0'.toNat

/-- The number a run of digits denotes. -/
def digitsValue (ds : List Char) : Nat :=
  ds.foldl (fun n d => n * 10 + digitValue d) 0

/-- Reads digits onto the number `n` read so far. The first problem from the left wins, so an
overflow in front of a stray character is an overflow. -/
def readDigits (bound : Nat) : Nat → List Char → Except NumeralFault Nat
  | n, [] => .ok n
  | n, c :: rest =>
    if isDigit c then
      let next := n * 10 + digitValue c
      if next < bound then readDigits bound next rest else .error .tooLarge
    else .error .notDigit

/-- The number below `bound` that `s` writes. A sign alone has no digit where one must stand. -/
def readNumeral (bound : Nat) : List Char → Except NumeralFault Nat
  | [] => .error .empty
  | ['+'] => .error .notDigit
  | '+' :: rest => readDigits bound 0 rest
  | s => readDigits bound 0 s

/-- One more than the largest position, pause or interval. -/
def wordBound : Nat := 0x10000000000000000

/-- One more than the largest budget or repeat count. -/
def halfWordBound : Nat := 0x100000000

end Wayfarer.Text
