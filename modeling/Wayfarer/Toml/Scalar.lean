import Wayfarer.Text.Numeral

/-!
Values of TOML, and those among them that are written without quotes: numbers, truth values and
dates. Of what settings never hold only the kind is kept.
-/
namespace Wayfarer.Toml

open Text (isDigit digitValue digitsValue)

inductive Value
  | text (s : String)
  | integer (n : Int)
  | float
  | boolean (b : Bool)
  | date
  | array
  | table
  deriving DecidableEq, Repr, Inhabited

/-- The text without its underscores, which must stand between digits. -/
def joined (digit : Char → Bool) : List Char → Option (List Char)
  | [] => none
  | [c] => if digit c then some [c] else none
  | c :: '_' :: rest => if digit c then (joined digit rest).map (c :: ·) else none
  | c :: rest => if digit c then (joined digit rest).map (c :: ·) else none

/-- A decimal integer. Only zero begins with a zero. -/
def decimal (s : List Char) : Option Nat := do
  let digits ← joined isDigit s
  if digits.length > 1 && digits.head? == some '0' then none else some (digitsValue digits)

/-- What stands in front of a fraction. Behind a sign an underscore may come first, and any zeros.
-/
def whole (signed : Bool) : List Char → Option Nat
  | '_' :: rest => if signed then (joined isDigit rest).map digitsValue else none
  | s => decimal s

def baseDigit (base : Nat) (c : Char) : Option Nat :=
  let n :=
    if isDigit c then digitValue c
    else if 'a' ≤ c && c ≤ 'z' then c.toNat - 'a'.toNat + 10
    else if 'A' ≤ c && c ≤ 'Z' then c.toNat - 'A'.toNat + 10
    else base
  if n < base then some n else none

/-- An integer in another base, behind what marks the base. -/
def inBase (base : Nat) (s : List Char) : Option Nat := do
  let digits ← joined (fun c => (baseDigit base c).isSome) s
  return digits.foldl (fun n c => n * base + (baseDigit base c).getD 0) 0

/-- The sign in front of a number, and the rest. -/
def splitSign : List Char → Bool × List Char
  | '-' :: rest => (true, rest)
  | '+' :: rest => (false, rest)
  | s => (false, s)

/-- Integers that 128 bits hold, with or without a sign. -/
def inRange (n : Int) : Bool :=
  -(0x80000000000000000000000000000000 : Int) ≤ n && n < 0x100000000000000000000000000000000

def integer (s : List Char) : Option Int := do
  let n ← match s with
    | '0' :: 'x' :: rest => (inBase 16 rest).map Int.ofNat
    | '0' :: 'o' :: rest => (inBase 8 rest).map Int.ofNat
    | '0' :: 'b' :: rest => (inBase 2 rest).map Int.ofNat
    | s =>
      let (negative, rest) := splitSign s
      (whole (rest.length < s.length) rest).map fun n => if negative then -(n : Int) else n
  if inRange n then some n else none

/-- Whether `m * 10 ^ e` is too large for a float of 64 bits: at least halfway from the largest one
to the next power of two. -/
def overflows (m : Nat) (e : Int) : Bool :=
  let digits : Int := (toString m).length
  if m == 0 || digits + e < 300 then false
  else if digits + e > 320 then true
  else m * Nat.pow 10 e.toNat ≥ (Nat.pow 2 1024 - Nat.pow 2 970) * Nat.pow 10 (-e).toNat

/-- The exponent of a float; it may begin with zeros. -/
def exponent (s : List Char) : Option Int := do
  let (negative, rest) := splitSign s
  let digits ← joined isDigit rest
  return if negative then -(digitsValue digits : Int) else digitsValue digits

/-- A float has a fraction or an exponent, or is infinite or no number. -/
def isFloat (s : List Char) : Bool :=
  let (_, rest) := splitSign s
  if rest == ['i', 'n', 'f'] || rest == ['n', 'a', 'n'] then true
  else
    let (mantissa, tail) := rest.span fun c => c != 'e' && c != 'E'
    let (front, fraction) := mantissa.span (· != '.')
    if tail.isEmpty && fraction.isEmpty then false
    else
      let digits := if fraction.isEmpty then some [] else joined isDigit (fraction.drop 1)
      let power := if tail.isEmpty then some 0 else exponent (tail.drop 1)
      match whole (rest.length < s.length) front, digits, power with
      | some n, some ds, some e =>
        !overflows (ds.foldl (fun n d => n * 10 + digitValue d) n) (e - ds.length)
      | _, _, _ => false

/-- The number that `count` digits write, and the rest. -/
def digitsRun (count : Nat) (s : List Char) : Option (Nat × List Char) :=
  let digits := s.take count
  if digits.length == count && digits.all isDigit then some (digitsValue digits, s.drop count)
  else none

def isLeap (year : Nat) : Bool :=
  (year % 4 == 0 && year % 100 != 0) || year % 400 == 0

def daysIn (year month : Nat) : Nat :=
  match month with
  | 2 => if isLeap year then 29 else 28
  | 4 | 6 | 9 | 11 => 30
  | _ => 31

/-- A day of the calendar, and the rest. -/
def day (s : List Char) : Option (List Char) := do
  let (year, rest) ← digitsRun 4 s
  let '-' :: rest := rest | none
  let (month, rest) ← digitsRun 2 rest
  let '-' :: rest := rest | none
  let (day, rest) ← digitsRun 2 rest
  if 1 ≤ month && month ≤ 12 && 1 ≤ day && day ≤ daysIn year month then some rest else none

/-- Hours and minutes, and the rest. -/
def hourMinute (s : List Char) : Option (List Char) := do
  let (hour, rest) ← digitsRun 2 s
  let ':' :: rest := rest | none
  let (minute, rest) ← digitsRun 2 rest
  if hour < 24 && minute < 60 then some rest else none

/-- A time of day, and the rest. Seconds may be left out, and have a fraction. -/
def time (s : List Char) : Option (List Char) := do
  match ← hourMinute s with
  | ':' :: rest =>
    let (second, rest) ← digitsRun 2 rest
    if second > 60 then none
    match rest with
    | '.' :: rest =>
      if rest.head?.any isDigit then some (rest.dropWhile isDigit) else none
    | rest => some rest
  | rest => some rest

/-- The distance from universal time, up to the end. -/
def isOffset : List Char → Bool
  | [] => true
  | ['Z'] => true
  | ['z'] => true
  | '+' :: rest => hourMinute rest == some []
  | '-' :: rest => hourMinute rest == some []
  | _ => false

def isDate (s : List Char) : Bool :=
  match day s with
  | some [] => true
  | some (c :: rest) => (c == 'T' || c == 't' || c == ' ') && (time rest).any isOffset
  | none => time s == some []

/-- The value of a text without quotes. -/
def bare (s : List Char) : Option Value :=
  if s == ['t', 'r', 'u', 'e'] then some (.boolean true)
  else if s == ['f', 'a', 'l', 's', 'e'] then some (.boolean false)
  else match integer s with
    | some n => some (.integer n)
    | none => if isFloat s then some .float else if isDate s then some .date else none

end Wayfarer.Toml
