import Wayfarer.Pattern.Escape

/-!
Sets of characters in brackets. Two ampersands, hyphens or tildes combine what stands on their left
with what stands on their right, from the left; brackets nest.
-/
namespace Wayfarer.Pattern

open Text (isBlank)
open Unicode (CodeSet)

/-- Ranges of ASCII characters by the names they have between colons. -/
def asciiNamed? (name : List Char) : Option CodeSet :=
  match String.ofList name with
  | "alnum" => some ⟨[(0x30, 0x39), (0x41, 0x5A), (0x61, 0x7A)]⟩
  | "alpha" => some ⟨[(0x41, 0x5A), (0x61, 0x7A)]⟩
  | "ascii" => some ⟨[(0x00, 0x7F)]⟩
  | "blank" => some ⟨[(0x09, 0x09), (0x20, 0x20)]⟩
  | "cntrl" => some ⟨[(0x00, 0x1F), (0x7F, 0x7F)]⟩
  | "digit" => some ⟨[(0x30, 0x39)]⟩
  | "graph" => some ⟨[(0x21, 0x7E)]⟩
  | "lower" => some ⟨[(0x61, 0x7A)]⟩
  | "print" => some ⟨[(0x20, 0x7E)]⟩
  | "punct" => some ⟨[(0x21, 0x2F), (0x3A, 0x40), (0x5B, 0x60), (0x7B, 0x7E)]⟩
  | "space" => some ⟨[(0x09, 0x0D), (0x20, 0x20)]⟩
  | "upper" => some ⟨[(0x41, 0x5A)]⟩
  | "word" => some ⟨[(0x30, 0x39), (0x41, 0x5A), (0x5F, 0x5F), (0x61, 0x7A)]⟩
  | "xdigit" => some ⟨[(0x30, 0x39), (0x41, 0x46), (0x61, 0x66)]⟩
  | _ => none

/-- A named range behind its opening bracket. Anything else there opens brackets. -/
def asciiClass : List Char → Option (Class × List Char)
  | ':' :: rest => do
    let (negated, rest) := match rest with
      | '^' :: rest => (true, rest)
      | _ => (false, rest)
    match rest.span (· != ':') with
    | (name, ':' :: ']' :: rest) => return (.ascii (← asciiNamed? name) negated, rest)
    | _ => none
  | _ => none

/-- One member as it is written, not yet known to be no end of a range. -/
def member (spaced : Bool) : List Char → Option (Atom × List Char)
  | [] => none
  | '\\' :: rest => escape spaced rest
  | c :: rest => some (.literal ⟨c, false⟩, rest)

/-- What an atom is among the members of a set. -/
def Atom.class? : Atom → Option Class
  | .literal l => some (.literal l)
  | .shorthand s negated => some (.shorthand s negated)
  | .property p negated => some (.property p negated)
  | .dot => none
  | .anchor _ => none

/-- The next character that counts. Of a comment only the sign that opens it is passed over. -/
def glance (spaced inComment : Bool) : List Char → Option Char
  | [] => none
  | c :: rest =>
    if spaced && isBlank c then glance spaced inComment rest
    else if spaced && !inComment && c == '#' then glance spaced true rest
    else some c

/-- A member or a range. A hyphen in front of a closing bracket or of a second hyphen makes no
range. -/
def memberOrRange (spaced : Bool) (s : List Char) : Option (Class × List Char) := do
  let (first, rest) ← member spaced s
  match skip spaced rest with
  | '-' :: behind =>
    match glance spaced false behind with
    | some ']' => return (← first.class?, rest)
    | some '-' => return (← first.class?, rest)
    | _ =>
      let (last, rest) ← member spaced (skip spaced behind)
      match first, last with
      | .literal a, .literal b => if a.char ≤ b.char then return (.range a b, rest) else none
      | _, _ => none
  | _ => return (← first.class?, rest)

/-- Members are kept last first. -/
def unionOf : List Class → Class
  | [c] => c
  | items => .union items.reverse

/-- Brackets that are still open, or a combination that lacks its right side. -/
inductive OpenClass
  | brackets (before : List Class) (negated : Bool)
  | combination (op : SetOp) (left : Class)

/-- Ends the combination on top, if there is one. -/
def completed (c : Class) : List OpenClass → Class × List OpenClass
  | .combination op left :: stack => (.combine op left c, stack)
  | stack => (c, stack)

/-- Reads on within brackets; `front` while nothing but hyphens has been read of the innermost.
There a hyphen is itself, and so is a closing bracket in the first place. -/
def inBrackets (spaced : Bool) : (fuel : Nat) → (front : Bool) → List OpenClass → List Class →
    List Char → Option (Class × List Char)
  | 0, _, _, _, _ => none
  | fuel + 1, front, stack, items, s =>
    let combine (op : SetOp) (rest : List Char) :=
      let (left, stack) := completed (unionOf items) stack
      inBrackets spaced fuel false (.combination op left :: stack) [] rest
    let single (s : List Char) := do
      let (c, rest) ← memberOrRange spaced s
      inBrackets spaced fuel false stack (c :: items) rest
    match skip spaced s with
    | [] => none
    | '[' :: rest =>
      match asciiClass rest with
      | some (c, rest) => inBrackets spaced fuel false stack (c :: items) rest
      | none =>
        match skip spaced rest with
        | '^' :: rest => inBrackets spaced fuel true (.brackets items true :: stack) [] rest
        | rest => inBrackets spaced fuel true (.brackets items false :: stack) [] rest
    | ']' :: rest =>
      if front && items.isEmpty then
        inBrackets spaced fuel false stack [.literal ⟨']', false⟩] rest
      else
        match completed (unionOf items) stack with
        | (c, [.brackets _ negated]) => some (.bracket negated c, rest)
        | (c, .brackets before negated :: stack) =>
          inBrackets spaced fuel false stack (.bracket negated c :: before) rest
        | _ => none
    | '-' :: rest =>
      if front then
        inBrackets spaced fuel true stack (.literal ⟨'-', false⟩ :: items) rest
      else match rest with
        | '-' :: rest => combine .diff rest
        | _ => single ('-' :: rest)
    | '&' :: '&' :: rest => combine .inter rest
    | '~' :: '~' :: rest => combine .symmDiff rest
    | s => single s

/-- Reads on behind the outermost opening bracket. -/
def brackets (spaced : Bool) (s : List Char) : Option (Class × List Char) :=
  match skip spaced s with
  | '^' :: rest => inBrackets spaced (s.length + 1) true [.brackets [] true] [] rest
  | rest => inBrackets spaced (s.length + 1) true [.brackets [] false] [] rest

end Wayfarer.Pattern
