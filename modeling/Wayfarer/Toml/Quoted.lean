import Wayfarer.Toml.Scalar

/-!
Quoted text of TOML: in double quotes with escapes or in single quotes without, and both also in
three quotes over several lines.
-/
namespace Wayfarer.Toml

/-- Characters that may stand on a line. -/
def isPlain (c : Char) : Bool :=
  c == '\t' || (0x20 ≤ c.toNat && c.toNat != 0x7F)

/-- The character with the code point that `count` hexadecimal digits write, and the rest. -/
def codePoint (count : Nat) (s : List Char) : Option (Char × List Char) := do
  let digits := s.take count
  if digits.length != count then none
  let values ← digits.mapM (baseDigit 16)
  let n := values.foldl (fun n v => n * 16 + v) 0
  if h : n.isValidChar then some (Char.ofNatAux n h, s.drop count) else none

/-- What an escape writes, behind the backslash. -/
def escape : List Char → Option (Char × List Char)
  | 'b' :: rest => some ('\x08', rest)
  | 't' :: rest => some ('\t', rest)
  | 'n' :: rest => some ('\n', rest)
  | 'f' :: rest => some ('\x0C', rest)
  | 'r' :: rest => some ('\r', rest)
  | 'e' :: rest => some ('\x1B', rest)
  | '"' :: rest => some ('"', rest)
  | '\\' :: rest => some ('\\', rest)
  | 'x' :: rest => codePoint 2 rest
  | 'u' :: rest => codePoint 4 rest
  | 'U' :: rest => codePoint 8 rest
  | _ => none

def isLineBlank (c : Char) : Bool :=
  c == ' ' || c == '\t'

/-- The rest behind a line end, if one is here. -/
def lineEnd? : List Char → Option (List Char)
  | '\n' :: rest => some rest
  | '\r' :: '\n' :: rest => some rest
  | _ => none

/-- The rest behind blanks and line ends. -/
def skipLines : List Char → List Char
  | '\n' :: rest => skipLines rest
  | '\r' :: '\n' :: rest => skipLines rest
  | c :: rest => if isLineBlank c then skipLines rest else c :: rest
  | [] => []

/-- Text up to the double quote. -/
def basicLine : (fuel : Nat) → List Char → Option (List Char × List Char)
  | 0, _ => none
  | _ + 1, [] => none
  | _ + 1, '"' :: rest => some ([], rest)
  | fuel + 1, '\\' :: rest => do
    let (c, rest) ← escape rest
    let (cs, rest) ← basicLine fuel rest
    return (c :: cs, rest)
  | fuel + 1, c :: rest => do
    if !isPlain c then none
    let (cs, rest) ← basicLine fuel rest
    return (c :: cs, rest)

/-- Text up to the single quote. -/
def literalLine (s : List Char) : Option (List Char × List Char) :=
  match s.span fun c => c != '\'' && isPlain c with
  | (cs, '\'' :: rest) => some (cs, rest)
  | _ => none

/-- The end of text in three quotes. Up to two more quotes in front of them belong to the text. -/
def closing? (quote : Char) (s : List Char) : Option (List Char × List Char) :=
  let quotes := (s.takeWhile (· == quote)).length
  if quotes < 3 then none
  else
    let inside := min (quotes - 3) 2
    some (List.replicate inside quote, s.drop (inside + 3))

/-- Text up to three quotes. A backslash at the end of a line takes the blanks and line ends behind
it away. -/
def manyLines (quote : Char) (escapes : Bool) : (fuel : Nat) → List Char →
    Option (List Char × List Char)
  | 0, _ => none
  | _ + 1, [] => none
  | fuel + 1, c :: rest =>
    match closing? quote (c :: rest) with
    | some found => some found
    | none =>
      if c == '\\' && escapes then
        if (lineEnd? (rest.dropWhile isLineBlank)).isSome then
          manyLines quote escapes fuel (skipLines rest)
        else do
          let (e, rest) ← escape rest
          let (cs, rest) ← manyLines quote escapes fuel rest
          return (e :: cs, rest)
      else do
        let (c, rest) ←
          match lineEnd? (c :: rest) with
          | some rest => some ('\n', rest)
          | none => if isPlain c then some (c, rest) else none
        let (cs, rest) ← manyLines quote escapes fuel rest
        return (c :: cs, rest)

/-- Quoted text on one line, as keys may be. -/
def quotedLine (s : List Char) : Option (List Char × List Char) :=
  match s with
  | '"' :: rest => basicLine (rest.length + 1) rest
  | '\'' :: rest => literalLine rest
  | _ => none

/-- Any quoted text. A line end right behind three quotes does not count. -/
def quoted (s : List Char) : Option (List Char × List Char) :=
  let afterOpening (s : List Char) := (lineEnd? s).getD s
  match s with
  | '"' :: '"' :: '"' :: rest => manyLines '"' true (rest.length + 1) (afterOpening rest)
  | '\'' :: '\'' :: '\'' :: rest => manyLines '\'' false (rest.length + 1) (afterOpening rest)
  | s => quotedLine s

end Wayfarer.Toml
