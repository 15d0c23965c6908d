import Wayfarer.Pattern.Tree
import Wayfarer.Text.Blank
import Wayfarer.Text.Numeral

/-!
What may follow a backslash in a pattern. Readers of this folder take the characters in front of
them and answer what they read with what is left, or nothing if the pattern is broken there. While
blanks do not count (`spaced`) neither do comments, which run from `#` to the end of the line.
-/
namespace Wayfarer.Pattern

open Text (isBlank)

/-- What is left behind blanks and comments. -/
def skipBlanks (inComment : Bool) : List Char → List Char
  | [] => []
  | c :: rest =>
    if inComment then skipBlanks (c != '\n') rest
    else if isBlank c then skipBlanks false rest
    else if c == '#' then skipBlanks true rest
    else c :: rest

def skip (spaced : Bool) (s : List Char) : List Char :=
  if spaced then skipBlanks false s else s

/-- What stands in front of the next closing brace, without what does not count. -/
def braced (spaced inComment : Bool) : List Char → Option (List Char × List Char)
  | [] => none
  | c :: rest =>
    if inComment then braced spaced (c != '\n') rest
    else if spaced && isBlank c then braced spaced false rest
    else if spaced && c == '#' then braced spaced true rest
    else if c == '\x7d' then some ([], rest)
    else (braced spaced false rest).map fun found => (c :: found.1, found.2)

def hexValue? (c : Char) : Option Nat :=
  if Text.isDigit c then some (Text.digitValue c)
  else if 'a' ≤ c && c ≤ 'f' then some (c.toNat - 'a'.toNat + 10)
  else if 'A' ≤ c && c ≤ 'F' then some (c.toNat - 'A'.toNat + 10)
  else none

/-- The character with the code point that at least one hexadecimal digit writes. -/
def hexChar? (digits : List Char) : Option Char := do
  if digits.isEmpty then none
  let values ← digits.mapM hexValue?
  let n := values.foldl (fun n v => n * 16 + v) 0
  if h : n.isValidChar then some (Char.ofNatAux n h) else none

/-- Exactly `count` characters that count. -/
def fixedRun (spaced : Bool) : (count : Nat) → List Char → Option (List Char × List Char)
  | 0, s => some ([], s)
  | _ + 1, [] => none
  | count + 1, c :: rest =>
    (fixedRun spaced count (skip spaced rest)).map fun found => (c :: found.1, found.2)

/-- A character by its code point: in braces, or with a fixed number of digits. Two digits write an
octet. -/
def codePoint (spaced : Bool) (width : Nat) (s : List Char) : Option (Atom × List Char) := do
  match skip spaced s with
  | '\x7b' :: rest =>
    let (digits, rest) ← braced spaced false rest
    return (.literal ⟨← hexChar? digits, false⟩, rest)
  | s =>
    let (digits, rest) ← fixedRun spaced width s
    return (.literal ⟨← hexChar? digits, width == 2⟩, rest)

/-- What stands in front of the first `mark`, and behind it. -/
def splitAtMark (mark : List Char) : List Char → Option (List Char × List Char)
  | [] => none
  | c :: rest =>
    if mark.isPrefixOf (c :: rest) then some ([], (c :: rest).drop mark.length)
    else (splitAtMark mark rest).map fun found => (c :: found.1, found.2)

def valued (name value : List Char) : Property :=
  .valued (String.ofList name) (String.ofList value)

/-- A property as it is written in braces, and whether its value is excluded. -/
def propertyOf (text : List Char) : Property × Bool :=
  match splitAtMark ['!', '='] text with
  | some (name, value) => (valued name value, true)
  | none =>
    match splitAtMark [':'] text <|> splitAtMark ['='] text with
    | some (name, value) => (valued name value, false)
    | none => (.named (String.ofList text), false)

/-- A property, or what lacks it: one letter, or more text in braces. -/
def propertyAtom (spaced negated : Bool) (s : List Char) : Option (Atom × List Char) :=
  match skip spaced s with
  | [] => none
  | '\\' :: _ => none
  | '\x7b' :: rest => do
    let (text, rest) ← braced spaced false rest
    let (p, excluded) := propertyOf text
    return (.property p (negated != excluded), rest)
  | c :: rest => some (.property (.named (String.singleton c)) negated, rest)

def isLetter (c : Char) : Bool :=
  ('a' ≤ c && c ≤ 'z') || ('A' ≤ c && c ≤ 'Z')

def wordAnchor? (name : List Char) : Option Anchor :=
  match String.ofList name with
  | "start" => some .wordStart
  | "end" => some .wordEnd
  | "start-half" => some .wordStartHalf
  | "end-half" => some .wordEndHalf
  | _ => none

/-- An edge of a word, of which braces may say more. Braces that begin otherwise than a name count
repetitions and are left. -/
def wordEdge (spaced : Bool) (s : List Char) : Option (Atom × List Char) :=
  match s with
  | '\x7b' :: inner => do
    let (name, rest) ← braced spaced false inner
    if name.head?.any fun c => isLetter c || c == '-' then
      return (.anchor (← wordAnchor? name), rest)
    else
      return (.anchor .wordEdge, s)
  | _ => some (.anchor .wordEdge, s)

/-- Punctuation and control characters of ASCII, which stand for themselves behind a backslash. -/
def isPlainEscape (c : Char) : Bool :=
  c.toNat < 0x80 && !isLetter c && !Text.isDigit c && c != '<' && c != '>'

/-- Reads on behind a backslash. -/
def escape (spaced : Bool) : List Char → Option (Atom × List Char)
  | [] => none
  | c :: rest =>
    match c with
    | 'x' => codePoint spaced 2 rest
    | 'u' => codePoint spaced 4 rest
    | 'U' => codePoint spaced 8 rest
    | 'p' => propertyAtom spaced false rest
    | 'P' => propertyAtom spaced true rest
    | 'd' => some (.shorthand .digit false, rest)
    | 'D' => some (.shorthand .digit true, rest)
    | 's' => some (.shorthand .blank false, rest)
    | 'S' => some (.shorthand .blank true, rest)
    | 'w' => some (.shorthand .word false, rest)
    | 'W' => some (.shorthand .word true, rest)
    | 'a' => some (.literal ⟨'\x07', false⟩, rest)
    | 'f' => some (.literal ⟨'\x0C', false⟩, rest)
    | 't' => some (.literal ⟨'\t', false⟩, rest)
    | 'n' => some (.literal ⟨'\n', false⟩, rest)
    | 'r' => some (.literal ⟨'\r', false⟩, rest)
    | 'v' => some (.literal ⟨'\x0B', false⟩, rest)
    | 'A' => some (.anchor .textStart, rest)
    | 'z' => some (.anchor .textEnd, rest)
    | 'b' => wordEdge spaced rest
    | 'B' => some (.anchor .noWordEdge, rest)
    | '<' => some (.anchor .wordStart, rest)
    | '>' => some (.anchor .wordEnd, rest)
    | _ => if isPlainEscape c then some (.literal ⟨c, false⟩, rest) else none

end Wayfarer.Pattern
