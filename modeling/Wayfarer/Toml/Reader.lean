import Wayfarer.Toml.Quoted
import Wayfarer.Toml.Table

/-!
Reading TOML. Readers take the characters in front of them and answer what they read with what is
left, or nothing if the text is no TOML.
-/
namespace Wayfarer.Toml

def skipBlanks (s : List Char) : List Char :=
  s.dropWhile isLineBlank

/-- What is left behind a comment, if one is here. -/
def skipComment : List Char → List Char
  | '#' :: rest => rest.dropWhile isPlain
  | s => s

/-- What is left behind blanks, comments and line ends. -/
def skipSpace : (fuel : Nat) → List Char → List Char
  | 0, s => s
  | fuel + 1, s =>
    let s := skipComment (skipBlanks s)
    match lineEnd? s with
    | some rest => skipSpace fuel rest
    | none => s

def isBareKey (c : Char) : Bool :=
  Text.isDigit c || ('a' ≤ c && c ≤ 'z') || ('A' ≤ c && c ≤ 'Z') || c == '_' || c == '-'

/-- One part of a key. -/
def keyPart (s : List Char) : Option (String × List Char) :=
  match quotedLine s with
  | some (cs, rest) => some (String.ofList cs, rest)
  | none =>
    match s.span isBareKey with
    | ([], _) => none
    | (cs, rest) => some (String.ofList cs, rest)

/-- How deep arrays and inline tables may nest, and how many parts a key may have. -/
def maxDepth : Nat := 80

/-- Parts with dots between them, of which the last stands alone. -/
def keyParts : (fuel : Nat) → List Char → Option ((List String × String) × List Char)
  | 0, _ => none
  | fuel + 1, s => do
    let (part, rest) ← keyPart (skipBlanks s)
    match skipBlanks rest with
    | '.' :: rest =>
      let ((path, last), rest) ← keyParts fuel rest
      return ((part :: path, last), rest)
    | rest => return (([], part), rest)

/-- A key and the rest behind the blanks that follow. -/
def key (s : List Char) : Option ((List String × String) × List Char) := do
  let ((path, last), rest) ← keyParts s.length s
  if path.length < maxDepth then some ((path, last), rest) else none

/-- What ends a value without quotes. -/
def endsBare (c : Char) : Bool :=
  isLineBlank c ||
    [',', ']', '\x7d', '#', '=', '[', '\x7b', '"', '\'', '\r', '\n'].contains c

/-- A value without quotes. A blank may part a day from a time. -/
def bareValue (s : List Char) : Option (Value × List Char) :=
  let (first, rest) := s.span (!endsBare ·)
  match day first, rest with
  | some [], ' ' :: d :: more =>
    if Text.isDigit d then
      let (second, rest) := (d :: more).span (!endsBare ·)
      (bare (first ++ ' ' :: second)).map (·, rest)
    else (bare first).map (·, rest)
  | _, _ => (bare first).map (·, rest)

mutual

def value : (fuel depth : Nat) → List Char → Option (Value × List Char)
  | 0, _, _ => none
  | fuel + 1, depth, s =>
    match s with
    | '"' :: _ => (quoted s).map fun found => (.text (String.ofList found.1), found.2)
    | '\'' :: _ => (quoted s).map fun found => (.text (String.ofList found.1), found.2)
    | '[' :: rest => if depth < maxDepth then items fuel (depth + 1) rest else none
    | '\x7b' :: rest => if depth < maxDepth then pairs fuel (depth + 1) [] rest else none
    | _ => bareValue s

/-- Items up to the closing bracket. A comma may stand behind the last. -/
def items : (fuel depth : Nat) → List Char → Option (Value × List Char)
  | 0, _, _ => none
  | fuel + 1, depth, s =>
    match skipSpace s.length s with
    | ']' :: rest => some (.array, rest)
    | s => do
      let (_, rest) ← value fuel depth s
      match skipSpace rest.length rest with
      | ',' :: rest => items fuel depth rest
      | ']' :: rest => some (.array, rest)
      | _ => none

/-- Keys and values up to the closing brace. A comma may stand behind the last. -/
def pairs : (fuel depth : Nat) → Entries → List Char → Option (Value × List Char)
  | 0, _, _, _ => none
  | fuel + 1, depth, entries, s =>
    match skipSpace s.length s with
    | '\x7d' :: rest => some (.table, rest)
    | s => do
      let ((path, last), rest) ← key s
      let '=' :: rest := skipSpace rest.length rest | none
      let (v, rest) ← value fuel depth (skipSpace rest.length rest)
      let entries ← entries.addValue path last v
      match skipSpace rest.length rest with
      | ',' :: rest => pairs fuel depth entries rest
      | '\x7d' :: rest => some (.table, rest)
      | _ => none

end

/-- The rest behind the end of this line, on which at most a comment is left. -/
def finishLine (s : List Char) : Option (List Char) :=
  match skipComment (skipBlanks s) with
  | [] => some []
  | s => lineEnd? s

/-- Everything read so far, and the header that is open. -/
structure Document where
  entries : Entries := []
  header : List String := []

namespace Document

/-- Reads what begins a line: a header, a value with its key, or nothing. -/
def readStart (d : Document) (s : List Char) : Option (Document × List Char) :=
  match s with
  | '[' :: '[' :: rest => do
    let ((path, last), rest) ← key rest
    let ']' :: ']' :: rest := rest | none
    return (⟨← d.entries.beginNext path last, path ++ [last]⟩, rest)
  | '[' :: rest => do
    let ((path, last), rest) ← key rest
    let ']' :: rest := rest | none
    return (⟨← d.entries.begin path last, path ++ [last]⟩, rest)
  | [] => some (d, [])
  | c :: _ =>
    if c == '#' || c == '\n' || c == '\r' then some (d, s)
    else do
      let ((path, last), rest) ← key s
      let '=' :: rest := rest | none
      let (v, rest) ← value s.length 0 (skipBlanks rest)
      return (⟨← d.entries.addValueIn d.header path last v, d.header⟩, rest)

/-- Reads line by line. Each but the last takes a character. -/
def readLines : (fuel : Nat) → Document → List Char → Option Document
  | 0, _, _ => none
  | fuel + 1, d, s => do
    let (d, rest) ← d.readStart (skipBlanks s)
    match ← finishLine rest with
    | [] => return d
    | rest => readLines fuel d rest

end Document

/-- The top level of a text, which may begin with a byte order mark. -/
def read? (text : String) : Option Entries :=
  let s := match text.toList with
    | '\uFEFF' :: rest => rest
    | s => s
  (Document.readLines (s.length + 1) {} s).map (·.entries)

end Wayfarer.Toml
