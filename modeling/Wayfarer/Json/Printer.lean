import Wayfarer.Json.Basic

/-!
Trees back to text: on one line, or indented by two spaces a level with one item or member a line.
Empty arrays and objects stay on their line. A number that is not digits alone, a mangled string and
a broken place have no text and are left out; no record holds them.
-/
namespace Wayfarer.Json

def hexDigit (n : Nat) : Char :=
  if n < 10 then Char.ofNat ('0'.toNat + n) else Char.ofNat ('a'.toNat + (n - 10))

/-- A character inside quotes. Only the quote, the backslash and the control characters are
escaped. -/
def escapeChar (c : Char) : List Char :=
  match c with
  | '"' => ['\\', '"']
  | '\\' => ['\\', '\\']
  | '\x08' => ['\\', 'b']
  | '\x0c' => ['\\', 'f']
  | '\n' => ['\\', 'n']
  | '\r' => ['\\', 'r']
  | '\t' => ['\\', 't']
  | c =>
    if c.toNat < 0x20 then ['\\', 'u', '0', '0', hexDigit (c.toNat / 16), hexDigit (c.toNat % 16)]
    else [c]

def quote (s : String) : String :=
  "\"" ++ String.ofList (s.toList.flatMap escapeChar) ++ "\""

/-- Ends the line and indents the next one. -/
def newLine (level : Nat) : String :=
  "\n" ++ String.ofList (List.replicate (2 * level) ' ')

mutual

def compact : Json → String
  | null => "null"
  | bool true => "true"
  | bool false => "false"
  | nat n => toString n
  | string s => quote s
  | array items => "[" ++ compactItems items ++ "]"
  | object members => "\x7b" ++ compactMembers members ++ "\x7d"
  | number | mangled | broken => ""

def compactItems : List Json → String
  | [] => ""
  | [j] => j.compact
  | j :: rest => j.compact ++ "," ++ compactItems rest

def compactMembers : List (Option String × Json) → String
  | [] => ""
  | [(key, j)] => quote (key.getD "") ++ ":" ++ j.compact
  | (key, j) :: rest => quote (key.getD "") ++ ":" ++ j.compact ++ "," ++ compactMembers rest

end

mutual

/-- The text of a value whose first line stands at `level`. -/
def prettyAt (level : Nat) : Json → String
  | null => "null"
  | bool true => "true"
  | bool false => "false"
  | nat n => toString n
  | string s => quote s
  | array [] => "[]"
  | array (j :: rest) =>
    "[" ++ newLine (level + 1) ++ j.prettyAt (level + 1) ++ prettyItems (level + 1) rest ++
      newLine level ++ "]"
  | object [] => "\x7b\x7d"
  | object ((key, j) :: rest) =>
    "\x7b" ++ newLine (level + 1) ++ quote (key.getD "") ++ ": " ++ j.prettyAt (level + 1) ++
      prettyMembers (level + 1) rest ++ newLine level ++ "\x7d"
  | number | mangled | broken => ""

def prettyItems (level : Nat) : List Json → String
  | [] => ""
  | j :: rest => "," ++ newLine level ++ j.prettyAt level ++ prettyItems level rest

def prettyMembers (level : Nat) : List (Option String × Json) → String
  | [] => ""
  | (key, j) :: rest =>
    "," ++ newLine level ++ quote (key.getD "") ++ ": " ++ j.prettyAt level ++
      prettyMembers level rest

end

def pretty (j : Json) : String :=
  j.prettyAt 0

end Wayfarer.Json
