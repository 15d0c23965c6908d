import Wayfarer.Text.Numeral

/-!
The tokens of JSON text, read one character at a time. Text that holds no token ends the list with
`bad`.
-/
namespace Wayfarer.Json

inductive Token where
  | beginArray
  | endArray
  | beginObject
  | endObject
  | comma
  | colon
  | null
  | bool (b : Bool)
  | nat (n : Nat)
  | number
  /-- A string; none if half a surrogate pair is in it. -/
  | string (s : Option String)
  | bad
  deriving DecidableEq, Repr, Inhabited

/-- Blanks between tokens; only these four. -/
def isGap (c : Char) : Bool :=
  c == ' ' || c == '\n' || c == '\t' || c == '\r'

def hexValue? (c : Char) : Option Nat :=
  if '0' ≤ c && c ≤ '9' then some (c.toNat - '0'.toNat)
  else if 'a' ≤ c && c ≤ 'f' then some (c.toNat - 'a'.toNat + 10)
  else if 'A' ≤ c && c ≤ 'F' then some (c.toNat - 'A'.toNat + 10)
  else none

/-- The part of a number that was read last. -/
inductive NumberPart where
  | minus
  | zero
  | whole
  | point
  | fraction
  | mark
  | sign
  | exponent
  deriving DecidableEq, Repr

namespace NumberPart

def isMark (c : Char) : Bool :=
  c == 'e' || c == 'E'

/-- The part that `c` belongs to if it continues the number. -/
def next? : NumberPart → Char → Option NumberPart
  | minus, c => if c == '0' then some zero else if Text.isDigit c then some whole else none
  | zero, c => if c == '.' then some point else if isMark c then some mark else none
  | whole, c =>
    if Text.isDigit c then some whole
    else if c == '.' then some point
    else if isMark c then some mark
    else none
  | point, c => if Text.isDigit c then some fraction else none
  | fraction, c =>
    if Text.isDigit c then some fraction else if isMark c then some mark else none
  | mark, c =>
    if c == '+' || c == '-' then some sign else if Text.isDigit c then some exponent else none
  | sign, c => if Text.isDigit c then some exponent else none
  | exponent, c => if Text.isDigit c then some exponent else none

/-- A number may end behind this part. -/
def complete : NumberPart → Bool
  | zero | whole | fraction | exponent => true
  | minus | point | mark | sign => false

end NumberPart

/-- A string under way. -/
structure Quoted where
  /-- The characters so far, the last one first. -/
  read : List Char := []
  /-- The first half of a surrogate pair whose second half must come next. -/
  half : Option Nat := none
  /-- No half of a pair has been left alone. -/
  whole : Bool := true
  deriving DecidableEq, Repr

namespace Quoted

/-- A first half that waits for its second is alone after all. -/
def settle (q : Quoted) : Quoted :=
  { q with half := none, whole := q.whole && q.half.isNone }

def push (q : Quoted) (c : Char) : Quoted :=
  let q := q.settle
  { q with read := c :: q.read }

/-- Takes a code unit written in hexadecimal. -/
def pushUnit (q : Quoted) (unit : Nat) : Quoted :=
  if 0xDC00 ≤ unit && unit < 0xE000 then
    match q.half with
    | some high =>
      let code := 0x10000 + (high - 0xD800) * 0x400 + (unit - 0xDC00)
      { q with half := none, read := Char.ofNat code :: q.read }
    | none => { q with whole := false }
  else if 0xD800 ≤ unit && unit < 0xDC00 then { q.settle with half := some unit }
  else q.push (Char.ofNat unit)

def token (q : Quoted) : Token :=
  let q := q.settle
  .string (if q.whole then some (String.ofList q.read.reverse) else none)

end Quoted

/-- The character that a one-letter escape stands for. -/
def unescape? : Char → Option Char
  | '"' => some '"'
  | '\\' => some '\\'
  | '/' => some '/'
  | 'b' => some '\x08'
  | 'f' => some '\x0c'
  | 'n' => some '\n'
  | 'r' => some '\r'
  | 't' => some '\t'
  | _ => none

/-- What the next character belongs to. -/
inductive Mode where
  | between
  /-- Inside a word of the language, with the letters it still needs. -/
  | word (left : List Char) (token : Token)
  /-- Inside a number; its value as long as it is written with digits alone. -/
  | number (part : NumberPart) (value : Option Nat)
  | quoted (q : Quoted)
  /-- Behind a backslash. -/
  | escape (q : Quoted)
  /-- Inside a code unit: how many digits are missing, and the value so far. -/
  | unit (q : Quoted) (missing value : Nat)
  | stopped
  deriving DecidableEq, Repr

structure Lexer where
  tokens : Array Token := #[]
  mode : Mode := .between

namespace Lexer

def emit (x : Lexer) (t : Token) : Lexer :=
  ⟨x.tokens.push t, .between⟩

def fail (x : Lexer) : Lexer :=
  ⟨x.tokens.push .bad, .stopped⟩

def goTo (x : Lexer) (mode : Mode) : Lexer :=
  { x with mode }

/-- The token of a number that ends here. -/
def numberToken : Option Nat → Token
  | some n => .nat n
  | none => .number

/-- Begins a token with its first character. -/
def start (x : Lexer) (c : Char) : Lexer :=
  if isGap c then x.goTo .between
  else if Text.isDigit c then
    x.goTo (.number (if c == '0' then .zero else .whole) (some (Text.digitValue c)))
  else
    match c with
    | '[' => x.emit .beginArray
    | ']' => x.emit .endArray
    | '{' => x.emit .beginObject
    | '}' => x.emit .endObject
    | ',' => x.emit .comma
    | ':' => x.emit .colon
    | '"' => x.goTo (.quoted {})
    | '-' => x.goTo (.number .minus none)
    | 't' => x.goTo (.word ['r', 'u', 'e'] (.bool true))
    | 'f' => x.goTo (.word ['a', 'l', 's', 'e'] (.bool false))
    | 'n' => x.goTo (.word ['u', 'l', 'l'] .null)
    | _ => x.fail

/-- The value of a number once `c` is read as `part`. -/
def grow (value : Option Nat) (part : NumberPart) (c : Char) : Option Nat :=
  match part, value with
  | .whole, some n => some (n * 10 + Text.digitValue c)
  | _, _ => none

def step (x : Lexer) (c : Char) : Lexer :=
  match x.mode with
  | .between => x.start c
  | .word [] token => (x.emit token).start c
  | .word [l] token => if c == l then x.emit token else x.fail
  | .word (l :: left) token => if c == l then x.goTo (.word left token) else x.fail
  | .number part value =>
    match part.next? c with
    | some next => x.goTo (.number next (grow value next c))
    | none =>
      if part.complete && !(part == .zero && Text.isDigit c) then
        (x.emit (numberToken value)).start c
      else x.fail
  | .quoted q =>
    if c == '"' then x.emit q.token
    else if c == '\\' then x.goTo (.escape q)
    else if c.toNat < 0x20 then x.fail
    else x.goTo (.quoted (q.push c))
  | .escape q =>
    if c == 'u' then x.goTo (.unit q 4 0)
    else
      match unescape? c with
      | some d => x.goTo (.quoted (q.push d))
      | none => x.fail
  | .unit q missing value =>
    match hexValue? c with
    | none => x.fail
    | some d =>
      let value := value * 16 + d
      if missing ≤ 1 then x.goTo (.quoted (q.pushUnit value))
      else x.goTo (.unit q (missing - 1) value)
  | .stopped => x

/-- The tokens once the text is over; one that is not finished is bad. -/
def finish (x : Lexer) : Array Token :=
  match x.mode with
  | .between | .stopped => x.tokens
  | .number part value =>
    x.tokens.push (if part.complete then numberToken value else .bad)
  | _ => x.tokens.push .bad

end Lexer

def tokens (text : String) : List Token :=
  (text.toList.foldl Lexer.step {}).finish.toList

end Wayfarer.Json
