import Wayfarer.Json.Basic
import Wayfarer.Json.Token

/-!
From tokens to a tree, with a stack of the arrays and objects that are still open.
-/
namespace Wayfarer.Json

/-- An array or object that is still open; what it holds so far, the last first. -/
inductive Frame where
  | array (items : List Json)
  | object (members : List (Option String × Json))
  /-- An object in which the value of `key` is under way. -/
  | member (members : List (Option String × Json)) (key : Option String)
  deriving Inhabited

namespace Frame

/-- The tree of the frame when it ends with `last`, which is broken or holds what is. -/
def cut (last : Json) : Frame → Json
  | array items => .array (items.reverse ++ [last])
  | object members => .object (members.reverse ++ [(none, last)])
  | member members key => .object (members.reverse ++ [(key, last)])

end Frame

/-- What the next token must be. -/
inductive Expect where
  | value
  /-- Behind `[`. -/
  | valueOrEnd
  /-- Behind `{`. -/
  | keyOrEnd
  | key
  | colon
  /-- Behind an item or a member. -/
  | commaOrEnd
  /-- The text is read; more tokens are too many. -/
  | nothing (root : Json)
  /-- The text is read, and something stands behind it. -/
  | stray (root : Json)
  /-- The text has stopped being JSON. -/
  | lost (root : Json)
  deriving Inhabited

structure Reader where
  frames : List Frame := []
  expect : Expect := .value
  deriving Inhabited

namespace Reader

/-- Ends every open frame at the place where the text breaks. -/
def lose (r : Reader) : Reader :=
  ⟨[], .lost (r.frames.foldl Frame.cut .broken)⟩

/-- Puts a finished value where it belongs. -/
def put (j : Json) : List Frame → Reader
  | [] => ⟨[], .nothing j⟩
  | .array items :: rest => ⟨.array (j :: items) :: rest, .commaOrEnd⟩
  | .member members key :: rest => ⟨.object ((key, j) :: members) :: rest, .commaOrEnd⟩
  | .object members :: rest => lose ⟨.object members :: rest, .key⟩

/-- Begins a value. -/
def begin (r : Reader) : Token → Reader
  | .beginArray => ⟨.array [] :: r.frames, .valueOrEnd⟩
  | .beginObject => ⟨.object [] :: r.frames, .keyOrEnd⟩
  | .null => put .null r.frames
  | .bool b => put (.bool b) r.frames
  | .nat n => put (.nat n) r.frames
  | .number => put .number r.frames
  | .string (some s) => put (.string s) r.frames
  | .string none => put .mangled r.frames
  | _ => r.lose

/-- Takes a key. -/
def name (r : Reader) : Token → Reader
  | .string key =>
    match r.frames with
    | .object members :: rest => ⟨.member members key :: rest, .colon⟩
    | _ => r.lose
  | _ => r.lose

def step (r : Reader) (t : Token) : Reader :=
  match r.expect, t, r.frames with
  | .valueOrEnd, .endArray, .array items :: rest => put (.array items.reverse) rest
  | .value, t, _ | .valueOrEnd, t, _ => r.begin t
  | .keyOrEnd, .endObject, .object members :: rest => put (.object members.reverse) rest
  | .key, t, _ | .keyOrEnd, t, _ => r.name t
  | .colon, .colon, _ => { r with expect := .value }
  | .commaOrEnd, .comma, .array _ :: _ => { r with expect := .value }
  | .commaOrEnd, .comma, .object _ :: _ => { r with expect := .key }
  | .commaOrEnd, .endArray, .array items :: rest => put (.array items.reverse) rest
  | .commaOrEnd, .endObject, .object members :: rest => put (.object members.reverse) rest
  | .nothing root, _, _ => ⟨[], .stray root⟩
  | .stray _, _, _ | .lost _, _, _ => r
  | _, _, _ => r.lose

/-- The root, and whether nothing but blanks stands behind it. -/
def finish (r : Reader) : Json × Bool :=
  match r.expect with
  | .nothing root => (root, true)
  | .stray root => (root, false)
  | .lost root => (root, false)
  | _ => (r.frames.foldl Frame.cut .broken, false)

end Reader

/-- The tree of the tokens, and whether they are all in it. -/
def ofTokens (ts : List Token) : Json × Bool :=
  (ts.foldl Reader.step {}).finish

def read (text : String) : Json × Bool :=
  ofTokens (tokens text)

end Wayfarer.Json
