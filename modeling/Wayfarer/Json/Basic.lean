/-!
Trees of JSON text. A tree holds what a reader meets, from left to right: where a text stops being
JSON the tree ends in `broken`, so that whoever walks the tree meets problems in the order of the
text.
-/
namespace Wayfarer

inductive Json where
  | null
  | bool (b : Bool)
  /-- A number written with digits alone. -/
  | nat (n : Nat)
  /-- A number with a sign, a fraction or an exponent. -/
  | number
  | string (s : String)
  /-- A string with half a surrogate pair in it: well formed, but no text. -/
  | mangled
  | array (items : List Json)
  /-- Members in the order of the text; a key is missing if it is mangled or broken. -/
  | object (members : List (Option String × Json))
  /-- The place where the text stops being JSON. -/
  | broken
  deriving Inhabited

namespace Json

mutual

/-- No part of the value is broken. -/
def sound : Json → Bool
  | array items => soundItems items
  | object members => soundMembers members
  | broken => false
  | _ => true

def soundItems : List Json → Bool
  | [] => true
  | j :: rest => j.sound && soundItems rest

def soundMembers : List (Option String × Json) → Bool
  | [] => true
  | (_, j) :: rest => j.sound && soundMembers rest

end

mutual

/-- How many arrays and objects are open at once where the value is deepest. -/
def depth : Json → Nat
  | array items => 1 + depthItems items
  | object members => 1 + depthMembers members
  | _ => 0

def depthItems : List Json → Nat
  | [] => 0
  | j :: rest => max j.depth (depthItems rest)

def depthMembers : List (Option String × Json) → Nat
  | [] => 0
  | (_, j) :: rest => max j.depth (depthMembers rest)

end

/-- An object with these keys. -/
def record (members : List (String × Json)) : Json :=
  object (members.map fun (key, value) => (some key, value))

end Json

end Wayfarer
