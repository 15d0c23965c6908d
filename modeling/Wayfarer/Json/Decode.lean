import Wayfarer.Json.Reader

/-!
Reading domain values off a tree. Trees are walked in the order of the text, so the first problem of
the text is the one reported.
-/
namespace Wayfarer.Json

/-- Why a text is not the record it should be. -/
inductive Fault where
  /-- Not JSON, or JSON of another shape. -/
  | malformed
  | badIdent (text : String)
  /-- A position with more than an index and what is below it. -/
  | crowded
  | missingField (name : String)
  | duplicateField (name : String)
  /-- A word where one of `known` must stand. -/
  | unknownWord (word : String) (known : List String)
  deriving DecidableEq, Repr

namespace Fault

def ticked (s : String) : String :=
  "`" ++ s ++ "`"

def message : Fault → String
  | malformed => "(json)"
  | badIdent text => s!"invalid identifier '{text}'"
  | crowded => "position array takes at most two elements"
  | missingField name => "missing field " ++ ticked name
  | duplicateField name => "duplicate field " ++ ticked name
  | unknownWord word known =>
    "unknown variant " ++ ticked word ++ ", expected one of " ++
      ", ".intercalate (known.map ticked)

end Fault

abbrev Decode (α : Type) := Except Fault α

def toText : Json → Decode String
  | string s => pure s
  | _ => throw .malformed

def toBool : Json → Decode Bool
  | bool b => pure b
  | _ => throw .malformed

/-- A number of digits alone below `bound`. -/
def toNatBelow (bound : Nat) : Json → Decode Nat
  | nat n => if n < bound then pure n else throw .malformed
  | _ => throw .malformed

def toList (item : Json → Decode α) : Json → Decode (List α)
  | array items => items.mapM item
  | _ => throw .malformed

/-- A field of a record, read into a draft of the record. -/
structure RecordField (δ : Type) where
  name : String
  /-- The record may go without the field. -/
  optional : Bool
  held : δ → Bool
  take : Json → δ → Decode δ

namespace RecordField

/-- A field that the record must have. -/
def required (name : String) (read : Json → Decode α) (get : δ → Option α) (put : α → δ → δ) :
    RecordField δ where
  name
  optional := false
  held d := (get d).isSome
  take j d := return put (← read j) d

/-- A field that may be left out. -/
def optionalOf (name : String) (read : Json → Decode α) (get : δ → Option α) (put : α → δ → δ) :
    RecordField δ :=
  { required name read get put with optional := true }

end RecordField

/-- Reads the members of an object. A known field must not come twice, which is seen at its key;
unknown ones are skipped, whatever is in them. -/
def takeMembers (fields : List (RecordField δ)) : List (Option String × Json) → δ → Decode δ
  | [], draft => pure draft
  | (none, _) :: _, _ => throw .malformed
  | (some key, value) :: rest, draft =>
    match fields.find? (·.name == key) with
    | some field => do
      if field.held draft then throw (.duplicateField key)
      takeMembers fields rest (← field.take value draft)
    | none => if value.sound then takeMembers fields rest draft else throw .malformed

/-- Reads an array as the fields in their order. Only optional fields may be missing at the end. -/
def takeItems : List (RecordField δ) → List Json → δ → Decode δ
  | [], [], draft => pure draft
  | [], _ :: _, _ => throw .malformed
  | field :: fields, [], draft =>
    if (field :: fields).all (·.optional) then pure draft else throw .malformed
  | field :: fields, value :: rest, draft => do
    takeItems fields rest (← field.take value draft)

/-- Reads a record, from an object or from the array of its fields. -/
def toRecord (fields : List (RecordField δ)) (blank : δ) (build : δ → Decode ρ) : Json → Decode ρ
  | object members => do build (← takeMembers fields members blank)
  | array items => do build (← takeItems fields items blank)
  | _ => throw .malformed

/-- The content of a field that must be there. -/
def need (name : String) : Option α → Decode α
  | some a => pure a
  | none => throw (.missingField name)

/-- Reads a whole text; nothing but blanks may follow the value. -/
def decode (value : Json → Decode α) (text : String) : Decode α := do
  let (root, clean) := read text
  let a ← value root
  if clean then pure a else throw .malformed

end Wayfarer.Json
