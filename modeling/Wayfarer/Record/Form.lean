import Wayfarer.Record
import Wayfarer.Ident.Form

/-!
The JSON forms of steps, ways, detours and pockets: objects with the fields in a fixed order. What a
step or an entry may go without, its reader fills in.
-/
namespace Wayfarer

open Json (Decode RecordField)

namespace ActionKind

def toJson (kind : ActionKind) : Json :=
  .string kind.word

def ofName (name : String) : Decode ActionKind :=
  match ofWord? name with
  | .some kind => pure kind
  | .none => throw (.unknownWord name (all.map word))

/-- A kind is its word, or an object in which the word is the only key and has nothing under it. -/
def ofJson : Json → Decode ActionKind
  | .string name => ofName name
  | .object ((some name, value) :: rest) => do
    let kind ← ofName name
    match value, rest with
    | .null, [] => pure kind
    | _, _ => throw .malformed
  | _ => throw .malformed

end ActionKind

def identsJson (ids : List Ident) : Json :=
  .array (ids.map Ident.toJson)

def readIdents : Json → Decode (List Ident) :=
  Json.toList Ident.ofJson

namespace Step

def toJson (s : Step) : Json :=
  .record [("id", s.id.toJson), ("description", .string s.description),
    ("action", s.action.toJson), ("selector", .string s.selector), ("pocket", .string s.pocket),
    ("payload", .string s.payload), ("catch", identsJson s.onFailure)]

/-- The fields of a step read so far. -/
structure Draft where
  id : Option Ident := none
  description : Option String := none
  action : Option ActionKind := none
  selector : Option String := none
  pocket : Option String := none
  payload : Option String := none
  onFailure : Option (List Ident) := none

def fields : List (RecordField Draft) :=
  [.required "id" Ident.ofJson (·.id) fun x d => { d with id := x },
   .required "description" Json.toText (·.description) fun x d => { d with description := x },
   .optionalOf "action" ActionKind.ofJson (·.action) fun x d => { d with action := x },
   .optionalOf "selector" Json.toText (·.selector) fun x d => { d with selector := x },
   .optionalOf "pocket" Json.toText (·.pocket) fun x d => { d with pocket := x },
   .optionalOf "payload" Json.toText (·.payload) fun x d => { d with payload := x },
   .optionalOf "catch" readIdents (·.onFailure) fun x d => { d with onFailure := x }]

def build (d : Draft) : Decode Step := do
  let id ← Json.need "id" d.id
  let description ← Json.need "description" d.description
  return { id, description, action := d.action.getD .none, selector := d.selector.getD "",
           pocket := d.pocket.getD "", payload := d.payload.getD "",
           onFailure := d.onFailure.getD [] }

def ofJson : Json → Decode Step :=
  Json.toRecord fields {} build

end Step

namespace Way

def toJson (w : Way) : Json :=
  .record [("id", w.id.toJson), ("description", .string w.description), ("repeat", .nat w.repeats),
    ("steps", identsJson w.steps)]

/-- The fields of a way read so far. -/
structure Draft where
  id : Option Ident := none
  description : Option String := none
  repeats : Option Nat := none
  steps : Option (List Ident) := none

def fields : List (RecordField Draft) :=
  [.required "id" Ident.ofJson (·.id) fun x d => { d with id := x },
   .required "description" Json.toText (·.description) fun x d => { d with description := x },
   .required "repeat" (Json.toNatBelow Text.halfWordBound) (·.repeats)
     fun x d => { d with repeats := x },
   .required "steps" readIdents (·.steps) fun x d => { d with steps := x }]

def build (d : Draft) : Decode Way := do
  let id ← Json.need "id" d.id
  let description ← Json.need "description" d.description
  let repeats ← Json.need "repeat" d.repeats
  let steps ← Json.need "steps" d.steps
  return { id, description, repeats, steps }

def ofJson : Json → Decode Way :=
  Json.toRecord fields {} build

end Way

namespace Entry

def toJson (e : Entry) : Json :=
  .record [("value", .string e.value), ("steps", identsJson e.steps)]

/-- The fields of an entry read so far. -/
structure Draft where
  value : Option String := none
  steps : Option (List Ident) := none

def fields : List (RecordField Draft) :=
  [.required "value" Json.toText (·.value) fun x d => { d with value := x },
   .optionalOf "steps" readIdents (·.steps) fun x d => { d with steps := x }]

def build (d : Draft) : Decode Entry := do
  let value ← Json.need "value" d.value
  return { value, steps := d.steps.getD [] }

def ofJson : Json → Decode Entry :=
  Json.toRecord fields {} build

end Entry

namespace Detour

def toJson (d : Detour) : Json :=
  .record [("id", d.id.toJson), ("description", .string d.description),
    ("pocket", .string d.pocket), ("entrys", .array (d.entries.map Entry.toJson))]

/-- The fields of a detour read so far. -/
structure Draft where
  id : Option Ident := none
  description : Option String := none
  pocket : Option String := none
  entries : Option (List Entry) := none

def fields : List (RecordField Draft) :=
  [.required "id" Ident.ofJson (·.id) fun x d => { d with id := x },
   .required "description" Json.toText (·.description) fun x d => { d with description := x },
   .required "pocket" Json.toText (·.pocket) fun x d => { d with pocket := x },
   .required "entrys" (Json.toList Entry.ofJson) (·.entries) fun x d => { d with entries := x }]

def build (d : Draft) : Decode Detour := do
  let id ← Json.need "id" d.id
  let description ← Json.need "description" d.description
  let pocket ← Json.need "pocket" d.pocket
  let entries ← Json.need "entrys" d.entries
  return { id, description, pocket, entries }

def ofJson : Json → Decode Detour :=
  Json.toRecord fields {} build

end Detour

namespace Pocket

def toJson (p : Pocket) : Json :=
  .record [("name", .string p.name), ("content", .string p.content)]

/-- The fields of a pocket read so far. -/
structure Draft where
  name : Option String := none
  content : Option String := none

def fields : List (RecordField Draft) :=
  [.required "name" Json.toText (·.name) fun x d => { d with name := x },
   .required "content" Json.toText (·.content) fun x d => { d with content := x }]

def build (d : Draft) : Decode Pocket := do
  let name ← Json.need "name" d.name
  let content ← Json.need "content" d.content
  return { name, content }

def ofJson : Json → Decode Pocket :=
  Json.toRecord fields {} build

end Pocket

end Wayfarer
