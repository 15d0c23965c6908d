import Wayfarer.Ident
import Wayfarer.Json.Decode

/-! The JSON form of identifiers: their text. -/
namespace Wayfarer.Ident

def toJson (id : Ident) : Json :=
  .string id.text

def ofJson (j : Json) : Json.Decode Ident := do
  let raw ← j.toText
  match parse? raw with
  | some id => pure id
  | none => throw (.badIdent raw)

end Wayfarer.Ident
