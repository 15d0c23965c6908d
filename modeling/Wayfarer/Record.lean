import Wayfarer.Ident

/-!
The records of a workflow: steps, the ways that order them, detours that branch on a pocket, and
pockets.
-/
namespace Wayfarer

/-- What a step does. -/
inductive ActionKind where
  | openPage
  | closePage
  | stop
  | click
  | type
  | typePass
  | paste
  | pasteText
  | copyText
  | copyLink
  | extract
  | refine
  | duplicate
  | check
  | none
  deriving DecidableEq, Repr, Inhabited

namespace ActionKind

def all : List ActionKind :=
  [openPage, closePage, stop, click, type, typePass, paste, pasteText, copyText, copyLink, extract,
    refine, duplicate, check, none]

/-- The word for the kind in a step record. -/
def word : ActionKind → String
  | openPage => "openPage"
  | closePage => "closePage"
  | stop => "stop"
  | click => "click"
  | type => "type"
  | typePass => "typePass"
  | paste => "paste"
  | pasteText => "pasteText"
  | copyText => "copyText"
  | copyLink => "copyLinck"
  | extract => "poketExtract"
  | refine => "poketRefine"
  | duplicate => "duplicatePocket"
  | check => "chek"
  | none => "none"

/-- The word with a capital, as messages name the kind. -/
def title (kind : ActionKind) : String :=
  match kind.word.toList with
  | [] => ""
  | c :: rest => String.ofList (c.toUpper :: rest)

def ofWord? (word : String) : Option ActionKind :=
  all.find? (·.word == word)

end ActionKind

/-- One action with what it works on. -/
structure Step where
  id : Ident
  description : String
  action : ActionKind := .none
  selector : String := ""
  pocket : String := ""
  payload : String := ""
  /-- What is walked instead when the action fails. -/
  onFailure : List Ident := []
  deriving DecidableEq, Repr, Inhabited

/-- References in order, walked `repeats` times. -/
structure Way where
  id : Ident
  description : String
  repeats : Nat
  steps : List Ident
  deriving DecidableEq, Repr, Inhabited

/-- One branch of a detour. -/
structure Entry where
  value : String
  steps : List Ident := []
  deriving DecidableEq, Repr, Inhabited

/-- A branch point on the content of a pocket. -/
structure Detour where
  id : Ident
  description : String
  pocket : String
  entries : List Entry
  deriving DecidableEq, Repr, Inhabited

/-- A named piece of text. -/
structure Pocket where
  name : String
  content : String
  deriving DecidableEq, Repr, Inhabited

namespace Step

/-- The way walked when the step fails. -/
def catchWay (s : Step) : Way where
  id := .way ("Catch-" ++ s.id.name)
  description := "Contingency for step " ++ s.id.text
  repeats := 1
  steps := s.onFailure

end Step

namespace Entry

/-- The value that stands for every content without an entry of its own. -/
def defaultValue : String := "default"

def isDefault (e : Entry) : Bool :=
  e.value == defaultValue

end Entry

namespace Detour

/-- The entry for `content`: the first with that very value, else the first default. -/
def select? (d : Detour) (content : String) : Option Entry :=
  d.entries.find? (·.value == content) <|> d.entries.find? (·.isDefault)

/-- The way that the detour becomes once an entry is chosen. -/
def branch (d : Detour) (e : Entry) : Way where
  id := d.id.withKind .way
  description := d.description
  repeats := 1
  steps := e.steps

end Detour

end Wayfarer
