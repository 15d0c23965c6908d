import Wayfarer.Cursor
import Wayfarer.Failure
import Wayfarer.Page

/-!
What happens during a walk and around it, as data, and the lines that the log shows of it.
-/
namespace Wayfarer

/-- How urgent a log line is, least first. -/
inductive Level where
  | debug
  | info
  | warn
  | error
  deriving DecidableEq, Repr

namespace Level

def rank : Level → Nat
  | debug => 0
  | info => 1
  | warn => 2
  | error => 3

def word : Level → String
  | debug => "DEBUG"
  | info => "INFO"
  | warn => "WARN"
  | error => "ERROR"

end Level

structure LogLine where
  level : Level
  message : String
  /-- Names and values, in the order in which they are shown. -/
  values : List (String × String) := []
  deriving DecidableEq, Repr

namespace LogLine

def text (l : LogLine) : String :=
  " ".intercalate
    ([l.level.word, l.message] ++ l.values.map fun (name, value) => s!"{name}={value}")

end LogLine

/-- The ways in which a walk fails for good. -/
inductive WalkError where
  | unknownStep (id : Ident)
  | unknownWay (id : Ident)
  | unknownDetour (id : Ident)
  | missingPocket (detour : Ident) (pocket : String)
  | noEntry (detour : Ident) (value : String)
  | missingAction (step : Ident) (kind : ActionKind)
  | budgetExhausted (step : Ident)
  deriving DecidableEq, Repr

namespace WalkError

def message : WalkError → String
  | unknownStep id => s!"step {id} not found"
  | unknownWay id => s!"way {id} not found"
  | unknownDetour id => s!"detour {id} not found"
  | missingPocket detour pocket => s!"pocket '{pocket}' required by {detour} not found"
  | noEntry detour value => s!"detour {detour} has no entry for value '{value}'"
  | missingAction step kind => s!"no action registered for {kind.title} (step {step})"
  | budgetExhausted step => s!"retry budget exhausted while recovering {step}"

end WalkError

inductive Event where
  /-- An activation of a way begins with so many recoveries left. -/
  | walking (way : Way) (spot : Spot) (limit : Nat)
  /-- The step at this position is about to run. -/
  | reached (spot : Spot)
  | running (ordinal : Nat) (step : Step)
  | stepFailed (step : Ident) (failure : Failure)
  /-- The catch way of a failed step begins, which leaves so many recoveries. -/
  | recovering (step : Ident) (remaining : Nat)
  | branched (detour : Ident) (value : String) (entry : String)
  | called (call : PageCall)
  /-- A call is told to the log. -/
  | narrated (call : PageCall)
  | copied (pocket text : String)
  | stored (pocket : Pocket)
  | readingCursor (path : Path)
  | cursorRead (cursor : Cursor)
  | writingCursor (path : Path) (cursor : Cursor)
  | definitionsRead (steps ways detours : Nat)
  | checkpointFailed (failure : Failure) (spot : Spot)
  | starting (way : Ident) (spot : Spot) (limit : Nat)
  | completed (way : Ident) (steps recoveries : Nat)
  | failed (way : Ident) (error : WalkError) (steps : Nat)
  | armedOnStart
  | idling (millis : Nat)
  deriving DecidableEq, Repr

namespace PageCall

/-- What the log says of the call. Texts are told by their length. -/
def logLine (call : PageCall) : LogLine :=
  match call with
  | goTo url => ⟨.info, "page goto", [("url", url)]⟩
  | close => ⟨.info, "page close", []⟩
  | await s => ⟨.info, "page wait for selector", [("selector", s)]⟩
  | click s => ⟨.info, "page click", [("selector", s)]⟩
  | type s text => ⟨.info, "page type", [("selector", s), ("chars", toString text.length)]⟩
  | setValue s text =>
    ⟨.info, "page set value", [("selector", s), ("chars", toString text.length)]⟩
  | setText s text =>
    ⟨.info, "page set inner text", [("selector", s), ("chars", toString text.length)]⟩
  | readText s => ⟨.info, "page read inner text", [("selector", s)]⟩
  | readLink s => ⟨.info, "page read link target", [("selector", s)]⟩
  | pause millis => ⟨.info, "page pause", [("millis", toString millis)]⟩

end PageCall

namespace Event

/-- The log line of an event; some events have none. -/
def logLine? : Event → Option LogLine
  | walking way spot limit =>
    some ⟨.debug, "walking way", [("way", way.id.text), ("description", way.description),
      ("spot", spot.text), ("limit", toString limit)]⟩
  | reached _ => none
  | running ordinal step =>
    some ⟨.info, "running step", [("ordinal", toString ordinal), ("step", step.id.text),
      ("description", step.description)]⟩
  | stepFailed step failure =>
    some ⟨.warn, "step failed, switching to catch way",
      [("step", step.text), ("error", failure.message)]⟩
  | recovering step remaining =>
    some ⟨.debug, "descending into catch way",
      [("step", step.text), ("remaining", toString remaining)]⟩
  | branched detour value entry =>
    some ⟨.debug, "detour resolved",
      [("detour", detour.text), ("value", value), ("entry", entry)]⟩
  | called _ => none
  | narrated call => some call.logLine
  | copied pocket text => some ⟨.debug, "copied text", [("pocket", pocket), ("text", text)]⟩
  | stored _ => none
  | readingCursor path => some ⟨.debug, "loading cursor", [("path", path.text)]⟩
  | cursorRead cursor =>
    some ⟨.debug, "cursor loaded", [("is_run", toString cursor.running), ("way", cursor.way.text),
      ("spot", cursor.spot.text)]⟩
  | writingCursor path cursor =>
    some ⟨.debug, "writing cursor", [("path", path.text), ("is_run", toString cursor.running),
      ("spot", cursor.spot.text)]⟩
  | definitionsRead steps ways detours =>
    some ⟨.debug, "definitions loaded", [("steps", toString steps), ("ways", toString ways),
      ("detours", toString detours)]⟩
  | checkpointFailed failure spot =>
    some ⟨.warn, "failed to checkpoint spot",
      [("error", failure.message), ("spot", spot.text)]⟩
  | starting way spot limit =>
    some ⟨.info, "starting walk",
      [("way", way.text), ("spot", spot.text), ("limit", toString limit)]⟩
  | completed way steps recoveries =>
    some ⟨.info, "walk completed", [("way", way.text), ("steps", toString steps),
      ("catch_descents", toString recoveries)]⟩
  | failed way error steps =>
    some ⟨.error, "walk failed",
      [("way", way.text), ("error", error.message), ("steps", toString steps)]⟩
  | armedOnStart => some ⟨.info, "cursor armed on start", []⟩
  | idling millis => some ⟨.debug, "cursor idle, sleeping", [("millis", toString millis)]⟩

end Event

/-- An event, and how the world outside the walk stood at that moment. -/
structure Moment (ω : Type) where
  event : Event
  world : ω

end Wayfarer
