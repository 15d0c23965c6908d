/-!
Pages as a walk sees them: calls that are answered one after the other. What a page is made of stays
open; a kind of page is a type of states and the way in which it answers.
-/
namespace Wayfarer

/-- One request made of a page. -/
inductive PageCall where
  | goTo (url : String)
  | close
  | await (selector : String)
  | click (selector : String)
  /-- Sends keystrokes. -/
  | type (selector text : String)
  /-- Sets the value of a field. -/
  | setValue (selector text : String)
  /-- Sets the text of an element. -/
  | setText (selector text : String)
  | readText (selector : String)
  /-- Reads where an anchor leads. -/
  | readLink (selector : String)
  | pause (millis : Nat)
  deriving DecidableEq, Repr

namespace PageCall

/-- The call on one line. -/
def line : PageCall → String
  | goTo url => s!"goto {url}"
  | close => "close"
  | await selector => s!"wait {selector}"
  | click selector => s!"click {selector}"
  | type selector text => s!"type {selector} {text}"
  | setValue selector text => s!"value {selector} {text}"
  | setText selector text => s!"text {selector} {text}"
  | readText selector => s!"read {selector}"
  | readLink selector => s!"href {selector}"
  | pause millis => s!"pause {millis}"

end PageCall

/-- A kind of page, given by its states `π`. -/
class Page (π : Type) where
  /-- Answers a call with the text that was read, if any, or with the reason for refusing it. A
  pause cannot be refused: its answer is not looked at. -/
  answer : PageCall → π → Except String String × π
  /-- Calls are told to the log as they are made. -/
  narrated : Bool := false

end Wayfarer
