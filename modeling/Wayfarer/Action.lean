import Wayfarer.Pattern
import Wayfarer.Session
import Wayfarer.Text.Replace

/-!
The actions of steps. Page actions wait for their element before they touch it; pocket actions only
touch the store. An action that fails leaves the store as it was.
-/
namespace Wayfarer

abbrev Action (π : Type) := Step → Act π Unit

/-- The delay that a payload asks for in milliseconds: the digits at its front, behind blanks. No
digits mean none, and so do digits that make no 64-bit number. -/
def delay (payload : String) : Nat :=
  let digits := (Text.trimStart payload.toList).takeWhile Text.isDigit
  match Text.readNumeral Text.wordBound digits with
  | .ok n => n
  | .error _ => 0

namespace Action

/-- Navigates to the URL in the pocket that the payload names. -/
def openPage [Page π] : Action π := fun step => do
  let url ← Act.pocket step.payload
  Act.ask (.goTo url)
  Act.settle

def closePage [Page π] : Action π := fun _ =>
  Act.ask .close

/-- Pauses as long as the payload says. -/
def stop [Page π] : Action π := fun step =>
  Act.pause (delay step.payload)

def click [Page π] : Action π := fun step => do
  Act.ask (.await step.selector)
  Act.ask (.click step.selector)

/-- Types the pocket that the payload names. -/
def type [Page π] : Action π := fun step => do
  let text ← Act.pocket step.payload
  Act.ask (.await step.selector)
  Act.ask (.type step.selector text)

/-- Types characters one by one, with a pause in front of each. -/
def typeEach [Page π] (selector : String) (millis : Nat) : List Char → Act π Unit
  | [] => pure ()
  | c :: rest => do
    Act.pause millis
    Act.ask (.type selector (String.singleton c))
    typeEach selector millis rest

/-- Types the pocket character by character; the payload is the delay. -/
def typePass [Page π] : Action π := fun step => do
  let text ← Act.pocket step.pocket
  Act.ask (.await step.selector)
  typeEach step.selector (delay step.payload) text.toList

/-- All but the last character, and the last one. -/
def splitLast (text : String) : String × String :=
  (String.ofList text.toList.dropLast, String.ofList (text.toList.drop (text.length - 1)))

/-- Sets the field to all but the last character of the text and types that one, so that the page
sees input. The text is the pocket, or the payload if the pocket is empty or absent. -/
def paste [Page π] : Action π := fun step => do
  let pocketed ← Act.pocket? step.pocket
  if pocketed.isNone && step.payload.isEmpty then throw ⟨.nothingToPaste step.pocket, []⟩
  let content := pocketed.getD ""
  let (head, last) := splitLast (if content.isEmpty then step.payload else content)
  Act.ask (.await step.selector)
  Act.ask (.setValue step.selector head)
  Act.ask (.type step.selector last)

/-- Sets the text of an element to the pocket that the payload names, then types a space, so that
the page sees input. -/
def pasteText [Page π] : Action π := fun step => do
  let text ← Act.pocket step.payload
  Act.ask (.await step.selector)
  Act.ask (.setText step.selector text)
  Act.ask (.type step.selector " ")

def copyText [Page π] : Action π := fun step => do
  Act.ask (.await step.selector)
  let text ← Act.call (.readText step.selector)
  Act.note (.copied step.pocket text)
  Act.store step.pocket text

/-- Puts the target of an anchor into the pocket that the payload names. -/
def copyLink [Page π] : Action π := fun step => do
  Act.ask (.await step.selector)
  let target ← Act.call (.readLink step.selector)
  Act.store step.payload target

/-- Narrows the pocket to the first match of the payload, or to nothing. -/
def extract : Action π := fun step => do
  let content ← Act.pocket step.pocket
  match Pattern.compile? step.payload with
  | none => throw ⟨.pattern, [.compiling step.payload]⟩
  | some pattern => Act.store step.pocket ((pattern.firstMatch? content).getD "")

/-- Replaces the payload, taken literally, in the pocket by the pocket that the selector names, or
by nothing if that one is absent. -/
def refine : Action π := fun step => do
  let content ← Act.pocket step.pocket
  let new := (← Act.pocket? step.selector).getD ""
  Act.store step.pocket
    (String.ofList (Text.replaceAll step.payload.toList new.toList content.toList))

/-- Sets the pocket to the one that the selector names, or to the payload if that one is empty or
absent. -/
def duplicate : Action π := fun step => do
  let source := (← Act.pocket? step.selector).getD ""
  Act.store step.pocket (if source.isEmpty then step.payload else source)

def check [Page π] : Action π := fun step =>
  Act.ask (.await step.selector)

def none : Action π := fun _ =>
  pure ()

def ofKind [Page π] : ActionKind → Action π
  | .openPage => openPage
  | .closePage => closePage
  | .stop => stop
  | .click => click
  | .type => type
  | .typePass => typePass
  | .paste => paste
  | .pasteText => pasteText
  | .copyText => copyText
  | .copyLink => copyLink
  | .extract => extract
  | .refine => refine
  | .duplicate => duplicate
  | .check => check
  | .none => none

end Action

/-- Which actions there are, by kind. -/
abbrev ActionTable (π : Type) := ActionKind → Option (Action π)

namespace ActionTable

/-- Every kind has its action. -/
def standard [Page π] : ActionTable π := fun kind =>
  some (Action.ofKind kind)

/-- Only these kinds have theirs. -/
def only [Page π] (kinds : List ActionKind) : ActionTable π := fun kind =>
  if kinds.contains kind then some (Action.ofKind kind) else none

end ActionTable

end Wayfarer
