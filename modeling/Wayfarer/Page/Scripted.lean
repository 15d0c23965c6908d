import Wayfarer.Page

/-!
A page that answers by a script: which elements are missing or slow to appear, what can be read, and
which calls are refused outright.
-/
namespace Wayfarer

structure ScriptedPage where
  /-- Selectors that are never found. -/
  missing : List String := []
  /-- Selectors with the number of waits that still fail. -/
  flaky : List (String × Nat) := []
  texts : List (String × String) := []
  links : List (String × String) := []
  /-- Names of calls with the argument on which they are refused. -/
  refused : List (String × String) := []
  deriving DecidableEq, Repr, Inhabited

namespace PageCall

/-- The name of the call in a script, and the argument that is compared. -/
def scriptName? : PageCall → Option (String × String)
  | goTo url => some ("goto", url)
  | close => some ("close", "")
  | await s => some ("wait", s)
  | click s => some ("click", s)
  | type s _ => some ("type", s)
  | setValue s _ => some ("value", s)
  | setText s _ => some ("text", s)
  | readText s => some ("read", s)
  | readLink s => some ("href", s)
  | pause _ => none

end PageCall

namespace ScriptedPage

/-- The text under a key, or none at all. -/
def look (key : String) (table : List (String × String)) : String :=
  ((table.find? (·.1 == key)).map (·.2)).getD ""

/-- One failing wait less for the selector. -/
def wearOff (selector : String) : List (String × Nat) → List (String × Nat)
  | [] => []
  | (s, n) :: rest => if s == selector then (s, n - 1) :: rest else (s, n) :: wearOff selector rest

/-- Waits that the selector still fails. -/
def failuresLeft (p : ScriptedPage) (selector : String) : Nat :=
  ((p.flaky.find? (·.1 == selector)).map (·.2)).getD 0

/-- The answer to a call that is not refused outright. -/
def reply (call : PageCall) (p : ScriptedPage) : Except String String × ScriptedPage :=
  match call with
  | .await s =>
    if p.missing.contains s then (.error s!"selector {s} not found", p)
    else if p.failuresLeft s > 0 then
      (.error s!"selector {s} not ready", { p with flaky := wearOff s p.flaky })
    else (.ok "", p)
  | .readText s => (.ok (look s p.texts), p)
  | .readLink s => (.ok (look s p.links), p)
  | _ => (.ok "", p)

def answer (call : PageCall) (p : ScriptedPage) : Except String String × ScriptedPage :=
  match reply call p with
  | (.error reason, p) => (.error reason, p)
  | (.ok read, p) =>
    match call.scriptName? with
    | some (name, argument) =>
      if p.refused.contains (name, argument) then (.error s!"{name} failed on '{argument}'", p)
      else (.ok read, p)
    | none => (.ok read, p)

end ScriptedPage

instance : Page ScriptedPage where
  answer := ScriptedPage.answer

end Wayfarer
