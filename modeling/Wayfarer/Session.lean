import Wayfarer.Event
import Wayfarer.Pockets

/-!
What an action may touch while it runs: one page and one store of pockets. Every call and every
write is noted, in order.
-/
namespace Wayfarer

structure Session (π : Type) where
  page : π
  pockets : Pockets
  /-- Milliseconds to pause behind a navigation. -/
  settle : Nat := 0
  events : Array Event := #[]

namespace Session

def note (s : Session π) (e : Event) : Session π :=
  { s with events := s.events.push e }

/-- Makes a call: notes it, tells it to the log if the page is narrated, and takes the answer. -/
def request [Page π] (s : Session π) (call : PageCall) : Except String String × Session π :=
  let (answer, page) := Page.answer call s.page
  let s := { s with page, events := s.events.push (.called call) }
  (answer, if Page.narrated π then s.note (.narrated call) else s)

end Session

/-- A computation on a session. What it did stays done when it fails. -/
abbrev Act (π α : Type) := ExceptT Failure (StateM (Session π)) α

namespace Act

def note (e : Event) : Act π Unit :=
  ExceptT.mk fun s => (.ok (), s.note e)

/-- Fails if the page refuses. -/
def call [Page π] (c : PageCall) : Act π String :=
  ExceptT.mk fun s =>
    match s.request c with
    | (.ok text, s) => (.ok text, s)
    | (.error reason, s) => (.error ⟨.page reason, []⟩, s)

/-- A call of which only the effect matters. -/
def ask [Page π] (c : PageCall) : Act π Unit :=
  discard (call c)

def pause [Page π] (millis : Nat) : Act π Unit :=
  ExceptT.mk fun s => (.ok (), (s.request (.pause millis)).2)

def settle [Page π] : Act π Unit :=
  ExceptT.mk fun s => (.ok (), (s.request (.pause s.settle)).2)

def pocket? (name : String) : Act π (Option String) :=
  ExceptT.mk fun s => (.ok (s.pockets.get? name), s)

/-- The content of a pocket that must be there. -/
def pocket (name : String) : Act π String := do
  match ← pocket? name with
  | some content => pure content
  | none => throw ⟨.pocketMissing name, []⟩

def store (name content : String) : Act π Unit :=
  ExceptT.mk fun s =>
    (.ok (), { s with pockets := s.pockets.put ⟨name, content⟩ }.note (.stored ⟨name, content⟩))

end Act

end Wayfarer
