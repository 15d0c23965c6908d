import Wayfarer.Pattern.Program

/-!
Searching a text for the first match of a program: of all matches the one that begins first, and of
these the one preferred. All ways to go on are followed side by side, one character after the other,
in the order of preference.
-/
namespace Wayfarer.Pattern

/-- An operation that waits for a character, or that accepts, and where its match began. -/
structure Thread where
  op : Nat
  start : Nat
  deriving Repr

/-- The threads at one place of the text, preferred first, and for each operation the stamp of the
last place at which it was reached. The place `n` has the stamp `n + 1`. -/
structure Front where
  threads : Array Thread := #[]
  seen : Array Nat

namespace Program

/-- Follows forks and looks from the operations on the stack. An operation is taken up once at each
place, by the preferred thread. Every visit spends fuel and there are at most two for each
operation. -/
def follow (p : Program) (before after : Option Char) (stamp start : Nat) :
    (fuel : Nat) → List Nat → Front → Front
  | 0, _, front => front
  | _ + 1, [], front => front
  | fuel + 1, op :: stack, front =>
    if front.seen[op]? == some stamp then follow p before after stamp start fuel stack front
    else
      let front := { front with seen := front.seen.setIfInBounds op stamp }
      match p.ops[op]? with
      | some (.fork first second) =>
        follow p before after stamp start fuel (first :: second :: stack) front
      | some (.look l next) =>
        if l.holds before after then follow p before after stamp start fuel (next :: stack) front
        else follow p before after stamp start fuel stack front
      | _ =>
        follow p before after stamp start fuel stack
          { front with threads := front.threads.push ⟨op, start⟩ }

/-- Reaches an operation. -/
def enter (p : Program) (before after : Option Char) (stamp start op : Nat) (front : Front) :
    Front :=
  follow p before after stamp start (2 * p.ops.size + 2) [op] front

/-- The threads in front of the first that accepts, and that one. -/
def untilAccept (p : Program) : List Thread → List Thread × Option Thread
  | [] => ([], none)
  | t :: rest =>
    match p.ops[t.op]? with
    | some .accept => ([], some t)
    | _ =>
      let (kept, found) := untilAccept p rest
      (t :: kept, found)

/-- Moves a thread behind the character `c`, in front of `after`, if it takes that one. -/
def move (p : Program) (c : Char) (after : Option Char) (stamp : Nat) (next : Front) (t : Thread) :
    Front :=
  match p.ops[t.op]? with
  | some (.take s op) =>
    if s.hasChar c then p.enter (some c) after stamp t.start op next else next
  | _ => next

/-- Begins another match at the place `pos`, unless one was found. Answers the threads that go on,
the best match so far, and the front. -/
def arrive (p : Program) (before after : Option Char) (pos : Nat) (front : Front)
    (best : Option (Nat × Nat)) : List Thread × Option (Nat × Nat) × Front :=
  let front := if best.isNone then p.enter before after (pos + 1) pos p.start front else front
  match p.untilAccept front.threads.toList with
  | (kept, some t) => (kept, some (t.start, pos), front)
  | (kept, none) => (kept, best, front)

/-- Where the first match begins and ends, if there is one; `best` is the best found before the
place `pos`. -/
def scan (p : Program) (before : Option Char) (pos : Nat) (front : Front)
    (best : Option (Nat × Nat)) : List Char → Option (Nat × Nat)
  | [] => (p.arrive before none pos front best).2.1
  | c :: rest =>
    let (kept, best, front) := p.arrive before (some c) pos front best
    if kept.isEmpty && best.isSome then best
    else
      let next := kept.foldl (p.move c rest.head? (pos + 2)) { front with threads := #[] }
      scan p (some c) (pos + 1) next best rest

/-- The first match in a text. -/
def search (p : Program) (text : List Char) : Option (List Char) :=
  (p.scan none 0 ⟨#[], Array.replicate p.ops.size 0⟩ none text).map fun (first, last) =>
    (text.drop first).take (last - first)

end Program

end Wayfarer.Pattern
