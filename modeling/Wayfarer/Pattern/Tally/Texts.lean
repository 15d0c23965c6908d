import Wayfarer.Pattern.Octets
import Wayfarer.Pattern.Tally

/-!
Tallies of choices among texts. Texts that begin alike are read together, as far as that keeps their
order.
-/
namespace Wayfarer.Pattern

open Tallied (add)

/-- Texts that come one after the other before a text that is empty, and those behind it. -/
def splitEmpty : List (List Nat) → List (List (List Nat))
  | [] => [[]]
  | [] :: rest => [] :: splitEmpty rest
  | text :: rest =>
    match splitEmpty rest with
    | [] => [[text]]
    | group :: groups => (text :: group) :: groups

/-- Texts by their first octets, without these. -/
def byFirst : List (List Nat) → List (Nat × List (List Nat))
  | [] => []
  | [] :: rest => byFirst rest
  | (o :: text) :: rest =>
    let groups := byFirst rest
    match groups.lookup o with
    | none => (o, [text]) :: groups
    | some _ => groups.map fun g => if g.1 == o then (o, text :: g.2) else g

/-- A tree of octets for texts that are not all empty. An empty text ends what comes before it, so
that the order of the texts remains. The fuel is the number of octets in the longest text. -/
def textTree : (fuel : Nat) → List (List Nat) → Tallied Unit
  | 0, _ => pure ()
  | fuel + 1, texts => do
    let ends := if texts.head? == some [] then 1 else 0
    let groups := (splitEmpty (texts.dropWhile List.isEmpty)).map byFirst
    for group in groups do
      for (_, rests) in group do
        if rests.any (!·.isEmpty) then textTree fuel rests
      match group with
      | [] => pure ()
      | [_] => add 1
      | _ => add 1 group.length
    add 1 0 ((groups.filter (!·.isEmpty)).length + (groups.length + ends - 1))

def textChoice (d : Direction) (texts : List (List Char)) : Tallied Unit := do
  let octets := texts.map fun cs =>
    match d with
    | .forwards => encodeText cs
    | .backwards => (encodeText cs).reverse
  add 1
  textTree (octets.foldl (fun n os => max n os.length) 0) octets

end Wayfarer.Pattern
