import Wayfarer.Pattern.Expr
import Wayfarer.Pattern.Octets
import Wayfarer.Text.Lossy

/-!
What matches begin with. An expression of which all matches are known is searched for as texts, so
that its automata need not be built. Openings are counted and cut where they become many or long, so
that only few texts are ever known.
-/
namespace Wayfarer.Pattern

open Unicode (CodeSet)

/-- Octets that begin a match, or that are all of it. -/
structure Opening where
  octets : List Nat
  whole : Bool := true
  deriving DecidableEq, Repr

/-- The openings of all matches, preferred first. Where there are too many, any opening may be. -/
abbrev Openings := Option (List Opening)

namespace Openings

def maxCharacters : Nat := 10
def maxCopies : Nat := 10
def maxLength : Nat := 100
def maxCount : Nat := 250

/-- Nothing but the empty match. -/
def nothing : Openings := some [⟨[], true⟩]

/-- None of the openings is a whole match, so what follows them does not matter. -/
def isOpen : Openings → Bool
  | none => true
  | some os => os.all (!·.whole)

/-- The openings, of matches that may go on. -/
def opened (s : Openings) : Openings :=
  s.map (·.map fun o => { o with whole := false })

/-- The openings up to a length. -/
def cut (length : Nat) (os : List Opening) : List Opening :=
  os.map fun o => if length < o.octets.length then ⟨o.octets.take length, false⟩ else o

/-- Equal openings that follow each other become one. -/
def merge : List Opening → List Opening
  | [] => []
  | a :: rest =>
    match merge rest with
    | [] => [a]
    | b :: rest =>
      if a.octets == b.octets then ⟨a.octets, a.whole && b.whole⟩ :: rest else a :: b :: rest

/-- The openings `s` with the openings `t` behind those that are whole. -/
def cross (s t : Openings) : Openings :=
  match s, t.filter (maxCount ≥ s.elim 0 List.length * ·.length) with
  | none, _ => none
  | some os, none => if os.any (·.octets.isEmpty) then none else opened (some os)
  | some os, some ps =>
    some (cut maxLength (merge (os.flatMap fun o =>
      if o.whole then ps.map fun p => ⟨o.octets ++ p.octets, p.whole⟩ else [o])))

/-- The openings `s`, or else the openings `t`. If they are many, their first octets must do. -/
def union (s t : Openings) : Openings := do
  let os ← s
  let ps ← t
  if os.length + ps.length ≤ maxCount then return merge (os ++ ps)
  else
    let os := merge (cut 4 os)
    let ps := merge (cut 4 ps)
    if os.length + ps.length ≤ maxCount then return merge (os ++ ps) else none

/-- `count` copies one after the other, as long as some are whole. -/
def copies (t : Openings) : (count : Nat) → Openings → Openings
  | 0, s => s
  | count + 1, s => if isOpen s then s else copies t count (cross s t)

def ofSet (s : CodeSet) : Openings :=
  let count := s.ranges.foldl (fun count r => count + (r.2 + 1 - r.1)) 0
  if maxCharacters < count then none
  else
    let codes := s.ranges.flatMap fun r => (List.range (r.2 + 1 - r.1)).map (r.1 + ·)
    some (codes.map fun n => ⟨encode n, true⟩)

end Openings

mutual

def Expr.openings : Expr → Openings
  | .empty => Openings.nothing
  | .look _ => Openings.nothing
  | .text cs => some (Openings.cut Openings.maxLength [⟨encodeText cs, true⟩])
  | .set _ s => Openings.ofSet s
  | .capture _ e => e.openings
  | .sequence es => Expr.openingsOfSequence es Openings.nothing
  | .choice es => Expr.openingsOfChoice es (some [])
  | .repeated 0 most greedy e =>
    let s := if most == some 1 then e.openings else Openings.opened e.openings
    if greedy then Openings.union s Openings.nothing else Openings.union Openings.nothing s
  | .repeated least most _ e =>
    let s := Openings.copies e.openings (min least Openings.maxCopies) Openings.nothing
    if most == some least && least ≤ Openings.maxCopies then s else Openings.opened s

def Expr.openingsOfSequence : List Expr → Openings → Openings
  | [], s => s
  | e :: es, s =>
    if s.isOpen then s else Expr.openingsOfSequence es (Openings.cross s e.openings)

def Expr.openingsOfChoice : List Expr → Openings → Openings
  | [], s => s
  | e :: es, s =>
    if s.isNone then s else Expr.openingsOfChoice es (Openings.union s e.openings)

end

namespace Openings

/-- The openings without those that others in front of them begin. -/
def leading (os : List Opening) : List Opening :=
  os.foldl (fun kept o =>
    if kept.any (·.octets.isPrefixOf o.octets) then kept else kept ++ [o]) []

/-- What two texts begin with alike. -/
def alike : List Nat → List Nat → List Nat
  | a :: as, b :: bs => if a == b then a :: alike as bs else []
  | _, _ => []

def common : List Opening → List Nat
  | [] => []
  | o :: os => os.foldl (fun front p => alike front p.octets) o.octets

/-- Octets that texts hold seldom. -/
def isRare (octet : Nat) : Bool :=
  octet < 0x80 && !("\n\r (),-./0129:_abcdefghilmnoprstuvxy|".toList.map Char.toNat).contains octet

/-- Openings that are many are made fewer by cutting them. -/
def thinned (os : List Opening) : List Opening :=
  [(5, 10), (4, 10), (3, 64), (2, 64), (1, 10)].foldl (fun os (length, count) =>
    if os.length ≤ count then os else leading (cut length os)) os

/-- The openings that are searched for. Few octets that all begin with are preferred to many texts,
though matches must then be looked for behind them. -/
def sought (os : List Opening) : List Opening :=
  let first := leading os
  let front := common first
  if 1 < os.length && front.length ≤ 3 && front.head?.any isRare then merge (cut 1 first)
  else
    let few := first.all (·.whole) && first.length ≤ 16
    let first :=
      if 4 < front.length || (1 < front.length && !few) then merge (cut front.length first)
      else first
    let thin := thinned first
    if first.all (·.whole) && (thin.any (·.octets.length ≤ 2) || 64 < thin.length) then first
    else thin

end Openings

namespace Expr

mutual

/-- Nothing is remembered, and no condition is on the characters around. -/
def isBare : Expr → Bool
  | look _ => false
  | capture _ _ => false
  | repeated _ _ _ e => e.isBare
  | sequence es => allBare es
  | choice es => allBare es
  | _ => true

def allBare : List Expr → Bool
  | [] => true
  | e :: es => e.isBare && allBare es

end

/-- The texts that are searched for, if these are all that matches. -/
def decidingTexts? (e : Expr) : Option (List (List Char)) := do
  if !e.isBare then none
  let os ← e.openings
  let found := Openings.sought os
  if os.all (!·.octets.isEmpty) && !found.isEmpty && found.all (·.whole) then
    return found.map fun o => Text.lossyFrom 0 o.octets
  else none

end Expr

end Wayfarer.Pattern
