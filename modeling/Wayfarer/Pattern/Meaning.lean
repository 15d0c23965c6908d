import Wayfarer.Pattern.Expr
import Wayfarer.Pattern.Tree
import Wayfarer.Unicode.Folding

/-!
From what is written to what is meant. Flags hold from where they are set to the end of their group.
Without Unicode a pattern may name ASCII characters alone, so that a match never ends within a
character.
-/
namespace Wayfarer.Pattern

open Unicode (CodeSet)

structure Flags where
  ignoreCase : Bool := false
  multiLine : Bool := false
  dotAll : Bool := false
  swapGreed : Bool := false
  unicode : Bool := true
  crlf : Bool := false

namespace Flags

def change (flags : Flags) : Flag × Bool → Flags
  | (.ignoreCase, on) => { flags with ignoreCase := on }
  | (.multiLine, on) => { flags with multiLine := on }
  | (.dotAll, on) => { flags with dotAll := on }
  | (.swapGreed, on) => { flags with swapGreed := on }
  | (.unicode, on) => { flags with unicode := on }
  | (.crlf, on) => { flags with crlf := on }
  | (.spaced, _) => flags

def changeAll (flags : Flags) (changes : FlagChanges) : Flags :=
  changes.foldl change flags

/-- The members from `first` to `last`, moved so that `first` becomes `target`. -/
def shifted (s : CodeSet) (first last target : Nat) : CodeSet :=
  ⟨(s.inter ⟨[(first, last)]⟩).ranges.map fun r => (r.1 - first + target, r.2 - first + target)⟩

/-- The set with the other case of each of its ASCII letters. -/
def closeAscii (s : CodeSet) : CodeSet :=
  CodeSet.unions [s, shifted s 0x41 0x5A 0x61, shifted s 0x61 0x7A 0x41]

/-- The set with all that counts as equal to a member. -/
def close (flags : Flags) (s : CodeSet) : CodeSet :=
  if !flags.ignoreCase then s
  else if flags.unicode then Unicode.Folding.close s
  else closeAscii s

/-- The set, if it may stand in a pattern. -/
def permit (flags : Flags) (s : CodeSet) : Option CodeSet :=
  if flags.unicode || s.isAscii then some s else none

def signed (negated : Bool) (s : CodeSet) : CodeSet :=
  if negated then s.complement else s

def shorthand (flags : Flags) : Shorthand → CodeSet
  | .digit => if flags.unicode then CodeSet.decimal else CodeSet.asciiDecimal
  | .blank => if flags.unicode then CodeSet.blank else CodeSet.asciiBlank
  | .word => if flags.unicode then CodeSet.word else CodeSet.asciiWord

def property (flags : Flags) (p : Property) (negated : Bool) : Option CodeSet := do
  if !flags.unicode then none
  let s ← match p with
    | .named name => CodeSet.ofName? name
    | .valued name value => CodeSet.ofValue? name value
  return signed negated (flags.close s)

def combine : SetOp → CodeSet → CodeSet → CodeSet
  | .inter, s, t => s.inter t
  | .diff, s, t => s.diff t
  | .symmDiff, s, t => s.symmDiff t

/-- The set with joined ranges and all that counts as equal to a member. -/
def gathered (flags : Flags) (s : CodeSet) : CodeSet :=
  flags.close (s.union CodeSet.empty)

mutual

/-- The characters of a set, in its place among others. -/
def codes (flags : Flags) : Class → Option CodeSet
  | .literal l => flags.permit (CodeSet.ofChar l.char)
  | .range first last => flags.permit ⟨[(first.char.toNat, last.char.toNat)]⟩
  | .shorthand s negated => flags.permit (signed negated (flags.shorthand s))
  | .property p negated => flags.property p negated
  | .ascii s negated => flags.permit (signed negated (flags.close s))
  | .union items => (unionCodes flags items).map CodeSet.unions
  | .combine op left right => do
    return combine op (flags.gathered (← codes flags left)) (flags.gathered (← codes flags right))
  | .bracket negated inner => do
    flags.permit (signed negated (flags.gathered (← codes flags inner)))

def unionCodes (flags : Flags) : List Class → Option (List CodeSet)
  | [] => some []
  | c :: rest => do return (← codes flags c) :: (← unionCodes flags rest)

end

def look (flags : Flags) : Anchor → Look
  | .lineStart => if flags.multiLine then .lineStart flags.crlf else .textStart
  | .lineEnd => if flags.multiLine then .lineEnd flags.crlf else .textEnd
  | .textStart => .textStart
  | .textEnd => .textEnd
  | .wordEdge => .wordEdge flags.unicode
  | .noWordEdge => .noWordEdge flags.unicode
  | .wordStart => .wordStart flags.unicode
  | .wordEnd => .wordEnd flags.unicode
  | .wordStartHalf => .wordStartHalf flags.unicode
  | .wordEndHalf => .wordEndHalf flags.unicode

/-- What the dot does not match. -/
def lineEnds (flags : Flags) : CodeSet :=
  if flags.dotAll then CodeSet.empty
  else if flags.crlf then ⟨[(0x0A, 0x0A), (0x0D, 0x0D)]⟩
  else CodeSet.ofChar '\n'

def atom (flags : Flags) : Atom → Option Expr
  | .literal l =>
    if (l.octet || flags.ignoreCase) && !flags.unicode && 0x80 ≤ l.char.toNat then none
    else some (.ofSet flags.unicode (flags.close (CodeSet.ofChar l.char)))
  | .dot => if flags.unicode then some (.ofSet true flags.lineEnds.complement) else none
  | .anchor a => some (.look (flags.look a))
  | .shorthand s negated => (flags.codes (.shorthand s negated)).map (.ofSet flags.unicode)
  | .property p negated => (flags.property p negated).map (.ofSet true)

end Flags

mutual

/-- The meaning of a tree under flags, with the flags that hold behind it. -/
def Tree.expr (flags : Flags) : Tree → Option (Expr × Flags)
  | .flags changes => some (.empty, flags.changeAll changes)
  | .atom a => do return (← flags.atom a, flags)
  | .brackets c => do return (.ofSet flags.unicode (← flags.codes c), flags)
  | .repeated least most greedy t => do
    let (e, after) ← t.expr flags
    return (e.times least most (greedy != flags.swapGreed), after)
  | .capture number t => do return (.capture number (← t.expr flags).1, flags)
  | .group changes t => do return ((← t.expr (flags.changeAll changes)).1, flags)
  | .sequence ts => do
    let (es, flags) ← Tree.exprs flags ts
    return (.ofParts es, flags)
  | .choice ts => do
    let (es, flags) ← Tree.exprs flags ts
    return (.anyOf es, flags)

def Tree.exprs (flags : Flags) : List Tree → Option (List Expr × Flags)
  | [] => some ([], flags)
  | t :: rest => do
    let (e, flags) ← t.expr flags
    let (es, flags) ← Tree.exprs flags rest
    return (e :: es, flags)

end

end Wayfarer.Pattern
