import Wayfarer.Event
import Wayfarer.Pockets

/-! Resolving a detour: the entry for what its pocket holds becomes a way. -/
namespace Wayfarer

/-- A detour with the content that was looked at and the entry chosen for it. -/
structure Branch where
  detour : Detour
  content : String
  entry : Entry
  deriving DecidableEq, Repr

namespace Branch

def way (b : Branch) : Way :=
  b.detour.branch b.entry

def event (b : Branch) : Event :=
  .branched b.detour.id b.content b.entry.value

end Branch

/-- A detour that is missing, has no pocket or has no entry for it ends the walk. -/
def Definitions.resolve (d : Definitions) (pockets : Pockets) (id : Ident) :
    Except WalkError Branch := do
  let some detour := d.detour? id | throw (.unknownDetour id)
  let some content := pockets.get? detour.pocket | throw (.missingPocket detour.id detour.pocket)
  let some entry := detour.select? content | throw (.noEntry detour.id content)
  return { detour, content, entry }

end Wayfarer
