import Wayfarer.Pattern.Meaning
import Wayfarer.Pattern.Reader
import Wayfarer.Pattern.Search
import Wayfarer.Pattern.Size

/-!
Patterns that narrow a text to the part that they match.
-/
namespace Wayfarer

structure Pattern where
  program : Pattern.Program

namespace Pattern

/-- The pattern that a text writes. Broken patterns and those that ask for too much are none. -/
def compile? (text : String) : Option Pattern := do
  let tree ← Tree.ofText? text
  let (e, _) ← tree.expr {}
  return ⟨(← e.feasible?).program⟩

/-- The part of the text that matches first. -/
def firstMatch? (p : Pattern) (text : String) : Option String :=
  (p.program.search text.toList).map String.ofList

end Pattern

end Wayfarer
