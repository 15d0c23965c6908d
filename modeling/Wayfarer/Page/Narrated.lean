import Wayfarer.Page

/-!
A page without a browser: every call succeeds and is told to the log, and whatever is read is empty.
-/
namespace Wayfarer

structure NarratedPage where
  deriving DecidableEq, Repr, Inhabited

instance : Page NarratedPage where
  answer _ p := (.ok "", p)
  narrated := true

end Wayfarer
