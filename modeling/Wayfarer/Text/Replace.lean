/-!
Replacing every occurrence of a literal text, from the left and without overlaps. An empty needle
occurs in front of every character and at the end.
-/
namespace Wayfarer.Text

/-- Replaces a needle that is not empty; `skip` characters belong to an occurrence already
replaced. -/
def replaceFrom (needle new : List Char) : Nat → List Char → List Char
  | _, [] => []
  | skip + 1, _ :: rest => replaceFrom needle new skip rest
  | 0, c :: rest =>
    if needle.isPrefixOf (c :: rest) then new ++ replaceFrom needle new (needle.length - 1) rest
    else c :: replaceFrom needle new 0 rest

def replaceAll (needle new text : List Char) : List Char :=
  if needle.isEmpty then new ++ text.flatMap (fun c => c :: new)
  else replaceFrom needle new 0 text

end Wayfarer.Text
