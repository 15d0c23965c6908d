/-!
Blank space in the wide sense, and trimming it off the ends of a text. The class is the Unicode
property White_Space, so NEL, the no-break space and the ideographic space count as blank, while
U+FEFF, U+200B and U+001C do not.
-/
namespace Wayfarer.Text

/-- White_Space: the ASCII blanks, NEL, and the space, line and paragraph separators. -/
def isBlank (c : Char) : Bool :=
  let n := c.toNat
  (9 ≤ n && n ≤ 13) || n == 0x20 || n == 0x85 || n == 0xA0 || n == 0x1680 ||
  (0x2000 ≤ n && n ≤ 0x200A) || n == 0x2028 || n == 0x2029 || n == 0x202F || n == 0x205F ||
  n == 0x3000

def trimStart (s : List Char) : List Char :=
  s.dropWhile isBlank

def trimEnd (s : List Char) : List Char :=
  (trimStart s.reverse).reverse

def trim (s : List Char) : List Char :=
  trimEnd (trimStart s)

end Wayfarer.Text
