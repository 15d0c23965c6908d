import Wayfarer.Unicode.Packed

/-!
Simple case folding of Unicode 16: which code points differ in case alone.
-/
namespace Wayfarer.Unicode.Folding

/-- Classes of at least two code points that fold alike, in order of their first. A class is written
as the distance of its first from the first before it, the number of its members less two, and the
distances of the others from each other. -/
def packed : List String :=
  ["iBAhABAhABAhABAhABAhABAhABAhABAhABAhABAhABBhAolfBAhABAhABAhABAhABAhABAhABAhABBhAoMBAhABAhABA",
   "hABAhABAhABAhABAhAibB3HhALAhABAhABAhABAhABAhABBhAoiGBAhABAhABAhABAhABAhABAhABAhABAhABAhABAhA",
   "BAhABAhABAhABAhABAhABAhABAhACAhABAhABAhABAhABAhABAhABAhABAntfhAAjZBABCABCABCABCABCABCABCABCA",
   "BCABCABCABCABCABCABCABCABCABCABCABCABCABCABCABEABCABCABDABCABCABCABCABCABCABCABDABCABCABCABC",
   "ABCABCABCABCABCABCABCABCABCABCABCABCABCABCABCABCABCABCABDABCABCABDAmDBAmSBABCABCAmOBABCAmNBA",
   "mNBABDAiPBAmKBAmLBABCAmNBAmPBAjBBAmTBAmRBABCAlDBAhpyBBAmTBAmVBAkCBAmWBABCABCABCAmaBABCAmaDAB",
   "CAmaBABCAmZBAmZBABCABCAmbBABEABDAhYFBBBDBBBDBBBDABCABCABCABCABCABCABCABDABCABCABCABCABCABCAB",
   "CABCABDBBBDABEABCABCABCABCABCABCABCABCABCABCABCABCABCABCABCABCABCABCABCABEABCABCABCABCABCABC",
   "ABCABCABIAqxLBABDAqxIBAqxfBAqxfBABDAiFBAiHBABCABCABCABCABCAqwfBAqwcBAqweKAhpqPFAhpqLDAhprHBA",
   "hppIBAhpqEEAhpqEBAqvXBAhpqBFAqvdMAqvHFAhpqDFAhppKWAhpoVBAhpoSlHCiUhAngFhLABCABEABFAkCBAkCBAk",
   "CCAjUHAhGCAhFBAhFBAhFCAiACAhfBAhfBAniDBAhABBhAeBAhABAhABBhAiABAhABAhABChAZhDCBhAhWBAhACAhABA",
   "hABAhABBhAWBBhAhQCBfBBAhABAhABBhAPBAhABAhABBhAnqdBAhABAhAFAnhTfAIJABCABCABCABCABCABCABCABCAB",
   "CABCABCABEAHFABDABGAiQBAiQBAiQBAiQBAiQBAiQBAiQBAiQBAiQBAiQBAiQBAiQBAiQBAiQBAiQBAiQBAhABAhABB",
   "hAmiOBAhABBhAmiNBAhABAhABAhABAhABAhABAhABAhABAhABAhABBhAmiEBAhABAhABBhAmiCBChAmiCBBAhABAhABA",
   "hABAhABAhABAhABAhABBhAmhcBAhABAhABAhABAhABAhAhRABCBBmhECABCABCABCABCABCABCABCABCABCABCABCABC",
   "ABCABCABKABCABCABCABCABCABCABCABCABCABCABCABCABCABCABCABCABCABCABCABCABCABCABCABCABCABCABCAP",
   "BABCABCABCABCABCABCABDABCABCABCABCABCABCABCABCABCABCABCABCABCABCABCABCABCABCABCABCABCABCABCA",
   "BCABCABCABCABCABCABCABCABCABCABCABCABCABCABCABCABCABCABCABCABCABCABCABCABDAhQBAhQBAhQBAhQBAh",
   "QBAhQBAhQBAhQBAhQBAhQBAhQBAhQBAhQBAhQBAhQBAhQBAhQBAhQBAhQBAhQBAhQBAhQBAhQBAhQBAhQBAhQBAhQBAh",
   "QBAhQBAhQBAhQBAhQBAhQBAhQBAhQBAhQBAhQBAhQi6KAnjABAnjABAnjABAnjABAnjABAnjABAnjABAnjABAnjABAnj",
   "ABAnjABAnjABAnjABAnjABAnjABAnjABAnjABAnjABAnjABAnjABAnjABAnjABAnjABAnjABAnjABAnjABAnjABAnjAB",
   "AnjABAnjABAnjABAnjABAnjABAnjABAnjABAnjABAnjABAnjACAnjAGAnjADAi-ABAi-ABAi-ABAi-ABAi-ABAi-ABAi",
   "-ABAi-ABAi-ABAi-ABAi-ABAi-ABAi-ABAi-ABAi-ABAi-ABAi-ABAi-ABAi-ABAi-ABAi-ABAi-ABAi-ABAi-ABAi-A",
   "BAi-ABAi-ABAi-ABAi-ABAi-ABAi-ABAi-ABAi-ABAi-ABAi-ABAi-ABAi-ABAi-ABAi-ABAi-ABAi-ABAi-ABAi-ADA",
   "i-ABAi-ABAi-A1BAhl-QBAhl-QBAhl-QBAhl-QBAhl-QBAhl-QBAhl-QBAhl-QBAhl-QBAhl-QBAhl-QBAhl-QBAhl-Q",
   "BAhl-QBAhl-QBAhl-QBAhl-QBAhl-QBAhl-QBAhl-QBAhl-QBAhl-QBAhl-QBAhl-QBAhl-QBAhl-QBAhl-QBAhl-QBA",
   "hl-QBAhl-QBAhl-QBAhl-QBAhl-QBAhl-QBAhl-QBAhl-QBAhl-QBAhl-QBAhl-QBAhl-QBAhl-QBAhl-QBAhl-QBAhl",
   "-QBAhl-QBAhl-QBAhl-QBAhl-QBAhl-QBAhl-QBAhl-QBAhl-QBAhl-QBAhl-QBAhl-QBAhl-QBAhl-QBAhl-QBAhl-Q",
   "BAhl-QBAhl-QBAhl-QBAhl-QBAhl-QBAhl-QBAhl-QBAhl-QBAhl-QBAhl-QBAhl-QBAhl-QBAhl-QBAhl-QBAhl-QBA",
   "hl-QBAhl-QBAhl-QBAhl-QBAhl-QBAhl-QBAIBAIBAIBAIBAIBAIikTBhiuCBBABnQAhiwEEAj3GRAhixYjSABCABCAB",
   "CABCABCABCABCABCABCABCABCABCABCABCABCABCABCABCABCABCABCABCABCABCABCABCABCABCABCABCABCABCABCA",
   "BCABCABCABCABCABCABCABCABCABCABCABCABCABCABCBBhaCABCABCABCABCABCABCABCABCABCABCABCABCABCABCA",
   "BCABCABCABCABCABCABCABCABCABCABCABMABCABCABCABCABCABCABCABCABCABCABCABCABCABCABCABCABCABCABC",
   "ABCABCABCABCABCABCABCABCABCABCABCABCABCABCABCABCABCABCABCABCABCABCABCABCABCABCABCABCABCAIBAI",
   "BAIBAIBAIBAIBAIBAIJAIBAIBAIBAIBAIBAILAIBAIBAIBAIBAIBAIBAIBAIJAIBAIBAIBAIBAIBAIBAIBAIJAIBAIBA",
   "IBAIBAIBAIMAICAICAICAIJAIBAIBAIBAIBAIBAIBAIBAIJAiKBAiKBAiWBAiWBAiWBAiWBAjEBAjEBAkABAkABAjQBA",
   "jQBAjeBAjeDAIBAIBAIBAIBAIBAIBAIBAIJAIBAIBAIBAIBAIBAIBAIBAIJAIBAIBAIBAIBAIBAIBAIBAIJAIBAICAJQ",
   "AJNAIBAIPAIBAIEAHOAJpfAchOAQBAQBAQBAQBAQBAQBAQBAQBAQBAQBAQBAQBAQBAQBAQBAQUAB5TAaBAaBAaBAaBAa",
   "BAaBAaBAaBAaBAaBAaBAaBAaBAaBAaBAaBAaBAaBAaBAaBAaBAaBAaBAaBAaBAah5RAhQBAhQBAhQBAhQBAhQBAhQBAh",
   "QBAhQBAhQBAhQBAhQBAhQBAhQBAhQBAhQBAhQBAhQBAhQBAhQBAhQBAhQBAhQBAhQBAhQBAhQBAhQBAhQBAhQBAhQBAh",
   "QBAhQBAhQBAhQBAhQBAhQBAhQBAhQBAhQBAhQBAhQBAhQBAhQBAhQBAhQBAhQBAhQBAhQBAhQhRABHABCABCABHABDAB",
   "LABCABCABCABCABCABCABCABCABCABCABCABCABCABCABCABCABCABCABCABCABCABCABCABCABCABCABCABCABCABCA",
   "BCABCABCABCABCABCABCABCABCABCABCABCABCABCABCABCABCABCABCABJABCABFAB-qOABCABCABCABCABEABCABCA",
   "BCABCABCABCABCABCABCABCABCABCABCABCABCABCABUABCABCABCABCABCABCABCABCABCABCABCABCABCABkIABCAB",
   "CABCABCABCABCABEABCABCABCABCABCABCABCABCABCABCABCABCABCABCABCABCABCABCABCABCABCABCABCABCABCA",
   "BCABCABCABCABCABLABCABDABCABCABCABCABFABFABCABCAhQCABCABCABCABCABCABCABCABCABCABLA9ABABCABCA",
   "BCABCABCABCABCABFABCABDABEABGABCABCABbAB04QABhgcAhABAhABAhABAhABAhABAhABAhABAhABAhABAhABAhAB",
   "AhABAhABAhABAhABAhABAhABAhABAhABAhABAhABAhABAhABAhABAhABAhAhmGAhIBAhIBAhIBAhIBAhIBAhIBAhIBAh",
   "IBAhIBAhIBAhIBAhIBAhIBAhIBAhIBAhIBAhIBAhIBAhIBAhIBAhIBAhIBAhIBAhIBAhIBAhIBAhIBAhIBAhIBAhIBAh",
   "IBAhIBAhIBAhIBAhIBAhIBAhIBAhIBAhIBAhIkJAhIBAhIBAhIBAhIBAhIBAhIBAhIBAhIBAhIBAhIBAhIBAhIBAhIBA",
   "hIBAhIBAhIBAhIBAhIBAhIBAhIBAhIBAhIBAhIBAhIBAhIBAhIBAhIBAhIBAhIBAhIBAhIBAhIBAhIBAhIBAhIBAhIkd",
   "AhHBAhHBAhHBAhHBAhHBAhHBAhHBAhHBAhHBAhHBAhHCAhHBAhHBAhHBAhHBAhHBAhHBAhHBAhHBAhHBAhHBAhHBAhHB",
   "AhHBAhHBAhHCAhHBAhHBAhHBAhHBAhHBAhHBAhHCAhHBAhHh3LAiABAiABAiABAiABAiABAiABAiABAiABAiABAiABAi",
   "ABAiABAiABAiABAiABAiABAiABAiABAiABAiABAiABAiABAiABAiABAiABAiABAiABAiABAiABAiABAiABAiABAiABAi",
   "ABAiABAiABAiABAiABAiABAiABAiABAiABAiABAiABAiABAiABAiABAiABAiABAiABAiAkeAhABAhABAhABAhABAhABA",
   "hABAhABAhABAhABAhABAhABAhABAhABAhABAhABAhABAhABAhABAhABAhABAhABAhAi5bAhABAhABAhABAhABAhABAhA",
   "BAhABAhABAhABAhABAhABAhABAhABAhABAhABAhABAhABAhABAhABAhABAhABAhABAhABAhABAhABAhABAhABAhABAhA",
   "BAhABAhABAhA1sBAhABAhABAhABAhABAhABAhABAhABAhABAhABAhABAhABAhABAhABAhABAhABAhABAhABAhABAhABA",
   "hABAhABAhABAhABAhABAhABAhABAhABAhABAhABAhABAhABAhA-1BAhCBAhCBAhCBAhCBAhCBAhCBAhCBAhCBAhCBAhC",
   "BAhCBAhCBAhCBAhCBAhCBAhCBAhCBAhCBAhCBAhCBAhCBAhCBAhCBAhCBAhCBAhCBAhCBAhCBAhCBAhCBAhCBAhCBAhC",
   "BAhC"]

/-- Takes `count` members off the numbers, each at its distance from the one before. -/
def takeClass (last : Nat) : (count : Nat) → List Nat → List Nat × List Nat
  | 0, rest => ([], rest)
  | _ + 1, [] => ([], [])
  | count + 1, step :: rest =>
    let (members, rest) := takeClass (last + step) count rest
    ((last + step) :: members, rest)

/-- Reads at most `count` classes. -/
def classesFrom (first : Nat) : (count : Nat) → List Nat → List (List Nat)
  | count + 1, gap :: extra :: rest =>
    let first := first + gap
    let (members, rest) := takeClass first (extra + 1) rest
    (first :: members) :: classesFrom first count rest
  | _, _ => []

def classes : List (List Nat) :=
  let numbers := Packed.numbers packed
  classesFrom 0 numbers.length numbers

/-- The set with everything that differs from a member in case alone. -/
def close (s : CodeSet) : CodeSet :=
  let more := (classes.filter (·.any s.has)).flatten
  if more.isEmpty then s else s.union (CodeSet.ofRanges (more.map fun n => (n, n)))

end Wayfarer.Unicode.Folding
