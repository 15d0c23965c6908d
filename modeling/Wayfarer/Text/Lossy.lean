/-!
Text from octets that need not be UTF-8. Octets that begin a character as far as they go, but not to
its end, become one U+FFFD together; any other octet that is out of place becomes one by itself.
-/
namespace Wayfarer.Text

/-- What each octet behind the first of a character must lie between. Some octets begin none. -/
def tailRanges (first : Nat) : Option (List (Nat × Nat)) :=
  if first < 0x80 then some []
  else if first < 0xC2 then none
  else if first < 0xE0 then some [(0x80, 0xBF)]
  else if first == 0xE0 then some [(0xA0, 0xBF), (0x80, 0xBF)]
  else if first == 0xED then some [(0x80, 0x9F), (0x80, 0xBF)]
  else if first < 0xF0 then some [(0x80, 0xBF), (0x80, 0xBF)]
  else if first == 0xF0 then some [(0x90, 0xBF), (0x80, 0xBF), (0x80, 0xBF)]
  else if first < 0xF4 then some [(0x80, 0xBF), (0x80, 0xBF), (0x80, 0xBF)]
  else if first == 0xF4 then some [(0x80, 0x8F), (0x80, 0xBF), (0x80, 0xBF)]
  else none

/-- The octets in front that lie in their ranges, at most one for each. -/
def matchingTail : List (Nat × Nat) → List Nat → List Nat
  | r :: ranges, o :: octets =>
    if r.1 ≤ o && o ≤ r.2 then o :: matchingTail ranges octets else []
  | _, _ => []

/-- The code point that the octets of a character write. -/
def codeOf (first : Nat) (tail : List Nat) : Nat :=
  let lead :=
    match tail.length with
    | 0 => first
    | 1 => first - 0xC0
    | 2 => first - 0xE0
    | _ => first - 0xF0
  tail.foldl (fun n o => n * 64 + (o - 0x80)) lead

/-- Reads octet by octet; `skip` octets belong to what has been read already. -/
def lossyFrom : (skip : Nat) → List Nat → List Char
  | _, [] => []
  | skip + 1, _ :: rest => lossyFrom skip rest
  | 0, o :: rest =>
    match tailRanges o with
    | none => '\uFFFD' :: lossyFrom 0 rest
    | some ranges =>
      let tail := matchingTail ranges rest
      let c := if tail.length == ranges.length then Char.ofNat (codeOf o tail) else '\uFFFD'
      c :: lossyFrom tail.length rest

/-- The text that octets come closest to. -/
def lossy (octets : List UInt8) : String :=
  String.ofList (lossyFrom 0 (octets.map UInt8.toNat))

end Wayfarer.Text
