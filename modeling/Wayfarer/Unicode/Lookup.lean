import Wayfarer.Unicode.Age
import Wayfarer.Unicode.Breaks
import Wayfarer.Unicode.Property
import Wayfarer.Unicode.Script

/-!
Sets of code points by the names of properties and of their values. Names are matched loosely: a
leading "is", blanks, underscores, hyphens and the case of letters do not count.
-/
namespace Wayfarer.Unicode

/-- The name without its leading "is". -/
def dropIs : List Char → List Char
  | 'i' :: 's' :: rest => rest
  | 'i' :: 'S' :: rest => rest
  | 'I' :: 's' :: rest => rest
  | 'I' :: 'S' :: rest => rest
  | letters => letters

/-- The spelling that loosely equal names share. The name "isc" is a property of its own and not the
category "c". -/
def looseName (name : String) : String :=
  let letters := (dropIs name.toList).filter fun c => c.toNat < 0x80 && !" _-".contains c
  let loose := String.ofList (letters.map Char.toLower)
  if loose == "c" && (dropIs name.toList).length < name.length then "isc" else loose

namespace CodeSet

/-- The code points of the binary property, category or script with this name. The names "cf", "sc"
and "lc" mean categories. -/
def ofName? (name : String) : Option CodeSet :=
  let loose := looseName name
  let binary := if ["cf", "sc", "lc"].contains loose then none else Property.find? loose
  binary <|> Category.find? loose <|> Script.find? loose

/-- The code points that have this value of the property. -/
def ofValue? (property value : String) : Option CodeSet :=
  match looseName property with
  | "gc" | "generalcategory" => Category.find? (looseName value)
  | "sc" | "script" => Script.find? (looseName value)
  | "scx" | "scriptextensions" => Script.extension? (looseName value)
  | "age" => Age.find? (looseName value)
  | "gcb" | "graphemeclusterbreak" => Breaks.grapheme.find? (looseName value)
  | "wb" | "wordbreak" => Breaks.word.find? (looseName value)
  | "sb" | "sentencebreak" => Breaks.sentence.find? (looseName value)
  | _ => none

def alphabetic : CodeSet :=
  (Property.find? "alphabetic").getD empty

def number : CodeSet :=
  Category.ofCodes ["Nd", "Nl", "No"]

/-- Letters of version 17, in which names of groups are written. -/
def nameLetter : CodeSet :=
  alphabetic.union (Packed.codeSet
    ["ikPA-MAjfAhm3RBCABAcA4qOZhrLChSBjjEHyIhL0mEYCYoeEmgBHhoJVjBjS2mNeBVIBh0haFl7CL1oCkmJ"])

/-- Numbers of version 17. -/
def nameNumber : CodeSet :=
  number.union (Packed.codeSet ["invAJ0wKC"])

def decimal : CodeSet :=
  Category.ofCodes ["Nd"]

def blank : CodeSet :=
  (Property.find? "whitespace").getD empty

/-- What words are made of. -/
def word : CodeSet :=
  unions [alphabetic, Category.ofCodes ["Mc", "Me", "Mn", "Nd", "Pc"],
    (Property.find? "joincontrol").getD empty]

def asciiDecimal : CodeSet :=
  ⟨[('0'.toNat, '9'.toNat)]⟩

def asciiBlank : CodeSet :=
  ⟨[(0x09, 0x0D), (0x20, 0x20)]⟩

def asciiWord : CodeSet :=
  ⟨[('0'.toNat, '9'.toNat), ('A'.toNat, 'Z'.toNat), ('_'.toNat, '_'.toNat), ('a'.toNat, 'z'.toNat)]⟩

end CodeSet

end Wayfarer.Unicode
