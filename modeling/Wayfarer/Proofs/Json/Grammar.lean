import Wayfarer.Json.Basic
import Wayfarer.Json.Token

/-!
# The grammar of JSON text

Which texts are JSON, and what tree each of them is, said without a lexer or a reader: every rule below
is a rule of the grammar, with the tree of what it spells. `Document` is the rule for a whole text.
-/

namespace Wayfarer.Json

namespace Grammar

/-- Blanks, or nothing. -/
def Gap (s : List Char) : Prop :=
  ∀ c ∈ s, isGap c = true

/-! ### Numbers -/

structure Digits (s : List Char) : Prop where
  nonempty : s ≠ []
  digit : ∀ c ∈ s, Text.isDigit c = true

/-- What stands in front of the point: zero, or digits that do not begin with it. -/
inductive Whole : List Char → Prop
  | zero : Whole ['0']
  | more {c : Char} {rest : List Char} : Text.isDigit c = true → c ≠ '0' → (∀ d ∈ rest, Text.isDigit d = true) →
    Whole (c :: rest)

inductive Fraction : List Char → Prop
  | none : Fraction []
  | some {digits : List Char} : Digits digits → Fraction ('.' :: digits)

inductive Exponent : List Char → Prop
  | none : Exponent []
  | some {mark : Char} {sign digits : List Char} : mark = 'e' ∨ mark = 'E' → sign = [] ∨ sign = ['+'] ∨ sign = ['-'] →
    Digits digits → Exponent (mark :: (sign ++ digits))

inductive Numeral : Json → List Char → Prop
  | nat {whole : List Char} : Whole whole → Numeral (.nat (Text.digitsValue whole)) whole
  | number {sign whole fraction exponent : List Char} : sign = [] ∨ sign = ['-'] → Whole whole → Fraction fraction →
    Exponent exponent → ¬ (sign = [] ∧ fraction = [] ∧ exponent = []) →
    Numeral .number (sign ++ whole ++ fraction ++ exponent)

/-! ### Strings -/

/-- What a character, an escape or a code unit between quotes stands for. -/
inductive Piece where
  | char (c : Char)
  /-- A code unit in hexadecimal, which may be half of a surrogate pair. -/
  | unit (n : Nat)

namespace Piece

inductive Spelled : Piece → List Char → Prop
  | plain {c : Char} : 0x20 ≤ c.toNat → c ≠ '"' → c ≠ '\\' → Spelled (.char c) [c]
  | escaped {letter c : Char} : unescape? letter = some c → Spelled (.char c) ['\\', letter]
  | unit {a b c d : Char} {i j k l : Nat} : hexValue? a = some i → hexValue? b = some j → hexValue? c = some k →
    hexValue? d = some l → Spelled (.unit (((i * 16 + j) * 16 + k) * 16 + l)) ['\\', 'u', a, b, c, d]

def high (n : Nat) : Bool :=
  0xD800 ≤ n && n < 0xDC00

def low (n : Nat) : Bool :=
  0xDC00 ≤ n && n < 0xE000

/-- The characters that the pieces stand for; none if half of a pair is alone among them. -/
def characters : List Piece → Option (List Char)
  | [] => some []
  | .char c :: rest => (characters rest).map (c :: ·)
  | .unit n :: rest =>
    if low n then none
    else if high n then
      match rest with
      | .unit m :: rest =>
        if low m then (characters rest).map (Char.ofNat (0x10000 + (n - 0xD800) * 0x400 + (m - 0xDC00)) :: ·) else none
      | _ => none
    else (characters rest).map (Char.ofNat n :: ·)

theorem characters_unit {n : Nat} (notSecond : low n = false) (notFirst : high n = false) (rest : List Piece) :
    characters (.unit n :: rest) = (characters rest).map (Char.ofNat n :: ·) := by
  rcases rest with _ | ⟨_ | m, rest⟩ <;> simp [characters, notSecond, notFirst]

end Piece

inductive Spelling : List Piece → List Char → Prop
  | nil : Spelling [] []
  | cons {piece : Piece} {pieces : List Piece} {s t : List Char} : piece.Spelled s → Spelling pieces t →
    Spelling (piece :: pieces) (s ++ t)

/-- A string in its quotes, and its text unless it is mangled. -/
inductive Quotation : Option String → List Char → Prop
  | intro {pieces : List Piece} {s : List Char} : Spelling pieces s →
    Quotation ((Piece.characters pieces).map String.ofList) ('"' :: (s ++ ['"']))

/-! ### Values -/

/-- The tree of a string. -/
def ofText : Option String → Json
  | some s => .string s
  | none => .mangled

mutual

inductive Value : Json → List Char → Prop
  | null : Value .null ['n', 'u', 'l', 'l']
  | true : Value (.bool true) ['t', 'r', 'u', 'e']
  | false : Value (.bool false) ['f', 'a', 'l', 's', 'e']
  | number {j : Json} {s : List Char} : Numeral j s → Value j s
  | string {text : Option String} {s : List Char} : Quotation text s → Value (ofText text) s
  | emptyArray {gap : List Char} : Gap gap → Value (.array []) ('[' :: (gap ++ [']']))
  | array {items : List Json} {s : List Char} : Elements items s → Value (.array items) ('[' :: (s ++ [']']))
  | emptyObject {gap : List Char} : Gap gap → Value (.object []) ('\x7b' :: (gap ++ ['\x7d']))
  | object {members : List (Option String × Json)} {s : List Char} : Members members s →
    Value (.object members) ('\x7b' :: (s ++ ['\x7d']))

/-- A value with blanks around it. -/
inductive Element : Json → List Char → Prop
  | intro {j : Json} {before s behind : List Char} : Gap before → Value j s → Gap behind →
    Element j (before ++ s ++ behind)

inductive Elements : List Json → List Char → Prop
  | last {j : Json} {s : List Char} : Element j s → Elements [j] s
  | more {j : Json} {items : List Json} {s t : List Char} : Element j s → Elements items t →
    Elements (j :: items) (s ++ ',' :: t)

inductive Member : Option String → Json → List Char → Prop
  | intro {key : Option String} {j : Json} {before name behind s : List Char} : Gap before → Quotation key name →
    Gap behind → Element j s → Member key j (before ++ name ++ behind ++ ':' :: s)

inductive Members : List (Option String × Json) → List Char → Prop
  | last {key : Option String} {j : Json} {s : List Char} : Member key j s → Members [(key, j)] s
  | more {key : Option String} {j : Json} {members : List (Option String × Json)} {s t : List Char} : Member key j s →
    Members members t → Members ((key, j) :: members) (s ++ ',' :: t)

end

end Grammar

/-- The text is JSON, and this is its tree. -/
def Document (root : Json) (text : String) : Prop :=
  Grammar.Element root text.toList

namespace Grammar

/-! ### What every tree of a text is like -/

mutual

theorem sound_of_value {j : Json} {s : List Char} : Value j s → j.sound = true
  | .null | .true | .false => rfl
  | .number (.nat _) | .number (.number ..) => rfl
  | @Value.string text _ _ => by cases text <;> rfl
  | .emptyArray _ | .emptyObject _ => rfl
  | .array elements => by
    rw [sound]
    exact sound_of_elements elements
  | .object members => by
    rw [sound]
    exact sound_of_members members

theorem sound_of_element {j : Json} {s : List Char} : Element j s → j.sound = true
  | .intro _ value _ => sound_of_value value

theorem sound_of_elements {items : List Json} {s : List Char} : Elements items s → soundItems items = true
  | .last element => by
    rw [soundItems, sound_of_element element]
    rfl
  | .more element rest => by
    rw [soundItems, sound_of_element element, sound_of_elements rest]
    rfl

theorem sound_of_member {key : Option String} {j : Json} {s : List Char} : Member key j s → j.sound = true
  | .intro _ _ _ element => sound_of_element element

theorem sound_of_members {members : List (Option String × Json)} {s : List Char} :
    Members members s → soundMembers members = true
  | .last member => by
    rw [soundMembers, sound_of_member member]
    rfl
  | .more member rest => by
    rw [soundMembers, sound_of_member member, sound_of_members rest]
    rfl

end

theorem Elements.nonempty {items : List Json} {s : List Char} (h : Elements items s) : items ≠ [] := by
  cases h <;> simp

theorem Members.nonempty {members : List (Option String × Json)} {s : List Char} (h : Members members s) :
    members ≠ [] := by
  cases h <;> simp

end Grammar

end Wayfarer.Json
