import Wayfarer.Json.Printer
import Wayfarer.Proofs.Json.Grammar
import Wayfarer.Proofs.Numeral

/-!
# Printed trees are JSON

On one line or indented, the text of a tree follows the grammar, and the tree is the one that the grammar
gives it: `document_compact` and `document_pretty`.
-/

namespace Wayfarer.Json

open Grammar

mutual

/-- The tree has a text: its numbers are written with digits alone and no string or place is
damaged. -/
def printable : Json → Bool
  | array items => printableItems items
  | object members => printableMembers members
  | number | mangled | broken => false
  | _ => true

def printableItems : List Json → Bool
  | [] => true
  | j :: rest => j.printable && printableItems rest

def printableMembers : List (Option String × Json) → Bool
  | [] => true
  | (key, j) :: rest => key.isSome && j.printable && printableMembers rest

end

/-! ### Blanks, numerals and strings -/

theorem gap_nil : Gap [] := by
  intro c member
  cases member

theorem gap_space : Gap [' '] := by
  intro c member
  rw [List.mem_singleton.mp member]
  rfl

theorem gap_newLine (level : Nat) : Gap (newLine level).toList := by
  intro c member
  rw [newLine, String.toList_append, String.toList_ofList, String.toList_ofList] at member
  rcases List.mem_append.mp member with first | indented
  · rw [List.mem_singleton.mp first]
    rfl
  · rw [List.eq_of_mem_replicate indented]
    rfl

theorem isDigit_digitChar : ∀ d < 10, Text.isDigit (Nat.digitChar d) = true := by decide

theorem digitChar_ne_zero : ∀ d < 10, 0 < d → Nat.digitChar d ≠ '0' := by decide

theorem whole_concat {s : List Char} (h : Whole s) (nonzero : s ≠ ['0']) {d : Char} (digit : Text.isDigit d = true) :
    Whole (s ++ [d]) := by
  cases h with
  | zero => exact absurd rfl nonzero
  | @more c rest first other digits =>
    refine .more first other fun e member => ?_
    rcases List.mem_append.mp member with old | new
    · exact digits e old
    · rw [List.mem_singleton.mp new]
      exact digit

theorem whole_toDigits (n : Nat) : Whole (Nat.toDigits 10 n) := by
  induction n using Nat.strongRecOn with
  | ind n ih =>
    by_cases small : n < 10
    · rw [Nat.toDigits_of_lt_base small]
      rcases Nat.eq_zero_or_pos n with rfl | positive
      · exact .zero
      · exact .more (isDigit_digitChar n small) (digitChar_ne_zero n small positive) (by simp)
    · rw [Nat.toDigits_of_base_le (by decide) (by omega)]
      refine whole_concat (ih (n / 10) (by omega)) (fun zero => ?_) (isDigit_digitChar _ (Nat.mod_lt _ (by decide)))
      have value := Text.digitsValue_toDigits (n / 10)
      rw [zero, show Text.digitsValue ['0'] = 0 from rfl] at value
      omega

theorem numeral_nat (n : Nat) : Numeral (.nat n) (toString n).toList := by
  rw [Nat.toString_eq_ofList_toDigits, String.toList_ofList]
  have numeral := Numeral.nat (whole_toDigits n)
  rwa [Text.digitsValue_toDigits] at numeral

theorem hexValue?_hexDigit : ∀ d < 16, hexValue? (hexDigit d) = some d := by decide

/-- A character stands for itself between quotes, escaped where it must be. -/
theorem spelled_escapeChar (c : Char) :
    ∃ piece : Piece, piece.Spelled (escapeChar c) ∧
      ∀ rest, Piece.characters (piece :: rest) = (Piece.characters rest).map (c :: ·) := by
  unfold escapeChar
  split
  iterate 7 exact ⟨_, .escaped rfl, fun rest => rfl⟩
  rename_i notQuote notSlash _ _ _ _ _
  split
  · rename_i control
    have zero : hexValue? '0' = some 0 := rfl
    have spelled := Piece.Spelled.unit zero zero (hexValue?_hexDigit (c.toNat / 16) (by omega))
      (hexValue?_hexDigit (c.toNat % 16) (by omega))
    rw [show ((0 * 16 + 0) * 16 + c.toNat / 16) * 16 + c.toNat % 16 = c.toNat by omega] at spelled
    refine ⟨.unit c.toNat, spelled, fun rest => ?_⟩
    have notSecond : Piece.low c.toNat = false := by
      simp [Piece.low]
      omega
    have notFirst : Piece.high c.toNat = false := by
      simp [Piece.high]
      omega
    rw [Piece.characters_unit notSecond notFirst, Char.ofNat_toNat]
  · rename_i plain
    exact ⟨.char c, .plain (by omega) notQuote notSlash, fun rest => rfl⟩

theorem spelling_escape (s : List Char) :
    ∃ pieces, Spelling pieces (s.flatMap escapeChar) ∧ Piece.characters pieces = some s := by
  induction s with
  | nil => exact ⟨[], .nil, rfl⟩
  | cons c s ih =>
    obtain ⟨pieces, spelling, read⟩ := ih
    obtain ⟨piece, spelled, stands⟩ := spelled_escapeChar c
    refine ⟨piece :: pieces, ?_, by rw [stands, read]; rfl⟩
    rw [List.flatMap_cons]
    exact .cons spelled spelling

theorem quotation_quote (s : String) : Quotation (some s) (quote s).toList := by
  obtain ⟨pieces, spelling, read⟩ := spelling_escape s.toList
  have quotation := Quotation.intro spelling
  rw [read, Option.map_some, String.ofList_toList] at quotation
  rw [quote, String.toList_append, String.toList_append, String.toList_ofList, String.toList_ofList]
  exact quotation

/-! ### Values in their surroundings -/

theorem element_of_value {j : Json} {before s : List Char} (blank : Gap before) (value : Value j s) :
    Element j (before ++ s) := by
  have element := Element.intro blank value gap_nil
  rwa [List.append_nil] at element

theorem member_of_element (key : String) {j : Json} {before s : List Char} (blank : Gap before) (element : Element j s) :
    Member (some key) j (before ++ (quote key).toList ++ ':' :: s) := by
  have member := Member.intro blank (quotation_quote key) gap_nil element
  rwa [List.append_nil] at member

theorem value_array {items : List Json} {s : String} (h : Elements items s.toList) :
    Value (.array items) ("[" ++ s ++ "]").toList := by
  rw [String.toList_append, String.toList_append]
  exact .array h

theorem value_object {members : List (Option String × Json)} {s : String} (h : Members members s.toList) :
    Value (.object members) ("\x7b" ++ s ++ "\x7d").toList := by
  rw [String.toList_append, String.toList_append]
  exact .object h

/-! ### On one line -/

mutual

theorem value_compact : (j : Json) → j.printable = true → Value j j.compact.toList
  | null, _ => .null
  | bool true, _ => .true
  | bool false, _ => .false
  | nat n, _ => by
    rw [compact]
    exact .number (numeral_nat n)
  | string s, _ => by
    rw [compact]
    exact .string (quotation_quote s)
  | array [], _ => .emptyArray gap_nil
  | array (j :: rest), h => by
    rw [printable] at h
    rw [compact]
    exact value_array (elements_compact (j :: rest) (List.cons_ne_nil _ _) h)
  | object [], _ => .emptyObject gap_nil
  | object (member :: rest), h => by
    rw [printable] at h
    rw [compact]
    exact value_object (members_compact (member :: rest) (List.cons_ne_nil _ _) h)
  | number, h | mangled, h | broken, h => by simp [printable] at h

theorem elements_compact : (items : List Json) → items ≠ [] → printableItems items = true →
    Elements items (compactItems items).toList
  | [], nonempty, _ => absurd rfl nonempty
  | [j], _, h => by
    simp only [printableItems, Bool.and_true] at h
    rw [compactItems]
    exact .last (element_of_value gap_nil (value_compact j h))
  | j :: k :: rest, _, h => by
    rw [printableItems, Bool.and_eq_true] at h
    have first := element_of_value gap_nil (value_compact j h.1)
    have others := elements_compact (k :: rest) (List.cons_ne_nil _ _) h.2
    simp only [compactItems, String.toList_append, List.append_assoc]
    exact .more first others

theorem members_compact : (members : List (Option String × Json)) → members ≠ [] → printableMembers members = true →
    Members members (compactMembers members).toList
  | [], nonempty, _ => absurd rfl nonempty
  | [(key, j)], _, h => by
    simp only [printableMembers, Bool.and_true, Bool.and_eq_true] at h
    obtain ⟨present, value⟩ := h
    obtain ⟨key, rfl⟩ := Option.isSome_iff_exists.mp present
    have member := member_of_element key gap_nil (element_of_value gap_nil (value_compact j value))
    simpa only [compactMembers, Option.getD_some, String.toList_append, List.append_assoc, List.cons_append,
      List.nil_append, show ":".toList = [':'] from rfl] using Members.last member
  | (key, j) :: next :: rest, _, h => by
    rw [printableMembers, Bool.and_eq_true, Bool.and_eq_true] at h
    obtain ⟨⟨present, value⟩, others⟩ := h
    obtain ⟨key, rfl⟩ := Option.isSome_iff_exists.mp present
    have member := member_of_element key gap_nil (element_of_value gap_nil (value_compact j value))
    have all := Members.more member (members_compact (next :: rest) (List.cons_ne_nil _ _) others)
    simpa only [compactMembers, Option.getD_some, String.toList_append, List.append_assoc, List.cons_append,
      List.nil_append, show ":".toList = [':'] from rfl, show ",".toList = [','] from rfl] using all

end

theorem document_compact {j : Json} (h : j.printable = true) : Document j j.compact :=
  element_of_value gap_nil (value_compact j h)

/-! ### Indented -/

mutual

theorem value_prettyAt (level : Nat) : (j : Json) → j.printable = true → Value j (j.prettyAt level).toList
  | null, _ => by
    rw [prettyAt]
    exact .null
  | bool true, _ => by
    rw [prettyAt]
    exact .true
  | bool false, _ => by
    rw [prettyAt]
    exact .false
  | nat n, _ => by
    rw [prettyAt]
    exact .number (numeral_nat n)
  | string s, _ => by
    rw [prettyAt]
    exact .string (quotation_quote s)
  | array [], _ => by
    rw [prettyAt]
    exact .emptyArray gap_nil
  | array (j :: rest), h => by
    simp only [printable, printableItems, Bool.and_eq_true] at h
    have first := value_prettyAt (level + 1) j h.1
    have all := elements_pretty (level + 1) (gap_newLine level) (gap_newLine (level + 1)) first rest h.2
    have value := Value.array all
    simpa only [prettyAt, String.toList_append, List.append_assoc, List.cons_append, List.nil_append,
      show "[".toList = ['['] from rfl, show "]".toList = [']'] from rfl] using value
  | object [], _ => by
    rw [prettyAt]
    exact .emptyObject gap_nil
  | object ((key, j) :: rest), h => by
    simp only [printable, printableMembers, Bool.and_eq_true] at h
    obtain ⟨⟨present, valid⟩, others⟩ := h
    obtain ⟨key, rfl⟩ := Option.isSome_iff_exists.mp present
    have first := value_prettyAt (level + 1) j valid
    have all := members_pretty (level + 1) (gap_newLine level) (gap_newLine (level + 1)) key first rest others
    have value := Value.object all
    simpa only [prettyAt, Option.getD_some, String.toList_append, List.append_assoc, List.cons_append,
      List.nil_append, show "\x7b".toList = ['\x7b'] from rfl, show "\x7d".toList = ['\x7d'] from rfl,
      show ": ".toList = [':', ' '] from rfl] using value
  | number, h | mangled, h | broken, h => by simp [printable] at h

/-- The items behind one that stands already, and the blanks behind them all. -/
theorem elements_pretty (level : Nat) {behind : List Char} (ends : Gap behind) {before s : List Char} {j : Json}
    (blank : Gap before) (value : Value j s) : (items : List Json) → printableItems items = true →
    Elements (j :: items) (before ++ s ++ (prettyItems level items).toList ++ behind)
  | [], _ => by
    rw [prettyItems, String.toList_empty, List.append_nil]
    exact .last (.intro blank value ends)
  | k :: rest, h => by
    rw [printableItems, Bool.and_eq_true] at h
    have others := elements_pretty level ends (gap_newLine level) (value_prettyAt level k h.1) rest h.2
    have all := Elements.more (element_of_value blank value) others
    simpa only [prettyItems, String.toList_append, List.append_assoc, List.cons_append, List.nil_append,
      show ",".toList = [','] from rfl] using all

theorem members_pretty (level : Nat) {behind : List Char} (ends : Gap behind) {before s : List Char} {j : Json}
    (blank : Gap before) (key : String) (value : Value j s) : (members : List (Option String × Json)) →
    printableMembers members = true →
    Members ((some key, j) :: members)
      (before ++ (quote key).toList ++ ':' :: ([' '] ++ s ++ (prettyMembers level members).toList ++ behind))
  | [], _ => by
    rw [prettyMembers, String.toList_empty, List.append_nil]
    exact .last (member_of_element key blank (.intro gap_space value ends))
  | (next, k) :: rest, h => by
    rw [printableMembers, Bool.and_eq_true, Bool.and_eq_true] at h
    obtain ⟨⟨present, valid⟩, others⟩ := h
    obtain ⟨next, rfl⟩ := Option.isSome_iff_exists.mp present
    have member := member_of_element key blank (element_of_value gap_space value)
    have behindIt := members_pretty level ends (gap_newLine level) next (value_prettyAt level k valid) rest others
    have all := Members.more member behindIt
    simpa only [prettyMembers, Option.getD_some, String.toList_append, List.append_assoc, List.cons_append,
      List.nil_append, show ",".toList = [','] from rfl, show ": ".toList = [':', ' '] from rfl] using all

end

/-- An indented tree is JSON, also on a line of its own. -/
theorem document_pretty {j : Json} (h : j.printable = true) : Document j (j.pretty ++ "\n") := by
  have element := Element.intro gap_nil (value_prettyAt 0 j h) (gap_newLine 0)
  rwa [List.nil_append, ← String.toList_append, show newLine 0 = "\n" from rfl] at element

end Wayfarer.Json
