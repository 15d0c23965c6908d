import Mathlib.Data.List.TakeWhile
import Wayfarer.Proofs.Numeral
import Wayfarer.Proofs.Partial
import Wayfarer.Spot

/-!
# Spots as dotted text

Which texts are positions is said by `Dotted`: numerals with dots between them and blank space around them all.
Reading accepts exactly those, and the text of a spot is one of them.
-/

namespace Wayfarer

/-! ### Blank space around a text -/

namespace Text

def Blank (s : List Char) : Prop :=
  ∀ c ∈ s, isBlank c = true

theorem Blank.reverse {s : List Char} (h : Blank s) : Blank s.reverse :=
  fun c member => h c (List.mem_reverse.mp member)

theorem exists_trimStart (s : List Char) : ∃ front, Blank front ∧ s = front ++ trimStart s :=
  ⟨s.takeWhile isBlank, fun _ member => List.mem_takeWhile_imp member, List.takeWhile_append_dropWhile.symm⟩

theorem exists_trim (s : List Char) : ∃ front back, Blank front ∧ Blank back ∧ s = front ++ trim s ++ back := by
  obtain ⟨front, before, cut⟩ := exists_trimStart s
  obtain ⟨back, behind, rest⟩ := exists_trimStart (trimStart s).reverse
  refine ⟨front, back.reverse, before, behind.reverse, ?_⟩
  rw [List.reverse_eq_iff, List.reverse_append] at rest
  rw [List.append_assoc, trim, trimEnd, ← rest]
  exact cut

theorem trimStart_append {front : List Char} (blank : Blank front) {core : List Char}
    (solid : ∀ c ∈ core, isBlank c = false) (nonempty : core ≠ []) (back : List Char) :
    trimStart (front ++ (core ++ back)) = core ++ back := by
  obtain ⟨c, core, rfl⟩ := List.exists_cons_of_ne_nil nonempty
  rw [trimStart, List.dropWhile_append_of_pos blank, List.cons_append, List.dropWhile_cons_of_neg]
  rw [solid c List.mem_cons_self]
  exact Bool.false_ne_true

theorem trim_append {front core back : List Char} (before : Blank front) (behind : Blank back)
    (solid : ∀ c ∈ core, isBlank c = false) (nonempty : core ≠ []) : trim (front ++ core ++ back) = core := by
  have reversed := trimStart_append behind.reverse (fun c member => solid c (List.mem_reverse.mp member))
    (mt List.reverse_eq_nil_iff.mp nonempty) []
  rw [trim, List.append_assoc, trimStart_append before solid nonempty, trimEnd, List.reverse_append]
  rw [List.append_nil] at reversed
  rw [reversed, List.reverse_reverse]

end Text

namespace Spot

/-- The indices of `path` as numerals below the bound, with dots between them and blank space around them all. -/
def Dotted (raw : String) (path : List Nat) : Prop :=
  ∃ front parts back, raw.toList = front ++ ['.'].intercalate parts ++ back ∧ Text.Blank front ∧ Text.Blank back ∧
    parts ≠ [] ∧ List.Forall₂ (fun part i => Text.Numeral part i ∧ i < Text.wordBound) parts path

theorem splitDots_eq (s : List Char) : splitDots s = s.splitOn '.' := by
  induction s with
  | nil => rfl
  | cons c s ih =>
    rw [List.splitOn_cons_eq_if_modifyHead, ← ih]
    by_cases dot : c = '.'
    · rw [dot]
      rfl
    · rw [if_neg (by simpa using dot), splitDots]
      · obtain ⟨part, parts, some⟩ := List.exists_cons_of_ne_nil (ih ▸ List.splitOn_ne_nil '.' s)
        rw [some]
        rfl
      · exact dot

theorem mem_intercalate {c : Char} {parts : List (List Char)} (member : c ∈ ['.'].intercalate parts) :
    c = '.' ∨ ∃ part ∈ parts, c ∈ part := by
  induction parts with
  | nil => cases member
  | cons part parts ih =>
    cases parts with
    | nil =>
      rw [List.intercalate_singleton] at member
      exact .inr ⟨part, List.mem_cons_self, member⟩
    | cons next parts =>
      rw [List.intercalate_cons_cons, List.mem_append, List.mem_append, List.mem_singleton] at member
      obtain (here | dot) | later := member
      · exact .inr ⟨part, List.mem_cons_self, here⟩
      · exact .inl dot
      · obtain dot | ⟨other, listed, inside⟩ := ih later
        · exact .inl dot
        · exact .inr ⟨other, List.mem_cons_of_mem _ listed, inside⟩

theorem intercalate_ne_nil {parts : List (List Char)} (some : parts ≠ []) (full : ∀ part ∈ parts, part ≠ []) :
    ['.'].intercalate parts ≠ [] := by
  obtain ⟨part, parts, rfl⟩ := List.exists_cons_of_ne_nil some
  have first := full part List.mem_cons_self
  cases parts with
  | nil => rwa [List.intercalate_singleton]
  | cons next parts => simp [List.intercalate_cons_cons]

theorem parse_of_trim {raw : String} (nonempty : Text.trim raw.toList ≠ []) :
    parse raw = (do
      let indices ← (splitDots (Text.trim raw.toList)).mapM fun part =>
        (Text.readNumeral Text.wordBound part).mapError (.badIndex (String.ofList part) raw)
      return ofPath indices) := by
  unfold parse
  split
  next blank => exact absurd blank nonempty
  next => rfl

theorem parse_eq_ok {raw : String} {s : Spot} : parse raw = .ok s ↔ Dotted raw s.path := by
  have numeral_iff : ∀ part i, (Text.readNumeral Text.wordBound part).mapError
      (SpotFault.badIndex (String.ofList part) raw) = .ok i ↔ Text.Numeral part i ∧ i < Text.wordBound :=
    fun part i => mapError_eq_ok.trans (Text.readNumeral_eq_ok (by decide))
  constructor
  · intro h
    by_cases blank : Text.trim raw.toList = []
    · unfold parse at h
      rw [blank] at h
      cases h
    rw [parse_of_trim blank, splitDots_eq] at h
    obtain ⟨indices, read, same⟩ := bind_eq_ok.mp h
    cases same
    have numerals := mapM_eq_ok.mp read
    simp only [numeral_iff] at numerals
    obtain ⟨front, back, before, behind, cut⟩ := Text.exists_trim raw.toList
    have parts : (Text.trim raw.toList).splitOn '.' ≠ [] := List.splitOn_ne_nil _ _
    have some : indices ≠ [] := fun none => parts (List.forall₂_nil_right_iff.mp (none ▸ numerals))
    refine ⟨front, _, back, ?_, before, behind, parts, (path_ofPath some).symm ▸ numerals⟩
    rw [List.intercalate_splitOn]
    exact cut
  · rintro ⟨front, parts, back, cut, before, behind, some, numerals⟩
    have marked : List.Forall₂ (fun part i => (part ≠ [] ∧ ∀ c ∈ part, Text.isBlank c = false ∧ c ≠ '.') ∧
        Text.Numeral part i) parts s.path :=
      numerals.imp fun _ _ h => ⟨⟨h.1.ne_nil, fun _ member => h.1.of_mem member⟩, h.1⟩
    have whole := ((List.forall₂_and_left _ _).mp marked).1
    have full := intercalate_ne_nil some fun part member => (whole part member).1
    have solid : ∀ c ∈ ['.'].intercalate parts, Text.isBlank c = false := by
      intro c member
      obtain rfl | ⟨part, listed, inside⟩ := mem_intercalate member
      · decide
      · exact ((whole part listed).2 c inside).1
    have trimmed : Text.trim raw.toList = ['.'].intercalate parts := by
      rw [cut, Text.trim_append before behind solid full]
    have undotted : ∀ part ∈ parts, '.' ∉ part := fun part member dot => ((whole part member).2 '.' dot).2 rfl
    have read : parts.mapM (fun part => (Text.readNumeral Text.wordBound part).mapError
        (SpotFault.badIndex (String.ofList part) raw)) = .ok s.path :=
      mapM_eq_ok.mpr (numerals.imp fun part i h => (numeral_iff part i).mpr h)
    rw [parse_of_trim (trimmed ▸ full), trimmed, splitDots_eq, List.splitOn_intercalate '.' undotted some, read]
    rfl

/-- The text of a spot has its indices as numerals, without any blank space. -/
theorem dotted_text {s : Spot} (small : ∀ i ∈ s.path, i < Text.wordBound) : Dotted s.text s.path := by
  refine ⟨[], s.path.map fun i => (toString i).toList, [], ?_, nofun, nofun, by simp [path], ?_⟩
  · rw [text, String.toList_intercalate, List.map_map, List.nil_append, List.append_nil]
    rfl
  · rw [List.forall₂_map_left_iff, List.forall₂_same]
    exact fun i member => ⟨Text.numeral_toString i, small i member⟩

/-- Exactly the dotted texts are read as spots, each as the one with its indices. Spots are the paths that are not
empty, and the text of a spot is read as that spot, however deep it is. -/
theorem dotted_exact :
    (∀ raw path, (∃ s, parse raw = .ok s ∧ s.path = path) ↔ Dotted raw path) ∧
    (∀ path, path ≠ [] → (ofPath path).path = path) ∧ (∀ s : Spot, s.path ≠ [] ∧ ofPath s.path = s) ∧
    ∀ s : Spot, (∀ i ∈ s.path, i < Text.wordBound) → parse s.text = .ok s := by
  refine ⟨fun raw path => ⟨?_, fun dotted => ?_⟩, fun path some => path_ofPath some,
    fun s => ⟨List.cons_ne_nil _ _, ofPath_path s⟩, fun s small => parse_eq_ok.mpr (dotted_text small)⟩
  · rintro ⟨s, read, rfl⟩
    exact parse_eq_ok.mp read
  · have some : path ≠ [] := by
      rintro rfl
      obtain ⟨_, parts, _, _, _, _, some, numerals⟩ := dotted
      exact some (List.forall₂_nil_right_iff.mp numerals)
    exact ⟨ofPath path, parse_eq_ok.mpr ((path_ofPath some).symm ▸ dotted), path_ofPath some⟩

theorem dotted_padded : Dotted "\u3000 2.+007.0\u0085" [2, 7, 0] := by
  have two : Text.Numeral ['2'] 2 := .plain (by decide) (List.all_eq_true.mp rfl)
  have seven : Text.Numeral ['+', '0', '0', '7'] 7 :=
    @Text.Numeral.signed ['0', '0', '7'] (by decide) (List.all_eq_true.mp rfl)
  have zero : Text.Numeral ['0'] 0 := .plain (by decide) (List.all_eq_true.mp rfl)
  have front : Text.Blank ['\u3000', ' '] := List.all_eq_true.mp rfl
  have back : Text.Blank ['\u0085'] := List.all_eq_true.mp rfl
  exact ⟨_, [['2'], ['+', '0', '0', '7'], ['0']], _, rfl, front, back, by decide,
    .cons ⟨two, by decide⟩ (.cons ⟨seven, by decide⟩ (.cons ⟨zero, by decide⟩ .nil))⟩

theorem dotted_exact_padded :
    (∃ s, parse "\u3000 2.+007.0\u0085" = .ok s ∧ s.path = [2, 7, 0]) ∧ (ofPath [2, 7, 0]).path = [2, 7, 0] ∧
      (∀ i ∈ path ⟨2, [18446744073709551615]⟩, i < Text.wordBound) ∧
      parse (text ⟨2, [18446744073709551615]⟩) = .ok ⟨2, [18446744073709551615]⟩ := by
  obtain ⟨reads, paths, -, back⟩ := dotted_exact
  have small : ∀ i ∈ path ⟨2, [18446744073709551615]⟩, i < Text.wordBound := by decide
  exact ⟨(reads _ _).mpr dotted_padded, paths _ (by decide), small, back _ small⟩

/-- Blank space inside the text is no part of a numeral. -/
example : parse "2. 1" = .error (.badIndex " 1" "2. 1" .notDigit) := by rfl

end Spot

end Wayfarer
