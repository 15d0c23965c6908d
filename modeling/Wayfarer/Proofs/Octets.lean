import Mathlib.Data.List.Basic

/-!
# Texts in the order of their octets

Texts compare by their code points. That is the order of their octets in UTF-8, `octets_lt_iff`: of two characters
the lesser is encoded as the lesser octets, and the two differ before either ends.
-/

namespace Wayfarer.Text

/-- The octets of a text in UTF-8. -/
def octets (s : String) : List UInt8 :=
  s.toUTF8.data.toList

theorem octets_eq (s : String) : octets s = s.toList.flatMap String.utf8EncodeChar := by
  rw [octets, String.toUTF8_eq_toByteArray, ← String.utf8Encode_toList, List.utf8Encode, List.toList_data_toByteArray]

/-- Whatever stands behind them, the encodings of two characters compare as the characters do. -/
theorem encodeChar_lt {c d : Char} (less : c < d) (s t : List UInt8) :
    String.utf8EncodeChar c ++ s < String.utf8EncodeChar d ++ t := by
  have less : c.val.toNat < d.val.toNat := less
  have bound : d.val.toNat < 0x110000 := by
    have := d.valid
    rcases this with small | ⟨-, large⟩ <;> omega
  unfold String.utf8EncodeChar
  dsimp only
  generalize c.val.toNat = m at less
  generalize d.val.toNat = n at less bound
  -- Both may take one, two, three or four octets, the greater no fewer.
  split_ifs
  all_goals
    simp only [List.cons_append, List.nil_append, List.cons_lt_cons_iff, UInt8.lt_iff_toNat_lt, ← UInt8.toNat_inj,
      UInt8.toNat_ofNat', Nat.reducePow]
    simp (disch := omega) only [Nat.mod_eq_of_lt]
    omega

theorem flatMap_encodeChar_lt {s t : List Char} (less : s < t) :
    s.flatMap String.utf8EncodeChar < t.flatMap String.utf8EncodeChar := by
  induction s generalizing t with
  | nil =>
    cases t with
    | nil => exact absurd less (List.lt_irrefl [])
    | cons d t =>
      obtain ⟨octet, others, some⟩ := List.exists_cons_of_ne_nil (String.utf8EncodeChar_ne_nil (c := d))
      rw [List.flatMap_nil, List.flatMap_cons, some, List.cons_append]
      exact List.nil_lt_cons _ _
  | cons c s ih =>
    cases t with
    | nil => exact absurd less (List.not_lt_nil _)
    | cons d t =>
      rw [List.flatMap_cons, List.flatMap_cons]
      obtain first | ⟨rfl, rest⟩ := List.cons_lt_cons_iff.mp less
      · exact encodeChar_lt first _ _
      · exact List.append_left_lt (ih rest)

theorem octets_lt {a b : String} (less : a < b) : octets a < octets b := by
  rw [octets_eq, octets_eq]
  exact flatMap_encodeChar_lt (String.lt_iff.mp less)

theorem octets_lt_iff {a b : String} : octets a < octets b ↔ a < b := by
  refine ⟨fun less => ?_, octets_lt⟩
  by_contra notLess
  by_cases greater : b < a
  · exact List.lt_asymm less (octets_lt greater)
  · have same : a = b := String.le_antisymm (String.not_lt.mp greater) (String.not_lt.mp notLess)
    exact List.lt_irrefl _ (same ▸ less)

end Wayfarer.Text
