import Mathlib.Data.List.TakeDrop
import Mathlib.Data.List.TakeWhile
import Wayfarer.Text.Blank
import Wayfarer.Text.Numeral

/-!
# Numerals

Which texts are numerals, and of which numbers, is said by `Numeral`. Below its bound the reader accepts exactly
those, whatever zeros they begin with.
-/

namespace Wayfarer.Text

/-! ### Runs of characters -/

theorem takeWhile_append_stop {p : α → Bool} {xs rest : List α} (all : ∀ x ∈ xs, p x = true)
    (stop : ∀ c, rest.head? = some c → p c = false) : (xs ++ rest).takeWhile p = xs := by
  rw [List.takeWhile_append_of_pos all]
  cases rest with
  | nil => simp
  | cons c rest => simp [stop c rfl]

theorem dropWhile_append_stop {p : α → Bool} {xs rest : List α} (all : ∀ x ∈ xs, p x = true)
    (stop : ∀ c, rest.head? = some c → p c = false) : (xs ++ rest).dropWhile p = rest := by
  rw [List.dropWhile_append_of_pos all]
  cases rest with
  | nil => rfl
  | cons c rest => simp [stop c rfl]

theorem span_append_stop {p : α → Bool} {xs rest : List α} (all : ∀ x ∈ xs, p x = true)
    (stop : ∀ c, rest.head? = some c → p c = false) : (xs ++ rest).span p = (xs, rest) := by
  rw [List.span_eq_takeWhile_dropWhile, takeWhile_append_stop all stop, dropWhile_append_stop all stop]

/-! ### Numerals -/

/-- Digits, at least one, and perhaps a plus sign in front of them. -/
inductive Numeral : List Char → Nat → Prop
  | plain {digits : List Char} : digits ≠ [] → (∀ d ∈ digits, isDigit d = true) → Numeral digits (digitsValue digits)
  | signed {digits : List Char} : digits ≠ [] → (∀ d ∈ digits, isDigit d = true) →
    Numeral ('+' :: digits) (digitsValue digits)

theorem Numeral.of_mem {s : List Char} {n : Nat} (h : Numeral s n) {c : Char} (member : c ∈ s) :
    isBlank c = false ∧ c ≠ '.' := by
  have apart : ∀ d : Char, isDigit d = true → isBlank d = false ∧ d ≠ '.' := by
    intro d digit
    simp only [isDigit, Bool.and_eq_true, decide_eq_true_eq, Char.le_def, UInt32.le_iff_toNat_le] at digit
    have low : 48 ≤ d.toNat := digit.1
    have high : d.toNat ≤ 57 := digit.2
    refine ⟨?_, fun dot => by rw [dot] at low; exact absurd low (by decide)⟩
    simp only [isBlank, Bool.or_eq_false_iff, Bool.and_eq_false_imp, decide_eq_true_eq, decide_eq_false_iff_not,
      Nat.not_le, beq_eq_false_iff_ne, ne_eq]
    omega
  cases h with
  | plain _ digits => exact apart c (digits c member)
  | signed _ digits =>
    rcases List.mem_cons.mp member with rfl | digit
    · decide
    · exact apart c (digits c digit)

theorem isBlank_of_isDigit {d : Char} (digit : isDigit d = true) : isBlank d = false :=
  ((Numeral.plain (List.cons_ne_nil d []) (by simpa using digit)).of_mem List.mem_cons_self).1

theorem Numeral.ne_nil {s : List Char} {n : Nat} (h : Numeral s n) : s ≠ [] := by
  cases h with
  | plain some _ => exact some
  | signed _ _ => exact List.cons_ne_nil _ _

/-! ### Reading -/

theorem le_foldl_digits (n : Nat) (digits : List Char) : n ≤ digits.foldl (fun n d => n * 10 + digitValue d) n := by
  induction digits generalizing n with
  | nil => exact Nat.le_refl n
  | cons d digits ih =>
    calc n ≤ n * 10 + digitValue d := by omega
      _ ≤ _ := ih _

/-- Numbers only grow while digits are read, so that none is too large unless the last is. -/
theorem readDigits_eq_ok {bound n m : Nat} {s : List Char} (small : n < bound) :
    readDigits bound n s = .ok m ↔
      (∀ d ∈ s, isDigit d = true) ∧ s.foldl (fun n d => n * 10 + digitValue d) n = m ∧ m < bound := by
  induction s generalizing n with
  | nil =>
    refine ⟨fun h => ?_, fun ⟨_, same, _⟩ => congrArg Except.ok same⟩
    cases h
    exact ⟨by simp, rfl, small⟩
  | cons c s ih =>
    rw [readDigits, List.forall_mem_cons, List.foldl_cons]
    by_cases digit : isDigit c = true
    · rw [if_pos digit]
      by_cases next : n * 10 + digitValue c < bound
      · simp only [if_pos next, ih next, digit, true_and]
      · simp only [if_neg next, digit, true_and, reduceCtorEq, false_iff, not_and]
        rintro - rfl
        exact fun fits => next (Nat.lt_of_le_of_lt (le_foldl_digits _ s) fits)
    · simp [digit]

theorem readNumeral_signed (bound : Nat) {digits : List Char} (some : digits ≠ []) :
    readNumeral bound ('+' :: digits) = readDigits bound 0 digits := by
  cases digits with
  | nil => exact absurd rfl some
  | cons d digits => rfl

theorem readNumeral_plain (bound : Nat) {c : Char} (unsigned : c ≠ '+') (s : List Char) :
    readNumeral bound (c :: s) = readDigits bound 0 (c :: s) := by
  unfold readNumeral
  split <;> simp_all

theorem readNumeral_eq_ok {bound n : Nat} {s : List Char} (positive : 0 < bound) :
    readNumeral bound s = .ok n ↔ Numeral s n ∧ n < bound := by
  have digits_iff : ∀ digits : List Char, readDigits bound 0 digits = .ok n ↔
      (∀ d ∈ digits, isDigit d = true) ∧ digitsValue digits = n ∧ n < bound := fun digits => readDigits_eq_ok positive
  constructor
  · intro h
    unfold readNumeral at h
    split at h
    next => cases h
    next => cases h
    next digits notAlone =>
      obtain ⟨all, rfl, small⟩ := (digits_iff _).mp h
      exact ⟨.signed (by simpa using notAlone) all, small⟩
    next s notEmpty _ _ =>
      obtain ⟨all, rfl, small⟩ := (digits_iff _).mp h
      exact ⟨.plain (by simpa using notEmpty) all, small⟩
  · rintro ⟨numeral, small⟩
    cases numeral with
    | plain some all =>
      obtain ⟨d, digits, rfl⟩ := List.exists_cons_of_ne_nil some
      have unsigned : d ≠ '+' := by
        rintro rfl
        exact absurd (all '+' List.mem_cons_self) (by decide)
      rw [readNumeral_plain bound unsigned]
      exact (digits_iff _).mpr ⟨all, rfl, small⟩
    | signed some all =>
      rw [readNumeral_signed bound some]
      exact (digits_iff _).mpr ⟨all, rfl, small⟩

theorem readNumeral_lt {bound n : Nat} {s : List Char} (positive : 0 < bound) (h : readNumeral bound s = .ok n) :
    n < bound :=
  ((readNumeral_eq_ok positive).mp h).2

/-! ### Writing -/

theorem digitsValue_toDigits (n : Nat) : digitsValue (Nat.toDigits 10 n) = n := by
  have value : digitsValue (Nat.toDigits 10 n) = Nat.ofDigitChars 10 (Nat.toDigits 10 n) 0 := by
    simp only [digitsValue, digitValue, Nat.ofDigitChars, Nat.mul_comm]
  rw [value, Nat.ofDigitChars_ten_toDigits]

theorem numeral_toString (n : Nat) : Numeral (toString n).toList n := by
  have digits : ∀ d ∈ Nat.toDigits 10 n, isDigit d = true :=
    fun _ member => Nat.isDigit_of_mem_toDigits (by decide) (by decide) member
  have numeral := Numeral.plain Nat.toDigits_ne_nil digits
  rwa [digitsValue_toDigits, ← String.toList_ofList (l := Nat.toDigits 10 n), ← Nat.toString_eq_ofList_toDigits] at numeral

end Wayfarer.Text
