import Wayfarer.Proofs.Json.Grammar

/-!
# The tokens of JSON text

`tokens_of_document` shows that the lexer finds in a text of the grammar exactly the tokens of its tree.
-/

namespace Wayfarer.Json

open Grammar

mutual

/-- The tokens of a tree from left to right. -/
def treeTokens : Json → List Token
  | null => [.null]
  | bool b => [.bool b]
  | nat n => [.nat n]
  | number => [.number]
  | string s => [.string (some s)]
  | mangled => [.string none]
  | array [] => [.beginArray, .endArray]
  | array (j :: rest) => .beginArray :: (j.treeTokens ++ itemTokens rest ++ [.endArray])
  | object [] => [.beginObject, .endObject]
  | object ((key, j) :: rest) =>
    .beginObject :: .string key :: .colon :: (j.treeTokens ++ memberTokens rest ++ [.endObject])
  | broken => [.bad]

/-- The tokens of the items behind the first. -/
def itemTokens : List Json → List Token
  | [] => []
  | j :: rest => .comma :: (j.treeTokens ++ itemTokens rest)

def memberTokens : List (Option String × Json) → List Token
  | [] => []
  | (key, j) :: rest => .comma :: .string key :: .colon :: (j.treeTokens ++ memberTokens rest)

end

/-- The tokens between the brackets of an array. -/
def elementTokens : List Json → List Token
  | [] => []
  | j :: rest => j.treeTokens ++ itemTokens rest

/-- The tokens between the braces of an object. -/
def entryTokens : List (Option String × Json) → List Token
  | [] => []
  | (key, j) :: rest => .string key :: .colon :: (j.treeTokens ++ memberTokens rest)

theorem treeTokens_array (items : List Json) :
    (array items).treeTokens = .beginArray :: (elementTokens items ++ [.endArray]) := by
  cases items <;> simp [treeTokens, elementTokens]

theorem treeTokens_object (members : List (Option String × Json)) :
    (object members).treeTokens = .beginObject :: (entryTokens members ++ [.endObject]) := by
  rcases members with _ | ⟨⟨key, j⟩, rest⟩ <;> simp [treeTokens, entryTokens]

theorem treeTokens_ofText (text : Option String) : (ofText text).treeTokens = [.string text] := by
  cases text <;> rfl

theorem elementTokens_cons (j : Json) {rest : List Json} (h : rest ≠ []) :
    elementTokens (j :: rest) = j.treeTokens ++ .comma :: elementTokens rest := by
  cases rest with
  | nil => exact absurd rfl h
  | cons k rest => rfl

theorem entryTokens_cons (key : Option String) (j : Json) {rest : List (Option String × Json)} (h : rest ≠ []) :
    entryTokens ((key, j) :: rest) = .string key :: .colon :: (j.treeTokens ++ .comma :: entryTokens rest) := by
  cases rest with
  | nil => exact absurd rfl h
  | cons member rest => rfl

/-! ### Behind a value -/

/-- The lexer has read these tokens, the last of which may be a number that the next character ends. -/
inductive Behind : Lexer → Array Token → Prop where
  | between (tokens : Array Token) : Behind ⟨tokens, .between⟩ tokens
  | number (tokens : Array Token) {part : NumberPart} (complete : part.complete = true) (value : Option Nat) :
    Behind ⟨tokens, .number part value⟩ (tokens.push (Lexer.numberToken value))

/-- The character continues no number. -/
structure Ends (c : Char) : Prop where
  digit : Text.isDigit c = false
  point : c ≠ '.'
  mark : NumberPart.isMark c = false

theorem ends_of_isGap {c : Char} (h : isGap c = true) : Ends c := by
  simp only [isGap, Bool.or_eq_true, beq_iff_eq] at h
  obtain ((rfl | rfl) | rfl) | rfl := h
  all_goals exact ⟨by decide, by decide, by decide⟩

theorem step_isGap (tokens : Array Token) {c : Char} (h : isGap c = true) :
    Lexer.step ⟨tokens, .between⟩ c = ⟨tokens, .between⟩ := by
  simp only [Lexer.step, Lexer.start, h, if_true]
  rfl

theorem foldl_gap (tokens : Array Token) {s : List Char} (h : Gap s) :
    s.foldl Lexer.step ⟨tokens, .between⟩ = ⟨tokens, .between⟩ := by
  induction s with
  | nil => rfl
  | cons c s ih =>
    rw [List.foldl_cons, step_isGap tokens (h c List.mem_cons_self)]
    exact ih fun d member => h d (List.mem_cons_of_mem _ member)

namespace Behind

variable {x : Lexer} {tokens : Array Token}

theorem step (h : Behind x tokens) {c : Char} (ends : Ends c) :
    x.step c = Lexer.step ⟨tokens, .between⟩ c := by
  cases h with
  | between => rfl
  | number tokens complete value =>
    rename_i part
    have stops : part.next? c = none := by
      cases part
      case minus | point | mark | sign => cases complete
      all_goals simp [NumberPart.next?, ends.digit, ends.point, ends.mark]
    simp only [Lexer.step, stops, complete, ends.digit, Bool.and_false, Bool.not_false, Bool.and_self, if_true]
    rfl

theorem gap (h : Behind x tokens) {s : List Char} (blank : Gap s) : Behind (s.foldl Lexer.step x) tokens := by
  cases s with
  | nil => exact h
  | cons c s =>
    have first : isGap c = true := blank c List.mem_cons_self
    rw [List.foldl_cons, h.step (ends_of_isGap first), step_isGap tokens first,
      foldl_gap tokens fun d member => blank d (List.mem_cons_of_mem _ member)]
    exact .between tokens

theorem finish (h : Behind x tokens) : x.finish = tokens := by
  cases h with
  | between => rfl
  | number tokens complete value => simp only [Lexer.finish, complete, if_true]

end Behind

/-! ### Numbers -/

theorem step_number (tokens : Array Token) {part next : NumberPart} {c : Char} (value : Option Nat)
    (h : part.next? c = some next) :
    Lexer.step ⟨tokens, .number part value⟩ c = ⟨tokens, .number next (Lexer.grow value next c)⟩ := by
  simp only [Lexer.step, h]
  rfl

theorem grow_none (part : NumberPart) (c : Char) : Lexer.grow none part c = none := by
  cases part <;> rfl

theorem grow_of_ne {part : NumberPart} (h : part ≠ .whole) (value : Option Nat) (c : Char) :
    Lexer.grow value part c = none := by
  cases part <;> first | rfl | exact absurd rfl h

/-- These parts go on with every digit. -/
theorem next?_of_isDigit {part : NumberPart} (goesOn : part = .whole ∨ part = .fraction ∨ part = .exponent) {c : Char}
    (digit : Text.isDigit c = true) : part.next? c = some part := by
  rcases goesOn with rfl | rfl | rfl <;> simp only [NumberPart.next?, digit, if_true]

/-- More digits of a part, once the number has no value. -/
theorem foldl_part (tokens : Array Token) {part : NumberPart}
    (goesOn : part = .whole ∨ part = .fraction ∨ part = .exponent) {s : List Char}
    (digits : ∀ c ∈ s, Text.isDigit c = true) :
    s.foldl Lexer.step ⟨tokens, .number part none⟩ = ⟨tokens, .number part none⟩ := by
  induction s with
  | nil => rfl
  | cons c s ih =>
    rw [List.foldl_cons, step_number tokens none (next?_of_isDigit goesOn (digits c List.mem_cons_self)), grow_none]
    exact ih fun d member => digits d (List.mem_cons_of_mem _ member)

theorem foldl_digits (tokens : Array Token) {front part : NumberPart} (goesOn : part = .fraction ∨ part = .exponent)
    (enters : ∀ c, Text.isDigit c = true → front.next? c = some part) {s : List Char} (h : Digits s) (value : Option Nat) :
    s.foldl Lexer.step ⟨tokens, .number front value⟩ = ⟨tokens, .number part none⟩ := by
  obtain ⟨nonempty, digits⟩ := h
  have other : part ≠ .whole := by rcases goesOn with rfl | rfl <;> decide
  cases s with
  | nil => exact absurd rfl nonempty
  | cons c s =>
    rw [List.foldl_cons, step_number tokens value (enters c (digits c List.mem_cons_self)), grow_of_ne other]
    exact foldl_part tokens (.inr goesOn) fun d member => digits d (List.mem_cons_of_mem _ member)

theorem foldl_fraction (tokens : Array Token) {s : List Char} (h : Fraction s) {part : NumberPart}
    (front : part = .zero ∨ part = .whole) (value : Option Nat) :
    ∃ next, (next = .zero ∨ next = .whole ∨ next = .fraction) ∧
      s.foldl Lexer.step ⟨tokens, .number part value⟩ = ⟨tokens, .number next (if s = [] then value else none)⟩ := by
  cases h with
  | none => exact ⟨part, by rcases front with rfl | rfl <;> simp, rfl⟩
  | some digits =>
    have point : part.next? '.' = some .point := by rcases front with rfl | rfl <;> rfl
    refine ⟨.fraction, by simp, ?_⟩
    rw [List.foldl_cons, step_number tokens value point]
    refine foldl_digits tokens (.inl rfl) (fun c digit => ?_) digits _
    simp only [NumberPart.next?, digit, if_true]

theorem foldl_exponent (tokens : Array Token) {s : List Char} (h : Exponent s) {part : NumberPart}
    (front : part = .zero ∨ part = .whole ∨ part = .fraction) (value : Option Nat) :
    ∃ next, NumberPart.complete next = true ∧
      s.foldl Lexer.step ⟨tokens, .number part value⟩ = ⟨tokens, .number next (if s = [] then value else none)⟩ := by
  cases h with
  | none => exact ⟨part, by rcases front with rfl | rfl | rfl <;> rfl, rfl⟩
  | @some mark sign s marks signs digits =>
    have marked : part.next? mark = some .mark := by
      rcases marks with rfl | rfl <;> rcases front with rfl | rfl | rfl <;> rfl
    refine ⟨.exponent, rfl, ?_⟩
    rw [List.foldl_cons, step_number tokens value marked, List.foldl_append, if_neg (List.cons_ne_nil _ _)]
    have enters : ∀ front : NumberPart, front = .mark ∨ front = .sign → ∀ value,
        s.foldl Lexer.step ⟨tokens, .number front value⟩ = ⟨tokens, .number .exponent none⟩ := by
      intro front signed value
      refine foldl_digits tokens (.inr rfl) (fun c digit => ?_) digits value
      rcases signed with rfl | rfl
      · have noSign : (c == '+' || c == '-') = false := by
          rw [Bool.or_eq_false_iff, beq_eq_false_iff_ne, beq_eq_false_iff_ne]
          constructor <;> (rintro rfl; cases digit)
        simp only [NumberPart.next?, noSign, digit, Bool.false_eq_true, if_true, if_false]
      · simp only [NumberPart.next?, digit, if_true]
    rcases signs with rfl | rfl | rfl
    · exact enters .mark (.inl rfl) _
    all_goals exact enters .sign (.inr rfl) _

/-- The lexer inside a number that was begun with some digit. -/
theorem foldl_rest (tokens : Array Token) (n : Nat) {s : List Char} (digits : ∀ c ∈ s, Text.isDigit c = true) :
    s.foldl Lexer.step ⟨tokens, .number .whole (some n)⟩ =
      ⟨tokens, .number .whole (some (s.foldl (fun n d => n * 10 + Text.digitValue d) n))⟩ := by
  induction s generalizing n with
  | nil => rfl
  | cons c s ih =>
    rw [List.foldl_cons, step_number tokens (some n) (next?_of_isDigit (.inl rfl) (digits c List.mem_cons_self))]
    exact ih _ fun d member => digits d (List.mem_cons_of_mem _ member)

theorem step_digit (tokens : Array Token) {c : Char} (digit : Text.isDigit c = true) :
    Lexer.step ⟨tokens, .between⟩ c =
      ⟨tokens, .number (if c == '0' then .zero else .whole) (some (Text.digitValue c))⟩ := by
  have noGap : isGap c = false := by
    cases gap : isGap c with
    | false => rfl
    | true => cases digit.symm.trans (ends_of_isGap gap).digit
  simp only [Lexer.step, Lexer.start, noGap, digit, Bool.false_eq_true, if_true, if_false]
  rfl

theorem foldl_whole (tokens : Array Token) {s : List Char} (h : Whole s) :
    ∃ part, (part = .zero ∨ part = .whole) ∧
      s.foldl Lexer.step ⟨tokens, .between⟩ = ⟨tokens, .number part (some (Text.digitsValue s))⟩ := by
  cases h with
  | zero => exact ⟨.zero, .inl rfl, rfl⟩
  | @more c s digit nonzero digits =>
    refine ⟨.whole, .inr rfl, ?_⟩
    rw [List.foldl_cons, step_digit tokens digit, if_neg (by simpa using nonzero), foldl_rest tokens _ digits]
    simp only [Text.digitsValue, List.foldl_cons, Nat.zero_mul, Nat.zero_add]

theorem foldl_negative (tokens : Array Token) {s : List Char} (h : Whole s) :
    ∃ part, (part = .zero ∨ part = .whole) ∧
      s.foldl Lexer.step ⟨tokens, .number .minus none⟩ = ⟨tokens, .number part none⟩ := by
  cases h with
  | zero => exact ⟨.zero, .inl rfl, rfl⟩
  | @more c s digit nonzero digits =>
    have enters : NumberPart.minus.next? c = some .whole := by
      simp only [NumberPart.next?, beq_eq_false_iff_ne.mpr nonzero, digit, Bool.false_eq_true, if_true, if_false]
    refine ⟨.whole, .inr rfl, ?_⟩
    rw [List.foldl_cons, step_number tokens none enters, grow_none]
    exact foldl_part tokens (.inl rfl) digits

theorem behind_numeral (tokens : Array Token) {j : Json} {s : List Char} (h : Numeral j s) :
    Behind (s.foldl Lexer.step ⟨tokens, .between⟩) (j.treeTokens.foldl Array.push tokens) := by
  cases h with
  | nat whole =>
    obtain ⟨part, plain, read⟩ := foldl_whole tokens whole
    rw [read]
    refine Behind.number tokens ?_ (some _)
    rcases plain with rfl | rfl <;> rfl
  | @number sign whole fraction exponent signs digits fractions exponents some =>
    -- a number has no value as soon as anything but its whole part is written
    have front : ∃ part value, (part = .zero ∨ part = .whole) ∧ (sign ≠ [] → value = none) ∧
        (sign ++ whole).foldl Lexer.step ⟨tokens, .between⟩ = ⟨tokens, .number part value⟩ := by
      rcases signs with rfl | rfl
      · obtain ⟨part, plain, read⟩ := foldl_whole tokens digits
        exact ⟨part, _, plain, fun signed => absurd rfl signed, read⟩
      · obtain ⟨part, plain, read⟩ := foldl_negative tokens digits
        exact ⟨part, none, plain, fun _ => rfl, read⟩
    obtain ⟨part, value, plain, unsigned, read⟩ := front
    obtain ⟨next, inside, broken⟩ := foldl_fraction tokens fractions plain value
    obtain ⟨last, complete, ended⟩ :=
      foldl_exponent tokens exponents inside (if fraction = [] then value else none)
    have lost : (if exponent = [] then (if fraction = [] then value else none) else none) = none := by
      split
      · rename_i noExponent
        split
        · rename_i noFraction
          exact unsigned fun bare => some ⟨bare, noFraction, noExponent⟩
        · rfl
      · rfl
    rw [List.foldl_append, List.foldl_append, read, broken, ended, lost]
    exact Behind.number tokens complete none

/-! ### Strings -/

/-- A piece of a string, as the lexer takes it. -/
def Quoted.take (q : Quoted) : Piece → Quoted
  | .char c => q.push c
  | .unit n => q.pushUnit n

theorem foldl_spelled (tokens : Array Token) {piece : Piece} {s : List Char} (h : piece.Spelled s) (q : Quoted) :
    s.foldl Lexer.step ⟨tokens, .quoted q⟩ = ⟨tokens, .quoted (q.take piece)⟩ := by
  cases h with
  | plain printed notQuote notSlash =>
    simp only [List.foldl_cons, List.foldl_nil, Lexer.step, beq_iff_eq]
    rw [if_neg notQuote, if_neg notSlash, if_neg (Nat.not_lt.mpr printed)]
    rfl
  | @escaped letter c meant =>
    have noUnit : (letter == 'u') = false := by
      rw [beq_eq_false_iff_ne]
      rintro rfl
      cases meant
    simp only [List.foldl_cons, List.foldl_nil, Lexer.step, noUnit, meant, Bool.false_eq_true, if_false]
    rfl
  | unit first second third fourth =>
    simp [Lexer.step, Lexer.goTo, first, second, third, fourth, Quoted.take]

theorem foldl_spelling (tokens : Array Token) {pieces : List Piece} {s : List Char} (h : Spelling pieces s) (q : Quoted) :
    s.foldl Lexer.step ⟨tokens, .quoted q⟩ = ⟨tokens, .quoted (pieces.foldl Quoted.take q)⟩ := by
  induction h generalizing q with
  | nil => rfl
  | cons spelled _ ih => rw [List.foldl_append, foldl_spelled tokens spelled, ih, List.foldl_cons]

namespace Quoted

theorem take_unit (q : Quoted) (n : Nat) :
    q.take (.unit n) =
      if Piece.low n then
        match q.half with
        | some high => { q with half := none, read := Char.ofNat (0x10000 + (high - 0xD800) * 0x400 + (n - 0xDC00)) :: q.read }
        | none => { q with whole := false }
      else if Piece.high n then { q.settle with half := some n }
      else q.push (Char.ofNat n) :=
  rfl

/-- Once half of a pair is alone, the string stays mangled. -/
theorem token_of_not_whole {q : Quoted} (h : q.whole = false) (pieces : List Piece) :
    (pieces.foldl take q).token = .string none := by
  induction pieces generalizing q with
  | nil => simp [token, settle, h]
  | cons piece pieces ih =>
    refine ih ?_
    cases piece with
    | char c => simp [take, push, settle, h]
    | unit n =>
      rw [take_unit]
      split
      · split <;> simp [h]
      · split <;> simp [push, settle, h]

/-- A first half is alone in front of anything but a second half. -/
theorem not_whole_of_alone {q : Quoted} (half : q.half.isSome = true) {piece : Piece}
    (other : ∀ n, piece = .unit n → Piece.low n = false) : (q.take piece).whole = false := by
  have alone : q.settle.whole = false := by simp [settle, Option.isNone_eq_false_iff.mpr half]
  cases piece with
  | char c => exact alone
  | unit n =>
    rw [take_unit, other n rfl, if_neg Bool.false_ne_true]
    split
    · exact alone
    · exact alone

/-- The token of a string holds the characters that its pieces stand for. -/
theorem token_of_pieces (pieces : List Piece) (read : List Char) :
    (pieces.foldl take { read }).token =
      .string ((Piece.characters pieces).map fun cs => String.ofList (read.reverse ++ cs)) := by
  fun_induction Piece.characters pieces generalizing read with
  | case1 => simp [token, settle]
  | case2 c rest ih =>
    rw [List.foldl_cons, show take { read } (.char c) = { read := c :: read } from rfl, ih]
    simp [Function.comp_def]
  | case3 n rest second =>
    rw [List.foldl_cons, take_unit, if_pos second]
    exact token_of_not_whole rfl rest
  | case4 n notSecond first m rest second ih =>
    have opened : take { read } (.unit n) = { read, half := some n } := by
      rw [take_unit, if_neg notSecond, if_pos first]
      rfl
    have closed : take { read, half := some n } (.unit m) =
        { read := Char.ofNat (0x10000 + (n - 0xD800) * 0x400 + (m - 0xDC00)) :: read } := by
      rw [take_unit, if_pos second]
    rw [List.foldl_cons, opened, List.foldl_cons, closed, ih]
    simp [Function.comp_def]
  | case5 n notSecond first m rest notPair =>
    rw [List.foldl_cons, take_unit, if_neg notSecond, if_pos first, List.foldl_cons]
    refine token_of_not_whole (not_whole_of_alone rfl fun k same => ?_) rest
    cases same
    simpa using notPair
  | case6 n rest notSecond first alone =>
    rw [List.foldl_cons, take_unit, if_neg notSecond, if_pos first]
    cases rest with
    | nil => rfl
    | cons piece rest =>
      refine token_of_not_whole (not_whole_of_alone rfl fun k same => ?_) rest
      rw [same] at alone
      exact (alone k rest rfl).elim
  | case7 n rest notSecond notFirst ih =>
    have whole : take { read } (.unit n) = { read := Char.ofNat n :: read } := by
      rw [take_unit, if_neg notSecond, if_neg notFirst]
      rfl
    rw [List.foldl_cons, whole, ih]
    simp [Function.comp_def]

end Quoted

theorem foldl_quotation (tokens : Array Token) {text : Option String} {s : List Char} (h : Quotation text s) :
    s.foldl Lexer.step ⟨tokens, .between⟩ = ⟨tokens.push (.string text), .between⟩ := by
  obtain ⟨spelling⟩ := h
  have opened : Lexer.step ⟨tokens, .between⟩ '"' = ⟨tokens, .quoted {}⟩ := rfl
  rw [List.foldl_cons, opened, List.foldl_append, foldl_spelling tokens spelling, List.foldl_cons, List.foldl_nil]
  exact congrArg (fun token => Lexer.mk (tokens.push token) .between) (Quoted.token_of_pieces _ [])

/-! ### Trees -/

mutual

/-- Behind the text of a value the lexer has read the tokens of its tree. -/
theorem behind_value (tokens : Array Token) {j : Json} {s : List Char} : Value j s →
    Behind (s.foldl Lexer.step ⟨tokens, .between⟩) (j.treeTokens.foldl Array.push tokens)
  | .null | .true | .false => .between _
  | .number numeral => behind_numeral tokens numeral
  | .string quotation => by
    rw [foldl_quotation tokens quotation, treeTokens_ofText]
    exact .between _
  | .emptyArray blank => by
    have opened : Lexer.step ⟨tokens, .between⟩ '[' = ⟨tokens.push .beginArray, .between⟩ := rfl
    rw [List.foldl_cons, opened, List.foldl_append, foldl_gap _ blank]
    exact .between _
  | .array elements => by
    have opened : Lexer.step ⟨tokens, .between⟩ '[' = ⟨tokens.push .beginArray, .between⟩ := rfl
    have inside := behind_elements (tokens.push .beginArray) elements
    rw [List.foldl_cons, opened, List.foldl_append, List.foldl_cons, inside.step ⟨rfl, by decide, rfl⟩,
      treeTokens_array, List.foldl_cons, List.foldl_append]
    exact .between _
  | .emptyObject blank => by
    have opened : Lexer.step ⟨tokens, .between⟩ '\x7b' = ⟨tokens.push .beginObject, .between⟩ := rfl
    rw [List.foldl_cons, opened, List.foldl_append, foldl_gap _ blank]
    exact .between _
  | .object members => by
    have opened : Lexer.step ⟨tokens, .between⟩ '\x7b' = ⟨tokens.push .beginObject, .between⟩ := rfl
    have inside := behind_members (tokens.push .beginObject) members
    rw [List.foldl_cons, opened, List.foldl_append, List.foldl_cons, inside.step ⟨rfl, by decide, rfl⟩,
      treeTokens_object, List.foldl_cons, List.foldl_append]
    exact .between _

theorem behind_element (tokens : Array Token) {j : Json} {s : List Char} : Element j s →
    Behind (s.foldl Lexer.step ⟨tokens, .between⟩) (j.treeTokens.foldl Array.push tokens)
  | .intro before value behind => by
    rw [List.foldl_append, List.foldl_append, foldl_gap tokens before]
    exact (behind_value tokens value).gap behind

theorem behind_elements (tokens : Array Token) {items : List Json} {s : List Char} : Elements items s →
    Behind (s.foldl Lexer.step ⟨tokens, .between⟩) ((elementTokens items).foldl Array.push tokens)
  | .last element => by
    rw [elementTokens, itemTokens, List.append_nil]
    exact behind_element tokens element
  | .more element rest => by
    have first := behind_element tokens element
    rw [List.foldl_append, List.foldl_cons, first.step ⟨rfl, by decide, rfl⟩, elementTokens_cons _ rest.nonempty,
      List.foldl_append, List.foldl_cons]
    exact behind_elements _ rest

theorem behind_member (tokens : Array Token) {key : Option String} {j : Json} {s : List Char} : Member key j s →
    Behind (s.foldl Lexer.step ⟨tokens, .between⟩)
      (j.treeTokens.foldl Array.push ((tokens.push (.string key)).push .colon))
  | .intro before name behind element => by
    rw [List.foldl_append, List.foldl_append, List.foldl_append, foldl_gap tokens before, foldl_quotation tokens name,
      foldl_gap _ behind]
    exact behind_element _ element

theorem behind_members (tokens : Array Token) {members : List (Option String × Json)} {s : List Char} :
    Members members s →
    Behind (s.foldl Lexer.step ⟨tokens, .between⟩) ((entryTokens members).foldl Array.push tokens)
  | .last member => by
    rw [entryTokens, memberTokens, List.append_nil]
    exact behind_member tokens member
  | .more member rest => by
    have first := behind_member tokens member
    rw [List.foldl_append, List.foldl_cons, first.step ⟨rfl, by decide, rfl⟩, entryTokens_cons _ _ rest.nonempty,
      List.foldl_cons, List.foldl_cons, List.foldl_append, List.foldl_cons]
    exact behind_members _ rest

end

theorem tokens_of_document {root : Json} {text : String} (h : Document root text) :
    tokens text = root.treeTokens := by
  have read := behind_element #[] h
  rw [tokens, read.finish]
  simp

end Wayfarer.Json
