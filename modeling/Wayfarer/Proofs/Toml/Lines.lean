import Wayfarer.Proofs.Json.Printing
import Wayfarer.Toml.Reader

/-!
# Lines of TOML

`Lines` says which texts give values to keys of the top level, line by line, however the lines are spaced, commented
and ended. `read?_of_lines` shows that such a text is read as its keys with their values, in their order.
-/

namespace Wayfarer.Toml

/-! ### The lines -/

def Gap (s : List Char) : Prop :=
  ∀ c ∈ s, isLineBlank c = true

instance : DecidablePred Gap := fun s => List.decidableBAll _ s

inductive Comment : List Char → Prop
  | none : Comment []
  | some {text : List Char} : (∀ c ∈ text, isPlain c = true) → Comment ('#' :: text)

/-- How a line ends in front of the rest. Nothing need end the last one. -/
inductive Ending : List Char → List Char → Prop
  | feed (rest : List Char) : Ending ['\n'] rest
  | both (rest : List Char) : Ending ['\r', '\n'] rest
  | last : Ending [] []

/-- What may stand on a line behind all that counts, and then the rest. -/
inductive Trail : List Char → List Char → Prop
  | intro {gap comment ending rest : List Char} : Gap gap → Comment comment → Ending ending rest →
    Trail (gap ++ (comment ++ (ending ++ rest))) rest

/-- The largest integers are below this. -/
def wideBound : Nat := 0x100000000000000000000000000000000

inductive Literal : Value → List Char → Prop
  | integer {n : Nat} : n < wideBound → Literal (.integer n) (toString n).toList
  | boolean (b : Bool) : Literal (.boolean b) (toString b).toList

structure BareKey (s : List Char) : Prop where
  nonempty : s ≠ []
  inside : ∀ c ∈ s, isBareKey c = true

/-- A line in front of the rest, and what it adds. -/
inductive Line : List (String × Value) → List Char → List Char → Prop
  | blank {s rest : List Char} : Trail s rest → Line [] s rest
  | entry {key : String} {v : Value} {indent before behind literal tail rest : List Char} :
    Gap indent → BareKey key.toList → Gap before → Gap behind → Literal v literal → Trail tail rest →
    Line [(key, v)] (indent ++ (key.toList ++ (before ++ '=' :: (behind ++ (literal ++ tail))))) rest

inductive Lines : List (String × Value) → List Char → Prop
  | nil : Lines [] []
  | cons {es more : List (String × Value)} {s rest : List Char} : Line es s rest → Lines more rest →
    Lines (es ++ more) s

theorem Gap.nil : Gap [] :=
  nofun

theorem skipBlanks_append {gap rest : List Char} (h : Gap gap)
    (stop : ∀ c, rest.head? = some c → isLineBlank c = false) : skipBlanks (gap ++ rest) = rest :=
  Text.dropWhile_append_stop h stop

theorem endsBare_of_isLineBlank {c : Char} (h : isLineBlank c = true) : endsBare c = true := by
  simp only [endsBare, h, Bool.true_or]

theorem isLineBlank_of_not_endsBare {c : Char} (h : endsBare c = false) : isLineBlank c = false := by
  cases blank : isLineBlank c with
  | false => rfl
  | true => cases h.symm.trans (endsBare_of_isLineBlank blank)

/-! ### The end of a line -/

theorem Ending.stop {ending rest : List Char} (h : Ending ending rest) {c : Char}
    (first : (ending ++ rest).head? = some c) : c = '\n' ∨ c = '\r' := by
  cases h with
  | feed => exact .inl (Option.some.inj first).symm
  | both => exact .inr (Option.some.inj first).symm
  | last => cases first

theorem skipComment_append {comment ending rest : List Char} (h : Comment comment) (ends : Ending ending rest) :
    skipComment (comment ++ (ending ++ rest)) = ending ++ rest := by
  cases h with
  | none => cases ends <;> rfl
  | some plain =>
    refine Text.dropWhile_append_stop plain fun c first => ?_
    rcases ends.stop first with rfl | rfl <;> rfl

/-- Behind its blanks, a line that says nothing holds a comment or ends. -/
theorem bare_first {comment ending rest : List Char} (h : Comment comment) (ends : Ending ending rest) {c : Char}
    (first : (comment ++ (ending ++ rest)).head? = some c) : c = '#' ∨ c = '\n' ∨ c = '\r' := by
  cases h with
  | none => exact .inr (ends.stop first)
  | some => exact .inl (Option.some.inj first).symm

theorem isLineBlank_bare_first {comment ending rest : List Char} (h : Comment comment) (ends : Ending ending rest)
    (c : Char) (first : (comment ++ (ending ++ rest)).head? = some c) : isLineBlank c = false := by
  rcases bare_first h ends first with rfl | rfl | rfl <;> rfl

namespace Trail

theorem endsBare {s rest : List Char} (h : Trail s rest) {c : Char} (first : s.head? = some c) :
    endsBare c = true := by
  obtain @⟨blanks, _, _, _, gap, comment, ending⟩ := h
  cases blanks with
  | nil => rcases bare_first comment ending first with rfl | rfl | rfl <;> rfl
  | cons b blanks =>
    rw [← Option.some.inj first]
    exact endsBare_of_isLineBlank (gap b List.mem_cons_self)

theorem shorter {s rest : List Char} (h : Trail s rest) : rest = [] ∨ rest.length < s.length := by
  obtain ⟨-, -, ending⟩ := h
  cases ending with
  | last => exact .inl rfl
  | feed | both => exact .inr (by simp only [List.length_append, List.length_cons]; omega)

theorem finishLine {s rest : List Char} (h : Trail s rest) : finishLine s = some rest := by
  obtain ⟨gap, comment, ending⟩ := h
  rw [Toml.finishLine, skipBlanks_append gap (isLineBlank_bare_first comment ending),
    skipComment_append comment ending]
  cases ending <;> rfl

theorem readStart {s rest : List Char} (h : Trail s rest) (d : Document) :
    ∃ middle, d.readStart (skipBlanks s) = some (d, middle) ∧ Toml.finishLine middle = some rest := by
  obtain ⟨gap, comment, ending⟩ := h
  rw [skipBlanks_append gap (isLineBlank_bare_first comment ending)]
  refine ⟨_, ?_, (Trail.intro Gap.nil comment ending).finishLine⟩
  cases comment with
  | some => rfl
  | none => cases ending <;> rfl

end Trail

/-! ### Values -/

theorem digitsRun_rest {count n : Nat} {s rest : List Char} (h : digitsRun count s = some (n, rest)) :
    rest = s.drop count := by
  rw [digitsRun] at h
  split at h
  · exact (Prod.mk.inj (Option.some.inj h)).2.symm
  · cases h

/-- The parts of a day have dashes between them. -/
theorem day_eq_none {s : List Char} (undashed : '-' ∉ s) : day s = none := by
  unfold day
  cases run : digitsRun 4 s with
  | none => rfl
  | some found =>
    obtain ⟨year, rest⟩ := found
    have among : ∀ c ∈ rest, c ∈ s := by
      rw [digitsRun_rest run]
      exact fun c => List.mem_of_mem_drop
    simp only [Option.bind_eq_bind, Option.bind_some]
    split
    · exact absurd (among '-' List.mem_cons_self) undashed
    · rfl

theorem joined_digits {digit : Char → Bool} (underscore : digit '_' = false) {s : List Char} (some : s ≠ [])
    (digits : ∀ c ∈ s, digit c = true) : joined digit s = .some s := by
  induction s with
  | nil => exact absurd rfl some
  | cons c s ih =>
    rw [List.forall_mem_cons] at digits
    cases s with
    | nil => simp only [joined, digits.1, if_true]
    | cons d s =>
      have apart : d ≠ '_' := by
        rintro rfl
        rw [digits.2 '_' List.mem_cons_self] at underscore
        cases underscore
      rw [joined, if_pos digits.1, ih (List.cons_ne_nil d s) digits.2, Option.map_some]
      · simp
      · rintro rest same
        exact apart (List.cons.inj same).1

open Json.Grammar (Whole)

theorem all_digits {s : List Char} (h : Whole s) : s ≠ [] ∧ ∀ c ∈ s, Text.isDigit c = true := by
  cases h with
  | zero => exact ⟨List.cons_ne_nil _ _, List.forall_mem_singleton.mpr rfl⟩
  | more digit _ digits => exact ⟨List.cons_ne_nil _ _, List.forall_mem_cons.mpr ⟨digit, digits⟩⟩

theorem decimal_whole {s : List Char} (h : Whole s) : decimal s = some (Text.digitsValue s) := by
  obtain ⟨nonempty, digits⟩ := all_digits h
  rw [decimal, joined_digits (by decide) nonempty digits]
  cases h with
  | zero => rfl
  | more _ nonzero _ => simp [nonzero]

theorem endsBare_of_isDigit {c : Char} (digit : Text.isDigit c = true) : endsBare c = false := by
  cases ends : endsBare c with
  | false => rfl
  | true =>
    simp only [endsBare, isLineBlank, Bool.or_eq_true, beq_iff_eq, List.contains_iff_mem, List.mem_cons,
      List.not_mem_nil, or_false] at ends
    obtain (rfl | rfl) | rfl | rfl | rfl | rfl | rfl | rfl | rfl | rfl | rfl | rfl | rfl := ends
    all_goals cases digit

theorem splitSign_digits {s : List Char} (digits : ∀ c ∈ s, Text.isDigit c = true) : splitSign s = (false, s) := by
  unfold splitSign
  split
  · exact absurd (digits '-' List.mem_cons_self) (by decide)
  · exact absurd (digits '+' List.mem_cons_self) (by decide)
  · rfl

theorem whole_digits (signed : Bool) {s : List Char} (digits : ∀ c ∈ s, Text.isDigit c = true) :
    whole signed s = decimal s := by
  unfold whole
  split
  · exact absurd (digits '_' List.mem_cons_self) (by decide)
  · rfl

theorem inRange_natCast {n : Nat} (small : n < wideBound) : inRange n = true := by
  simp only [inRange, Bool.and_eq_true, decide_eq_true_eq]
  unfold wideBound at small
  omega

/-- Digits hold no letter that marks another base. -/
theorem integer_digits {s : List Char} (digits : ∀ c ∈ s, Text.isDigit c = true) :
    integer s = (decimal s).bind fun n => if inRange n then some (n : Int) else none := by
  have second : ∀ {mark : Char} {rest : List Char}, s = '0' :: mark :: rest → Text.isDigit mark = true := by
    rintro mark rest rfl
    exact digits mark (by simp)
  unfold integer
  split
  · cases second rfl
  · cases second rfl
  · cases second rfl
  · rw [splitSign_digits digits]
    simp only [whole_digits _ digits]
    cases decimal s <;> rfl

/-- Digits are no word, so that they are a number. -/
theorem bare_whole {s : List Char} (h : Whole s) (small : Text.digitsValue s < wideBound) :
    bare s = some (.integer (Text.digitsValue s)) := by
  have digits := (all_digits h).2
  have notWord : ∀ {c : Char} {w : List Char}, Text.isDigit c = false → s ≠ c :: w := by
    rintro c w other rfl
    cases other.symm.trans (digits c List.mem_cons_self)
  rw [bare, if_neg (by simpa using notWord rfl), if_neg (by simpa using notWord rfl), integer_digits digits,
    decimal_whole h, Option.bind_some, if_pos (inRange_natCast small)]

namespace Literal

theorem bare {v : Value} {s : List Char} (h : Literal v s) : bare s = some v := by
  cases h with
  | @integer n small =>
    rw [Nat.toString_eq_ofList_toDigits, String.toList_ofList]
    have read := bare_whole (Json.whole_toDigits n)
    rw [Text.digitsValue_toDigits] at read
    exact read small
  | boolean b => cases b <;> rfl

theorem nonempty {v : Value} {s : List Char} (h : Literal v s) : s ≠ [] := by
  cases h with
  | @integer n _ => exact (Text.numeral_toString n).ne_nil
  | boolean b => cases b <;> decide

theorem inside {v : Value} {s : List Char} (h : Literal v s) {c : Char} (member : c ∈ s) :
    endsBare c = false ∧ c ≠ '-' := by
  cases h with
  | @integer n _ =>
    rw [Nat.toString_eq_ofList_toDigits, String.toList_ofList] at member
    have digit : Text.isDigit c = true := Nat.isDigit_of_mem_toDigits (by decide) (by decide) member
    exact ⟨endsBare_of_isDigit digit, by rintro rfl; cases digit⟩
  | boolean b =>
    have letters : (toString b).toList.all (fun c => !endsBare c && c != '-') = true := by cases b <;> decide
    simpa using List.all_eq_true.mp letters c member

end Literal

theorem bareValue_append {s tail : List Char} {v : Value} (read : bare s = some v) (undashed : '-' ∉ s)
    (inside : ∀ c ∈ s, endsBare c = false) (stop : ∀ c, tail.head? = some c → endsBare c = true) :
    bareValue (s ++ tail) = some (v, tail) := by
  have split : (s ++ tail).span (!endsBare ·) = (s, tail) :=
    Text.span_append_stop (fun c member => by simp [inside c member]) fun c first => by simp [stop c first]
  unfold bareValue
  rw [split]
  simp only [day_eq_none undashed, read, Option.map_some]

/-- No value that is quoted or has brackets begins like a bare one. -/
theorem value_of_bare {c : Char} (inside : endsBare c = false) (fuel depth : Nat) (s : List Char) :
    value (fuel + 1) depth (c :: s) = bareValue (c :: s) := by
  unfold value
  split
  next same => cases same; cases inside
  next same => cases same; cases inside
  next same => cases same; cases inside
  next same => cases same; cases inside
  next => rfl

theorem Literal.value {v : Value} {s tail rest : List Char} (h : Literal v s) (trail : Trail tail rest)
    (fuel depth : Nat) : Toml.value (fuel + 1) depth (s ++ tail) = some (v, tail) := by
  have read : bareValue (s ++ tail) = some (v, tail) :=
    bareValue_append h.bare (fun dash => (h.inside dash).2 rfl) (fun _ member => (h.inside member).1)
      fun _ first => trail.endsBare first
  obtain ⟨c, cs, rfl⟩ := List.exists_cons_of_ne_nil h.nonempty
  rw [List.cons_append] at read ⊢
  rw [value_of_bare (h.inside List.mem_cons_self).1, read]

/-! ### Keys -/

theorem isBareKey_ne {c d : Char} (h : isBareKey c = true) (other : isBareKey d = false) : c ≠ d := by
  rintro rfl
  cases h.symm.trans other

theorem isLineBlank_of_isBareKey {c : Char} (h : isBareKey c = true) : isLineBlank c = false := by
  simp [isLineBlank, isBareKey_ne h (d := ' ') rfl, isBareKey_ne h (d := '\t') rfl]

theorem quotedLine_of_isBareKey {c : Char} (h : isBareKey c = true) (s : List Char) : quotedLine (c :: s) = none := by
  unfold quotedLine
  split
  next same => cases same; cases h
  next same => cases same; cases h
  next => rfl

theorem BareKey.first {k : List Char} (h : BareKey k) : ∃ c cs, k = c :: cs ∧ isBareKey c = true := by
  obtain ⟨c, cs, rfl⟩ := List.exists_cons_of_ne_nil h.nonempty
  exact ⟨c, cs, rfl, h.inside c List.mem_cons_self⟩

theorem BareKey.isLineBlank_first {k : List Char} (h : BareKey k) (rest : List Char) (c : Char)
    (first : (k ++ rest).head? = some c) : isLineBlank c = false := by
  obtain ⟨l, ls, rfl, letter⟩ := h.first
  cases first
  exact isLineBlank_of_isBareKey letter

theorem keyPart_append {k rest : List Char} (bareKey : BareKey k)
    (stop : ∀ c, rest.head? = some c → isBareKey c = false) : keyPart (k ++ rest) = some (String.ofList k, rest) := by
  have split : (k ++ rest).span isBareKey = (k, rest) := Text.span_append_stop bareKey.inside stop
  obtain ⟨c, cs, rfl, letter⟩ := bareKey.first
  rw [keyPart, split, List.cons_append, quotedLine_of_isBareKey letter]

/-- A key is read up to the sign of equality behind it. -/
theorem key_append {k gap : List Char} (bareKey : BareKey k) (blank : Gap gap) (rest : List Char) :
    key (k ++ (gap ++ '=' :: rest)) = some (([], String.ofList k), '=' :: rest) := by
  have stop : ∀ c, (gap ++ '=' :: rest).head? = some c → isBareKey c = false := by
    intro c same
    cases gap with
    | nil => cases same; rfl
    | cons b gap =>
      cases same
      cases other : isBareKey c with
      | false => rfl
      | true => cases (isLineBlank_of_isBareKey other).symm.trans (blank c List.mem_cons_self)
  have parts : ∀ fuel, keyParts (fuel + 1) (k ++ (gap ++ '=' :: rest)) =
      some (([], String.ofList k), '=' :: rest) := by
    intro fuel
    have unpadded : skipBlanks (k ++ (gap ++ '=' :: rest)) = k ++ (gap ++ '=' :: rest) :=
      skipBlanks_append Gap.nil (bareKey.isLineBlank_first _)
    have behind : skipBlanks (gap ++ '=' :: rest) = '=' :: rest :=
      skipBlanks_append blank fun c same => by cases same; rfl
    simp [keyParts, unpadded, keyPart_append bareKey stop, behind]
  have room : (k ++ (gap ++ '=' :: rest)).length ≠ 0 := by simp
  obtain ⟨fuel, length⟩ := Nat.exists_eq_succ_of_ne_zero room
  rw [key, length, parts fuel]
  rfl

/-! ### Reading lines -/

def node (e : String × Value) : String × Node :=
  (e.1, .value e.2)

theorem find?_eq_none {es : Entries} {k : String} (fresh : k ∉ es.map (·.1)) : es.find? k = none := by
  rw [Entries.find?, Option.map_eq_none_iff, List.find?_eq_none]
  intro e member same
  exact fresh (List.mem_map.mpr ⟨e, member, eq_of_beq same⟩)

theorem addValueIn_fresh {es : Entries} {k : String} (fresh : k ∉ es.map (·.1)) (v : Value) :
    es.addValueIn [] [] k v = some (es ++ [(k, .value v)]) := by
  simp [Entries.addValueIn, Entries.addValue, Entries.within, find?_eq_none fresh]

/-- What begins with a letter is a key with its value. -/
theorem readStart_of_key {d : Document} {c : Char} {s after tail : List Char} {k : String} {v : Value} {es : Entries}
    (letter : isBareKey c = true) (keyed : key (c :: s) = some (([], k), '=' :: after))
    (valued : value (s.length + 1) 0 (skipBlanks after) = some (v, tail))
    (added : d.entries.addValueIn d.header [] k v = some es) :
    d.readStart (c :: s) = some ({ d with entries := es }, tail) := by
  unfold Document.readStart
  split
  next same => cases same; cases letter
  next same => cases same; cases letter
  next same => cases same
  next same =>
    cases same
    rw [if_neg (by simp [isBareKey_ne letter (d := '#') rfl, isBareKey_ne letter (d := '\n') rfl,
      isBareKey_ne letter (d := '\r') rfl]), keyed]
    simp [valued, added]

theorem readStart_entry {d : Document} (top : d.header = []) {k : String} {v : Value}
    {before behind literal tail rest : List Char} (bareKey : BareKey k.toList) (blank : Gap before) (padding : Gap behind)
    (spelled : Literal v literal) (trail : Trail tail rest) (fresh : k ∉ d.entries.map (·.1)) :
    d.readStart (k.toList ++ (before ++ '=' :: (behind ++ (literal ++ tail)))) =
      some ({ d with entries := d.entries ++ [(k, .value v)] }, tail) := by
  have keyed := key_append bareKey blank (behind ++ (literal ++ tail))
  have unpadded : skipBlanks (behind ++ (literal ++ tail)) = literal ++ tail := by
    refine skipBlanks_append padding fun c first => isLineBlank_of_not_endsBare ?_
    obtain ⟨l, ls, rfl⟩ := List.exists_cons_of_ne_nil spelled.nonempty
    cases first
    exact (spelled.inside List.mem_cons_self).1
  obtain ⟨c, cs, split, letter⟩ := bareKey.first
  rw [String.ofList_toList, split] at keyed
  rw [split]
  refine readStart_of_key letter keyed ?_ (by rw [top, addValueIn_fresh fresh v])
  rw [unpadded]
  exact spelled.value trail _ 0

namespace Line

variable {es : List (String × Value)} {s rest : List Char}

theorem readStart (h : Line es s rest) {d : Document} (top : d.header = [])
    (fresh : (d.entries.map (·.1) ++ es.map (·.1)).Nodup) :
    ∃ middle, d.readStart (skipBlanks s) = some ({ d with entries := d.entries ++ es.map node }, middle) ∧
      finishLine middle = some rest := by
  cases h with
  | blank trail =>
    obtain ⟨middle, starts, ends⟩ := trail.readStart d
    exact ⟨middle, by simpa using starts, ends⟩
  | @entry k v indent before behind literal tail _ indents bareKey blank padding spelled trail =>
    have unpadded : skipBlanks (indent ++ (k.toList ++ (before ++ '=' :: (behind ++ (literal ++ tail))))) =
        k.toList ++ (before ++ '=' :: (behind ++ (literal ++ tail))) :=
      skipBlanks_append indents (bareKey.isLineBlank_first _)
    refine ⟨tail, ?_, trail.finishLine⟩
    rw [unpadded, readStart_entry top bareKey blank padding spelled trail]
    · rfl
    · have apart := (List.nodup_append.mp fresh).2.2
      exact fun old => apart k old k (by simp) rfl

theorem shorter (h : Line es s rest) : rest = [] ∨ rest.length < s.length := by
  cases h with
  | blank trail => exact trail.shorter
  | entry _ _ _ _ _ trail =>
    refine trail.shorter.imp_right fun less => ?_
    simp only [List.length_append, List.length_cons]
    omega

/-- A line takes a character, unless nothing is left. -/
theorem readLines (h : Line es s rest) {d : Document} (top : d.header = [])
    (fresh : (d.entries.map (·.1) ++ es.map (·.1)).Nodup) {fuel : Nat} (room : s.length < fuel) :
    ∃ left, rest.length < left ∧
      Document.readLines fuel d s = Document.readLines left { d with entries := d.entries ++ es.map node } rest := by
  obtain ⟨middle, starts, ends⟩ := h.readStart top fresh
  obtain ⟨left, rfl⟩ := Nat.exists_eq_succ_of_ne_zero (Nat.ne_zero_of_lt room)
  cases rest with
  | nil => exact ⟨1, Nat.one_pos, by simp [Document.readLines, starts, ends]; rfl⟩
  | cons c rest =>
    have less : (c :: rest).length < s.length := h.shorter.resolve_left (List.cons_ne_nil c rest)
    exact ⟨left, by omega, by simp [Document.readLines, starts, ends]⟩

/-- No line begins with the mark of the byte order. -/
theorem unmarked (h : Line es s rest) : s.head? ≠ some '\uFEFF' := by
  intro first
  cases h with
  | blank trail => cases trail.endsBare first
  | entry indents bareKey =>
    rename_i k _ indent _ _ _ _ _ _ _ _
    cases indent with
    | nil =>
      obtain ⟨l, ls, split, letter⟩ := bareKey.first
      rw [split] at first
      cases first
      cases letter
    | cons b indent =>
      cases first
      cases indents _ List.mem_cons_self

end Line

namespace Lines

variable {es : List (String × Value)} {s : List Char}

/-- The lines are read one after the other, and add what they say to what is there. -/
theorem readLines (h : Lines es s) {d : Document} (top : d.header = [])
    (fresh : (d.entries.map (·.1) ++ es.map (·.1)).Nodup) {fuel : Nat} (room : s.length < fuel) :
    Document.readLines fuel d s = some { d with entries := d.entries ++ es.map node } := by
  induction h generalizing d fuel with
  | nil =>
    obtain ⟨left, rfl⟩ := Nat.exists_eq_succ_of_ne_zero (Nat.ne_zero_of_lt room)
    simp [Document.readLines, skipBlanks, Document.readStart, finishLine, skipComment]
  | @cons es more s rest line _ ih =>
    rw [List.map_append, ← List.append_assoc] at fresh
    obtain ⟨left, less, step⟩ := line.readLines top (List.nodup_append.mp fresh).1 room
    have grown : (d.entries ++ es.map node).map (·.1) = d.entries.map (·.1) ++ es.map (·.1) := by
      simp [node, Function.comp_def]
    rw [← grown] at fresh
    rw [step, ih (d := { d with entries := d.entries ++ es.map node }) top fresh less, List.map_append,
      List.append_assoc]

theorem unmarked (h : Lines es s) : s.head? ≠ some '\uFEFF' := by
  cases h with
  | nil => simp
  | cons line _ => exact line.unmarked

end Lines

theorem read?_of_lines {es : List (String × Value)} {text : String} (h : Lines es text.toList)
    (apart : (es.map (·.1)).Nodup) : read? text = some (es.map node) := by
  have whole : Document.readLines (text.toList.length + 1) {} text.toList = some { entries := [] ++ es.map node } :=
    h.readLines rfl (by simpa using apart) (Nat.lt_succ_self _)
  unfold read?
  split
  next marked => exact absurd (by rw [marked]; rfl) h.unmarked
  next => simp only [whole, Option.map_some, List.nil_append]

end Wayfarer.Toml
