import Wayfarer.Page.Narrated
import Wayfarer.Proofs.Spot.Dotted
import Wayfarer.Proofs.Typing

/-!
# Delays

The delay of a payload is the number that the digits at its front denote, as long as that fits a 64-bit word. A run
of digits that denotes more makes no delay at all, so that a longer run may ask for a shorter pause.
-/

namespace Wayfarer

/-- Behind blank space the text begins with exactly these digits. -/
def LeadingDigits (payload : String) (digits : List Char) : Prop :=
  ∃ front rest, payload.toList = front ++ (digits ++ rest) ∧ Text.Blank front ∧
    (∀ d ∈ digits, Text.isDigit d = true) ∧
    ∀ c, rest.head? = some c → Text.isDigit c = false ∧ (digits = [] → Text.isBlank c = false)

theorem leadingDigits_iff {payload : String} {digits : List Char} :
    LeadingDigits payload digits ↔ digits = (Text.trimStart payload.toList).takeWhile Text.isDigit := by
  constructor
  · rintro ⟨front, rest, split, blank, all, stop⟩
    have trimmed : Text.trimStart payload.toList = digits ++ rest := by
      rw [split, Text.trimStart, List.dropWhile_append_of_pos blank]
      cases digits with
      | nil =>
        cases rest with
        | nil => rfl
        | cons c rest => simp [(stop c rfl).2 rfl]
      | cons d digits => simp [Text.isBlank_of_isDigit (all d List.mem_cons_self)]
    rw [trimmed, Text.takeWhile_append_stop all fun c first => (stop c first).1]
  · rintro rfl
    obtain ⟨front, blank, split⟩ := Text.exists_trimStart payload.toList
    have whole : (Text.trimStart payload.toList).takeWhile Text.isDigit ++
        (Text.trimStart payload.toList).dropWhile Text.isDigit = Text.trimStart payload.toList :=
      List.takeWhile_append_dropWhile
    refine ⟨front, (Text.trimStart payload.toList).dropWhile Text.isDigit, by rwa [whole], blank,
      fun d member => List.mem_takeWhile_imp member, fun c first => ⟨?_, fun none => ?_⟩⟩
    · simpa [first] using List.head?_dropWhile_not Text.isDigit (Text.trimStart payload.toList)
    · -- without digits the rest is the trimmed text itself
      rw [none, List.nil_append] at whole
      rw [whole, Text.trimStart] at first
      simpa only [first] using List.head?_dropWhile_not Text.isBlank payload.toList

namespace Text

/-- Digits are read as the number that they denote, if that is below the bound. -/
theorem readNumeral_digits {bound : Nat} (positive : 0 < bound) {digits : List Char} (some : digits ≠ [])
    (all : ∀ d ∈ digits, isDigit d = true) {n : Nat} :
    readNumeral bound digits = .ok n ↔ digitsValue digits = n ∧ n < bound := by
  rw [readNumeral_eq_ok positive]
  refine and_congr_left fun _ => ⟨fun numeral => ?_, fun same => same ▸ .plain some all⟩
  cases numeral with
  | plain => rfl
  | signed => exact absurd (all '+' List.mem_cons_self) (by decide)

theorem digitsValue_le_append (digits more : List Char) : digitsValue digits ≤ digitsValue (digits ++ more) := by
  rw [digitsValue, digitsValue, List.foldl_append]
  exact le_foldl_digits _ more

end Text

open Text (digitsValue wordBound)

theorem delay_eq {payload : String} {digits : List Char} (leading : LeadingDigits payload digits) :
    delay payload = if digitsValue digits < wordBound then digitsValue digits else 0 := by
  have all : ∀ d ∈ digits, Text.isDigit d = true := by
    obtain ⟨_, _, _, _, all, _⟩ := leading
    exact all
  unfold delay
  rw [← leadingDigits_iff.mp leading]
  dsimp only
  by_cases none : digits = []
  · subst none
    rfl
  have ok_iff : ∀ n, Text.readNumeral wordBound digits = .ok n ↔ digitsValue digits = n ∧ n < wordBound :=
    fun n => Text.readNumeral_digits (by decide) none all
  split
  next n found =>
    obtain ⟨value, fits⟩ := (ok_iff n).mp found
    rw [if_pos (value ▸ fits), value]
  next fault found =>
    rw [if_neg]
    intro fits
    rw [(ok_iff _).mpr ⟨rfl, fits⟩] at found
    cases found

theorem delay_of_lt {payload : String} {digits : List Char} (leading : LeadingDigits payload digits)
    (fits : digitsValue digits < wordBound) : delay payload = digitsValue digits := by
  rw [delay_eq leading, if_pos fits]

theorem delay_of_ge {payload : String} {digits : List Char} (leading : LeadingDigits payload digits)
    (large : wordBound ≤ digitsValue digits) : delay payload = 0 := by
  rw [delay_eq leading, if_neg (by omega)]

/-- More digits shorten a delay exactly by making the number too large for a word. -/
theorem delay_lt_iff {payload longer : String} {digits more : List Char} (leading : LeadingDigits payload digits)
    (extended : LeadingDigits longer (digits ++ more)) :
    delay longer < delay payload ↔ delay payload ≠ 0 ∧ wordBound ≤ digitsValue (digits ++ more) := by
  have grows := Text.digitsValue_le_append digits more
  rw [delay_eq leading, delay_eq extended]
  split_ifs <;> omega

/-! ### Pauses -/

def PageCall.pause? : PageCall → Option Nat
  | .pause millis => some millis
  | _ => none

/-- How long the pauses among the calls are. -/
def pausesOf (calls : List PageCall) : List Nat :=
  calls.filterMap (·.pause?)

theorem pausesOf_append (calls more : List PageCall) : pausesOf (calls ++ more) = pausesOf calls ++ pausesOf more :=
  List.filterMap_append

theorem pausesOf_typing (selector : String) (millis : Nat) (text : List Char) :
    pausesOf (typing selector millis text) = List.replicate text.length millis := by
  induction text with
  | nil => rfl
  | cons c text ih =>
    rw [List.length_cons, List.replicate_succ, ← ih]
    rfl

theorem Step.pausesOf_keystrokes (step : Step) (text : List Char) :
    pausesOf (step.keystrokes text) = List.replicate text.length (delay step.payload) :=
  pausesOf_typing step.selector (delay step.payload) text

/-- Of calls that ask for nothing but equal pauses, those that were made ask for some of them. -/
theorem Session.Makes.pauses {s t : Session π} [Page π] {calls : List PageCall} {result : Except Failure Unit}
    (makes : s.Makes calls (result, t)) {total millis : Nat} (equal : pausesOf calls = List.replicate total millis) :
    ∃ count, pausesOf t.calls = pausesOf s.calls ++ List.replicate count millis ∧ (result = .ok () → count = total) := by
  cases makes with
  | all made =>
    refine ⟨total, ?_, fun _ => rfl⟩
    rw [made, pausesOf_append, equal]
  | @upTo before call rest reason _ split made =>
    have whole : pausesOf (before ++ [call]) ++ pausesOf rest = List.replicate total millis := by
      rw [← equal, split, ← pausesOf_append, List.append_assoc]
      rfl
    have among : ∀ pause ∈ pausesOf (before ++ [call]), pause = millis := fun pause member =>
      List.eq_of_mem_replicate (whole ▸ List.mem_append_left _ member)
    refine ⟨(pausesOf (before ++ [call])).length, ?_, nofun⟩
    rw [made, pausesOf_append, ← List.eq_replicate_of_mem among]

namespace Action

variable [Page π]

theorem calls_stop (step : Step) (s : Session π) : (stop step s).2.calls = s.calls ++ [.pause (delay step.payload)] :=
  s.calls_request _

theorem typePass_of_missing {step : Step} {s : Session π} (missing : s.pockets.get? step.pocket = .none) :
    typePass step s = (.error ⟨.pocketMissing step.pocket, []⟩, s) := by
  have looked : (Act.pocket? step.pocket : Act π (Option String)) s = (.ok .none, s) :=
    congrArg (fun found => (Except.ok found, s)) missing
  unfold typePass Act.pocket
  rw [total_bind_apply, total_bind_apply, looked]
  rfl

theorem pauses_typePass (step : Step) (s : Session π) :
    ∃ count, pausesOf (typePass step s).2.calls = pausesOf s.calls ++ List.replicate count (delay step.payload) ∧
      ((typePass step s).1 = .ok () → ∃ text, s.pockets.get? step.pocket = some text ∧ count = text.length) := by
  cases found : s.pockets.get? step.pocket with
  | none =>
    rw [typePass_of_missing found]
    exact ⟨0, (List.append_nil _).symm, nofun⟩
  | some text =>
    obtain ⟨count, pauses, all⟩ := (typePass_makes found).pauses (step.pausesOf_keystrokes text.toList)
    exact ⟨count, pauses, fun done => ⟨text, rfl, (all done).trans String.length_toList⟩⟩

/-- The digits at the front of a payload are determined by it. As long as they denote a 64-bit number, a step that
stops pauses once for so many milliseconds, and a step that types character by character does so before each
character; beyond that both pause for none. So a payload with more digits makes a shorter pause exactly if its
digits denote no 64-bit number and those of the other made some pause. -/
theorem pauses_exact (step : Step) (s : Session π) :
    ∃ digits, (∀ others, LeadingDigits step.payload others ↔ others = digits) ∧
      ∃ millis, (digitsValue digits < wordBound → millis = digitsValue digits) ∧
        (wordBound ≤ digitsValue digits → millis = 0) ∧
        (stop step s).2.calls = s.calls ++ [.pause millis] ∧
        (∃ count, pausesOf (typePass step s).2.calls = pausesOf s.calls ++ List.replicate count millis ∧
          ((typePass step s).1 = .ok () → ∃ text, s.pockets.get? step.pocket = some text ∧ count = text.length)) ∧
        ∀ (longer : Step) more, LeadingDigits longer.payload (digits ++ more) →
          ∃ other, (stop longer s).2.calls = s.calls ++ [.pause other] ∧
            (other < millis ↔ millis ≠ 0 ∧ wordBound ≤ digitsValue (digits ++ more)) := by
  refine ⟨_, fun others => leadingDigits_iff, delay step.payload, ?_⟩
  have leading := leadingDigits_iff.mpr (rfl : (Text.trimStart step.payload.toList).takeWhile Text.isDigit = _)
  refine ⟨delay_of_lt leading, delay_of_ge leading, calls_stop step s, pauses_typePass step s, ?_⟩
  intro longer more extended
  exact ⟨delay longer.payload, calls_stop longer s, delay_lt_iff leading extended⟩

def waitStep (payload : String) : Step where
  id := .step "wait"
  description := ""
  action := .stop
  payload := payload

theorem leadingDigits_of_digits {digits : String} (all : digits.toList.all Text.isDigit = true) :
    LeadingDigits digits digits.toList :=
  ⟨[], [], by simp, nofun, List.all_eq_true.mp all, nofun⟩

/-- Twenty digits that denote 2 ^ 64 ask for no pause, while the first nineteen of them ask for one. -/
theorem pause_lost_beyond_word :
    LeadingDigits (waitStep "18446744073709551616").payload "18446744073709551616".toList ∧
      digitsValue "18446744073709551616".toList = 18446744073709551616 ∧
      (stop (waitStep "18446744073709551616") ({ page := ⟨⟩, pockets := {} } : Session NarratedPage)).2.calls = [.pause 0] ∧
      (stop (waitStep "1844674407370955161") ({ page := ⟨⟩, pockets := {} } : Session NarratedPage)).2.calls =
        [.pause 1844674407370955161] := by
  refine ⟨leadingDigits_of_digits (by decide +kernel), by decide +kernel, by decide +kernel, by decide +kernel⟩

end Action

end Wayfarer
