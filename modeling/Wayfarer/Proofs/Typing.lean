import Wayfarer.Action
import Wayfarer.Proofs.Calls

/-!
# Text that is entered

Pasting sets the field to all but the last character of a text and types that one. Typing character by character
makes a pause in front of each. Neither leaves out, repeats or moves a character, wherever the page may stop it.
-/

namespace Wayfarer

/-- The text that the call puts into its element. -/
def PageCall.entered : PageCall → String
  | .type _ text | .setValue _ text => text
  | _ => ""

/-- What the calls put into elements, one after the other. -/
def entered (calls : List PageCall) : String :=
  String.ofList (calls.flatMap (·.entered.toList))

/-- Each character in a call of its own, behind a pause. -/
def typing (selector : String) (millis : Nat) (text : List Char) : List PageCall :=
  text.flatMap fun c => [.pause millis, .type selector (String.singleton c)]

theorem typing_append (selector : String) (millis : Nat) (text more : List Char) :
    typing selector millis (text ++ more) = typing selector millis text ++ typing selector millis more :=
  List.flatMap_append

/-- What a call for a character comes behind. -/
theorem typing_split {selector : String} {millis : Nat} {text : List Char} {before rest : List PageCall} {call : PageCall}
    (split : typing selector millis text = before ++ call :: rest) (noPause : ∀ millis, call ≠ .pause millis) :
    ∃ front c behind, text = front ++ c :: behind ∧ before = typing selector millis front ++ [.pause millis] ∧
      call = .type selector (String.singleton c) := by
  induction text generalizing before with
  | nil =>
    simp [typing] at split
  | cons c text ih =>
    have calls : typing selector millis (c :: text) =
        .pause millis :: .type selector (String.singleton c) :: typing selector millis text := rfl
    rw [calls] at split
    match before, split with
    | [], split =>
      cases split
      exact absurd rfl (noPause millis)
    | [_], split =>
      cases split
      exact ⟨[], c, text, rfl, rfl, rfl⟩
    | _ :: _ :: before, split =>
      simp only [List.cons_append, List.cons.injEq] at split
      obtain ⟨rfl, rfl, split⟩ := split
      obtain ⟨front, d, behind, rfl, rfl, same⟩ := ih split
      exact ⟨c :: front, d, behind, rfl, rfl, same⟩

namespace Step

/-- The calls by which the step types characters one by one. -/
def keystrokes (step : Step) (text : List Char) : List PageCall :=
  .await step.selector :: typing step.selector (delay step.payload) text

theorem entered_keystrokes (step : Step) (text : List Char) : entered (step.keystrokes text) = String.ofList text := by
  have each : ∀ c : Char, (String.singleton c).toList = [c] := fun c => by simp
  simp [entered, keystrokes, typing, PageCall.entered, List.flatMap_assoc, each]

/-- The text to be pasted: what the pocket holds, or the payload if that is nothing. -/
def pasted (step : Step) (pockets : Pockets) : String :=
  match pockets.get? step.pocket with
  | some content => if content = "" then step.payload else content
  | none => step.payload

/-- There is a pocket or a payload to be pasted. -/
def Pastes (step : Step) (pockets : Pockets) : Prop :=
  pockets.get? step.pocket ≠ none ∨ step.payload ≠ ""

end Step

namespace Action

open Act

theorem append_splitLast (text : String) : (splitLast text).1 ++ (splitLast text).2 = text := by
  rw [← String.toList_inj]
  simp only [splitLast, String.toList_append, String.toList_ofList, List.dropLast_eq_take, String.length_toList]
  exact List.take_append_drop (text.length - 1) text.toList

theorem toList_splitLast (text : String) : (splitLast text).2.toList = text.toList.getLast?.toList := by
  rw [splitLast, String.toList_ofList, ← String.length_toList]
  rcases List.eq_nil_or_concat text.toList with empty | ⟨front, last, split⟩
  · rw [empty]
    rfl
  · rw [split]
    simp

variable [Page π]

theorem makes_typeEach (selector : String) (millis : Nat) (text : List Char) :
    Makes (typeEach selector millis text : Act π Unit) (typing selector millis text) := by
  induction text with
  | nil => exact makes_pure
  | cons c text ih =>
    exact (makes_pause millis).bind ((makes_ask (c := .type selector (String.singleton c)) nofun).bind ih)

theorem typePass_makes {step : Step} {s : Session π} {text : String} (holds : s.pockets.get? step.pocket = some text) :
    s.Makes (step.keystrokes text.toList) (typePass step s) := by
  have found : (Act.pocket step.pocket : Act π String) s = (.ok text, s) := by
    unfold Act.pocket
    rw [total_bind_apply, pocket?]
    simp only [ExceptT.mk, holds]
    rfl
  unfold typePass
  rw [total_bind_apply, found]
  exact (makes_ask (c := .await step.selector) nofun).bind (makes_typeEach step.selector (delay step.payload) text.toList) s

theorem makes_entering (selector text : String) :
    Makes (do
      Act.ask (.await selector)
      Act.ask (.setValue selector (splitLast text).1)
      Act.ask (.type selector (splitLast text).2) : Act π Unit)
      [.await selector, .setValue selector (splitLast text).1, .type selector (splitLast text).2] :=
  (makes_ask (c := .await _) nofun).bind
    ((makes_ask (c := .setValue _ _) nofun).bind (makes_ask (c := .type _ _) nofun))

theorem paste_makes {step : Step} {s : Session π} (pastes : step.Pastes s.pockets) :
    s.Makes [.await step.selector, .setValue step.selector (splitLast (step.pasted s.pockets)).1,
      .type step.selector (splitLast (step.pasted s.pockets)).2] (paste step s) := by
  have looked : (Act.pocket? step.pocket : Act π (Option String)) s = (.ok (s.pockets.get? step.pocket), s) := rfl
  unfold paste
  rw [total_bind_apply, looked]
  unfold Step.pasted
  cases found : s.pockets.get? step.pocket with
  | none =>
    have something : step.payload ≠ "" := pastes.resolve_left fun there => there found
    simpa [something] using makes_entering step.selector step.payload s
  | some content =>
    simpa using makes_entering step.selector (if content = "" then step.payload else content) s

theorem paste_of_nothing {step : Step} {s : Session π} (nothing : ¬ step.Pastes s.pockets) :
    paste step s = (.error ⟨.nothingToPaste step.pocket, []⟩, s) := by
  obtain ⟨absent, empty⟩ := not_or.mp nothing
  have looked : (Act.pocket? step.pocket : Act π (Option String)) s = (.ok (s.pockets.get? step.pocket), s) := rfl
  unfold paste
  rw [total_bind_apply, looked, Decidable.not_not.mp absent, Decidable.not_not.mp empty]
  rfl

/-- A paste that succeeds sets the field to all but the last character of its text, types that character, and makes
no other call but to wait for the element. Typing character by character enters, in order, all characters of the pocket, or
those up to the one that the page refuses, each in a call of its own behind a pause. -/
theorem typed_whole (step : Step) (s : Session π) :
    (∃ front last, front ++ last = step.pasted s.pockets ∧
      last.toList = (step.pasted s.pockets).toList.getLast?.toList ∧
      ((paste step s).1 = .ok () ↔ step.Pastes s.pockets ∧
        Page.GrantsAll s.page [.await step.selector, .setValue step.selector front, .type step.selector last]) ∧
      ∀ t, paste step s = (.ok (), t) →
        t.calls = s.calls ++ [.await step.selector, .setValue step.selector front, .type step.selector last]) ∧
    ∀ text, s.pockets.get? step.pocket = some text →
      ((typePass step s).1 = .ok () ↔ Page.GrantsAll s.page (step.keystrokes text.toList)) ∧
      (∀ t, typePass step s = (.ok (), t) →
        t.calls = s.calls ++ step.keystrokes text.toList ∧ entered (step.keystrokes text.toList) = text) ∧
      ∀ f t, typePass step s = (.error f, t) → ∃ reason, f = ⟨.page reason, []⟩ ∧
        (t.calls = s.calls ++ [.await step.selector] ∧ Page.Refuses s.page (.await step.selector) reason ∨
          ∃ front c behind, text.toList = front ++ c :: behind ∧
            t.calls = s.calls ++ step.keystrokes (front ++ [c]) ∧
            entered (step.keystrokes (front ++ [c])) = String.ofList (front ++ [c]) ∧
            Page.GrantsAll s.page (step.keystrokes front ++ [.pause (delay step.payload)]) ∧
            Page.Refuses (Page.behind s.page (step.keystrokes front ++ [.pause (delay step.payload)]))
              (.type step.selector (String.singleton c)) reason) := by
  constructor
  · refine ⟨_, _, append_splitLast _, toList_splitLast _, ?_, fun t done => ?_⟩
    · by_cases pastes : step.Pastes s.pockets
      · rw [(paste_makes pastes).ok_iff]
        exact ⟨fun granted => ⟨pastes, granted⟩, And.right⟩
      · rw [paste_of_nothing pastes]
        exact ⟨nofun, fun both => absurd both.1 pastes⟩
    · by_cases pastes : step.Pastes s.pockets
      · have made := paste_makes pastes
        rw [done] at made
        exact made.calls_of_ok
      · rw [paste_of_nothing pastes] at done
        cases done
  · intro text holds
    have makes := typePass_makes holds
    refine ⟨makes.ok_iff, fun t done => ?_, fun f t fails => ?_⟩
    · rw [done] at makes
      exact ⟨makes.calls_of_ok, by rw [Step.entered_keystrokes, String.ofList_toList]⟩
    · rw [fails] at makes
      cases makes with
      | @upTo before call rest reason _ split made granted refused =>
        refine ⟨reason, rfl, ?_⟩
        cases before with
        | nil =>
          cases split
          exact .inl ⟨made, refused⟩
        | cons first before =>
          obtain ⟨rfl, typed⟩ := List.cons.inj split
          obtain ⟨front, c, behind, same, rfl, rfl⟩ := typing_split typed refused.noPause
          refine .inr ⟨front, c, behind, same, ?_, Step.entered_keystrokes step _, granted, refused⟩
          rw [made, Step.keystrokes, typing_append]
          simp [typing]

end Action

/-- A page that refuses to take in more than so many texts. -/
structure JammingPage where
  left : Nat

instance : Page JammingPage where
  answer
    | .type _ _, p =>
      match p.left with
      | 0 => (.error "jammed", p)
      | left + 1 => (.ok "", ⟨left⟩)
    | _, p => (.ok "", p)

def pinStep : Step where
  id := .step "pin"
  description := ""
  action := .typePass
  selector := "#pin"
  pocket := "pin"
  payload := "40ms"

def jammedStart : Session JammingPage where
  page := ⟨1⟩
  pockets := .seeded [⟨"pin", "né!"⟩]

/-- Pasted, the text is entered with one call for its last character. Typed, the second of its three characters is
refused: two have been sent, and nothing comes behind them. -/
theorem typed_whole_jammed :
    jammedStart.pockets.get? pinStep.pocket = some "né!" ∧
      (∃ front last t, Action.paste pinStep jammedStart = (.ok (), t) ∧ front ++ last = "né!" ∧ last.toList = ['!'] ∧
        t.calls = [.await "#pin", .setValue "#pin" front, .type "#pin" last]) ∧
      ∃ f t, Action.typePass pinStep jammedStart = (.error f, t) ∧ f = ⟨.page "jammed", []⟩ ∧
        t.calls = [.await "#pin", .pause 40, .type "#pin" "n", .pause 40, .type "#pin" "é"] := by
  have holds : jammedStart.pockets.get? pinStep.pocket = some "né!" := by decide +kernel
  have text : pinStep.pasted jammedStart.pockets = "né!" := by decide +kernel
  obtain ⟨⟨front, last, whole, tail, pastes, pasted⟩, typed⟩ := Action.typed_whole pinStep jammedStart
  rw [text] at whole tail
  have done := pastes.mpr ⟨.inl (by rw [holds]; nofun), ⟨"", rfl⟩, ⟨"", rfl⟩, ⟨"", rfl⟩, trivial⟩
  refine ⟨holds, ⟨front, last, _, Prod.ext done rfl, whole, ?_, pasted _ (Prod.ext done rfl)⟩, ?_⟩
  · rw [tail]
    decide +kernel
  obtain ⟨ends, -, refused⟩ := typed "né!" holds
  have script : pinStep.keystrokes "né!".toList = [.await "#pin", .pause 40, .type "#pin" "n", .pause 40, .type "#pin" "é",
      .pause 40, .type "#pin" "!"] := by
    decide +kernel
  rw [script] at ends
  cases ran : Action.typePass pinStep jammedStart with
  | mk result t =>
    rw [ran] at ends
    cases result with
    | ok =>
      obtain ⟨-, -, -, -, ⟨text, granted⟩, -⟩ := ends.mp rfl
      cases granted
    | error f =>
      obtain ⟨reason, rfl, ⟨-, waits⟩ | ⟨front, c, behind, split, made, -, granted, jams⟩⟩ := refused f t ran
      · cases waits.answer
      · rw [show "né!".toList = ['n', 'é', '!'] from by decide +kernel] at split
        match front, split with
        | [], split =>
          cases split
          cases jams.answer
        | [_], split =>
          cases split
          cases jams.answer
          exact ⟨_, t, rfl, rfl, made.trans (by decide +kernel)⟩
        | [_, _], split =>
          cases split
          obtain ⟨-, -, -, -, ⟨text, second⟩, -⟩ := granted
          cases second
        | _ :: _ :: _ :: _, split => simp at split

end Wayfarer
