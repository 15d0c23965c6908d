import Wayfarer.Proofs.Action
import Wayfarer.Proofs.Calls

/-!
# Routines

A routine is an action that knows of a page what it answers and no more, so that it can be run on pages of every
kind. On pages that answer alike it comes to the same result, makes the same calls and leaves the same store. The
built-in actions are routines.
-/

namespace Wayfarer

/-- A computation on a session whose page may be of any kind. -/
inductive Routine (α : Type) where
  | done (a : α)
  | fail (failure : Failure)
  | call (call : PageCall) (next : Except String String → Routine α)
  /-- Looks at the store and at the pause behind a navigation. -/
  | look (next : Pockets → Nat → Routine α)
  | store (pockets : Pockets) (next : Routine α)
  /-- Sets the pause behind a navigation. -/
  | settleFor (millis : Nat) (next : Routine α)
  | note (e : Event) (next : Routine α)

namespace Routine

def run [Page π] : Routine α → Act π α
  | done a => pure a
  | fail failure => throw failure
  | call c next => ExceptT.mk fun s => (next (s.request c).1).run (s.request c).2
  | look next => ExceptT.mk fun s => (next s.pockets s.settle).run s
  | store pockets next => ExceptT.mk fun s => next.run { s with pockets }
  | settleFor millis next => ExceptT.mk fun s => next.run { s with settle := millis }
  | note e next => ExceptT.mk fun s => next.run (s.note e)

def bind (x : Routine α) (f : α → Routine β) : Routine β :=
  match x with
  | done a => f a
  | fail failure => fail failure
  | call c next => call c fun answer => (next answer).bind f
  | look next => look fun pockets settle => (next pockets settle).bind f
  | store pockets next => store pockets (next.bind f)
  | settleFor millis next => settleFor millis (next.bind f)
  | note e next => note e (next.bind f)

theorem run_bind_apply [Page π] (x : Routine α) (f : α → Routine β) (s : Session π) :
    (x.bind f).run s = match x.run s with
      | (.ok a, t) => (f a).run t
      | (.error e, t) => (.error e, t) := by
  induction x generalizing s with
  | done a => rfl
  | fail failure => rfl
  | call c next ih => exact ih (s.request c).1 (s.request c).2
  | look next ih => exact ih s.pockets s.settle s
  | store pockets next ih => exact ih { s with pockets }
  | settleFor millis next ih => exact ih { s with settle := millis }
  | note e next ih => exact ih (s.note e)

theorem run_bind [Page π] (x : Routine α) (f : α → Routine β) :
    ((x.bind f).run : Act π β) = x.run >>= fun a => (f a).run := by
  funext s
  rw [run_bind_apply, total_bind_apply]
  cases x.run s with
  | mk result t => cases result <;> rfl

end Routine

/-- The computation is one routine on pages of every kind. -/
def Uniform (x : (π : Type) → [Page π] → Act π α) : Prop :=
  ∃ routine : Routine α, ∀ (π : Type) [Page π], x π = routine.run

theorem Uniform.bind {x : (π : Type) → [Page π] → Act π α} {f : (π : Type) → [Page π] → α → Act π β} (first : Uniform x)
    (rest : ∀ a, Uniform fun π _ => f π a) : Uniform fun π _ => x π >>= f π := by
  obtain ⟨routine, same⟩ := first
  choose next also using rest
  refine ⟨routine.bind next, fun π _ => ?_⟩
  have behind : f π = fun a => (next a).run := funext fun a => also a π
  beta_reduce
  rw [Routine.run_bind, same π, behind]

namespace Act

theorem uniform_pure (a : α) : Uniform fun π _ => (pure a : Act π α) :=
  ⟨.done a, fun _ => rfl⟩

theorem uniform_throw (failure : Failure) : Uniform fun π _ => (throw failure : Act π α) :=
  ⟨.fail failure, fun _ => rfl⟩

theorem uniform_note (e : Event) : Uniform fun π _ => (note e : Act π Unit) :=
  ⟨.note e (.done ()), fun _ => rfl⟩

theorem uniform_pocket? (name : String) : Uniform fun π _ => (pocket? name : Act π (Option String)) :=
  ⟨.look fun pockets _ => .done (pockets.get? name), fun _ => rfl⟩

theorem uniform_store (name content : String) : Uniform fun π _ => (store name content : Act π Unit) :=
  ⟨.look fun pockets _ => .store (pockets.put ⟨name, content⟩) (.note (.stored ⟨name, content⟩) (.done ())), fun _ => rfl⟩

theorem uniform_pause (millis : Nat) : Uniform fun π _ => (pause millis : Act π Unit) :=
  ⟨.call (.pause millis) fun _ => .done (), fun _ => rfl⟩

theorem uniform_settle : Uniform fun π _ => (settle : Act π Unit) :=
  ⟨.look fun _ millis => .call (.pause millis) fun _ => .done (), fun _ => rfl⟩

theorem uniform_call (c : PageCall) : Uniform fun π _ => (call c : Act π String) := by
  refine ⟨.call c fun
    | .ok text => .done text
    | .error reason => .fail ⟨.page reason, []⟩, fun π _ => funext fun s => ?_⟩
  simp only [call, Routine.run, ExceptT.mk]
  cases s.request c with
  | mk answer t => cases answer <;> rfl

theorem uniform_ask (c : PageCall) : Uniform fun π _ => (ask c : Act π Unit) :=
  (uniform_call c).bind fun _ => uniform_pure ()

theorem uniform_pocket (name : String) : Uniform fun π _ => (pocket name : Act π String) := by
  refine (uniform_pocket? name).bind fun content => ?_
  cases content with
  | none => exact uniform_throw _
  | some content => exact uniform_pure content

theorem uniform_typeEach (selector : String) (millis : Nat) (text : List Char) :
    Uniform fun π _ => (Action.typeEach selector millis text : Act π Unit) := by
  induction text with
  | nil => exact uniform_pure ()
  | cons c rest ih => exact (uniform_pause millis).bind fun _ => (uniform_ask _).bind fun _ => ih

end Act

open Act in
theorem Action.uniform_ofKind (kind : ActionKind) (step : Step) : Uniform fun π _ => (ofKind kind step : Act π Unit) := by
  cases kind with
  | openPage => exact (uniform_pocket _).bind fun _ => (uniform_ask _).bind fun _ => uniform_settle
  | closePage => exact uniform_ask _
  | stop => exact uniform_pause _
  | click => exact (uniform_ask _).bind fun _ => uniform_ask _
  | type => exact (uniform_pocket _).bind fun _ => (uniform_ask _).bind fun _ => uniform_ask _
  | typePass => exact (uniform_pocket _).bind fun _ => (uniform_ask _).bind fun _ => uniform_typeEach _ _ _
  | paste =>
    refine (uniform_pocket? _).bind fun pocketed => ?_
    have pasting : ∀ text : String, Uniform fun π _ => (do
        Act.ask (.await step.selector)
        Act.ask (.setValue step.selector (splitLast text).1)
        Act.ask (.type step.selector (splitLast text).2) : Act π Unit) :=
      fun text => (uniform_ask _).bind fun _ => (uniform_ask _).bind fun _ => uniform_ask _
    split
    · exact (uniform_throw _).bind fun _ => pasting _
    · exact pasting _
  | pasteText =>
    exact (uniform_pocket _).bind fun _ => (uniform_ask _).bind fun _ => (uniform_ask _).bind fun _ => uniform_ask _
  | copyText =>
    exact (uniform_ask _).bind fun _ => (uniform_call _).bind fun _ => (uniform_note _).bind fun _ => uniform_store _ _
  | copyLink => exact (uniform_ask _).bind fun _ => (uniform_call _).bind fun _ => uniform_store _ _
  | extract =>
    refine (uniform_pocket _).bind fun content => ?_
    cases Pattern.compile? step.payload with
    | none => exact uniform_throw _
    | some pattern => exact uniform_store _ _
  | refine =>
    exact (uniform_pocket _).bind fun _ => (uniform_pocket? _).bind fun _ => uniform_store _ _
  | duplicate => exact (uniform_pocket? _).bind fun source => uniform_store _ _
  | check => exact uniform_ask _
  | none => exact uniform_pure ()

/-! ### Tables of routines -/

/-- Which routines there are, by kind. -/
abbrev Routines := ActionKind → Option (Step → Routine Unit)

def Routines.table [Page π] (routines : Routines) : ActionTable π := fun kind =>
  (routines kind).map fun routine step => (routine step).run

/-- However kinds get their actions from among the built-in ones, they get routines. -/
theorem Routines.exists_table (like : ActionKind → Option ActionKind) :
    ∃ routines : Routines, ∀ (π : Type) [Page π],
      routines.table = fun kind => (like kind).map fun other => (Action.ofKind other : Action π) := by
  choose routine same using Action.uniform_ofKind
  refine ⟨fun kind => (like kind).map routine, fun π _ => ?_⟩
  funext kind
  change ((like kind).map routine).map _ = _
  cases like kind with
  | none => rfl
  | some other => exact congrArg some (funext fun step => (same other step π).symm)

theorem Routines.exists_standard :
    ∃ routines : Routines, ∀ (π : Type) [Page π], (routines.table : ActionTable π) = .standard :=
  exists_table some

theorem Routines.exists_only (kinds : List ActionKind) :
    ∃ routines : Routines, ∀ (π : Type) [Page π], (routines.table : ActionTable π) = .only kinds := by
  obtain ⟨routines, same⟩ := exists_table fun kind => if kinds.contains kind then some kind else none
  refine ⟨routines, fun π _ => (same π).trans (funext fun kind => ?_)⟩
  unfold ActionTable.only
  split <;> rfl

/-! ### Pages that answer alike -/

/-- An event by which a call is told to the log. -/
def Event.isNarration : Event → Bool
  | .narrated _ => true
  | _ => false

/-- The events but for narrations. -/
def unnarrated (events : List Event) : List Event :=
  events.filter fun e => !e.isNarration

theorem unnarrated_append (events more : List Event) : unnarrated (events ++ more) = unnarrated events ++ unnarrated more :=
  List.filter_append _ _

section

variable [Page π] [Page ρ]

/-- Pages that are related answer every call alike, and are related behind it. -/
def Page.AnswerAlike (R : π → ρ → Prop) : Prop :=
  ∀ call p q, R p q →
    (Page.answer call p).1 = (Page.answer call q).1 ∧ R (Page.answer call p).2 (Page.answer call q).2

/-- The sessions differ at most in their pages, which are related, and in what is narrated of the calls. -/
structure Session.Twins (R : π → ρ → Prop) (s : Session π) (t : Session ρ) : Prop where
  page : R s.page t.page
  pockets : s.pockets = t.pockets
  settle : s.settle = t.settle
  events : unnarrated s.events.toList = unnarrated t.events.toList

variable {R : π → ρ → Prop} {s : Session π} {t : Session ρ}

omit [Page π] [Page ρ] in
theorem Session.Twins.note (h : s.Twins R t) (e : Event) : (s.note e).Twins R (t.note e) := by
  refine ⟨h.page, h.pockets, h.settle, ?_⟩
  simp only [Session.note, Array.toList_push, unnarrated_append, h.events]

theorem unnarrated_request (s : Session π) (call : PageCall) :
    unnarrated (s.request call).2.events.toList = unnarrated s.events.toList ++ [.called call] := by
  have narration : unnarrated [.narrated call] = [] := rfl
  have called : unnarrated [.called call] = [.called call] := rfl
  unfold Session.request
  simp only
  split
  · simp only [Session.note, Array.toList_push, unnarrated_append, narration, called, List.append_nil]
  · simp only [Array.toList_push, unnarrated_append, called]

theorem Session.Twins.request (alike : Page.AnswerAlike R) (h : s.Twins R t) (call : PageCall) :
    (s.request call).1 = (t.request call).1 ∧ (s.request call).2.Twins R (t.request call).2 := by
  obtain ⟨same, related⟩ := alike call s.page t.page h.page
  refine ⟨same, ?_, ?_, ?_, ?_⟩
  · rwa [Session.page_request, Session.page_request]
  · rw [Act.request_pockets, Act.request_pockets, h.pockets]
  · rw [Act.request_settle, Act.request_settle, h.settle]
  · rw [unnarrated_request, unnarrated_request, h.events]

/-- A routine cannot tell pages apart that answer alike. -/
theorem Routine.run_twins (alike : Page.AnswerAlike R) (routine : Routine α) (h : s.Twins R t) :
    ((routine.run : Act π α) s).1 = ((routine.run : Act ρ α) t).1 ∧
      ((routine.run : Act π α) s).2.Twins R ((routine.run : Act ρ α) t).2 := by
  induction routine generalizing s t with
  | done a => exact ⟨rfl, h⟩
  | fail failure => exact ⟨rfl, h⟩
  | call c next ih =>
    obtain ⟨same, after⟩ := h.request alike c
    have behind := ih (s.request c).1 after
    simp only [run, ExceptT.mk]
    rwa [← same]
  | look next ih =>
    have seen := ih s.pockets s.settle h
    simp only [run, ExceptT.mk]
    rwa [← h.pockets, ← h.settle]
  | store pockets next ih => exact ih ⟨h.page, rfl, h.settle, h.events⟩
  | settleFor millis next ih => exact ih ⟨h.page, h.pockets, rfl, h.events⟩
  | note e next ih => exact ih (h.note e)

end

end Wayfarer
