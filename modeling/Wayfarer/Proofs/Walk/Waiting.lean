import Wayfarer.Page.Scripted
import Wayfarer.Proofs.Action
import Wayfarer.Proofs.Calls
import Wayfarer.Proofs.Walk.Deeds

/-!
# Waiting before touching

A built-in action waits for an element before it touches it, and makes no call once one has been refused.
Which calls are refused is told by playing a journal back: a page is what its calls have made of it. No
wait of an earlier step counts, for a step begins with an event of its own.
-/

namespace Wayfarer

/-- The element that the call touches. To wait for it is not to touch it. -/
def PageCall.touched? : PageCall → Option String
  | click s | type s _ | setValue s _ | setText s _ | readText s | readLink s => some s
  | goTo _ | close | await _ | pause _ => none

/-- The call was made behind the events of `before`, and no step has begun since. -/
def Lately (events before : List Event) (call : PageCall) : Prop :=
  ∃ rest, events = before ++ .called call :: rest ∧ ∀ e ∈ rest, e.step? = none

section

variable [Page π]

/-- The running action has waited for the element, and the page has granted that. -/
def Awaited (page : π) (events : List Event) (selector : String) : Prop :=
  ∃ before, Lately events before (.await selector) ∧ Page.Grants (Page.behind page (callsOf before)) (.await selector)

/-- No call of the running action has been refused. -/
def Unrefused (page : π) (events : List Event) : Prop :=
  ∀ before call, Lately events before call → Page.Grants (Page.behind page (callsOf before)) call

/-- Where a call touches an element, the action has waited for that, and where any call is made, none of
the action has been refused before. -/
structure Heeds (page : π) (events : List Event) : Prop where
  waits : ∀ before call rest selector, events = before ++ .called call :: rest → call.touched? = some selector →
    Awaited page before selector
  stops : ∀ before call rest, events = before ++ .called call :: rest → Unrefused page before

end

/-! ### One event more -/

theorem split_concat {items before rest : List α} {last x : α} (h : items ++ [last] = before ++ x :: rest) :
    (before = items ∧ x = last) ∨ ∃ others, rest = others ++ [last] ∧ items = before ++ x :: others := by
  rcases List.eq_nil_or_concat rest with rfl | ⟨others, final, rfl⟩
  · obtain ⟨same, both⟩ := List.append_inj' h rfl
    cases both
    exact .inl ⟨same.symm, rfl⟩
  · rw [List.concat_eq_append, ← List.cons_append, ← List.append_assoc] at h
    obtain ⟨same, both⟩ := List.append_inj' h rfl
    cases both
    exact .inr ⟨others, List.concat_eq_append, same⟩

theorem lately_concat {events before : List Event} {e : Event} {call : PageCall} :
    Lately (events ++ [e]) before call ↔ (before = events ∧ e = .called call) ∨ (e.step? = none ∧ Lately events before call) := by
  constructor
  · rintro ⟨rest, made, calm⟩
    rcases split_concat made with ⟨same, rfl⟩ | ⟨others, rfl, before⟩
    · exact .inl ⟨same, rfl⟩
    · obtain ⟨behind, last⟩ := List.forall_mem_append.mp calm
      exact .inr ⟨last e (by simp), others, before, behind⟩
  · rintro (⟨rfl, rfl⟩ | ⟨calm, rest, rfl, others⟩)
    · exact ⟨[], rfl, by simp⟩
    · refine ⟨rest ++ [e], by simp, fun f member => ?_⟩
      rcases List.mem_append.mp member with before | last
      · exact others f before
      · rw [List.mem_singleton.mp last, calm]

section

variable [Page π] {page : π} {events : List Event} {e : Event}

theorem Awaited.concat {selector : String} (h : Awaited page events selector) (calm : e.step? = none) :
    Awaited page (events ++ [e]) selector := by
  obtain ⟨before, made, granted⟩ := h
  exact ⟨before, lately_concat.mpr (.inr ⟨calm, made⟩), granted⟩

theorem awaited_of_granted {selector : String} (granted : Page.Grants (Page.behind page (callsOf events)) (.await selector)) :
    Awaited page (events ++ [.called (.await selector)]) selector :=
  ⟨events, lately_concat.mpr (.inl ⟨rfl, rfl⟩), granted⟩

theorem Unrefused.concat (h : Unrefused page events)
    (granted : ∀ call, e = .called call → Page.Grants (Page.behind page (callsOf events)) call) :
    Unrefused page (events ++ [e]) := by
  intro before call made
  rcases lately_concat.mp made with ⟨rfl, told⟩ | ⟨-, made⟩
  · exact granted call told
  · exact h before call made

theorem unrefused_running (ordinal : Nat) (step : Step) : Unrefused page (events ++ [.running ordinal step]) := by
  intro before call made
  rcases lately_concat.mp made with ⟨-, told⟩ | ⟨begins, -⟩
  · cases told
  · cases begins

theorem heeds_nil : Heeds page [] :=
  ⟨fun before _ _ _ none => absurd none (by simp), fun before _ _ none => absurd none (by simp)⟩

theorem Heeds.concat (h : Heeds page events)
    (waits : ∀ call selector, e = .called call → call.touched? = some selector → Awaited page events selector)
    (stops : ∀ call, e = .called call → Unrefused page events) : Heeds page (events ++ [e]) := by
  constructor
  · intro before call rest selector made touched
    rcases split_concat made with ⟨rfl, told⟩ | ⟨others, -, made⟩
    · exact waits call selector told.symm touched
    · exact h.waits before call others selector made touched
  · intro before call rest made
    rcases split_concat made with ⟨rfl, told⟩ | ⟨others, -, made⟩
    · exact stops call told.symm
    · exact h.stops before call others made

theorem Heeds.concat_other (h : Heeds page events) (other : e.call? = none) : Heeds page (events ++ [e]) := by
  have differs : ∀ call, e ≠ .called call := by
    rintro call rfl
    cases other
  exact h.concat (fun call _ told => absurd told (differs call)) (fun call told => absurd told (differs call))

/-! ### Actions -/

/-- The events so far, where these came before the session. -/
def Session.told (past : List Event) (s : Session π) : List Event :=
  past ++ s.events.toList

omit [Page π] in
theorem told_note (past : List Event) (s : Session π) (e : Event) : (s.note e).told past = s.told past ++ [e] := by
  simp [Session.told, Session.note]

/-- The page is what the calls have made of it, and all of them were made with heed. -/
structure Session.Follows (first : π) (past : List Event) (s : Session π) : Prop where
  page : s.page = Page.behind first (callsOf (s.told past))
  heeds : Heeds first (s.told past)

/-- Besides, the running action has had no refusal and has waited for this element. -/
structure Session.Stands (first : π) (past : List Event) (awaited : Option String) (s : Session π) : Prop
    extends Session.Follows first past s where
  unrefused : Unrefused first (s.told past)
  waited : ∀ selector, awaited = some selector → Awaited first (s.told past) selector

/-- The element that has been waited for once the call is granted. -/
def PageCall.awaitedBehind (awaited : Option String) : PageCall → Option String
  | .await selector => some selector
  | _ => awaited

section

variable {first : π} {past : List Event} {awaited : Option String} {s : Session π}

theorem Session.Follows.note (h : s.Follows first past) {e : Event} (other : e.call? = none) :
    (s.note e).Follows first past := by
  refine ⟨?_, ?_⟩
  · rw [told_note, callsOf_concat, other, Option.toList_none, List.append_nil]
    exact h.page
  · rw [told_note]
    exact h.heeds.concat_other other

theorem Session.Stands.note (h : s.Stands first past awaited) {e : Event} (other : e.call? = none) (calm : e.step? = none) :
    (s.note e).Stands first past awaited := by
  refine ⟨h.toFollows.note other, ?_, ?_⟩
  · rw [told_note]
    exact h.unrefused.concat fun call told => by subst told; cases other
  · intro selector same
    rw [told_note]
    exact (h.waited selector same).concat calm

/-- A call that may be made is made with heed, and where it is granted the action goes on. -/
theorem Session.Stands.request (h : s.Stands first past awaited) (call : PageCall)
    (allowed : ∀ selector, call.touched? = some selector → awaited = some selector) :
    (s.request call).2.Follows first past ∧
      (Page.Grants s.page call → (s.request call).2.Stands first past (call.awaitedBehind awaited)) := by
  have called : ∀ (t : Session π), t.page = (Page.answer call s.page).2 → t.told past = s.told past ++ [.called call] →
      t.Follows first past ∧ (Page.Grants s.page call → t.Stands first past (call.awaitedBehind awaited)) := by
    intro t page told
    have follows : t.Follows first past := by
      refine ⟨?_, ?_⟩
      · rw [told, callsOf_concat, page, h.page]
        exact (behind_concat _ call).symm
      · rw [told]
        refine h.heeds.concat ?_ fun _ _ => h.unrefused
        rintro _ selector ⟨⟩ touched
        exact h.waited selector (allowed selector touched)
    refine ⟨follows, fun granted => ⟨follows, ?_, ?_⟩⟩
    · rw [told]
      refine h.unrefused.concat ?_
      rintro _ ⟨⟩
      rwa [← h.page]
    · rw [told]
      intro selector same
      cases call with
      | await waited =>
        cases same
        exact awaited_of_granted (by rwa [← h.page])
      | goTo | close | click | type | setValue | setText | readText | readLink | pause =>
        exact (h.waited selector same).concat rfl
  have asked := called { s with page := (Page.answer call s.page).2, events := s.events.push (.called call) } rfl
    (by simp [Session.told])
  unfold Session.request
  simp only
  split
  · exact ⟨asked.1.note rfl, fun granted => (asked.2 granted).note rfl rfl⟩
  · exact asked

end

namespace Act

/-- Whoever has waited for the one element before makes its calls with heed, and has waited for the other
element behind if nothing fails. -/
def Minds (before after : Option String) (x : Act π α) : Prop :=
  ∀ first past s, Session.Stands first past before s →
    match x s with
    | (.ok _, t) => t.Stands first past after
    | (.error _, t) => t.Follows first past

section

variable {before between after : Option String}

theorem minds_pure (a : α) : Minds before before (pure a : Act π α) := fun _ _ _ stands => stands

theorem minds_throw (e : Failure) : Minds before after (throw e : Act π α) := fun _ _ _ stands => stands.toFollows

theorem Minds.bind {x : Act π α} {f : α → Act π β} (here : Minds before between x) (rest : ∀ a, Minds between after (f a)) :
    Minds before after (x >>= f) := by
  intro first past s stands
  have begun := here first past s stands
  rw [total_bind_apply]
  cases ran : x s with
  | mk result t =>
    rw [ran] at begun
    cases result with
    | error e => exact begun
    | ok a => exact rest a first past t begun

theorem Minds.forget {x : Act π α} (h : Minds before after x) : Minds before none x := by
  intro first past s stands
  have ran := h first past s stands
  cases found : x s with
  | mk result t =>
    rw [found] at ran
    cases result with
    | error e => exact ran
    | ok a => exact ⟨ran.toFollows, ran.unrefused, by simp⟩

theorem minds_note {e : Event} (other : e.call? = none) (calm : e.step? = none) : Minds before before (note e : Act π Unit) :=
  fun _ _ _ stands => stands.note other calm

theorem minds_pocket? (name : String) : Minds before before (pocket? name : Act π (Option String)) :=
  fun _ _ _ stands => stands

theorem minds_pocket (name : String) : Minds before before (pocket name : Act π String) := by
  refine (minds_pocket? name).bind fun content => ?_
  cases content with
  | none => exact minds_throw _
  | some content => exact minds_pure content

theorem minds_store (name content : String) : Minds before before (store name content : Act π Unit) := by
  intro first past s stands
  have put : Session.Stands first past before { s with pockets := s.pockets.put ⟨name, content⟩ } :=
    ⟨⟨stands.page, stands.heeds⟩, stands.unrefused, stands.waited⟩
  exact put.note rfl rfl

theorem minds_call {c : PageCall} (allowed : ∀ selector, c.touched? = some selector → before = some selector) :
    Minds before (c.awaitedBehind before) (call c : Act π String) := by
  intro first past s stands
  obtain ⟨follows, onward⟩ := stands.request c allowed
  have answered : (s.request c).1 = (Page.answer c s.page).1 := rfl
  unfold call
  simp only [ExceptT.mk]
  cases asked : s.request c with
  | mk answer t =>
    rw [asked] at follows onward answered
    cases answer with
    | error reason => exact follows
    | ok text =>
      refine onward ?_
      cases c with
      | pause => trivial
      | goTo | close | await | click | type | setValue | setText | readText | readLink => exact ⟨text, answered.symm⟩

theorem minds_ask {c : PageCall} (allowed : ∀ selector, c.touched? = some selector → before = some selector) :
    Minds before (c.awaitedBehind before) (ask c : Act π Unit) :=
  (minds_call allowed).bind fun _ => minds_pure ()

theorem minds_await (selector : String) : Minds before (some selector) (ask (.await selector) : Act π Unit) :=
  minds_ask (c := .await selector) nofun

theorem minds_pause (millis : Nat) : Minds before before (pause millis : Act π Unit) :=
  fun _ _ _ stands => (stands.request (.pause millis) nofun).2 trivial

theorem minds_settle : Minds before before (settle : Act π Unit) :=
  fun _ _ s stands => (stands.request (.pause s.settle) nofun).2 trivial

theorem minds_typeEach (selector : String) (millis : Nat) (text : List Char) :
    Minds (some selector) (some selector) (Action.typeEach selector millis text : Act π Unit) := by
  induction text with
  | nil => exact minds_pure ()
  | cons c rest ih =>
    exact (minds_pause millis).bind fun _ =>
      (minds_ask (c := .type selector (String.singleton c)) fun _ same => same).bind fun _ => ih

end

end Act

open Act in
/-- A built-in action waits for an element before it touches it, and stops at the first refusal. -/
theorem Action.minds_ofKind (kind : ActionKind) (step : Step) : Minds Option.none Option.none (ofKind kind step : Act π Unit) := by
  have touches : ∀ c : PageCall, c.touched? = some step.selector →
      Minds (some step.selector) (c.awaitedBehind (some step.selector)) (ask c : Act π Unit) :=
    fun c own => minds_ask fun _ same => own.symm.trans same
  cases kind with
  | openPage =>
    exact (minds_pocket _).bind fun url => (minds_ask (c := .goTo url) nofun).bind fun _ => minds_settle
  | closePage => exact minds_ask (c := .close) nofun
  | stop => exact minds_pause _
  | click => exact ((minds_await _).bind fun _ => touches (.click _) rfl).forget
  | type => exact ((minds_pocket _).bind fun text => (minds_await _).bind fun _ => touches (.type _ text) rfl).forget
  | typePass =>
    exact ((minds_pocket _).bind fun text => (minds_await _).bind fun _ => minds_typeEach _ _ _).forget
  | paste =>
    refine (minds_pocket? _).bind fun pocketed => ?_
    have pasting : ∀ text : String, Minds Option.none Option.none (do
        Act.ask (.await step.selector)
        Act.ask (.setValue step.selector (splitLast text).1)
        Act.ask (.type step.selector (splitLast text).2) : Act π Unit) :=
      fun text => ((minds_await _).bind fun _ => (touches (.setValue _ _) rfl).bind fun _ => touches (.type _ _) rfl).forget
    split
    · exact (minds_throw _).bind fun _ => pasting _
    · exact pasting _
  | pasteText =>
    exact ((minds_pocket _).bind fun text => (minds_await _).bind fun _ =>
      (touches (.setText _ text) rfl).bind fun _ => touches (.type _ " ") rfl).forget
  | copyText =>
    exact ((minds_await _).bind fun _ => (minds_call (c := .readText _) fun _ same => same).bind fun text =>
      (minds_note (e := .copied step.pocket text) rfl rfl).bind fun _ => minds_store _ text).forget
  | copyLink =>
    exact ((minds_await _).bind fun _ => (minds_call (c := .readLink _) fun _ same => same).bind fun target =>
      minds_store _ target).forget
  | extract =>
    refine (minds_pocket _).bind fun content => ?_
    cases Pattern.compile? step.payload with
    | none => exact minds_throw _
    | some pattern => exact minds_store _ _
  | refine => exact (minds_pocket _).bind fun content => (minds_pocket? _).bind fun new => minds_store _ _
  | duplicate => exact (minds_pocket? _).bind fun source => minds_store _ _
  | check => exact (minds_await _).forget
  | none => exact minds_pure ()

/-! ### Walks -/

theorem runStep_follows {d : Definitions} {actions : ActionTable π} (builtIn : actions.BuiltIn) (id : Ident) (ordinal : Nat)
    {first : π} {past : List Event} {s : Session π} (h : s.Follows first past) :
    (runStep d actions id ordinal s).2.Follows first past := by
  unfold runStep
  cases d.step? id with
  | none => exact h
  | some step =>
    have begun : (s.note (.running ordinal step)).Stands first past none := by
      refine ⟨h.note rfl, ?_, by simp⟩
      rw [told_note]
      exact unrefused_running ordinal step
    simp only
    cases known : actions step.action with
    | none => exact begun.toFollows
    | some action =>
      obtain ⟨like, rfl⟩ := builtIn _ action known
      have minded := Action.minds_ofKind like step first past _ begun
      simp only
      cases ran : Action.ofKind like step (s.note (.running ordinal step)) with
      | mk result t =>
        rw [ran] at minded
        cases result with
        | ok => exact minded.toFollows
        | error failure => exact minded.note rfl

end

/-- What the moments tell of, in order. -/
def eventsOf (moments : Array (Moment ω)) : List Event :=
  moments.toList.map (·.event)

section

variable [Page π] {first : π} {events : List Event}

theorem Heeds.append_idle (h : Heeds first events) {others : List Event} (idle : ∀ e ∈ others, e.isDeed = false) :
    Heeds first (events ++ others) ∧ callsOf (events ++ others) = callsOf events := by
  have silent : ∀ e : Event, e.isDeed = false → e.call? = none := by
    intro e idle
    cases e <;> first | rfl | cases idle
  induction others generalizing events with
  | nil => simpa using h
  | cons e others ih =>
    obtain ⟨here, later⟩ := List.forall_mem_cons.mp idle
    obtain ⟨heeds, calls⟩ := ih (h.concat_other (silent e here)) later
    rw [List.append_cons]
    refine ⟨heeds, ?_⟩
    rw [calls, callsOf_concat, silent e here, Option.toList_none, List.append_nil]

namespace Walk

open Stage

/-- The page is what the calls in the journal behind `journal` have made of it, all of them made with heed. -/
def State.Follows (first : π) (journal : Array (Moment ω)) (s : State π ω) : Prop :=
  ∃ added, s.journal = journal ++ added ∧ s.page = Page.behind first (callsOf (eventsOf added)) ∧
    Heeds first (eventsOf added)

section

variable {w : Setting π ω} {journal : Array (Moment ω)} {s : State π ω}

theorem State.Follows.note (h : s.Follows first journal) {stats : Stats} {e : Event} (idle : e.isDeed = false) :
    ({ s with stats }.note e).Follows first journal := by
  obtain ⟨added, told, page, heeds⟩ := h
  have events : eventsOf (added.push ⟨e, s.world⟩) = eventsOf added ++ [e] := by simp [eventsOf]
  obtain ⟨heeds, calls⟩ := heeds.append_idle (show ∀ other ∈ [e], other.isDeed = false by simpa using idle)
  refine ⟨added.push ⟨e, s.world⟩, ?_, ?_, ?_⟩
  · simp only [State.note, told, Array.push_append]
  · rw [events, calls]
    exact page
  · rw [events]
    exact heeds

theorem follows_perform (builtIn : w.actions.BuiltIn) (idly : w.KeepsIdly) (h : s.Follows first journal)
    (outer : List Nat) (index : Nat) (target : Ident) : (s.perform w outer index target).2.Follows first journal := by
  obtain ⟨added, told, page, heeds⟩ := h
  let spot : Spot := .ofPath (outer ++ [index])
  let kept := w.keep spot s.world
  -- what has been noted when the step begins
  let begun := added.push ⟨.reached spot, s.world⟩ ++ kept.2
  have events : eventsOf begun = eventsOf added ++ (.reached spot :: eventsOf kept.2) := by simp [begun, eventsOf]
  have idle : ∀ e ∈ Event.reached spot :: eventsOf kept.2, e.isDeed = false := by
    refine List.forall_mem_cons.mpr ⟨rfl, fun e member => ?_⟩
    obtain ⟨m, noted, rfl⟩ := List.mem_map.mp member
    exact idly spot s.world m (Array.mem_toList_iff.mp noted)
  obtain ⟨heeds, calls⟩ := heeds.append_idle idle
  rw [← events] at heeds calls
  have stands : s.session.Follows first (eventsOf begun) := by
    refine ⟨?_, ?_⟩
    · rw [Session.told, show s.session.events.toList = [] from rfl, List.append_nil, calls]
      exact page
    · rw [Session.told, show s.session.events.toList = [] from rfl, List.append_nil]
      exact heeds
  have ran := runStep_follows (d := w.definitions) builtIn target index stands
  let session := (runStep w.definitions w.actions target index s.session).2
  have all : eventsOf (begun ++ session.events.map (⟨·, kept.1⟩)) = session.told (eventsOf begun) := by
    simp [eventsOf, Session.told, Function.comp_def]
  refine ⟨begun ++ session.events.map (⟨·, kept.1⟩), ?_, ?_, ?_⟩
  · change (s.journal.push ⟨.reached spot, s.world⟩ ++ kept.2) ++ session.events.map (⟨·, kept.1⟩) = _
    rw [told]
    simp only [begun, Array.append_assoc, Array.push_append]
  · rw [all]
    exact ran.page
  · rw [all]
    exact ran.heeds

/-- At every moment of a walk, every call that touched an element was made behind a wait for that element which
the page had granted and which the action of the same step had made; and no action has made a call behind one
that was refused. -/
theorem touches_wait (builtIn : w.actions.BuiltIn) (idly : w.KeepsIdly) {root : Way} {spot : Spot} {limit : Nat}
    {c : Stage π ω} (reached : Reaches w (start root spot limit s) c) :
    ∃ added, c.state.journal = s.journal ++ added ∧
      c.state.page = Page.behind s.page (callsOf (eventsOf added)) ∧ Heeds s.page (eventsOf added) := by
  have first : State.Follows s.page s.journal s := ⟨#[], Array.append_empty.symm, rfl, heeds_nil⟩
  exact state_of_reaches (motive := State.Follows s.page s.journal) (fun _ _ _ idle h => h.note idle)
    (fun outer index target _ h => follows_perform builtIn idly h outer index target) reached (first.note rfl)

end

/-- One step, which clicks an element and is walked again when that fails. -/
def wary : Setting ScriptedPage Unit where
  definitions := {
    steps := [{ id := .step "press", description := "", action := .click, selector := "#slow", onFailure := [.step "press"] }] }
  actions := .standard

/-- The element appears behind the first wait for it. -/
def slowState : State ScriptedPage Unit :=
  { page := { flaky := [("#slow", 1)] }, pockets := .empty, settle := 0, world := () }

theorem touches_wait_once_granted :
    let root : Way := { id := .way "root", description := "", repeats := 1, steps := [.step "press"] }
    let c := (next wary)^[2] (start root .start 1 slowState)
    callsOf (eventsOf c.state.journal) = [.await "#slow", .await "#slow", .click "#slow"] ∧
      ∃ added, c.state.journal = slowState.journal ++ added ∧
        c.state.page = Page.behind slowState.page (callsOf (eventsOf added)) ∧ Heeds slowState.page (eventsOf added) := by
  intro root c
  have idly : wary.KeepsIdly := fun _ _ => idle_empty
  exact ⟨by decide +kernel, touches_wait ActionTable.builtIn_standard idly ⟨2, rfl⟩⟩

end Walk

end

end Wayfarer
