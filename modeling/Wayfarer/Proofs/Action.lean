import Wayfarer.Action
import Wayfarer.Proofs.Partial
import Wayfarer.Proofs.Pockets

/-!
# What actions do to a session

An action either leaves the store as it is or writes one pocket as its last deed. So an action that
fails has written nothing, and no action takes a pocket away. Nor does an action run a step.
-/

namespace Wayfarer

namespace Act

/-! ### What stays as it is -/

/-- `f` tells the same of the session behind the computation, whether or not that fails. -/
def Keeps (f : Session π → γ) (x : Act π α) : Prop :=
  ∀ s, f (x s).2 = f s

section

variable {f : Session π → γ}

theorem keeps_pure (a : α) : Keeps f (pure a : Act π α) := fun _ => rfl

theorem keeps_throw (e : Failure) : Keeps f (throw e : Act π α) := fun _ => rfl

theorem Keeps.bind {x : Act π α} {rest : α → Act π β} (first : Keeps f x) (others : ∀ a, Keeps f (rest a)) :
    Keeps f (x >>= rest) := by
  intro s
  have here := first s
  rw [total_bind_apply]
  cases ran : x s with
  | mk result t =>
    rw [ran] at here
    cases result with
    | error e => exact here
    | ok a => exact (others a t).trans here

theorem keeps_pocket? (name : String) : Keeps f (pocket? name : Act π (Option String)) := fun _ => rfl

theorem keeps_pocket (name : String) : Keeps f (pocket name : Act π String) := by
  refine (keeps_pocket? name).bind fun content => ?_
  cases content with
  | none => exact keeps_throw _
  | some content => exact keeps_pure content

variable [Page π] (asked : ∀ (s : Session π) call, f (s.request call).2 = f s)

include asked

theorem keeps_call (c : PageCall) : Keeps f (call c : Act π String) := by
  intro s
  have kept := asked s c
  unfold call
  simp only [ExceptT.mk]
  cases answered : s.request c with
  | mk answer t =>
    rw [answered] at kept
    cases answer <;> exact kept

theorem keeps_ask (c : PageCall) : Keeps f (ask c : Act π Unit) :=
  (keeps_call asked c).bind fun _ => keeps_pure ()

theorem keeps_pause (millis : Nat) : Keeps f (pause millis : Act π Unit) := fun s => asked s _

theorem keeps_settle : Keeps f (settle : Act π Unit) := fun s => asked s _

theorem keeps_typeEach (selector : String) (millis : Nat) (text : List Char) :
    Keeps f (Action.typeEach selector millis text : Act π Unit) := by
  induction text with
  | nil => exact keeps_pure ()
  | cons c rest ih => exact (keeps_pause asked millis).bind fun _ => (keeps_ask asked _).bind fun _ => ih

end

/-! ### Leaving the store alone -/

/-- The store stays as it is, whether or not the computation fails. -/
def Spares (x : Act π α) : Prop :=
  ∀ s, (x s).2.pockets = s.pockets

theorem spares_note (e : Event) : Spares (note e : Act π Unit) := fun _ => rfl

theorem spares_pocket? (name : String) : Spares (pocket? name : Act π (Option String)) := keeps_pocket? name

theorem spares_pocket (name : String) : Spares (pocket name : Act π String) := keeps_pocket name

section

variable [Page π]

theorem request_pockets (s : Session π) (call : PageCall) : (s.request call).2.pockets = s.pockets := by
  unfold Session.request
  cases Page.narrated π <;> rfl

theorem request_settle (s : Session π) (call : PageCall) : (s.request call).2.settle = s.settle := by
  unfold Session.request
  cases Page.narrated π <;> rfl

theorem spares_call (c : PageCall) : Spares (call c : Act π String) := keeps_call request_pockets c

theorem spares_ask (c : PageCall) : Spares (ask c : Act π Unit) := keeps_ask request_pockets c

end

/-! ### Writing one pocket -/

/-- A computation that ends well leaves the store with something written under this name; one that
fails leaves the store as it is. -/
def Stores (name : String) (x : Act π Unit) : Prop :=
  ∀ s, match x s with
    | (.ok (), t) => ∃ content, t.pockets = s.pockets.put ⟨name, content⟩
    | (.error _, t) => t.pockets = s.pockets

theorem stores_store (name content : String) : Stores name (store name content : Act π Unit) :=
  fun _ => ⟨content, rfl⟩

theorem stores_throw (name : String) (f : Failure) : Stores name (throw f : Act π Unit) := fun _ => rfl

theorem Spares.stores {name : String} {x : Act π α} {f : α → Act π Unit} (first : Spares x)
    (rest : ∀ a, Stores name (f a)) : Stores name (x >>= f) := by
  intro s
  have here := first s
  rw [total_bind_apply]
  cases ran : x s with
  | mk result t =>
    rw [ran] at here
    cases result with
    | error e => exact here
    | ok a =>
      have later := rest a t
      rwa [show t.pockets = s.pockets from here] at later

end Act

namespace Action

open Act

/-- The pocket that an action of this kind writes, if it writes any. -/
def written (step : Step) : ActionKind → Option String
  | .copyText | .extract | .refine | .duplicate => some step.pocket
  | .copyLink => some step.payload
  | .openPage | .closePage | .stop | .click | .type | .typePass | .paste | .pasteText | .check | .none => Option.none

section

variable [Page π] {kind : ActionKind} {step : Step}

theorem stores_of_written {name : String} (h : written step kind = some name) :
    Stores name (ofKind kind step : Act π Unit) := by
  cases kind with
  | copyText =>
    cases h
    refine (spares_ask _).stores fun _ => (spares_call _).stores fun text => ?_
    exact (spares_note _).stores fun _ => stores_store _ _
  | copyLink =>
    cases h
    exact (spares_ask _).stores fun _ => (spares_call _).stores fun target => stores_store _ _
  | extract =>
    cases h
    refine (spares_pocket _).stores fun content => ?_
    cases Pattern.compile? step.payload with
    | none => exact stores_throw _ _
    | some pattern => exact stores_store _ _
  | refine =>
    cases h
    exact (spares_pocket _).stores fun content => (spares_pocket? _).stores fun new => stores_store _ _
  | duplicate =>
    cases h
    exact (spares_pocket? _).stores fun source => stores_store _ _
  | openPage | closePage | stop | click | type | typePass | paste | pasteText | check | none => cases h

/-- An action that writes no pocket keeps what the calls of the page keep. -/
theorem keeps_of_unwritten {f : Session π → γ} (asked : ∀ (s : Session π) call, f (s.request call).2 = f s)
    (h : written step kind = Option.none) : Keeps f (ofKind kind step : Act π Unit) := by
  have asks : ∀ call, Keeps f (ask call : Act π Unit) := keeps_ask asked
  cases kind with
  | openPage => exact (keeps_pocket _).bind fun _ => (asks _).bind fun _ => keeps_settle asked
  | closePage => exact asks _
  | stop => exact keeps_pause asked _
  | click => exact (asks _).bind fun _ => asks _
  | type => exact (keeps_pocket _).bind fun _ => (asks _).bind fun _ => asks _
  | typePass => exact (keeps_pocket _).bind fun _ => (asks _).bind fun _ => keeps_typeEach asked _ _ _
  | paste =>
    refine (keeps_pocket? _).bind fun pocketed => ?_
    have pasting : ∀ text : String, Keeps f (do
        Act.ask (.await step.selector)
        Act.ask (.setValue step.selector (splitLast text).1)
        Act.ask (.type step.selector (splitLast text).2) : Act π Unit) :=
      fun text => (asks _).bind fun _ => (asks _).bind fun _ => asks _
    split
    · exact (keeps_throw _).bind fun _ => pasting _
    · exact pasting _
  | pasteText => exact (keeps_pocket _).bind fun _ => (asks _).bind fun _ => (asks _).bind fun _ => asks _
  | check => exact asks _
  | none => exact keeps_pure ()
  | copyText | copyLink | extract | refine | duplicate => cases h

/-- What the calls of the page keep, and the note and the write of a pocket, is kept by every action. -/
theorem keeps_ofKind {f : Session π → γ} (asked : ∀ (s : Session π) call, f (s.request call).2 = f s)
    (copied : ∀ pocket text, Keeps f (note (.copied pocket text) : Act π Unit))
    (stored : ∀ name content, Keeps f (store name content : Act π Unit)) (kind : ActionKind) (step : Step) :
    Keeps f (ofKind kind step : Act π Unit) := by
  have asks : ∀ call, Keeps f (ask call : Act π Unit) := keeps_ask asked
  have calls : ∀ call, Keeps f (Act.call call : Act π String) := keeps_call asked
  cases kind with
  | copyText => exact (asks _).bind fun _ => (calls _).bind fun text => (copied _ _).bind fun _ => stored _ _
  | copyLink => exact (asks _).bind fun _ => (calls _).bind fun target => stored _ _
  | extract =>
    refine (keeps_pocket _).bind fun content => ?_
    cases Pattern.compile? step.payload with
    | none => exact keeps_throw _
    | some pattern => exact stored _ _
  | refine => exact (keeps_pocket _).bind fun content => (keeps_pocket? _).bind fun new => stored _ _
  | duplicate => exact (keeps_pocket? _).bind fun source => stored _ _
  | openPage | closePage | stop | click | type | typePass | paste | pasteText | check | none =>
    exact keeps_of_unwritten asked rfl

theorem spares_of_unwritten (h : written step kind = Option.none) : Spares (ofKind kind step : Act π Unit) :=
  keeps_of_unwritten request_pockets h

theorem pockets_of_error {s t : Session π} {failure : Failure} (h : ofKind kind step s = (.error failure, t)) :
    t.pockets = s.pockets := by
  cases target : written step kind with
  | none =>
    have spared := spares_of_unwritten target s
    rwa [h] at spared
  | some name =>
    have stored := stores_of_written target s
    rwa [h] at stored

theorem pockets_of_ok {s t : Session π} (h : ofKind kind step s = (.ok (), t)) :
    match written step kind with
    | Option.none => t.pockets = s.pockets
    | some name => ∃ content, t.pockets = s.pockets.put ⟨name, content⟩ := by
  cases target : written step kind with
  | none =>
    have spared := spares_of_unwritten target s
    rwa [h] at spared
  | some name =>
    have stored := stores_of_written target s
    rwa [h] at stored

theorem pockets_ofKind (kind : ActionKind) (step : Step) (s : Session π) :
    (ofKind kind step s).2.pockets = s.pockets ∨
      ∃ name content, written step kind = some name ∧ (ofKind kind step s).2.pockets = s.pockets.put { name, content } := by
  cases ran : ofKind kind step s with
  | mk result t =>
    cases result with
    | error failure => exact .inl (pockets_of_error ran)
    | ok =>
      have done := pockets_of_ok ran
      cases target : written step kind with
      | none =>
        rw [target] at done
        exact .inl done
      | some name =>
        rw [target] at done
        obtain ⟨content, same⟩ := done
        exact .inr ⟨name, content, rfl, same⟩

theorem get?_ofKind {name : String} (elsewhere : written step kind ≠ some name) (s : Session π) :
    (ofKind kind step s).2.pockets.get? name = s.pockets.get? name := by
  rcases pockets_ofKind kind step s with same | ⟨other, content, target, same⟩
  · rw [same]
  · have different : other ≠ name := fun here => elsewhere (by rw [target, here])
    rw [same, Pockets.get?_put, if_neg different]

theorem within_ofKind (s : Session π) : s.pockets.Within (ofKind kind step s).2.pockets := by
  rcases pockets_ofKind kind step s with same | ⟨name, content, -, same⟩
  · exact same ▸ .refl s.pockets
  · exact same ▸ Pockets.within_put s.pockets _

end

end Action

/-- Every kind that has an action has a built-in one. -/
def ActionTable.BuiltIn [Page π] (actions : ActionTable π) : Prop :=
  ∀ kind action, actions kind = some action → ∃ like, action = Action.ofKind like

theorem ActionTable.builtIn_standard [Page π] : (standard : ActionTable π).BuiltIn :=
  fun kind _ known => ⟨kind, (Option.some.inj known).symm⟩

/-- None of the actions takes a pocket away. -/
def ActionTable.Retains (actions : ActionTable π) : Prop :=
  ∀ kind action, actions kind = some action → ∀ step (s : Session π), s.pockets.Within (action step s).2.pockets

theorem ActionTable.BuiltIn.retains [Page π] {actions : ActionTable π} (builtIn : actions.BuiltIn) : actions.Retains := by
  intro kind action known step s
  obtain ⟨like, rfl⟩ := builtIn kind action known
  exact Action.within_ofKind s

/-- None of the actions sets the pause behind a navigation. -/
def ActionTable.Steady (actions : ActionTable π) : Prop :=
  ∀ kind action, actions kind = some action → ∀ step (s : Session π), (action step s).2.settle = s.settle

theorem ActionTable.BuiltIn.steady [Page π] {actions : ActionTable π} (builtIn : actions.BuiltIn) : actions.Steady := by
  intro kind action known step
  obtain ⟨like, rfl⟩ := builtIn kind action known
  exact Action.keeps_ofKind Act.request_settle (fun _ _ _ => rfl) (fun _ _ _ => rfl) like step

/-! ### Running no step -/

/-- The step that an event tells to be run. -/
def Event.step? : Event → Option Step
  | .running _ step => some step
  | _ => none

namespace Session

/-- The steps that were run in the session, in order. -/
def ran (s : Session π) : List Step :=
  s.events.toList.filterMap (·.step?)

theorem ran_note (s : Session π) (e : Event) : (s.note e).ran = s.ran ++ e.step?.toList := by
  simp only [ran, note, Array.toList_push, List.filterMap_append, List.filterMap_cons, List.filterMap_nil]
  cases e.step? <;> rfl

theorem ran_note_other (s : Session π) {e : Event} (other : e.step? = none) : (s.note e).ran = s.ran := by
  rw [ran_note, other, Option.toList_none, List.append_nil]

theorem ran_request [Page π] (s : Session π) (call : PageCall) : (s.request call).2.ran = s.ran := by
  have called : ∀ page : π, Session.ran { s with page, events := s.events.push (.called call) } = s.ran :=
    fun page => s.ran_note_other (e := .called call) rfl
  unfold request
  simp only
  split
  · exact (ran_note_other _ rfl).trans (called _)
  · exact called _

end Session

section

open Act

variable [Page π]

theorem Action.keeps_ran : ∀ kind step, Keeps Session.ran (ofKind kind step : Act π Unit) :=
  keeps_ofKind Session.ran_request (fun _ _ s => s.ran_note_other rfl) fun name content s =>
    Session.ran_note_other { s with pockets := s.pockets.put ⟨name, content⟩ } rfl

end

end Wayfarer
