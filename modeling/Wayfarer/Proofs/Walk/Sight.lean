import Wayfarer.Page.Scripted
import Wayfarer.Proofs.Action
import Wayfarer.Proofs.Walk.Deeds
import Wayfarer.Proofs.Walk.Tandem

/-!
# Which pockets a walk sees

The built-in actions look for pockets under the selector, the pocket and the payload of their step, and
detours under their pocket. So of two stores that agree under those names a walk cannot tell which it was
given: it does the same, and what lies under other names it leaves alone.
-/

namespace Wayfarer

/-- The names under which records may look for a pocket. -/
def Definitions.names (d : Definitions) : List String :=
  d.detours.map (·.pocket) ++ d.steps.flatMap fun step => [step.selector, step.pocket, step.payload]

theorem Definitions.pocket_mem_names {d : Definitions} {detour : Detour} (known : detour ∈ d.detours) :
    detour.pocket ∈ d.names :=
  List.mem_append_left _ (List.mem_map_of_mem known)

namespace Pockets

/-- Both stores have the same under each of these names. -/
def AgreeOn (names : List String) (s t : Pockets) : Prop :=
  ∀ name ∈ names, s.get? name = t.get? name

/-- Both stores have the same under all other names. -/
def AgreeBeyond (names : List String) (s t : Pockets) : Prop :=
  ∀ name, name ∉ names → s.get? name = t.get? name

theorem AgreeOn.put {names : List String} {s t : Pockets} (h : s.AgreeOn names t) (p : Pocket) :
    (s.put p).AgreeOn names (t.put p) := by
  intro name named
  rw [get?_put, get?_put, h name named]

end Pockets

/-! ### Steps -/

/-- The names under which the actions of a step may look are among these. -/
structure Step.NamesIn (names : List String) (step : Step) : Prop where
  selector : step.selector ∈ names
  pocket : step.pocket ∈ names
  payload : step.payload ∈ names

theorem Definitions.namesIn_names {d : Definitions} {step : Step} (known : step ∈ d.steps) : step.NamesIn d.names := by
  have listed : ∀ name ∈ [step.selector, step.pocket, step.payload], name ∈ d.names := fun name own =>
    List.mem_append_right _ (List.mem_flatMap.mpr ⟨step, known, own⟩)
  exact ⟨listed _ (by simp), listed _ (by simp), listed _ (by simp)⟩

/-- The sessions differ at most in pockets of other names. -/
structure Session.Agree (names : List String) (s t : Session π) : Prop where
  page : s.page = t.page
  settle : s.settle = t.settle
  events : s.events = t.events
  pockets : s.pockets.AgreeOn names t.pockets

namespace Act

/-- Of the pockets the computation sees only those of these names. -/
def Sees (names : List String) (x : Act π α) : Prop :=
  ∀ s t, s.Agree names t → (x s).1 = (x t).1 ∧ (x s).2.Agree names (x t).2

section

variable {names : List String}

theorem sees_pure (a : α) : Sees names (pure a : Act π α) := fun _ _ agree => ⟨rfl, agree⟩

theorem sees_throw (e : Failure) : Sees names (throw e : Act π α) := fun _ _ agree => ⟨rfl, agree⟩

theorem Sees.bind {x : Act π α} {f : α → Act π β} (first : Sees names x) (rest : ∀ a, Sees names (f a)) :
    Sees names (x >>= f) := by
  intro s t agree
  obtain ⟨same, after⟩ := first s t agree
  rw [total_bind_apply, total_bind_apply]
  cases left : x s with
  | mk result s' =>
    cases right : x t with
    | mk other t' =>
      rw [left, right] at same after
      cases same
      cases result with
      | error e => exact ⟨rfl, after⟩
      | ok a => exact rest a s' t' after

theorem agree_note {s t : Session π} (h : s.Agree names t) (e : Event) : (s.note e).Agree names (t.note e) :=
  ⟨h.page, h.settle, congrArg (·.push e) h.events, h.pockets⟩

theorem sees_note (e : Event) : Sees names (note e : Act π Unit) := fun _ _ agree => ⟨rfl, agree_note agree e⟩

theorem sees_pocket? {name : String} (named : name ∈ names) : Sees names (pocket? name : Act π (Option String)) :=
  fun _ _ agree => ⟨congrArg Except.ok (agree.pockets name named), agree⟩

theorem sees_pocket {name : String} (named : name ∈ names) : Sees names (pocket name : Act π String) := by
  refine (sees_pocket? named).bind fun content => ?_
  cases content with
  | none => exact sees_throw _
  | some content => exact sees_pure content

theorem sees_store (name content : String) : Sees names (store name content : Act π Unit) := by
  intro s t agree
  have put : Session.Agree names { s with pockets := s.pockets.put ⟨name, content⟩ }
      { t with pockets := t.pockets.put ⟨name, content⟩ } :=
    ⟨agree.page, agree.settle, agree.events, agree.pockets.put _⟩
  exact ⟨rfl, agree_note put _⟩

variable [Page π]

theorem agree_request {s t : Session π} (h : s.Agree names t) (call : PageCall) :
    (s.request call).1 = (t.request call).1 ∧ (s.request call).2.Agree names (t.request call).2 := by
  obtain ⟨page, settle, events, pockets⟩ := h
  have called : Session.Agree names
      { s with page := (Page.answer call s.page).2, events := s.events.push (.called call) }
      { t with page := (Page.answer call t.page).2, events := t.events.push (.called call) } :=
    ⟨by rw [page], settle, by rw [events], pockets⟩
  unfold Session.request
  refine ⟨by simp only [page], ?_⟩
  simp only
  split
  · exact agree_note called _
  · exact called

theorem sees_call (c : PageCall) : Sees names (call c : Act π String) := by
  intro s t agree
  obtain ⟨same, after⟩ := agree_request agree c
  simp only [call, ExceptT.mk]
  cases left : s.request c with
  | mk answer s' =>
    cases right : t.request c with
    | mk other t' =>
      rw [left, right] at same after
      cases same
      cases answer <;> exact ⟨rfl, after⟩

theorem sees_ask (c : PageCall) : Sees names (ask c : Act π Unit) :=
  (sees_call c).bind fun _ => sees_pure ()

theorem sees_pause (millis : Nat) : Sees names (pause millis : Act π Unit) :=
  fun _ _ agree => ⟨rfl, (agree_request agree _).2⟩

theorem sees_settle : Sees names (settle : Act π Unit) := by
  intro s t agree
  refine ⟨rfl, ?_⟩
  change (s.request (.pause s.settle)).2.Agree names (t.request (.pause t.settle)).2
  rw [agree.settle]
  exact (agree_request agree _).2

theorem sees_typeEach (selector : String) (millis : Nat) (text : List Char) :
    Sees names (Action.typeEach selector millis text : Act π Unit) := by
  induction text with
  | nil => exact sees_pure ()
  | cons c rest ih => exact (sees_pause millis).bind fun _ => (sees_ask _).bind fun _ => ih

end

end Act

section

open Act

variable [Page π] {names : List String}

/-- A built-in action sees only pockets that its step names. -/
theorem Action.sees_ofKind (kind : ActionKind) {step : Step} (named : step.NamesIn names) :
    Sees names (ofKind kind step : Act π Unit) := by
  cases kind with
  | openPage => exact (sees_pocket named.payload).bind fun _ => (sees_ask _).bind fun _ => sees_settle
  | closePage => exact sees_ask _
  | stop => exact sees_pause _
  | click => exact (sees_ask _).bind fun _ => sees_ask _
  | type => exact (sees_pocket named.payload).bind fun _ => (sees_ask _).bind fun _ => sees_ask _
  | typePass => exact (sees_pocket named.pocket).bind fun _ => (sees_ask _).bind fun _ => sees_typeEach _ _ _
  | paste =>
    refine (sees_pocket? named.pocket).bind fun pocketed => ?_
    have pasting : ∀ text : String, Sees names (do
        Act.ask (.await step.selector)
        Act.ask (.setValue step.selector (splitLast text).1)
        Act.ask (.type step.selector (splitLast text).2) : Act π Unit) :=
      fun text => (sees_ask _).bind fun _ => (sees_ask _).bind fun _ => sees_ask _
    split
    · exact (sees_throw _).bind fun _ => pasting _
    · exact pasting _
  | pasteText =>
    exact (sees_pocket named.payload).bind fun _ => (sees_ask _).bind fun _ => (sees_ask _).bind fun _ => sees_ask _
  | copyText =>
    exact (sees_ask _).bind fun _ => (sees_call _).bind fun _ => (sees_note _).bind fun _ => sees_store _ _
  | copyLink => exact (sees_ask _).bind fun _ => (sees_call _).bind fun _ => sees_store _ _
  | extract =>
    refine (sees_pocket named.pocket).bind fun content => ?_
    cases Pattern.compile? step.payload with
    | none => exact sees_throw _
    | some pattern => exact sees_store _ _
  | refine =>
    exact (sees_pocket named.pocket).bind fun _ => (sees_pocket? named.selector).bind fun _ => sees_store _ _
  | duplicate => exact (sees_pocket? named.selector).bind fun _ => sees_store _ _
  | check => exact sees_ask _
  | none => exact sees_pure ()

theorem Action.written_mem {kind : ActionKind} {step : Step} {name : String} (named : step.NamesIn names)
    (h : written step kind = some name) : name ∈ names := by
  cases kind with
  | copyText | extract | refine | duplicate =>
    cases h
    exact named.pocket
  | copyLink =>
    cases h
    exact named.payload
  | openPage | closePage | stop | click | type | typePass | paste | pasteText | check | none => cases h

variable {d : Definitions} {actions : ActionTable π} (builtIn : actions.BuiltIn)

include builtIn

theorem agree_runStep (id : Ident) (ordinal : Nat) {s t : Session π} (agree : s.Agree d.names t) :
    (runStep d actions id ordinal s).1 = (runStep d actions id ordinal t).1 ∧
      (runStep d actions id ordinal s).2.Agree d.names (runStep d actions id ordinal t).2 := by
  unfold runStep
  cases found : d.step? id with
  | none => exact ⟨rfl, agree⟩
  | some step =>
    have begun := agree_note agree (.running ordinal step)
    simp only
    cases known : actions step.action with
    | none => exact ⟨rfl, begun⟩
    | some action =>
      obtain ⟨like, rfl⟩ := builtIn _ action known
      have named : step.NamesIn d.names := Definitions.namesIn_names (List.mem_of_find?_eq_some found)
      obtain ⟨same, after⟩ := Action.sees_ofKind like named _ _ begun
      simp only
      cases left : Action.ofKind like step (s.note (.running ordinal step)) with
      | mk result s' =>
        cases right : Action.ofKind like step (t.note (.running ordinal step)) with
        | mk other t' =>
          rw [left, right] at same after
          cases same
          cases result with
          | error f => exact ⟨rfl, agree_note after _⟩
          | ok => exact ⟨rfl, after⟩

theorem runStep_beyond (id : Ident) (ordinal : Nat) (s : Session π) :
    s.pockets.AgreeBeyond d.names (runStep d actions id ordinal s).2.pockets := by
  intro name unnamed
  refine runStep_keeps (motive := fun t => s.pockets.get? name = t.pockets.get? name) (fun _ _ kept => kept) ?_ ordinal rfl
  intro step action found known t kept
  obtain ⟨like, rfl⟩ := builtIn _ action known
  have named : step.NamesIn d.names := Definitions.namesIn_names (List.mem_of_find?_eq_some found)
  have elsewhere : Action.written step like ≠ some name := fun here => unnamed (Action.written_mem named here)
  exact kept.trans (Action.get?_ofKind elsewhere t).symm

end

/-! ### Walks -/

theorem Definitions.resolve_of_agree {d : Definitions} {s t : Pockets} (agree : s.AgreeOn d.names t) (id : Ident) :
    d.resolve s id = d.resolve t id := by
  unfold resolve
  cases found : d.detour? id with
  | none => rfl
  | some detour => simp only [agree detour.pocket (pocket_mem_names (List.mem_of_find?_eq_some found))]

namespace Walk

/-- The states differ at most in pockets of other names. -/
structure State.Agree (names : List String) (s t : State π ω) : Prop where
  page : s.page = t.page
  settle : s.settle = t.settle
  world : s.world = t.world
  stats : s.stats = t.stats
  journal : s.journal = t.journal
  pockets : s.pockets.AgreeOn names t.pockets

theorem State.Agree.note {names : List String} {s t : State π ω} (h : s.Agree names t) (e : Event) :
    (s.note e).Agree names (t.note e) :=
  ⟨h.page, h.settle, h.world, h.stats, by simp only [State.note, h.journal, h.world], h.pockets⟩

theorem State.Agree.spent {names : List String} {s t : State π ω} (h : s.Agree names t) (step : Ident) (left : Nat) :
    (s.spent step left).Agree names (t.spent step left) := by
  obtain ⟨page, settle, world, stats, journal, pockets⟩ := h
  simp only [State.spent, State.note, world, stats, journal]
  exact ⟨page, settle, rfl, rfl, rfl, pockets⟩

theorem State.Agree.reach {names : List String} {s t : State π ω} (h : s.Agree names t) (w : Setting π ω) (spot : Spot) :
    (s.reach w spot).Agree names (t.reach w spot) := by
  obtain ⟨page, settle, world, stats, journal, pockets⟩ := h
  simp only [State.reach, State.note, world, stats, journal]
  exact ⟨page, settle, rfl, rfl, rfl, pockets⟩

section

variable [Page π] {w : Setting π ω} (builtIn : w.actions.BuiltIn)

include builtIn

theorem agree_perform {s t : State π ω} (h : s.Agree w.definitions.names t) (outer : List Nat) (index : Nat) (target : Ident) :
    (s.perform w outer index target).1 = (t.perform w outer index target).1 ∧
      (s.perform w outer index target).2.Agree w.definitions.names (t.perform w outer index target).2 := by
  have reached := h.reach w (.ofPath (outer ++ [index]))
  have sessions : s.session.Agree w.definitions.names t.session := ⟨h.page, h.settle, rfl, h.pockets⟩
  obtain ⟨same, ran⟩ := agree_runStep builtIn target index sessions
  refine ⟨same, ran.page, ran.settle, reached.world, reached.stats, ?_, ran.pockets⟩
  have told : ∀ u : State π ω, (u.perform w outer index target).2.journal =
      (u.reach w (.ofPath (outer ++ [index]))).journal ++
        (runStep w.definitions w.actions target index u.session).2.events.map
          (⟨·, (u.reach w (.ofPath (outer ++ [index]))).world⟩) := fun _ => rfl
  rw [told, told, ran.events, reached.journal, reached.world]

theorem walk_agrees (depth : Nat) (outer : List Nat) (way : Way) (spot : Spot) (limit : Nat) :
    Tandem (State.Agree w.definitions.names) (walk w depth outer way spot limit) (walk w depth outer way spot limit) := by
  have concur : Concur (State.Agree w.definitions.names) w w := by
    refine concur_of_performed rfl ?_ ?_ ?_ ?_
    · exact fun target _ _ agree => Definitions.resolve_of_agree agree.pockets target
    · exact fun e _ _ agree => agree.note e
    · exact fun step left s t agree => agree.spent step left
    · exact fun outer index target _ _ agree => agree_perform builtIn agree outer index target
  exact walk_tandem concur (fun _ _ _ _ _ agree => agree.note _) depth outer way spot limit

theorem beyond_of_reaches {c d : Stage π ω} (h : Reaches w c d) :
    c.state.pockets.AgreeBeyond w.definitions.names d.state.pockets := by
  refine state_of_reaches (motive := fun s => c.state.pockets.AgreeBeyond w.definitions.names s.pockets)
    (fun _ _ _ _ kept => kept) ?_ h (fun _ _ => rfl)
  intro _ index target s kept name unnamed
  exact (kept name unnamed).trans (runStep_beyond builtIn target index s.session name unnamed)

/-- Of two stores that agree under all named pockets a walk cannot tell which it was given: both runs come to
the same result on the same page, after the same calls and positions, or neither comes to any. Their stores
agree under all named pockets again, and under every other name each has what it had. -/
theorem walk_sees_named (depth : Nat) (root : Way) (spot : Spot) (limit : Nat) (s : State π ω) {others : Pockets}
    (agree : s.pockets.AgreeOn w.definitions.names others) :
    Option.Rel
      (fun (ends also : Except WalkError Unit × State π ω) =>
        ends.1 = also.1 ∧ ends.2.Agree w.definitions.names also.2 ∧
          s.pockets.AgreeBeyond w.definitions.names ends.2.pockets ∧
            others.AgreeBeyond w.definitions.names also.2.pockets)
      (walk w depth [] root spot limit s) (walk w depth [] root spot limit { s with pockets := others }) := by
  have together := walk_agrees builtIn depth [] root spot limit s { s with pockets := others }
    ⟨rfl, rfl, rfl, rfl, rfl, agree⟩
  cases left : walk w depth [] root spot limit s with
  | none =>
    rw [left] at together
    cases right : walk w depth [] root spot limit { s with pockets := others } with
    | none => exact .none
    | some _ => rw [right] at together; cases together
  | some ends =>
    rw [left] at together
    cases right : walk w depth [] root spot limit { s with pockets := others } with
    | none => rw [right] at together; cases together
    | some also =>
      rw [right] at together
      cases together with
      | some both =>
        exact .some ⟨both.1, both.2, beyond_of_reaches builtIn (reaches_of_walk left),
          beyond_of_reaches builtIn (reaches_of_walk right)⟩

end

/-- A walk that turns off by what lies under `mode` and types what lies under `name`. -/
def discreet : Setting ScriptedPage Unit where
  definitions := {
    steps := [{ id := .step "greet", description := "", action := .type, selector := "#field", payload := "name" }]
    detours := [{ id := .detour "turn", description := "", pocket := "mode",
                  entries := [⟨"polite", [.step "greet"]⟩, ⟨"default", []⟩] }] }
  actions := .standard

/-- A store with a pocket that none of these records names. -/
def storeWith (secret : String) : Pockets :=
  .seeded [⟨"mode", "polite"⟩, ⟨"name", "Ada"⟩, ⟨"secret", secret⟩]

def discreetState (secret : String) : State ScriptedPage Unit :=
  { page := {}, pockets := storeWith secret, settle := 0, world := () }

theorem walk_sees_named_not_secret :
    let root : Way := { id := .way "root", description := "", repeats := 2, steps := [.detour "turn"] }
    (storeWith "red").AgreeOn discreet.definitions.names (storeWith "blue") ∧ storeWith "red" ≠ storeWith "blue" ∧
      Option.Rel
        (fun (ends also : Except WalkError Unit × State ScriptedPage Unit) =>
          ends.1 = also.1 ∧ ends.2.Agree discreet.definitions.names also.2 ∧
            (storeWith "red").AgreeBeyond discreet.definitions.names ends.2.pockets ∧
              (storeWith "blue").AgreeBeyond discreet.definitions.names also.2.pockets)
        (walk discreet 3 [] root .start 0 (discreetState "red")) (walk discreet 3 [] root .start 0 (discreetState "blue")) := by
  intro root
  have agree : (storeWith "red").AgreeOn discreet.definitions.names (storeWith "blue") := by
    unfold Pockets.AgreeOn
    decide
  exact ⟨agree, by decide, walk_sees_named ActionTable.builtIn_standard 3 root .start 0 (discreetState "red") agree⟩

end Walk

end Wayfarer
