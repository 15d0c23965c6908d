import Wayfarer.Page.Scripted
import Wayfarer.Proofs.Definitions.Expansion
import Wayfarer.Proofs.Walk.Machine

/-!
# Walks run what their references expand to

Where there are no detours and nothing recovers a step, a walk runs the steps that its way comes to, one
after the other, whichever of them fail. From a spot it runs those that are left from there on.
-/

namespace Wayfarer

/-- A step that is found is run, and no other; what is handed back if it fails is its own catch way. -/
theorem runStep_standard [Page π] {d : Definitions} {id : Ident} {step : Step} (found : d.step? id = some step)
    (ordinal : Nat) (s : Session π) :
    ∃ done t, runStep d .standard id ordinal s = (.ok done, t) ∧ (∀ way ∈ done, way = step.catchWay) ∧
      t.ran = s.ran ++ [step] := by
  have running : (s.note (.running ordinal step)).ran = s.ran ++ [step] := s.ran_note _
  have kept := Action.keeps_ran step.action step (s.note (.running ordinal step))
  unfold runStep
  simp only [found, ActionTable.standard]
  cases ran : Action.ofKind step.action step (s.note (.running ordinal step)) with
  | mk result t =>
    rw [ran, running] at kept
    cases result with
    | ok => exact ⟨none, t, rfl, by simp, kept⟩
    | error failure => exact ⟨some step.catchWay, _, rfl, by simp, (t.ran_note_other rfl).trans kept⟩

namespace Walk

/-! ### Running a sequence of steps -/

/-- The steps that were run, in order. -/
def State.ran (s : State π ω) : List Step :=
  s.journal.toList.filterMap (·.event.step?)

theorem State.ran_note_other (s : State π ω) {e : Event} (other : e.step? = none) : (s.note e).ran = s.ran := by
  simp [ran, note, other]

/-- The computation ends well from every state, and has then run these steps. -/
def Performs (x : Walk π ω α) (steps : List Step) : Prop :=
  ∀ s, ∃ a t, x s = some (.ok a, t) ∧ t.ran = s.ran ++ steps

theorem performs_pure (a : α) : Performs (pure a : Walk π ω α) [] :=
  fun s => ⟨a, s, pure_apply a s, (List.append_nil _).symm⟩

theorem Performs.bind {x : Walk π ω α} {f : α → Walk π ω β} {first rest : List Step} (h : Performs x first)
    (behind : ∀ a, Performs (f a) rest) : Performs (x >>= f) (first ++ rest) := by
  intro s
  obtain ⟨a, t, found, ran⟩ := h s
  obtain ⟨b, u, ended, also⟩ := behind a t
  rw [bind_apply, found]
  exact ⟨b, u, ended, by rw [also, ran, List.append_assoc]⟩

theorem Performs.andThen {x : Walk π ω α} {steps : List Step} (h : Performs x steps) (b : β) :
    Performs (x >>= fun _ => pure b) steps := by
  have both := h.bind fun _ => performs_pure b
  rwa [List.append_nil] at both

/-- Nothing that is noted when a position is kept tells of a step. -/
def Setting.Silent (w : Setting π ω) : Prop :=
  ∀ spot world, ∀ m ∈ (w.keep spot world).2, m.event.step? = none

section

variable {w : Setting π ω}

theorem ran_reach (silent : w.Silent) (spot : Spot) (s : State π ω) : (s.reach w spot).ran = s.ran := by
  have nothing : (w.keep spot s.world).2.toList.filterMap (·.event.step?) = [] :=
    List.filterMap_eq_nil_iff.mpr fun m member => silent spot s.world m (Array.mem_toList_iff.mp member)
  have kept : (s.reach w spot).ran =
      (s.note (.reached spot)).ran ++ (w.keep spot s.world).2.toList.filterMap (·.event.step?) := by
    simp only [State.reach, State.ran, Array.toList_append, List.filterMap_append]
    rfl
  rw [kept, nothing, List.append_nil, s.ran_note_other rfl]

theorem ran_act (target : Ident) (ordinal : Nat) (s : State π ω) :
    (s.act w target ordinal).2.ran =
      s.ran ++ (runStep w.definitions w.actions target ordinal s.session).2.ran := by
  simp only [State.act, State.ran, Session.ran, Array.toList_append, Array.toList_map, List.filterMap_append,
    List.filterMap_map, State.session, Function.comp_def]

variable {descend : List Nat → Way → Spot → Nat → Walk π ω Unit} {id : Ident}

theorem perform_standard [Page π] (standard : w.actions = .standard) (silent : w.Silent) {step : Step}
    (found : w.definitions.step? id = some step) (outer : List Nat) (index : Nat) (s : State π ω) :
    ∃ done t, s.perform w outer index id = (.ok done, t) ∧ (∀ way ∈ done, way = step.catchWay) ∧
      t.ran = s.ran ++ [step] := by
  have reached := ran_reach silent (.ofPath (outer ++ [index])) s
  have acted := ran_act (w := w) id index (s.reach w (.ofPath (outer ++ [index])))
  obtain ⟨done, t, ran, catching, told⟩ := runStep_standard found index s.session
  have same : runStep w.definitions w.actions id index s.session = (.ok done, t) := by rw [standard, ran]
  have finished : (runStep w.definitions w.actions id index s.session).1 = .ok done := by rw [same]
  refine ⟨done, (s.perform w outer index id).2, Prod.ext finished rfl, catching, ?_⟩
  calc (s.perform w outer index id).2.ran
      = s.ran ++ (runStep w.definitions w.actions id index s.session).2.ran := by rw [← reached]; exact acted
    _ = s.ran ++ [step] := by rw [same, told]; rfl

theorem follow_step_performs [Page π] (standard : w.actions = .standard) (silent : w.Silent) {step : Step}
    (kind : id.kind = .step) (found : w.definitions.step? id = some step) (uncaught : step.onFailure = [])
    (outer : List Nat) (index : Nat) (inner : Spot) (limit : Nat) :
    Performs (follow w descend outer index id inner limit) [step] := by
  intro s
  obtain ⟨done, t, ran, catching, told⟩ := perform_standard standard silent found outer index s
  have advances : meet w outer index id limit s = (.ok .advance, t) := by
    cases done with
    | none => exact meet_of_decides (.succeeded kind ran)
    | some way =>
      have nothing : way.steps = [] := by rw [catching way rfl, Step.catchWay, uncaught]
      exact meet_of_decides (.dismissed kind ran nothing)
  rw [follow_apply, advances]
  exact ⟨limit, t, rfl, told⟩

theorem follow_way_performs {way : Way} {steps : List Step} (kind : id.kind = .way)
    (found : w.definitions.way? id = some way) {outer : List Nat} {index : Nat} {inner : Spot} {limit : Nat}
    (below : Performs (descend (outer ++ [index]) way inner limit) steps) :
    Performs (follow w descend outer index id inner limit) steps := by
  intro s
  rw [follow_apply, meet_of_decides (.way kind found)]
  exact below.andThen limit s

/-! ### Running an expansion -/

theorem passes_performs {once : Nat → Walk π ω Nat} {pass : List Step} (one : ∀ limit, Performs (once limit) pass)
    (n : Nat) : ∀ limit, Performs (passes once n limit) (List.replicate n pass).flatten := by
  induction n with
  | zero => exact fun limit => performs_pure limit
  | succ n ih =>
    intro limit
    rw [List.replicate_succ, List.flatten_cons]
    exact (one limit).bind ih

theorem walk_performs {depth more : Nat} {outer : List Nat} {way : Way} {spot : Spot} {first pass : List Step}
    (repeats : way.repeats = more + 1)
    (rest : ∀ limit, Performs
      (followAll (follow w (walk w depth) outer) spot.index (way.steps.drop spot.index) spot.inner limit) first)
    (whole : ∀ limit, Performs (followAll (follow w (walk w depth) outer) 0 way.steps .start limit) pass) (limit : Nat) :
    Performs (walk w (depth + 1) outer way spot limit) (first ++ (List.replicate more pass).flatten) := by
  intro s
  have passing := (rest limit).bind fun left => (passes_performs whole more left).andThen ()
  obtain ⟨a, t, walked, ran⟩ := passing (s.note (.walking way spot limit))
  rw [walk_succ _ _ _ _ _ _ more repeats]
  exact ⟨a, t, walked, by rw [ran, s.ran_note_other rfl]⟩

theorem walk_start_performs {depth : Nat} {outer : List Nat} {way : Way} {pass : List Step}
    (whole : ∀ limit, Performs (followAll (follow w (walk w depth) outer) 0 way.steps .start limit) pass) (limit : Nat) :
    Performs (walk w (depth + 1) outer way .start limit) (List.replicate way.repeats pass).flatten := by
  cases repeats : way.repeats with
  | zero =>
    intro s
    refine ⟨(), _, walk_zero_repeats _ _ _ _ _ _ repeats s, ?_⟩
    rw [s.ran_note_other rfl, List.replicate_zero, List.flatten_nil, List.append_nil]
  | succ more =>
    rw [List.replicate_succ, List.flatten_cons]
    exact walk_performs repeats whole whole limit

end

section

variable [Page π] {w : Setting π ω} (standard : w.actions = .standard) (silent : w.Silent)
  (uncaught : ∀ step ∈ w.definitions.steps, step.onFailure = [])

include standard silent uncaught

theorem followAll_performs {refs : List Ident} {steps : List Step} (expands : w.definitions.Expands refs steps) :
    ∃ enough, ∀ depth ≥ enough, ∀ outer index limit,
      Performs (followAll (follow w (walk w depth) outer) index refs .start limit) steps := by
  -- by what the references expand to: a way is walked one level further down than its own references need
  induction expands with
  | nil => exact ⟨0, fun _ _ _ _ limit => performs_pure limit⟩
  | @step id step rest steps kind found behind ih =>
    obtain ⟨enough, others⟩ := ih
    refine ⟨enough, fun depth deep outer index limit => ?_⟩
    have alone := uncaught step (List.mem_of_find?_eq_some found)
    show Performs _ ([step] ++ steps)
    refine (follow_step_performs standard silent kind found alone outer index .start limit).bind fun left => ?_
    exact others depth deep outer (index + 1) left
  | @way id way rest pass steps kind found inside behind ihInside ihBehind =>
    obtain ⟨enough, within⟩ := ihInside
    obtain ⟨more, others⟩ := ihBehind
    refine ⟨max (enough + 1) more, fun depth deep outer index limit => ?_⟩
    obtain ⟨depth, rfl⟩ : ∃ below, depth = below + 1 := ⟨depth - 1, by omega⟩
    have below := walk_start_performs (fun left => within depth (by omega) (outer ++ [index]) 0 left) limit
    exact (follow_way_performs kind found below).bind fun left => others (depth + 1) (by omega) outer (index + 1) left

/-- Behind the reference at its spot a walk runs what the references left in the pass come to, and then the
other passes. -/
theorem walk_from_performs {root : Way} {spot : Spot} {id : Ident} {pass here others : List Step} {more : Nat}
    (repeats : root.repeats = more + 1) (there : root.steps[spot.index]? = some id)
    (expands : w.definitions.Expands root.steps pass)
    (behind : w.definitions.Expands (root.steps.drop (spot.index + 1)) others)
    (visit : ∃ enough, ∀ depth ≥ enough, ∀ outer limit,
      Performs (follow w (walk w depth) outer spot.index id spot.inner limit) here) :
    ∃ enough, ∀ depth ≥ enough, ∀ outer limit,
      Performs (walk w depth outer root spot limit) (here ++ others ++ (List.replicate more pass).flatten) := by
  obtain ⟨inside, same⟩ := List.getElem?_eq_some_iff.mp there
  obtain ⟨enough, first⟩ := visit
  obtain ⟨later, rest⟩ := followAll_performs standard silent uncaught behind
  obtain ⟨again, whole⟩ := followAll_performs standard silent uncaught expands
  refine ⟨max enough (max later again) + 1, fun depth deep outer limit => ?_⟩
  obtain ⟨depth, rfl⟩ : ∃ below, depth = below + 1 := ⟨depth - 1, by omega⟩
  refine walk_performs repeats (fun left => ?_) (fun left => whole depth (by omega) outer 0 left) limit
  rw [List.drop_eq_getElem_cons inside, same]
  exact (first depth (by omega) outer left).bind fun less => rest depth (by omega) outer (spot.index + 1) less

theorem resumed_performs {root : Way} {spot : Spot} {before : List Step} {step : Step}
    (addresses : w.definitions.Addresses root spot before step) {pass : List Step}
    (expands : w.definitions.Expands root.steps pass) :
    ∃ rest, (List.replicate root.repeats pass).flatten = before ++ step :: rest ∧
      ∃ enough, ∀ depth ≥ enough, ∀ outer limit, Performs (walk w depth outer root spot limit) (step :: rest) := by
  induction addresses generalizing pass with
  | @step root spot id before step walked there kind found front =>
    obtain ⟨more, repeats⟩ := Nat.exists_eq_succ_of_ne_zero walked
    obtain ⟨first, back, begins, ends, rfl⟩ := expands.split_at there
    -- what stands in front of the spot expands to one sequence only, so the whole splits there
    cases front.unique begins
    cases ends with
    | way other => cases kind.symm.trans other
    | @step _ _ _ others _ same behind =>
      cases found.symm.trans same
      have alone := uncaught step (List.mem_of_find?_eq_some found)
      have runs := walk_from_performs standard silent uncaught repeats there expands behind
        ⟨0, fun depth _ outer limit => follow_step_performs standard silent kind found alone outer _ _ limit⟩
      refine ⟨others ++ (List.replicate more (before ++ step :: others)).flatten, ?_, runs⟩
      rw [repeats, List.replicate_succ, List.flatten_cons, List.append_assoc, List.cons_append]
  | @way root spot id way before inner step walked there kind found front inside ih =>
    obtain ⟨more, repeats⟩ := Nat.exists_eq_succ_of_ne_zero walked
    obtain ⟨first, back, begins, ends, rfl⟩ := expands.split_at there
    cases front.unique begins
    cases ends with
    | step other => cases kind.symm.trans other
    | @way _ _ _ pass others _ same within behind =>
      cases found.symm.trans same
      obtain ⟨rest, left, enough, below⟩ := ih within
      have runs := walk_from_performs standard silent uncaught repeats there expands behind
        ⟨enough, fun depth deep outer limit => follow_way_performs kind found (below depth deep _ limit)⟩
      refine ⟨rest ++ others ++ (List.replicate more (before ++ ((List.replicate way.repeats pass).flatten ++ others))).flatten,
        ?_, runs⟩
      rw [repeats, List.replicate_succ, List.flatten_cons, left]
      simp only [List.append_assoc, List.cons_append]

/-- Over definitions without detours, without catch ways, without cycles and with every reference leading
somewhere, a walk of one of the ways ends well and runs what the way comes to; and from a spot that leads to a
step in the first pass it runs what is left from that step on. So it does in every state, whatever the limit,
however many of the steps fail, and however deep it may nest from some depth on. -/
theorem walk_runs_expansion (undetoured : w.definitions.detours = []) (closed : w.definitions.dangling = [])
    (acyclic : w.definitions.cycles = []) {root : Way} (member : root ∈ w.definitions.ways) :
    ∃ pass, w.definitions.Expands root.steps pass ∧
      (∃ enough, ∀ depth ≥ enough, ∀ limit,
        Performs (walk w depth [] root .start limit) (List.replicate root.repeats pass).flatten) ∧
      ∀ spot before step, w.definitions.Addresses root spot before step →
        ∃ rest, (List.replicate root.repeats pass).flatten = before ++ step :: rest ∧
          ∃ enough, ∀ depth ≥ enough, ∀ limit, Performs (walk w depth [] root spot limit) (step :: rest) := by
  obtain ⟨pass, expands⟩ := Definitions.expands_of_acyclic acyclic closed undetoured member
  refine ⟨pass, expands, ?_, fun spot before step addresses => ?_⟩
  · obtain ⟨enough, whole⟩ := followAll_performs standard silent uncaught expands
    refine ⟨enough + 1, fun depth deep limit => ?_⟩
    obtain ⟨depth, rfl⟩ : ∃ below, depth = below + 1 := ⟨depth - 1, by omega⟩
    exact walk_start_performs (fun left => whole depth (by omega) [] 0 left) limit
  · obtain ⟨rest, left, enough, runs⟩ := resumed_performs standard silent uncaught addresses expands
    exact ⟨rest, left, enough, fun depth deep limit => runs depth deep [] limit⟩

end

/-! ### Ways within ways, with a step that fails -/

def nestedLook : Step where
  id := .step "look"
  description := ""
  action := .check
  selector := "#a"

def nestedRest : Step where
  id := .step "rest"
  description := ""

def nestedInner : Way where
  id := .way "inner"
  description := ""
  repeats := 2
  steps := [.step "look", .step "rest"]

def nestedRoot : Way where
  id := .way "main"
  description := ""
  repeats := 2
  steps := [.step "rest", .way "inner"]

def nested : Setting ScriptedPage Unit where
  definitions := { steps := [nestedLook, nestedRest], ways := [nestedInner, nestedRoot] }
  actions := .standard

theorem nested_expands : nested.definitions.Expands nestedRoot.steps [nestedRest, nestedLook, nestedRest, nestedLook, nestedRest] := by
  have found : nested.definitions.way? (.way "inner") = some nestedInner := rfl
  have inside : nested.definitions.Expands nestedInner.steps [nestedLook, nestedRest] := .step rfl rfl (.step rfl rfl .nil)
  have whole := inside.way rfl found .nil
  exact .step rfl rfl whole

theorem nested_addresses : nested.definitions.Addresses nestedRoot ⟨1, [1]⟩ [nestedRest, nestedLook] nestedRest := by
  have found : nested.definitions.way? (.way "inner") = some nestedInner := rfl
  have inside : nested.definitions.Addresses nestedInner (Spot.inner ⟨1, [1]⟩) [nestedLook] nestedRest :=
    .step (by decide) rfl rfl rfl (.step rfl rfl .nil)
  have front : nested.definitions.Expands (nestedRoot.steps.take (Spot.index ⟨1, [1]⟩)) [nestedRest] := .step rfl rfl .nil
  have through := Definitions.Addresses.way (by decide : nestedRoot.repeats ≠ 0) rfl rfl found front inside
  exact through

theorem walk_runs_expansion_nested :
    (∃ enough, ∀ depth ≥ enough, ∀ limit, Performs (walk nested depth [] nestedRoot .start limit)
      [nestedRest, nestedLook, nestedRest, nestedLook, nestedRest, nestedRest, nestedLook, nestedRest, nestedLook, nestedRest]) ∧
    ∃ enough, ∀ depth ≥ enough, ∀ limit, Performs (walk nested depth [] nestedRoot ⟨1, [1]⟩ limit)
      [nestedRest, nestedLook, nestedRest, nestedRest, nestedLook, nestedRest, nestedLook, nestedRest] := by
  obtain ⟨pass, expands, whole, resumed⟩ := walk_runs_expansion (w := nested) rfl (by simp [Setting.Silent, nested])
    (by decide) rfl (by decide +kernel) (by decide +kernel) (by decide : nestedRoot ∈ nested.definitions.ways)
  cases expands.unique nested_expands
  obtain ⟨left, splits, runs⟩ := resumed _ _ _ nested_addresses
  cases splits
  exact ⟨whole, runs⟩

end Walk

end Wayfarer
