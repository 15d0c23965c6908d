import Mathlib.Data.List.Infix
import Wayfarer.Page.Scripted
import Wayfarer.Proofs.Walk.Turn

/-!
# Walking with more budget

A walk asks of its budget only whether anything is left. With more of it the walk goes through the same
stages until the smaller budget is exhausted.
-/

namespace Wayfarer

/-- The event but for the budget that it tells. -/
def Event.budgetless : Event → Event
  | .walking way spot _ => .walking way spot 0
  | .recovering step _ => .recovering step 0
  | e => e

/-- A position that is reported, or a call of the page. -/
def Event.isTraced : Event → Bool
  | .reached _ | .called _ => true
  | _ => false

theorem Event.isTraced_budgetless (e : Event) : e.budgetless.isTraced = e.isTraced := by
  cases e <;> rfl

theorem Event.budgetless_of_isTraced {e : Event} (traced : e.isTraced = true) : e.budgetless = e := by
  cases e <;> first | rfl | cases traced

namespace Walk

open Stage

/-! ### States that differ in budgets alone -/

/-- A journal but for the budgets in it. -/
def story (journal : Array (Moment ω)) : List (Moment ω) :=
  journal.toList.map fun m => ⟨m.event.budgetless, m.world⟩

@[simp] theorem story_append (first last : Array (Moment ω)) : story (first ++ last) = story first ++ story last := by
  simp [story]

@[simp] theorem story_push (journal : Array (Moment ω)) (m : Moment ω) :
    story (journal.push m) = story journal ++ [⟨m.event.budgetless, m.world⟩] := by
  simp [story]

/-- The states differ at most in budgets that their journals tell. -/
abbrev Abreast (s t : State π ω) : Prop :=
  s.SameBut story t

namespace Abreast

variable {s t : State π ω}

theorem note (h : Abreast s t) {e f : Event} (same : e.budgetless = f.budgetless) : Abreast (s.note e) (t.note f) where
  page := h.page
  pockets := h.pockets
  settle := h.settle
  world := h.world
  stats := h.stats
  story := by simp [State.note, h.story, h.world, same]

theorem spent (h : Abreast s t) (step : Ident) (left right : Nat) :
    Abreast (s.spent step left) (t.spent step right) where
  page := h.page
  pockets := h.pockets
  settle := h.settle
  world := h.world
  stats := by simp [State.spent, State.note, h.stats]
  story := by simp [State.spent, State.note, h.story, h.world, Event.budgetless]

end Abreast

/-! ### Decisions with more budget -/

/-- The move with `k` more left. -/
def Move.richer (k : Nat) : Move → Move
  | .recover way left => .recover way (left + k)
  | move => move

/-- The second decision is the first with `k` more left; or the first was that the budget is exhausted, and then
the second has told the same so far. -/
def Outlasts (k : Nat) (x y : Except WalkError Move × State π ω) : Prop :=
  (y.1 = x.1.map (Move.richer k) ∧ Abreast x.2 y.2) ∨
    ∃ step, x.1 = .error (.budgetExhausted step) ∧ story x.2.journal <+: story y.2.journal

theorem respond_outlasts (step : Ident) (limit k : Nat) (ran : Except WalkError (Option Way) × State π ω) :
    Outlasts k (respond step limit ran) (respond step (limit + k) ran) := by
  obtain ⟨result, s⟩ := ran
  rcases result with e | _ | way
  · exact .inl ⟨rfl, .refl s⟩
  · exact .inl ⟨rfl, .refl s⟩
  · simp only [respond]
    by_cases nothing : way.steps.isEmpty
    · simp only [nothing, if_true]
      exact .inl ⟨rfl, .refl s⟩
    · simp only [nothing]
      cases limit with
      | succ left =>
        rw [Nat.add_right_comm]
        exact .inl ⟨rfl, Abreast.spent (.refl s) step left (left + k)⟩
      | zero =>
        rw [Nat.zero_add]
        cases k with
        | zero => exact .inl ⟨rfl, .refl s⟩
        | succ left =>
          refine .inr ⟨step, rfl, ?_⟩
          simp [State.spent, State.note]

/-- With more budget a reference is decided alike, unless the smaller budget is exhausted there. -/
theorem meet_outlasts (w : Setting π ω) (outer : List Nat) (index : Nat) (target : Ident) (limit k : Nat)
    {s t : State π ω} (h : Abreast s t) :
    Outlasts k (meet w outer index target limit s) (meet w outer index target (limit + k) t) := by
  -- behind their pasts the two states are one
  have same : Outlasts k (meet w outer index target limit s.fresh) (meet w outer index target (limit + k) s.fresh) := by
    unfold meet
    cases target.kind with
    | step => exact respond_outlasts target limit k _
    | way =>
      simp only
      cases w.definitions.way? target <;> exact .inl ⟨rfl, .refl _⟩
    | detour =>
      simp only
      cases w.definitions.resolve s.fresh.pockets target <;> exact .inl ⟨rfl, .refl _⟩
  rw [← State.after_fresh s, ← State.after_fresh t, ← h.fresh, meet_after, meet_after]
  rcases same with ⟨decided, abreast⟩ | ⟨step, exhausted, told⟩
  · exact .inl ⟨decided, h.after story_append abreast⟩
  · refine .inr ⟨step, exhausted, ?_⟩
    simp only [State.after, State.past, story_append, h.story]
    exact (List.prefix_append_right_inj _).mpr told

/-! ### Stages with more budget -/

def Activation.richer (k : Nat) (a : Activation) : Activation :=
  { a with left := a.left + k }

theorem indices_richer (k : Nat) (stack : List Activation) : indices (stack.map (·.richer k)) = indices stack := by
  simp [indices, Activation.richer]

theorem resumed_richer (k : Nat) (stack : List Activation) :
    resumed (stack.map (·.richer k)) = (resumed stack).map (·.richer k) := by
  cases stack <;> rfl

/-- Every activation of the second stage has `k` more left than that of the first. -/
inductive Lockstep (k : Nat) : Stage π ω → Stage π ω → Prop where
  | walking (stack : List Activation) {s t} (abreast : Abreast s t) :
    Lockstep k (.walking stack s) (.walking (stack.map (·.richer k)) t)
  | ended {result s t} (abreast : Abreast s t) : Lockstep k (.ended result s) (.ended result t)

theorem enter_lockstep {k : Nat} {s t : State π ω} (abreast : Abreast s t) (way : Way) (spot : Spot) (limit : Nat)
    (outer : List Activation) :
    Lockstep k (enter way spot limit outer s) (enter way spot (limit + k) (outer.map (·.richer k)) t) :=
  .walking (.begin way spot limit :: outer) (abreast.note rfl)

theorem story_proceed (a : Activation) (outer : List Activation) (decided : Except WalkError Move × State π ω) :
    story decided.2.journal <+: story (proceed a outer decided).state.journal := by
  obtain ⟨result, s⟩ := decided
  rcases result with _ | _ | _ | _ <;> simp [proceed, enter, Stage.state, State.note]

/-- The first stage is an end for want of budget, and all that it has told the second has told as well. -/
def Outrun (c d : Stage π ω) : Prop :=
  ∃ step s, c = .ended (.error (.budgetExhausted step)) s ∧ story s.journal <+: story d.state.journal

section

variable {w : Setting π ω} {k : Nat} {c d : Stage π ω}

theorem proceed_lockstep {a : Activation} {outer : List Activation} {x y : Except WalkError Move × State π ω}
    (h : Outlasts k x y) :
    Lockstep k (proceed a outer x) (proceed (a.richer k) (outer.map (·.richer k)) y) ∨
      Outrun (proceed a outer x) (proceed (a.richer k) (outer.map (·.richer k)) y) := by
  obtain ⟨result, s⟩ := x
  obtain ⟨other, t⟩ := y
  rcases h with ⟨rfl, abreast⟩ | ⟨step, rfl, told⟩
  · left
    rcases result with e | _ | ⟨way, left⟩ | way
    · exact .ended abreast
    · exact .walking (a.advance :: outer) abreast
    · exact enter_lockstep abreast way a.inner left (a.recovering left :: outer)
    · exact enter_lockstep abreast way a.inner a.left (a.waiting :: outer)
  · right
    exact ⟨step, s, rfl, told.trans (story_proceed _ _ (other, t))⟩

theorem lockstep_next (h : Lockstep k c d) : Lockstep k (next w c) (next w d) ∨ Outrun (next w c) (next w d) := by
  cases h with
  | ended abreast => exact .inl (.ended abreast)
  | @walking stack s t abreast =>
    cases stack with
    | nil => exact .inl (.ended abreast)
    | cons a outer =>
      rw [List.map_cons]
      rcases Nat.lt_or_ge a.pass a.way.repeats with unfinished | complete
      · have raised : (a.richer k).pass < (a.richer k).way.repeats := unfinished
        cases there : a.way.steps[a.index]? with
        | none =>
          have beyond : (a.richer k).way.steps[(a.richer k).index]? = none := there
          rw [next_of_beyond unfinished there, next_of_beyond raised beyond]
          exact .inl (.walking (a.again :: outer) abreast)
        | some target =>
          have place : a.At target := ⟨unfinished, there⟩
          have above : (a.richer k).At target := ⟨unfinished, there⟩
          rw [next_of_at place, next_of_at above, indices_richer]
          exact proceed_lockstep (meet_outlasts w (indices outer) a.index target a.left k abreast)
      · have raised : (a.richer k).way.repeats ≤ (a.richer k).pass := complete
        rw [next_of_complete complete, next_of_complete raised, resumed_richer]
        exact .inl (.walking (resumed outer) abreast)

theorem lockstep_of_reaches {result : Except WalkError Unit} {s : State π ω} (h : Lockstep k c d)
    (ends : Reaches w c (.ended result s)) :
    ∃ e, Reaches w d e ∧ (Lockstep k (.ended result s) e ∨ Outrun (.ended result s) e) := by
  obtain ⟨n, ends⟩ := ends
  induction n generalizing c d with
  | zero =>
    cases ends
    exact ⟨d, .refl d, .inl h⟩
  | succ n ih =>
    rw [Function.iterate_succ_apply] at ends
    rcases lockstep_next (w := w) h with together | ⟨step, t, exhausted, told⟩
    · obtain ⟨e, reached, related⟩ := ih together ends
      exact ⟨e, .step reached, related⟩
    · have fixed : (next w)^[n] (next w c) = .ended (.error (.budgetExhausted step)) t := by
        rw [exhausted]
        exact Function.iterate_fixed rfl n
      cases fixed.symm.trans ends
      exact ⟨next w d, .one rfl, .inr ⟨step, s, rfl, told⟩⟩

end

/-! ### Whole walks -/

/-- The positions and page calls of a walk, in order. -/
def State.trace (s : State π ω) : List Event :=
  (s.journal.toList.map (·.event)).filter (·.isTraced)

theorem State.trace_eq (s : State π ω) : s.trace = ((story s.journal).map (·.event)).filter (·.isTraced) := by
  unfold trace story
  rw [List.map_map]
  induction s.journal.toList with
  | nil => rfl
  | cons m rest ih =>
    simp only [List.map_cons, List.filter_cons, Function.comp, Event.isTraced_budgetless]
    split
    · rename_i traced
      rw [Event.budgetless_of_isTraced traced, ih]
    · exact ih

/-- More budget never changes what a walk has achieved with less. If it ended otherwise than for want of budget,
it ends in the same way after the same trace; if its budget was exhausted, the trace until then is the same. -/
theorem more_budget (w : Setting π ω) {depth deeper : Nat} {root : Way} {spot : Spot} {limit greater : Nat}
    {s t u : State π ω} {result other : Except WalkError Unit} (less : limit ≤ greater)
    (ends : walk w depth [] root spot limit s = some (result, t))
    (also : walk w deeper [] root spot greater s = some (other, u)) :
    ((∀ step, result ≠ .error (.budgetExhausted step)) →
      other = result ∧ u.trace = t.trace ∧ u.stats = t.stats ∧ u.page = t.page ∧ u.pockets = t.pockets ∧
        u.world = t.world) ∧
      ∀ step, result = .error (.budgetExhausted step) → t.trace <+: u.trace := by
  obtain ⟨k, rfl⟩ := Nat.exists_eq_add_of_le less
  have together : Lockstep k (start root spot limit s) (start root spot (limit + k) s) :=
    enter_lockstep (.refl s) root spot limit []
  obtain ⟨e, reached, related⟩ := lockstep_of_reaches together (reaches_of_walk ends)
  have rest := (reaches_of_walk also).ended_of_reaches reached
  rw [State.trace_eq, State.trace_eq]
  rcases related with lockstep | ⟨step, _, exhausted, told⟩
  · cases lockstep with
    | ended abreast =>
      cases Reaches.of_ended rest
      refine ⟨fun _ => ⟨rfl, ?_, abreast.stats.symm, abreast.page.symm, abreast.pockets.symm, abreast.world.symm⟩, ?_⟩
      · rw [abreast.story]
      · intro step _
        rw [abreast.story]
  · cases exhausted
    refine ⟨fun otherwise => absurd rfl (otherwise step), fun _ _ => ?_⟩
    obtain ⟨noted, grown⟩ := rest.journal
    have longer : story t.journal <+: story u.journal := by
      rw [show u.journal = e.state.journal ++ noted from grown, story_append]
      exact told.trans (List.prefix_append _ _)
    exact (longer.map _).filter _

/-! ### A step that fails in two passes -/

def impatient : Setting ScriptedPage Unit where
  definitions :=
    { steps :=
        [{ id := .step "look", description := "", action := .check, selector := "#a", onFailure := [.step "rest"] },
          { id := .step "rest", description := "" }] }
  actions := .standard

def impatientRoot : Way where
  id := .way "main"
  description := ""
  repeats := 3
  steps := [.step "look", .step "rest"]

/-- The element appears behind two looks. -/
def impatientStart : State ScriptedPage Unit where
  page := { flaky := [("#a", 2)] }
  pockets := .empty
  settle := 0
  world := ()

theorem impatient_ends (limit : Nat) (result : Except WalkError Unit)
    (ended : (walk impatient 2 [] impatientRoot .start limit impatientStart).map (·.1) = some result) :
    ∃ t, walk impatient 2 [] impatientRoot .start limit impatientStart = some (result, t) := by
  obtain ⟨⟨_, t⟩, found, rfl⟩ := Option.map_eq_some_iff.mp ended
  exact ⟨t, found⟩

theorem more_budget_impatient : ∃ t u v : State ScriptedPage Unit,
    walk impatient 2 [] impatientRoot .start 1 impatientStart =
        some (.error (.budgetExhausted (.step "look")), t) ∧
      walk impatient 2 [] impatientRoot .start 2 impatientStart = some (.ok (), u) ∧
      walk impatient 2 [] impatientRoot .start 5 impatientStart = some (.ok (), v) ∧
      t.trace <+: u.trace ∧ v.trace = u.trace ∧ v.stats = u.stats := by
  obtain ⟨t, one⟩ := impatient_ends 1 (.error (.budgetExhausted (.step "look"))) (by decide +kernel)
  obtain ⟨u, two⟩ := impatient_ends 2 (.ok ()) (by decide +kernel)
  obtain ⟨v, five⟩ := impatient_ends 5 (.ok ()) (by decide +kernel)
  obtain ⟨-, told⟩ := more_budget impatient (by decide) one two
  obtain ⟨same, -⟩ := more_budget impatient (by decide) two five
  obtain ⟨-, trace, stats, -⟩ := same (by simp)
  exact ⟨t, u, v, one, two, five, told _ rfl, trace, stats⟩

end Walk

end Wayfarer
