import Wayfarer.Proofs.Walk.Budget
import Wayfarer.Proofs.Walk.Depth

/-!
# How often steps are recovered

Where ways and catch ways consist of steps alone, every activation but the outermost is a catch way, entered with
one unit less than the activation around it had, which goes on with as much. So a recovery leaves two activations
with half of what the one could spend, and the whole walk spends no more than the powers of two that it begins with.
-/

namespace Wayfarer

def StepsOnly (targets : List Ident) : Prop :=
  ∀ target ∈ targets, target.kind = .step

instance (targets : List Ident) : Decidable (StepsOnly targets) :=
  inferInstanceAs (Decidable (∀ target ∈ targets, target.kind = .step))

namespace Walk

open Stage

/-! ### Stacks of catch ways -/

section

variable {w : Setting π ω} {root : Way} {spot : Spot} {limit : Nat} {s : State π ω} {c d : Stage π ω}

theorem stepsOnly_of_reaches (alone : ∀ step ∈ w.definitions.steps, StepsOnly step.onFailure)
    (rootAlone : StepsOnly root.steps) (h : Reaches w (start root spot limit s) c) :
    ∀ a ∈ c.stack, StepsOnly a.way.steps := by
  refine h.invariant (motive := fun c => ∀ a ∈ c.stack, StepsOnly a.way.steps) (fun c d turned => ?_)
    (List.forall_mem_singleton.mpr rootAlone)
  apply ways_of_turn (motive := fun way => StepsOnly way.steps) _ turned
  intro a outer s target move t here place decides
  have step : target.kind = .step := here target (List.mem_of_getElem? place.there)
  cases decides with
  | succeeded => trivial
  | dismissed => trivial
  | recovered _ ran =>
    obtain ⟨step, fails, rfl⟩ := runStep_eq_catchWay.mp (congrArg Prod.fst ran)
    exact alone step (List.mem_of_find?_eq_some fails.found)
  | way kind => simp [step] at kind
  | branch kind => simp [step] at kind

theorem Linked.length_le {stack : List Activation} (h : Linked w root limit stack)
    (alone : ∀ a ∈ stack, StepsOnly a.way.steps) : stack.length ≤ limit + 1 := by
  cases stack with
  | nil => exact Nat.zero_le _
  | cons a outer =>
    -- everything below another activation is a catch way, and has cost a unit of the budget
    have all : outer.countP (·.recovers) = outer.length := by
      apply List.countP_eq_length.mpr
      intro b member
      obtain ⟨target, place⟩ := h.stands b member
      have step := alone b (List.mem_cons_of_mem a member) target (List.mem_of_getElem? place.there)
      simp [Activation.recovers, place.there, step]
    have nested : catches (a :: outer) ≤ descents outer := h.catches_le
    rw [catches, List.tail_cons, all] at nested
    have spent := h.balance
    rw [descents_cons] at spent
    rw [List.length_cons]
    omega

end

/-! ### What can still be spent -/

/-- How many catch ways can still be entered by the activations of a stack and all below them. -/
def reserve (stack : List Activation) : Nat :=
  (stack.map fun a => 2 ^ a.left - 1).sum

theorem reserve_cons (a : Activation) (outer : List Activation) : reserve (a :: outer) = 2 ^ a.left - 1 + reserve outer := by
  simp [reserve]

theorem reserve_resumed (outer : List Activation) : reserve (resumed outer) = reserve outer := by
  cases outer <;> rfl

section

variable {w : Setting π ω} {outer : List Nat} {index limit : Nat} {target : Ident} {s t : State π ω}

theorem recoveries_of_perform (ran : Except WalkError (Option Way) × State π ω)
    (h : s.perform w outer index target = ran) : ran.2.stats.recoveries = s.stats.recoveries := by
  subst h
  rfl

theorem recoveries_of_recovered {way : Way} {left : Nat} (h : Decides w outer index target limit s (.ok (.recover way left)) t) :
    t.stats.recoveries = s.stats.recoveries + 1 ∧ left + 1 = limit := by
  cases h with
  | recovered _ ran _ cost =>
    refine ⟨?_, cost⟩
    rw [← recoveries_of_perform _ ran]
    rfl

theorem recoveries_of_unrecovered {decided : Except WalkError Move} (h : Decides w outer index target limit s decided t)
    (unrecovered : ∀ way left, decided ≠ .ok (.recover way left)) : t.stats.recoveries = s.stats.recoveries := by
  cases h with
  | unrunnable _ ran => exact recoveries_of_perform _ ran
  | succeeded _ ran => exact recoveries_of_perform _ ran
  | dismissed _ ran => exact recoveries_of_perform _ ran
  | exhausted _ ran => exact recoveries_of_perform _ ran
  | recovered => exact absurd rfl (unrecovered _ _)
  | noWay => rfl
  | way => rfl
  | noBranch => rfl
  | branch => rfl

end

/-- A recovery is paid for by the activation that makes it. What is left to that one and what the catch way gets
make up the rest. -/
theorem spending_of_turn {w : Setting π ω} {c d : Stage π ω} (alone : ∀ a ∈ c.stack, StepsOnly a.way.steps)
    (turned : Turn w c d) :
    d.state.stats.recoveries + reserve d.stack ≤ c.state.stats.recoveries + reserve c.stack := by
  cases turned with
  | rest => exact Nat.le_refl _
  | finish => exact Nat.le_refl _
  | @leave a outer s =>
    simp only [Stage.state, Stage.stack, reserve_cons, reserve_resumed]
    omega
  | again => exact Nat.le_refl _
  | fail place decides =>
    have kept := recoveries_of_unrecovered decides (by simp)
    simp only [Stage.state, kept]
    exact Nat.add_le_add_left (Nat.zero_le _) _
  | advance place decides =>
    have kept := recoveries_of_unrecovered decides (by simp)
    simp only [Stage.state, kept]
    exact Nat.le_refl _
  | @recover a outer s target way left t place decides =>
    obtain ⟨counted, cost⟩ := recoveries_of_recovered decides
    have some : 0 < 2 ^ left := Nat.two_pow_pos left
    have halves : 2 ^ a.left = 2 ^ left + 2 ^ left := by
      rw [← cost, Nat.pow_succ, Nat.mul_two]
    simp only [enter, Stage.state, Stage.stack, State.note, reserve_cons, Activation.begin, Activation.recovering, counted,
      halves]
    omega
  | @enter a outer s target way t place decides =>
    obtain ⟨here, -⟩ := List.forall_mem_cons.mp alone
    have step := here target (List.mem_of_getElem? place.there)
    cases decides with
    | way kind => simp [step] at kind
    | branch kind => simp [step] at kind

/-- Where all references of the root and of catch lists lead to steps, a walk ends, well or not, and whatever fails
in it, and however the steps catch each other, it enters less than `2 ^ limit` catch ways. -/
theorem recoveries_within_budget (w : Setting π ω) (alone : ∀ step ∈ w.definitions.steps, StepsOnly step.onFailure)
    {root : Way} (rootAlone : StepsOnly root.steps) (spot : Spot) (limit : Nat) (s : State π ω) :
    ∃ result t, (∀ depth > limit, walk w depth [] root spot limit s = some (result, t)) ∧
      t.stats.recoveries ≤ s.stats.recoveries + (2 ^ limit - 1) := by
  have only : ∀ c, Reaches w (start root spot limit s) c → ∀ a ∈ c.stack, StepsOnly a.way.steps :=
    fun c reached => stepsOnly_of_reaches alone rootAlone reached
  have low : ∀ c, Reaches w (start root spot limit s) c → c.height ≤ limit + 1 := by
    intro c reached
    rw [height_eq]
    exact (linked_of_reaches reached).length_le (only c reached)
  obtain ⟨result, t, ends⟩ := ends_of_height low
  refine ⟨result, t, ends, ?_⟩
  have reached := reaches_of_walk (ends (limit + 1) (Nat.le_refl _))
  have spent := (reached.keeps (motive := fun c => Reaches w (start root spot limit s) c ∧
    c.state.stats.recoveries + reserve c.stack ≤ s.stats.recoveries + (2 ^ limit - 1)) ?_ ⟨.refl _, ?_⟩).2
  · exact Nat.le_trans (Nat.le_add_right _ _) spent
  · rintro c ⟨here, within⟩
    exact ⟨here.trans (.one rfl), Nat.le_trans (spending_of_turn (only c here) (turn w c)) within⟩
  · exact Nat.le_refl _

/-! ### Steps that catch each other -/

/-- The steps `first`, `second` and `third` always fail, and `rest` never does. -/
def stacked : Setting ScriptedPage Unit where
  definitions :=
    { steps :=
        [{ id := .step "first", description := "", action := .check, selector := "#a",
           onFailure := [.step "second", .step "third"] },
          { id := .step "second", description := "", action := .check, selector := "#a", onFailure := [.step "third"] },
          { id := .step "third", description := "", action := .check, selector := "#a", onFailure := [.step "rest"] },
          { id := .step "rest", description := "", onFailure := [.step "rest", .step "first"] }] }
  actions := .standard

def stackedRoot : Way where
  id := .way "main"
  description := ""
  repeats := 1
  steps := [.step "first", .step "second", .step "third"]

def stackedStart : State ScriptedPage Unit where
  page := { missing := ["#a"] }
  pockets := .empty
  settle := 0
  world := ()

/-- The bound is reached. -/
theorem recoveries_within_budget_stacked :
    (∀ step ∈ stacked.definitions.steps, StepsOnly step.onFailure) ∧ StepsOnly stackedRoot.steps ∧
      ∃ t, (∀ depth > 3, walk stacked depth [] stackedRoot .start 3 stackedStart = some (.ok (), t)) ∧
        t.stats.recoveries = 7 ∧ t.stats.recoveries ≤ 2 ^ 3 - 1 := by
  have alone : ∀ step ∈ stacked.definitions.steps, StepsOnly step.onFailure := by decide
  have rootAlone : StepsOnly stackedRoot.steps := by decide
  obtain ⟨result, t, ends, few⟩ := recoveries_within_budget stacked alone rootAlone .start 3 stackedStart
  have walked : (walk stacked 4 [] stackedRoot .start 3 stackedStart).map (fun ended => (ended.1, ended.2.stats.recoveries)) =
      some (.ok (), 7) := by decide +kernel
  rw [ends 4 (by decide), Option.map_some, Option.some.injEq, Prod.mk.injEq] at walked
  obtain ⟨rfl, seven⟩ := walked
  rw [show stackedStart.stats.recoveries = 0 from rfl, Nat.zero_add] at few
  exact ⟨alone, rootAlone, t, ends, seven, few⟩

end Walk

end Wayfarer
