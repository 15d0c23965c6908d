import Mathlib.Algebra.GroupWithZero.Nat
import Wayfarer.Proofs.Walk.Stack

/-!
# The budget of a walk

What the innermost activation may still spend is the limit of the walk less the catch ways that the
activations on the stack have entered, each since it began. Ways, branches and activations that have
ended do not count.
-/

namespace Wayfarer.Walk

open Stage

/-- How many catch ways the activations have entered, with those that are walked now. -/
def descents (stack : List Activation) : Nat :=
  (stack.map (·.recoveries)).sum

/-- The reference of the activation is a step, so that what is walked below is the catch way of it. -/
def Activation.recovers (a : Activation) : Bool :=
  a.way.steps[a.index]?.any (·.kind = .step)

def catches (stack : List Activation) : Nat :=
  stack.tail.countP (·.recovers)

section

variable {w : Setting π ω} {root : Way} {limit : Nat} {a : Activation} {outer : List Activation}

theorem descents_cons (a : Activation) (outer : List Activation) :
    descents (a :: outer) = a.recoveries + descents outer := by
  simp [descents]

theorem Linked.balance (h : Linked w root limit (a :: outer)) : a.left + descents (a :: outer) = limit := by
  induction outer generalizing a with
  | nil =>
    obtain ⟨-, budget⟩ := h
    rw [descents_cons]
    exact budget
  | cons b outer ih =>
    obtain ⟨under, rest⟩ := h
    have above := ih rest
    have drawn := under.budget
    rw [descents_cons]
    omega

theorem Linked.catches_le (h : Linked w root limit (a :: outer)) : catches (a :: outer) ≤ descents outer := by
  induction outer generalizing a with
  | nil => exact Nat.zero_le _
  | cons b outer ih =>
    obtain ⟨under, rest⟩ := h
    have above := ih rest
    obtain ⟨target, there, entered, -⟩ := under.reference
    have here : (if b.recovers then 1 else 0) ≤ b.recoveries := by
      split
      · rename_i recovers
        rw [Activation.recovers, there] at recovers
        exact entered (by simpa using recovers)
      · exact Nat.zero_le _
    rw [descents_cons]
    simp only [catches, List.tail_cons, List.countP_cons] at above ⊢
    omega

end

/-! ### The end of the budget -/

theorem exhausted_iff {w : Setting π ω} {outer : List Nat} {index limit : Nat} {target id : Ident} {s : State π ω} :
    (∃ t, Decides w outer index target limit s (.error (.budgetExhausted id)) t) ↔
      target = id ∧ id.kind = .step ∧ limit = 0 ∧
        ∃ step, StepFails w.definitions w.actions id index s.session step ∧ step.onFailure ≠ [] := by
  constructor
  · rintro ⟨t, decides⟩
    generalize result : (.error (.budgetExhausted id) : Except WalkError Move) = decided at decides
    cases decides with
    | unrunnable kind ran =>
      cases result
      have failed : (runStep w.definitions w.actions target index s.session).1 = .error (.budgetExhausted id) :=
        congrArg Prod.fst ran
      rcases runStep_eq_error.mp failed with ⟨-, same⟩ | ⟨step, -, -, same⟩ <;> cases same
    | exhausted kind ran something spent =>
      cases result
      have failed : (runStep w.definitions w.actions target index s.session).1 = .ok (some _) := congrArg Prod.fst ran
      obtain ⟨step, fails, rfl⟩ := runStep_eq_catchWay.mp failed
      exact ⟨rfl, kind, spent, step, fails, something⟩
    | noBranch kind fails =>
      cases result
      rcases Definitions.resolve_eq_error.mp fails with ⟨-, same⟩ | ⟨detour, -, ⟨-, same⟩ | ⟨content, -, -, same⟩⟩ <;>
        cases same
    | noWay => cases result
    | succeeded => cases result
    | dismissed => cases result
    | recovered => cases result
    | way => cases result
    | branch => cases result
  · rintro ⟨rfl, kind, spent, step, fails, something⟩
    have failed : (s.perform w outer index target).1 = .ok (some step.catchWay) :=
      runStep_eq_catchWay.mpr ⟨step, fails, rfl⟩
    exact ⟨_, .exhausted kind (Prod.ext failed rfl) something spent⟩

/-- At every moment of a walk the catch ways entered by the activations on the stack, and what the innermost
has left, make up the limit. So no more catch ways than that are nested, and none is entered with nothing
left. The budget is exhausted in recovering a step exactly if that step fails, with something to recover
it, where all of the limit has been spent. -/
theorem budget_balanced (w : Setting π ω) (root : Way) (spot : Spot) (limit : Nat) (s : State π ω) :
    (∀ a outer u, Reaches w (start root spot limit s) (.walking (a :: outer) u) →
      descents (a :: outer) ≤ limit ∧ a.left = limit - descents (a :: outer) ∧ catches (a :: outer) ≤ limit ∧
        ∀ target way left t, a.At target →
          meet w (indices outer) a.index target a.left u = (.ok (.recover way left), t) →
            0 < a.left ∧ left = a.left - 1) ∧
    ∀ id, (∃ depth t, walk w depth [] root spot limit s = some (.error (.budgetExhausted id), t)) ↔
      ∃ a outer u step, Reaches w (start root spot limit s) (.walking (a :: outer) u) ∧ a.At id ∧ id.kind = .step ∧
        StepFails w.definitions w.actions id a.index u.session step ∧ step.onFailure ≠ [] ∧
        descents (a :: outer) = limit := by
  have balance : ∀ {a outer u}, Reaches w (start root spot limit s) (.walking (a :: outer) u) →
      a.left + descents (a :: outer) = limit := fun reached => (linked_of_reaches reached).balance
  refine ⟨fun a outer u reached => ?_, fun id => ⟨?_, ?_⟩⟩
  · have held := balance reached
    have nested := (linked_of_reaches reached).catches_le
    rw [descents_cons] at held ⊢
    refine ⟨by omega, by omega, by omega, ?_⟩
    intro target way left t place decided
    cases decides_of_meet decided with
    | recovered kind ran something cost => omega
  · rintro ⟨depth, t, ends⟩
    obtain ⟨a, outer, u, target, reached, place, decides⟩ :=
      (reaches_of_walk ends).decided_of_error (by simp [start, enter])
    obtain ⟨rfl, kind, spent, step, fails, something⟩ := exhausted_iff.mp ⟨t, decides⟩
    have held := balance reached
    exact ⟨a, outer, u, step, reached, place, kind, fails, something, by omega⟩
  · rintro ⟨a, outer, u, step, reached, place, kind, fails, something, all⟩
    have held := balance reached
    obtain ⟨t, decides⟩ := exhausted_iff.mpr ⟨rfl, kind, (by omega : a.left = 0), step, fails, something⟩
    have ends : next w (.walking (a :: outer) u) = .ended (.error (.budgetExhausted id)) t := by
      rw [next_of_at place, meet_of_decides decides]
      rfl
    obtain ⟨depth, walked⟩ := walk_iff_reaches.mpr (reached.trans (.one ends))
    exact ⟨depth, t, walked⟩

end Wayfarer.Walk
