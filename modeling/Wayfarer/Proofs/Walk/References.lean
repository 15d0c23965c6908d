import Wayfarer.Definitions.Check
import Wayfarer.Proofs.Walk.Deeds
import Wayfarer.Proofs.Walk.Stack

/-!
# References that lead somewhere

Where every reference of a set of definitions leads to a record, a walk whose root refers to records
only ever follows references to records, however it gets to them. It may still lack a pocket, an entry
for what a pocket holds, or budget.
-/

namespace Wayfarer

namespace Definitions

def Resolves (d : Definitions) (targets : List Ident) : Prop :=
  ∀ target ∈ targets, d.has target = true

/-- The references of every record lead to records. -/
structure Closed (d : Definitions) : Prop where
  steps : ∀ step ∈ d.steps, d.Resolves step.onFailure
  ways : ∀ way ∈ d.ways, d.Resolves way.steps
  detours : ∀ detour ∈ d.detours, ∀ entry ∈ detour.entries, d.Resolves entry.steps

theorem danglingFrom_eq_nil {d : Definitions} {owner : Ident} {targets : List Ident} :
    d.danglingFrom owner targets = [] ↔ d.Resolves targets := by
  simp [danglingFrom, Resolves, List.filter_eq_nil_iff]

theorem dangling_eq_nil {d : Definitions} : d.dangling = [] ↔ d.Closed := by
  simp only [dangling, List.append_eq_nil_iff, List.flatMap_eq_nil_iff, danglingFrom_eq_nil, and_assoc]
  exact ⟨fun ⟨steps, ways, detours⟩ => ⟨steps, ways, detours⟩, fun h => ⟨h.steps, h.ways, h.detours⟩⟩

end Definitions

namespace Walk

open Stage

/-- Every kind of step has an action, and none of the actions takes a pocket away. -/
structure Setting.Equipped (w : Setting π ω) : Prop where
  known : ∀ kind, w.actions kind ≠ none
  retains : ∀ kind action, w.actions kind = some action →
    ∀ step (s : Session π), s.pockets.Within (action step s).2.pockets

theorem equipped_of_standard [Page π] {w : Setting π ω} (standard : w.actions = .standard) : w.Equipped where
  known kind := by simp [standard, ActionTable.standard]
  retains := by
    rw [standard]
    exact ActionTable.builtIn_standard.retains

theorem within_of_reaches {w : Setting π ω} (equipped : w.Equipped) {c d : Stage π ω} (h : Reaches w c d) :
    c.state.pockets.Within d.state.pockets :=
  within_of_retains equipped.retains h

/-! ### References stay resolved -/

def Resolved (w : Setting π ω) (c : Stage π ω) : Prop :=
  ∀ a ∈ c.stack, w.definitions.Resolves a.way.steps

section

variable {w : Setting π ω} (closed : w.definitions.Closed)

include closed

theorem resolves_of_decides {outer : List Nat} {index limit : Nat} {target : Ident} {s t : State π ω} {move : Move}
    (h : Decides w outer index target limit s (.ok move) t) :
    move.Into fun way => w.definitions.Resolves way.steps := by
  cases h with
  | succeeded => trivial
  | dismissed => trivial
  | recovered kind ran =>
    obtain ⟨step, fails, rfl⟩ := runStep_eq_catchWay.mp (congrArg Prod.fst ran)
    exact closed.steps step (List.mem_of_find?_eq_some fails.found)
  | way kind found => exact closed.ways _ (List.mem_of_find?_eq_some found)
  | branch kind chosen =>
    obtain ⟨found, entry⟩ := Definitions.detour_of_resolve chosen
    exact closed.detours _ (List.mem_of_find?_eq_some found) _ entry

theorem resolved_of_turn {c d : Stage π ω} (turned : Turn w c d) (h : Resolved w c) : Resolved w d :=
  ways_of_turn (motive := fun way => w.definitions.Resolves way.steps) (fun _ _ decides => resolves_of_decides closed decides)
    turned h

end

/-! ### What is left to go wrong -/

/-- The errors that remain for a walk that is begun with these pockets. -/
inductive Foreseen (d : Definitions) (pockets : Pockets) : WalkError → Prop where
  | missingPocket {detour : Detour} (known : detour ∈ d.detours) (absent : pockets.get? detour.pocket = none) :
    Foreseen d pockets (.missingPocket detour.id detour.pocket)
  | noEntry {detour : Detour} {content : String} (known : detour ∈ d.detours)
    (unmatched : detour.select? content = none) : Foreseen d pockets (.noEntry detour.id content)
  | budgetExhausted (step : Ident) : Foreseen d pockets (.budgetExhausted step)

theorem foreseen_of_decides {w : Setting π ω} (equipped : w.Equipped) {outer : List Nat} {index limit : Nat}
    {target : Ident} {s t : State π ω} {e : WalkError} (there : w.definitions.has target = true)
    (h : Decides w outer index target limit s (.error e) t) : Foreseen w.definitions s.pockets e := by
  unfold Definitions.has at there
  cases h with
  | unrunnable kind ran =>
    rw [kind] at there
    rcases runStep_eq_error.mp (congrArg Prod.fst ran) with ⟨missing, -⟩ | ⟨step, -, unknown, -⟩
    · simp [missing] at there
    · exact absurd unknown (equipped.known step.action)
  | exhausted => exact .budgetExhausted target
  | noWay kind absent => simp [kind, absent] at there
  | noBranch kind fails =>
    rw [kind] at there
    rcases Definitions.resolve_eq_error.mp fails with ⟨missing, -⟩ | ⟨detour, found, lacking⟩
    · simp [missing] at there
    · have known := List.mem_of_find?_eq_some found
      rcases lacking with ⟨absent, rfl⟩ | ⟨content, -, unmatched, rfl⟩
      · exact .missingPocket known absent
      · exact .noEntry known unmatched

/-- Over closed definitions, with an action for every kind of step, a walk only ends in errors that are foreseen. -/
theorem foreseen_of_reaches {w : Setting π ω} (equipped : w.Equipped) (closed : w.definitions.Closed) {root : Way}
    (records : w.definitions.Resolves root.steps) {spot : Spot} {limit : Nat} {s t : State π ω} {e : WalkError}
    (h : Reaches w (start root spot limit s) (.ended (.error e) t)) : Foreseen w.definitions s.pockets e := by
  obtain ⟨a, outer, u, target, reached, place, decides⟩ := h.decided_of_error (by simp [start, enter])
  have resolved : Resolved w (.walking (a :: outer) u) :=
    reached.invariant (motive := Resolved w) (fun _ _ => resolved_of_turn closed)
      (List.forall_mem_cons.mpr ⟨records, by simp⟩)
  have there := (List.forall_mem_cons.mp resolved).1 target (List.mem_of_getElem? place.there)
  have grown := within_of_reaches equipped reached
  -- a pocket that is missing now has been missing from the start
  cases foreseen_of_decides equipped there decides with
  | missingPocket known absent => exact .missingPocket known (grown.absent absent)
  | noEntry known unmatched => exact .noEntry known unmatched
  | budgetExhausted step => exact .budgetExhausted step

end Walk

end Wayfarer
