import Wayfarer.Proofs.Walk.Turn

/-!
# How activations stand in one another

An activation walks what the reference of the one around it leads to, with the budget of that one.
-/

namespace Wayfarer.Walk

open Stage

/-- An activation stands in the one around it: it walks what the reference there leads to, with the
budget of that one. -/
structure Under (w : Setting π ω) (child parent : Activation) : Prop where
  budget : child.left + child.recoveries = parent.left
  unfinished : parent.pass < parent.way.repeats
  reference : ∃ target, parent.way.steps[parent.index]? = some target ∧
    (target.kind = .step → 0 < parent.recoveries) ∧
    (target.kind = .way → w.definitions.way? target = some child.way)

/-- Every activation of a stack stands in the next one, and the last walks the root. -/
def Linked (w : Setting π ω) (root : Way) (limit : Nat) : List Activation → Prop
  | [] => True
  | [a] => a.way = root ∧ a.left + a.recoveries = limit
  | a :: b :: outer => Under w a b ∧ Linked w root limit (b :: outer)

section

variable {w : Setting π ω} {root : Way} {limit : Nat} {a b : Activation} {outer : List Activation}

theorem Linked.move (h : Linked w root limit (a :: outer)) (way : b.way = a.way)
    (budget : b.left + b.recoveries = a.left + a.recoveries) : Linked w root limit (b :: outer) := by
  cases outer with
  | nil => exact ⟨way.trans h.1, budget.trans h.2⟩
  | cons c outer =>
    obtain ⟨⟨spent, unfinished, target, there, step, onward⟩, rest⟩ := h
    exact ⟨⟨budget.trans spent, unfinished, target, there, step, fun kind => way ▸ onward kind⟩, rest⟩

theorem Linked.tail (h : Linked w root limit (a :: outer)) : Linked w root limit outer := by
  cases outer with
  | nil => trivial
  | cons b outer => exact h.2

theorem Linked.suffix {below stack : List Activation} (h : Linked w root limit (below ++ stack)) :
    Linked w root limit stack := by
  induction below with
  | nil => exact h
  | cons _ _ ih => exact ih h.tail

theorem Linked.stands (h : Linked w root limit (a :: outer)) : ∀ b ∈ outer, ∃ target, b.At target := by
  induction outer generalizing a with
  | nil => exact nofun
  | cons b outer ih =>
    obtain ⟨⟨-, unfinished, target, there, -⟩, above⟩ := h
    exact List.forall_mem_cons.mpr ⟨⟨target, unfinished, there⟩, ih above⟩

theorem Linked.resumed (h : Linked w root limit (a :: outer)) : Linked w root limit (resumed outer) := by
  cases outer with
  | nil => trivial
  | cons b outer => exact h.tail.move rfl rfl

end

def Stage.stack : Stage π ω → List Activation
  | .walking stack _ => stack
  | .ended _ _ => []

theorem Stage.height_eq (c : Stage π ω) : c.height = c.stack.length := by
  cases c <;> rfl

/-- What holds of the way that a move leads into. -/
def Move.Into (good : Way → Prop) : Move → Prop
  | .advance => True
  | .recover way _ | .enter way => good way

/-- What has every way that is entered from one that has it, have all ways on the stack. -/
theorem ways_of_turn {w : Setting π ω} {motive : Way → Prop} {c d : Stage π ω}
    (entered : ∀ {a : Activation} {outer s target move t}, motive a.way → a.At target →
      Decides w (indices outer) a.index target a.left s (.ok move) t → move.Into motive)
    (turned : Turn w c d) (h : ∀ a ∈ c.stack, motive a.way) : ∀ a ∈ d.stack, motive a.way := by
  cases turned with
  | rest => exact h
  | finish => exact h
  | @leave a outer =>
    cases outer with
    | nil => exact nofun
    | cons b outer => exact List.forall_mem_cons.mpr (List.forall_mem_cons.mp (List.forall_mem_cons.mp h).2)
  | again => exact List.forall_mem_cons.mpr (List.forall_mem_cons.mp h)
  | fail => exact nofun
  | advance => exact List.forall_mem_cons.mpr (List.forall_mem_cons.mp h)
  | recover place decides =>
    obtain ⟨here, around⟩ := List.forall_mem_cons.mp h
    exact List.forall_mem_cons.mpr ⟨entered here place decides, List.forall_mem_cons.mpr ⟨here, around⟩⟩
  | enter place decides =>
    obtain ⟨here, around⟩ := List.forall_mem_cons.mp h
    exact List.forall_mem_cons.mpr ⟨entered here place decides, List.forall_mem_cons.mpr ⟨here, around⟩⟩

theorem linked_of_turn {w : Setting π ω} {root : Way} {limit : Nat} {c d : Stage π ω} (turned : Turn w c d)
    (h : Linked w root limit c.stack) : Linked w root limit d.stack := by
  cases turned with
  | rest => trivial
  | finish => trivial
  | leave => exact h.resumed
  | again => exact h.move rfl rfl
  | fail => trivial
  | advance => exact h.move rfl rfl
  | recover place decides =>
    cases decides with
    | recovered kind ran something cost =>
      refine ⟨⟨rfl, place.unfinished, _, place.there, fun _ => Nat.succ_pos _, by simp [kind]⟩, h.move rfl ?_⟩
      simp only [Activation.recovering]
      omega
  | enter place decides =>
    cases decides with
    | way kind found =>
      exact ⟨⟨rfl, place.unfinished, _, place.there, by simp [kind], fun _ => found⟩, h.move rfl rfl⟩
    | branch kind chosen =>
      exact ⟨⟨rfl, place.unfinished, _, place.there, by simp [kind], by simp [kind]⟩, h.move rfl rfl⟩

theorem linked_of_reaches {w : Setting π ω} {root : Way} {spot : Spot} {limit : Nat} {s : State π ω} {c : Stage π ω}
    (h : Reaches w (start root spot limit s) c) : Linked w root limit c.stack :=
  h.invariant (motive := fun c => Linked w root limit c.stack) (fun _ _ => linked_of_turn) ⟨rfl, rfl⟩

end Wayfarer.Walk
