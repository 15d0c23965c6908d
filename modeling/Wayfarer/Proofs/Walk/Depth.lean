import Wayfarer.Proofs.Walk.Forward
import Wayfarer.Proofs.Walk.Termination

/-!
# How deep walks nest

Where the definitions have no cycle every activation below another stands for a reference of a lower rank,
except in a catch way, which costs a unit of the budget. So activations nest no deeper than budget and ranks
together allow, and no position has more indices than that.
-/

namespace Wayfarer.Walk

open Stage

/-! ### Walks of bounded height -/

section

variable {w : Setting π ω} {root : Way} {spot : Spot} {limit bound : Nat}

theorem ends_of_height {s : State π ω} (low : ∀ c, Reaches w (start root spot limit s) c → c.height ≤ bound) :
    ∃ result t, ∀ depth ≥ bound, walk w depth [] root spot limit s = some (result, t) := by
  have ends : ∀ depth ≥ bound, ∃ result t, walk w depth [] root spot limit s = some (result, t) := by
    intro depth deep
    cases walked : walk w depth [] root spot limit s with
    | some ended => exact ⟨ended.1, ended.2, rfl⟩
    | none =>
      have tracked := descends w depth root spot limit [] s
      rw [Tracks, show indices [] = [] from rfl, walked] at tracked
      obtain ⟨n, tall⟩ := tracked
      have small := low _ ⟨n, rfl⟩
      rw [List.length_nil] at tall
      change ((next w)^[n] (enter root spot limit [] s)).height ≤ bound at small
      omega
  obtain ⟨result, t, found⟩ := ends bound (Nat.le_refl bound)
  refine ⟨result, t, fun depth deep => ?_⟩
  obtain ⟨other, u, also⟩ := ends depth deep
  have stages := (reaches_of_walk found).ended_of_reaches (reaches_of_walk also)
  cases Reaches.of_ended stages
  exact also

theorem length_path (a : Activation) (outer : List Activation) :
    (Spot.ofPath (indices (a :: outer))).path.length = (a :: outer).length := by
  rw [Spot.path_ofPath (by simp)]
  simp [indices]

theorem short_of_turn {c : Stage π (List Spot)} (low : c.height ≤ bound) (short : ∀ p ∈ c.state.world, p.path.length ≤ bound) :
    ∀ p ∈ (next w.recording c).state.world, p.path.length ≤ bound := by
  cases adds_of_turn (recording_keepsIdly w) (turn w.recording c) with
  | idle world =>
    rw [world]
    exact short
  | @performed a outer s target _ stands place kind world =>
    subst stands
    have grown : (next w.recording (.walking (a :: outer) s)).state.world = s.world ++ [.ofPath (indices (a :: outer))] :=
      world
    rw [grown]
    intro p member
    rcases List.mem_append.mp member with before | same
    · exact short p before
    · rw [List.mem_singleton.mp same, length_path]
      exact low

theorem length_of_reports {page : π} {pockets : Pockets} {settle : Nat}
    (low : ∀ c, Reaches w.recording (start root spot limit { page, pockets, settle, world := [] }) c → c.height ≤ bound)
    (depth : Nat) : ∀ p ∈ reports w depth root spot limit page pockets settle, p.path.length ≤ bound := by
  unfold reports
  cases walked : walk w.recording depth [] root spot limit { page, pockets, settle, world := [] } with
  | none => exact nofun
  | some ended =>
    exact (reaches_of_walk walked).carries (motive := fun c => ∀ p ∈ c.state.world, p.path.length ≤ bound)
      (fun c reached short => short_of_turn (low c reached) short) nofun

end

/-! ### Ranks on the stack -/

/-- Each activation has room below it for the ranks of its references, and once more for all of them with each
unit of its budget. -/
def Roomy (rank : Ident → Nat) (size bound : Nat) : List Activation → Prop
  | [] => True
  | a :: outer =>
    (∃ r, Below rank (r + 1) a.way ∧ (a :: outer).length + a.left * (size + 1) + r ≤ bound) ∧ Roomy rank size bound outer

section

variable {rank : Ident → Nat} {size bound : Nat} {a b : Activation} {outer stack : List Activation}

theorem Roomy.length_le (h : Roomy rank size bound stack) : stack.length ≤ bound := by
  cases stack with
  | nil => exact Nat.zero_le _
  | cons a outer =>
    obtain ⟨⟨r, -, room⟩, -⟩ := h
    omega

theorem Roomy.move (h : Roomy rank size bound (a :: outer)) (way : b.way = a.way) (left : b.left ≤ a.left) :
    Roomy rank size bound (b :: outer) := by
  obtain ⟨⟨r, below, room⟩, around⟩ := h
  refine ⟨⟨r, way ▸ below, ?_⟩, around⟩
  have cost := Nat.mul_le_mul_right (size + 1) left
  rw [List.length_cons] at room ⊢
  omega

theorem Roomy.resumed (h : Roomy rank size bound (a :: outer)) : Roomy rank size bound (resumed outer) := by
  cases outer with
  | nil => trivial
  | cons b outer => exact h.2.move rfl (Nat.le_refl _)

variable {w : Setting π ω} {c d : Stage π ω}

theorem positive_of_enter (positive : ∀ node ∈ w.definitions.nodes, 0 < rank node) {indices : List Nat} {index limit : Nat}
    {target : Ident} {way : Way} {s t : State π ω} (h : Decides w indices index target limit s (.ok (.enter way)) t) :
    0 < rank target := by
  apply positive
  cases h with
  | way _ found =>
    have named : way.id = target := by simpa using List.find?_some found
    exact named ▸ Definitions.mem_nodes_of_way (List.mem_of_find?_eq_some found)
  | @branch branch _ chosen =>
    obtain ⟨found, -⟩ := Definitions.detour_of_resolve chosen
    have named : branch.detour.id = target := by simpa using List.find?_some found
    exact named ▸ Definitions.mem_nodes_of_detour (List.mem_of_find?_eq_some found)

theorem roomy_of_turn (bounded : ∀ id, rank id ≤ size) (positive : ∀ node ∈ w.definitions.nodes, 0 < rank node)
    (falls : ∀ node, ∀ t ∈ w.definitions.targets node, rank t < rank node) (turned : Turn w c d)
    (h : Roomy rank size bound c.stack) : Roomy rank size bound d.stack := by
  cases turned with
  | rest => exact h
  | finish => exact h
  | leave => exact h.resumed
  | again => exact h.move rfl (Nat.le_refl _)
  | fail => trivial
  | advance => exact h.move rfl (Nat.le_refl _)
  | @recover a outer s target way left t place decides =>
    cases decides with
    | recovered _ _ _ cost =>
      obtain ⟨⟨r, below, room⟩, around⟩ := h
      have paid : a.left * (size + 1) = left * (size + 1) + size + 1 := by
        rw [← cost, Nat.succ_mul, Nat.add_assoc]
      refine ⟨⟨size, ?_, ?_⟩, ⟨r, below, ?_⟩, around⟩
      · -- the references of a catch way may have any rank
        intro reference _ _
        exact Nat.lt_succ_of_le (bounded reference)
      · simp only [Activation.begin, List.length_cons] at room ⊢
        omega
      · simp only [Activation.recovering, List.length_cons] at room ⊢
        omega
  | @enter a outer s target way t place decides =>
    obtain ⟨⟨r, below, room⟩, around⟩ := h
    have kind : target.kind ≠ .step := by
      cases decides with
      | way kind => simp [kind]
      | branch kind => simp [kind]
    have lower : rank target < r + 1 := below target (List.mem_of_getElem? place.there) kind
    have ranked : 0 < rank target := positive_of_enter positive decides
    refine ⟨⟨rank target - 1, ?_, ?_⟩, ⟨r, below, room⟩, around⟩
    · rw [Nat.sub_add_cancel ranked]
      exact below_of_enter falls (meet_of_decides decides)
    · simp only [Activation.begin, List.length_cons] at room ⊢
      omega

end

/-- Where the definitions have no cycle, a walk of one of their ways never nests more activations than this, with
as many ids as ways and detours have between them: with every unit of the budget a catch way and a descent
through all of them. So it ends if it may nest that deep, and its positions have no more indices. -/
theorem nesting_within_budget (w : Setting π ω) (acyclic : w.definitions.cycles = []) {root : Way}
    (record : root ∈ w.definitions.ways) (spot : Spot) (limit : Nat) :
    (∀ s c, Reaches w (start root spot limit s) c → c.stack.length ≤ (limit + 1) * w.definitions.size + limit) ∧
      (∀ s, ∃ result t, ∀ depth ≥ (limit + 1) * w.definitions.size + limit,
        walk w depth [] root spot limit s = some (result, t)) ∧
      ∀ depth page pockets settle, ∀ p ∈ reports w depth root spot limit page pockets settle,
        p.path.length ≤ (limit + 1) * w.definitions.size + limit := by
  obtain ⟨rank, bounded, positive, falls⟩ := Definitions.rank_within_size acyclic
  have ranked := positive root.id (Definitions.mem_nodes_of_way record)
  have small := bounded root.id
  generalize w.definitions.size = size at bounded small ⊢
  have room : 1 + limit * (size + 1) + (rank root.id - 1) ≤ (limit + 1) * size + limit := by
    rw [Nat.succ_mul, Nat.mul_succ]
    omega
  have below : Below rank (rank root.id - 1 + 1) root := by
    rw [Nat.sub_add_cancel ranked]
    intro target member kind
    exact falls root.id target (Definitions.mem_targets.mpr (.way record rfl member kind))
  have low : ∀ {υ : Type} (v : Setting π υ), v.definitions = w.definitions → ∀ s c, Reaches v (start root spot limit s) c →
      c.stack.length ≤ (limit + 1) * size + limit := by
    intro υ v same s c reached
    rw [← same] at positive falls
    have first : Roomy rank size ((limit + 1) * size + limit) (start root spot limit s).stack :=
      ⟨⟨rank root.id - 1, below, room⟩, trivial⟩
    exact (reached.invariant (motive := fun c => Roomy rank size _ c.stack)
      (fun _ _ => roomy_of_turn bounded positive falls) first).length_le
  refine ⟨low w rfl, fun s => ends_of_height fun c reached => ?_, fun depth page pockets settle => ?_⟩
  · rw [height_eq]
    exact low w rfl s c reached
  · apply length_of_reports
    intro c reached
    rw [height_eq]
    exact low w.recording rfl _ c reached

/-! ### A catch way that leads back to the root -/

def reentering : Setting ScriptedPage Unit where
  definitions :=
    { steps := [{ id := .step "look", description := "", action := .check, selector := "#a", onFailure := [.way "main"] }]
      ways :=
        [{ id := .way "main", description := "", repeats := 1, steps := [.way "below"] },
          { id := .way "below", description := "", repeats := 1, steps := [.step "look"] }] }
  actions := .standard

def reenteringRoot : Way where
  id := .way "main"
  description := ""
  repeats := 1
  steps := [.way "below"]

/-- The bound is reached. -/
theorem nesting_within_budget_reentering :
    reentering.definitions.cycles = [] ∧ reenteringRoot ∈ reentering.definitions.ways ∧
      reports reentering 5 reenteringRoot .start 1 { missing := ["#a"] } .empty 0 = [⟨0, [0]⟩, ⟨0, [0, 0, 0, 0]⟩] ∧
      (1 + 1) * reentering.definitions.size + 1 = 5 ∧
      ∀ p ∈ reports reentering 5 reenteringRoot .start 1 { missing := ["#a"] } .empty 0,
        p.path.length ≤ (1 + 1) * reentering.definitions.size + 1 := by
  have acyclic : reentering.definitions.cycles = [] := by decide +kernel
  have record : reenteringRoot ∈ reentering.definitions.ways := by decide
  obtain ⟨-, -, short⟩ := nesting_within_budget reentering acyclic record .start 1
  exact ⟨acyclic, record, by decide +kernel, by decide +kernel, short 5 { missing := ["#a"] } .empty 0⟩

end Wayfarer.Walk
