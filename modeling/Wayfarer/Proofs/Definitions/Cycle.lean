import Mathlib.Data.Finset.Card
import Mathlib.Data.Finset.Filter
import Wayfarer.Proofs.Definitions.Search

/-!
# Definitions without cycles

The order in which a search is done with the nodes is a rank that falls along every reference, but for those to
what was found. So no cycle goes unfound, and where none is found ways and detours have a rank that falls along
every reference.
-/

namespace Wayfarer.Definitions

variable {d : Definitions}

/-! ### Ranks -/

theorem rank_of_ordered {found nodes : List Ident} (ordered : Ordered d found nodes) :
    ∃ rank : Ident → Nat, (∀ id, rank id ≤ nodes.length) ∧
      ∀ node ∈ nodes, ∀ t ∈ d.targets node, t ∉ found → t ∈ nodes ∧ rank t < rank node := by
  induction nodes with
  | nil => exact ⟨fun _ => 0, by simp, by simp⟩
  | cons node rest ih =>
    obtain ⟨behind, orderedRest⟩ := ordered
    obtain ⟨rank, bounded, falls⟩ := ih orderedRest
    by_cases again : node ∈ rest
    · refine ⟨rank, fun id => Nat.le_succ_of_le (bounded id), ?_⟩
      intro other member t leads unfound
      have inRest : other ∈ rest := by
        rcases List.mem_cons.mp member with rfl | member
        · exact again
        · exact member
      obtain ⟨there, less⟩ := falls other inRest t leads unfound
      exact ⟨List.mem_cons_of_mem _ there, less⟩
    · -- a node that is new stands above everything behind it
      have below : ∀ t ∈ rest, t ≠ node := fun t member same => again (same ▸ member)
      refine ⟨fun id => if id = node then rest.length + 1 else rank id, ?_, ?_⟩
      · intro id
        have bound := bounded id
        simp only [List.length_cons]
        split <;> omega
      · intro other member t leads unfound
        rcases List.mem_cons.mp member with rfl | member
        · have inRest := (behind t leads).resolve_right unfound
          refine ⟨List.mem_cons_of_mem _ inRest, ?_⟩
          simp only [if_neg (below t inRest), if_true]
          exact Nat.lt_succ_of_le (bounded t)
        · obtain ⟨inRest, less⟩ := falls other member t leads unfound
          refine ⟨List.mem_cons_of_mem _ inRest, ?_⟩
          simpa only [if_neg (below t inRest), if_neg (below other member)] using less

theorem rank_beside_cycles (d : Definitions) :
    ∃ (height : Nat) (rank : Ident → Nat), (∀ id, rank id ≤ height) ∧
      ∀ node, ∀ t ∈ d.targets node, t ∉ d.cycles → rank t < rank node := by
  obtain ⟨r, explored, found⟩ := explores_nodes d
  obtain ⟨rank, bounded, falls⟩ := rank_of_ordered (explored.ordered trivial)
  refine ⟨_, rank, bounded, fun node t leads unfound => ?_⟩
  rw [← found] at unfound
  have done : node ∈ r.done := by
    rcases explored.done_or_met node (mem_targets.mp leads).mem_nodes with done | ⟨met, -⟩
    · exact done
    · cases met
  exact (falls node done t leads unfound).2

theorem rank_of_acyclic (acyclic : d.cycles = []) :
    ∃ (height : Nat) (rank : Ident → Nat), (∀ id, rank id ≤ height) ∧
      ∀ node, ∀ t ∈ d.targets node, rank t < rank node := by
  obtain ⟨height, rank, bounded, falls⟩ := d.rank_beside_cycles
  exact ⟨height, rank, bounded, fun node t leads => falls node t leads (by simp [acyclic])⟩

/-- How many ids the ways and detours have between them. -/
def size (d : Definitions) : Nat :=
  (d.ways.map (·.id) ++ d.detours.map (·.id)).toFinset.card

theorem size_eq (d : Definitions) : d.size = d.nodes.toFinset.card := by
  have same : d.nodes.toFinset = (d.ways.map (·.id) ++ d.detours.map (·.id)).toFinset := by
    ext id
    rw [List.mem_toFinset, List.mem_toFinset, mem_nodes]
  rw [size, same]

/-- Where no cycle is found the ways and detours can be ranked from 1 to their number. -/
theorem rank_within_size (acyclic : d.cycles = []) :
    ∃ rank : Ident → Nat, (∀ id, rank id ≤ d.size) ∧ (∀ node ∈ d.nodes, 0 < rank node) ∧
      ∀ node, ∀ t ∈ d.targets node, rank t < rank node := by
  obtain ⟨_, rank, -, falls⟩ := rank_of_acyclic acyclic
  -- how many nodes there are up to the rank
  refine ⟨fun id => (d.nodes.toFinset.filter (rank · ≤ rank id)).card, ?_, ?_, ?_⟩
  · intro id
    rw [size_eq]
    exact Finset.card_le_card (Finset.filter_subset _ _)
  · intro node member
    apply Finset.card_pos.mpr
    exact ⟨node, Finset.mem_filter.mpr ⟨List.mem_toFinset.mpr member, Nat.le_refl _⟩⟩
  · intro node t leads
    have less := falls node t leads
    apply Finset.card_lt_card
    refine Finset.ssubset_iff_of_subset ?_ |>.mpr ⟨node, ?_, ?_⟩
    · intro other member
      obtain ⟨there, low⟩ := Finset.mem_filter.mp member
      exact Finset.mem_filter.mpr ⟨there, Nat.le_trans low less.le⟩
    · have there := (mem_targets.mp leads).mem_nodes
      exact Finset.mem_filter.mpr ⟨List.mem_toFinset.mpr there, Nat.le_refl _⟩
    · intro member
      have low := (Finset.mem_filter.mp member).2
      omega

/-! ### What is found -/

theorem exists_found {ids : List Ident} (cycle : d.IsCycle ids) : ∃ id ∈ ids, id ∈ d.cycles := by
  obtain ⟨_, rank, -, falls⟩ := d.rank_beside_cycles
  -- a cycle of which nothing was found would lead down from each rank to the same
  by_contra! unfound
  cases ids with
  | nil => exact cycle
  | cons first rest =>
    have down : (first :: rest ++ [first]).IsChain fun above below => rank below < rank above := by
      refine List.IsChain.imp_of_mem_imp ?_ cycle
      intro node t _ member refers
      apply falls node t (mem_targets.mpr refers)
      apply unfound
      simpa [or_comm] using member
    have transitive : Trans (fun above below : Ident => rank below < rank above)
        (fun above below => rank below < rank above) (fun above below => rank below < rank above) :=
      ⟨fun high low => Nat.lt_trans low high⟩
    have apart := List.isChain_iff_pairwise.mp down
    have less := (List.pairwise_cons.mp apart).1 first (by simp)
    omega

/-- The search for cycles comes to an end. What it finds is in order, without repeats; each of the ids stands on a
cycle, and every cycle passes one of them. So nothing is found exactly if there is no cycle. -/
theorem cycles_exact (d : Definitions) :
    (∃ r, Explores d [] {} d.nodes r ∧ (∀ other, Explores d [] {} d.nodes other → other = r) ∧ r.looping = d.cycles) ∧
      d.cycles.Pairwise Ident.Before ∧ d.cycles.Nodup ∧
      (∀ id ∈ d.cycles, ∃ ids, d.IsCycle ids ∧ ids.Nodup ∧ id ∈ ids) ∧
      (∀ ids, d.IsCycle ids → ∃ id ∈ ids, id ∈ d.cycles) ∧ (d.cycles = [] ↔ ∀ ids, ¬ d.IsCycle ids) := by
  obtain ⟨r, explored, found⟩ := explores_nodes d
  have ascending : d.cycles.Pairwise Ident.Before := by
    rw [← found]
    exact explored.ascending .nil
  have sound : ∀ id ∈ d.cycles, ∃ ids, d.IsCycle ids ∧ ids.Nodup ∧ id ∈ ids := by
    rw [← found]
    exact explored.on_cycle List.nodup_nil (fun _ _ => List.isChain_singleton _) nofun
  have once : d.cycles.Nodup := by
    refine ascending.imp ?_
    rintro id _ before rfl
    exact Ident.not_before_self id before
  refine ⟨⟨r, explored, fun _ => explored.unique, found⟩, ascending, once, sound, fun ids cycle => exists_found cycle, ?_, ?_⟩
  · intro nothing ids cycle
    obtain ⟨id, -, member⟩ := exists_found cycle
    rw [nothing] at member
    cases member
  · intro acyclic
    apply List.eq_nil_iff_forall_not_mem.mpr
    intro id member
    obtain ⟨ids, cycle, -⟩ := sound id member
    exact acyclic ids cycle

-- of a cycle through a way and a detour the way alone is found, where the search came in
example :
    cycles
      { ways := [{ id := .way "tour", description := "", repeats := 1, steps := [.step "look", .detour "fork"] }]
        detours :=
          [{ id := .detour "fork", description := "", pocket := "k",
             entries := [{ value := "v", steps := [.way "gone", .way "tour"] }] }] } = [.way "tour"] := by
  decide +kernel

end Wayfarer.Definitions
