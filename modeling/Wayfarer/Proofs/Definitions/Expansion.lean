import Wayfarer.Proofs.Definitions.Cycle
import Wayfarer.Proofs.Walk.References

/-!
# What references expand to

A reference to a step stands for that step, and one to a way for all the passes over its references.
Without detours and cycles references that lead somewhere come to one sequence of steps.
-/

namespace Wayfarer.Definitions

/-- The references come to these steps. -/
inductive Expands (d : Definitions) : List Ident → List Step → Prop where
  | nil : Expands d [] []
  | step {id step rest steps} (kind : id.kind = .step) (found : d.step? id = some step) (behind : Expands d rest steps) :
    Expands d (id :: rest) (step :: steps)
  | way {id way rest pass steps} (kind : id.kind = .way) (found : d.way? id = some way)
    (inside : Expands d way.steps pass) (behind : Expands d rest steps) :
    Expands d (id :: rest) ((List.replicate way.repeats pass).flatten ++ steps)

/-- The spot leads down to this step, through the first pass of every way, behind these others. -/
inductive Addresses (d : Definitions) : Way → Spot → List Step → Step → Prop where
  | step {root : Way} {spot : Spot} {id before step} (walked : root.repeats ≠ 0)
    (there : root.steps[spot.index]? = some id) (kind : id.kind = .step) (found : d.step? id = some step)
    (front : Expands d (root.steps.take spot.index) before) : Addresses d root spot before step
  | way {root : Way} {spot : Spot} {id way before inner step} (walked : root.repeats ≠ 0)
    (there : root.steps[spot.index]? = some id) (kind : id.kind = .way) (found : d.way? id = some way)
    (front : Expands d (root.steps.take spot.index) before) (inside : Addresses d way spot.inner inner step) :
    Addresses d root spot (before ++ inner) step

namespace Expands

variable {d : Definitions} {refs others : List Ident} {steps later : List Step}

theorem unique (h : d.Expands refs steps) (again : d.Expands refs later) : steps = later := by
  induction h generalizing later with
  | nil =>
    cases again
    rfl
  | step kind found behind ih =>
    cases again with
    | step _ same rest =>
      cases found.symm.trans same
      rw [ih rest]
    | way other => cases kind.symm.trans other
  | way kind found inside behind ihInside ihBehind =>
    cases again with
    | step other => cases kind.symm.trans other
    | way _ same within rest =>
      cases found.symm.trans same
      rw [ihInside within, ihBehind rest]

theorem append_inv (h : d.Expands (refs ++ others) steps) :
    ∃ first rest, d.Expands refs first ∧ d.Expands others rest ∧ steps = first ++ rest := by
  induction refs generalizing steps with
  | nil => exact ⟨[], steps, .nil, h, rfl⟩
  | cons id refs ih =>
    cases h with
    | @step _ step _ _ kind found behind =>
      obtain ⟨first, rest, front, back, rfl⟩ := ih behind
      exact ⟨step :: first, rest, .step kind found front, back, rfl⟩
    | way kind found inside behind =>
      obtain ⟨first, rest, front, back, rfl⟩ := ih behind
      exact ⟨_, rest, .way kind found inside front, back, (List.append_assoc _ _ _).symm⟩

theorem split_at {i : Nat} {id : Ident} (there : refs[i]? = some id) (h : d.Expands refs steps) :
    ∃ front back, d.Expands (refs.take i) front ∧ d.Expands (id :: refs.drop (i + 1)) back ∧ steps = front ++ back := by
  obtain ⟨inside, same⟩ := List.getElem?_eq_some_iff.mp there
  rw [← List.take_append_drop i refs, List.drop_eq_getElem_cons inside, same] at h
  exact h.append_inv

end Expands

theorem expands_of_rank {d : Definitions} {rank : Ident → Nat}
    (falls : ∀ node, ∀ t ∈ d.targets node, rank t < rank node) (closed : d.Closed) (undetoured : d.detours = [])
    (r : Nat) : ∀ refs : List Ident, d.Resolves refs → (∀ id ∈ refs, id.kind ≠ .step → rank id < r) →
      ∃ steps, d.Expands refs steps := by
  -- the rank falls on the way down into a way, and the references get fewer on the way past one
  induction r using Nat.strongRecOn with
  | ind r ihRank =>
    intro refs
    induction refs with
    | nil => exact fun _ _ => ⟨[], .nil⟩
    | cons id rest ih =>
      intro resolves below
      obtain ⟨there, others⟩ := List.forall_mem_cons.mp resolves
      obtain ⟨small, smaller⟩ := List.forall_mem_cons.mp below
      obtain ⟨steps, behind⟩ := ih others smaller
      unfold has at there
      cases kind : id.kind with
      | step =>
        rw [kind] at there
        obtain ⟨step, found⟩ := Option.isSome_iff_exists.mp there
        exact ⟨_, .step kind found behind⟩
      | way =>
        rw [kind] at there
        obtain ⟨way, found⟩ := Option.isSome_iff_exists.mp there
        obtain ⟨pass, inside⟩ := ihRank (rank id) (small (by simp [kind])) way.steps
          (closed.ways way (List.mem_of_find?_eq_some found))
          fun target member onward => falls id target (targets_of_way found member onward)
        exact ⟨_, .way kind found inside behind⟩
      | detour => simp [kind, detour?, undetoured] at there

theorem expands_of_acyclic {d : Definitions} (acyclic : d.cycles = []) (closed : d.dangling = [])
    (undetoured : d.detours = []) {way : Way} (member : way ∈ d.ways) : ∃ pass, d.Expands way.steps pass := by
  obtain ⟨height, rank, bounded, falls⟩ := rank_of_acyclic acyclic
  have records : d.Closed := dangling_eq_nil.mp closed
  exact expands_of_rank falls records undetoured (height + 1) way.steps (records.ways way member)
    fun id _ _ => Nat.lt_succ_of_le (bounded id)

end Wayfarer.Definitions
