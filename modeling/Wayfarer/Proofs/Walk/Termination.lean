import Wayfarer.Page.Scripted
import Wayfarer.Proofs.Definitions.Cycle
import Wayfarer.Proofs.Walk.Decision
import Wayfarer.Proofs.Walk.Machine

/-!
# Termination

Where definitions have no cycle, a walk nests no deeper than its budget allows: on the way down the
rank of the references falls, except at a catch way, which costs a unit of the budget.
-/

namespace Wayfarer.Walk

/-- The computation has a result in every state, and its values are good. -/
def Returns (x : Walk π ω α) (good : α → Prop) : Prop :=
  ∀ s, ∃ result t, x s = some (result, t) ∧ ∀ a, result = .ok a → good a

theorem returns_pure {a : α} {good : α → Prop} (h : good a) : Returns (pure a : Walk π ω α) good := by
  intro s
  refine ⟨_, _, pure_apply a s, ?_⟩
  rintro _ ⟨⟩
  exact h

theorem Returns.bind {x : Walk π ω α} {f : α → Walk π ω β} {good : α → Prop} {fine : β → Prop}
    (first : Returns x good) (rest : ∀ a, good a → Returns (f a) fine) : Returns (x >>= f) fine := by
  intro s
  obtain ⟨result, t, found, holds⟩ := first s
  rw [bind_apply, found]
  cases result with
  | error e => exact ⟨_, _, rfl, by simp⟩
  | ok a => exact rest a (holds a rfl) t

theorem Returns.weaken {x : Walk π ω α} {good fine : α → Prop} (h : Returns x good)
    (implies : ∀ a, good a → fine a) : Returns x fine := by
  intro s
  obtain ⟨result, t, found, holds⟩ := h s
  exact ⟨result, t, found, fun a same => implies a (holds a same)⟩

theorem follow_returns {w : Setting π ω} {descend : List Nat → Way → Spot → Nat → Walk π ω Unit} {outer : List Nat}
    {index left : Nat} {target : Ident} {inner : Spot}
    (recovers : ∀ way less, less + 1 = left →
      Returns (descend (outer ++ [index]) way inner less) fun _ => True)
    (enters : ∀ way s t, meet w outer index target left s = (.ok (.enter way), t) →
      Returns (descend (outer ++ [index]) way inner left) fun _ => True) :
    Returns (follow w descend outer index target inner left) (· ≤ left) := by
  intro s
  rw [follow_apply]
  cases decided : meet w outer index target left s with
  | mk result t =>
    cases result with
    | error e => exact ⟨_, _, rfl, by simp⟩
    | ok move =>
      cases move with
      | advance => exact ⟨_, _, rfl, by simp⟩
      | recover way less =>
        have cost : less + 1 = left := by
          cases decides_of_meet decided with
          | recovered kind ran something cost => exact cost
        have handed : Returns (pure less : Walk π ω Nat) (· ≤ left) := returns_pure (by omega)
        exact (recovers way less cost).bind (fun _ _ => handed) t
      | enter way =>
        have handed : Returns (pure left : Walk π ω Nat) (· ≤ left) := returns_pure (Nat.le_refl left)
        exact (enters way s t decided).bind (fun _ _ => handed) t

theorem followAll_returns {visit : Nat → Ident → Spot → Nat → Walk π ω Nat} {limit : Nat} {references : List Ident}
    (one : ∀ target ∈ references, ∀ index inner left, left ≤ limit →
      Returns (visit index target inner left) (· ≤ left)) :
    ∀ (index : Nat) (inner : Spot) (left : Nat), left ≤ limit →
      Returns (followAll visit index references inner left) (· ≤ left) := by
  induction references with
  | nil => exact fun index inner left _ => returns_pure (Nat.le_refl left)
  | cons target references ih =>
    intro index inner left small
    obtain ⟨here, others⟩ := List.forall_mem_cons.mp one
    refine (here index inner left small).bind fun less le => ?_
    exact (ih others (index + 1) .start less (Nat.le_trans le small)).weaken fun rest fewer => Nat.le_trans fewer le

theorem passes_returns {once : Nat → Walk π ω Nat} {limit : Nat}
    (one : ∀ left, left ≤ limit → Returns (once left) (· ≤ left)) (n : Nat) :
    ∀ left, left ≤ limit → Returns (passes once n left) (· ≤ left) := by
  induction n with
  | zero => exact fun left _ => returns_pure (Nat.le_refl left)
  | succ n ih =>
    intro left small
    refine (one left small).bind fun less le => ?_
    exact (ih less (Nat.le_trans le small)).weaken fun rest fewer => Nat.le_trans fewer le

/-! ### Ranks along a walk -/

section

variable {w : Setting π ω} {height : Nat} {rank : Ident → Nat}

/-- The references of a way rank below `r`. -/
def Below (rank : Ident → Nat) (r : Nat) (way : Way) : Prop :=
  ∀ target ∈ way.steps, target.kind ≠ .step → rank target < r

theorem below_of_enter (falls : ∀ node, ∀ t ∈ w.definitions.targets node, rank t < rank node) {outer : List Nat}
    {index limit : Nat} {target : Ident} {way : Way} {s t : State π ω}
    (entered : meet w outer index target limit s = (.ok (.enter way), t)) : Below rank (rank target) way := by
  intro reference member kind
  cases decides_of_meet entered with
  | way _ found => exact falls target reference (Definitions.targets_of_way found member kind)
  | branch _ resolved =>
    obtain ⟨found, chosen⟩ := Definitions.detour_of_resolve resolved
    exact falls target reference (Definitions.targets_of_entry found chosen member kind)

/-- How deep activations can nest: each unit of the budget buys a descent through all ranks. -/
def nesting (height limit r : Nat) : Nat :=
  limit * (height + 2) + r

theorem walk_returns (bounded : ∀ id, rank id ≤ height)
    (falls : ∀ node, ∀ t ∈ w.definitions.targets node, rank t < rank node) (depth : Nat) :
    ∀ (outer : List Nat) (way : Way) (spot : Spot) (limit r : Nat), Below rank r way →
      nesting height limit r < depth → Returns (walk w depth outer way spot limit) fun _ => True := by
  induction depth with
  | zero => exact fun outer way spot limit r _ shallow => absurd shallow (Nat.not_lt_zero _)
  | succ depth ih =>
    intro outer way spot limit r below shallow
    have one : ∀ target ∈ way.steps, ∀ index inner left, left ≤ limit →
        Returns (follow w (walk w depth) outer index target inner left) (· ≤ left) := by
      intro target member index inner left small
      have shallower : nesting height left r < depth + 1 := by
        have cost := Nat.mul_le_mul_right (height + 2) small
        simp only [nesting] at shallow ⊢
        omega
      refine follow_returns ?_ ?_
      · -- the references of a catch way may have any rank
        rintro caught less rfl
        refine ih _ caught inner less (height + 1) (fun reference _ _ => Nat.lt_succ_of_le (bounded reference)) ?_
        simp only [nesting, Nat.succ_mul] at shallower ⊢
        omega
      · intro entered s t decided
        have kind : target.kind ≠ .step := by
          cases decides_of_meet decided with
          | way kind => simp [kind]
          | branch kind => simp [kind]
        have less := below target member kind
        refine ih _ entered inner left (rank target) (below_of_enter falls decided) ?_
        simp only [nesting] at shallower ⊢
        omega
    intro s
    cases repeats : way.repeats with
    | zero => exact ⟨_, _, walk_zero_repeats _ _ _ _ _ _ repeats s, by simp⟩
    | succ more =>
      rw [walk_succ _ _ _ _ _ _ more repeats]
      have behind : ∀ target ∈ way.steps.drop spot.index, target ∈ way.steps :=
        fun target member => List.mem_of_mem_drop member
      have first := followAll_returns (fun target member => one target (behind target member)) spot.index spot.inner
        limit (Nat.le_refl limit)
      have again := passes_returns (followAll_returns one 0 .start) more
      exact (first.bind fun left le => (again left le).bind fun _ _ => returns_pure trivial) _

end

/-- Where the definitions have no cycle every walk ends, and it ends the same way however deep it may
nest from some depth on. -/
theorem walk_ends_of_acyclic (w : Setting π ω) (acyclic : w.definitions.cycles = []) (root : Way) (spot : Spot)
    (limit : Nat) :
    ∃ enough, ∀ s, ∃ result t, ∀ depth ≥ enough, walk w depth [] root spot limit s = some (result, t) := by
  obtain ⟨height, rank, bounded, falls⟩ := Definitions.rank_of_acyclic acyclic
  have below : Below rank (height + 1) root := fun reference _ _ => Nat.lt_succ_of_le (bounded reference)
  have ends : ∀ depth ≥ nesting height limit (height + 1) + 1, ∀ s, ∃ result t,
      walk w depth [] root spot limit s = some (result, t) := by
    intro depth deep s
    obtain ⟨result, t, found, -⟩ := walk_returns bounded falls depth [] root spot limit (height + 1) below deep s
    exact ⟨result, t, found⟩
  refine ⟨nesting height limit (height + 1) + 1, fun s => ?_⟩
  obtain ⟨result, t, found⟩ := ends _ (Nat.le_refl _) s
  refine ⟨result, t, fun depth deep => ?_⟩
  obtain ⟨other, u, same⟩ := ends depth deep s
  have stages := (reaches_of_walk found).ended_of_reaches (reaches_of_walk same)
  cases Reaches.of_ended stages
  exact same

/-- Steps that catch themselves, each other, and ways and detours that lead to them again. -/
def tangled : Setting ScriptedPage Unit where
  definitions :=
    { steps :=
        [{ id := .step "a", description := "", action := .check, selector := "#a",
           onFailure := [.step "a", .step "b", .way "inner", .detour "fork"] },
          { id := .step "b", description := "", action := .check, selector := "#b", onFailure := [.step "a"] }]
      ways :=
        [{ id := .way "inner", description := "", repeats := 2, steps := [.step "a"] },
          { id := .way "main", description := "", repeats := 1, steps := [.way "inner", .detour "fork", .step "b"] }]
      detours :=
        [{ id := .detour "fork", description := "", pocket := "k",
           entries := [{ value := "default", steps := [.way "inner", .step "b"] }] }] }
  actions := .standard

theorem walk_ends_of_acyclic_tangled : tangled.definitions.cycles = [] ∧
    ∃ enough, ∀ s, ∃ result t, ∀ depth ≥ enough,
      walk tangled depth [] ⟨.way "main", "", 1, [.way "inner", .detour "fork", .step "b"]⟩ .start 3 s =
        some (result, t) := by
  have acyclic : tangled.definitions.cycles = [] := by decide +kernel
  exact ⟨acyclic, walk_ends_of_acyclic tangled acyclic _ .start 3⟩

end Wayfarer.Walk
