import Wayfarer.Page.Scripted
import Wayfarer.Proofs.Cursor
import Wayfarer.Proofs.Walk.Deeds
import Wayfarer.Proofs.Walk.Progress
import Wayfarer.Proofs.Walk.World

/-!
# Positions that only go forward

Where no way is walked more than once, a position tells how far the walk has come. So the positions of a
walk increase in the lexicographic order, and none comes before the one at which it was begun, but for
those that lead there.
-/

namespace Wayfarer.Walk

open Stage

/-- The positions increase, each of them on the way to `spot` or behind it. -/
structure Forward (spot : Spot) (spots : List Spot) : Prop where
  increasing : spots.Pairwise fun p q => p.path < q.path
  behind : ∀ p ∈ spots, p.path <+: spot.path ∨ spot.path < p.path

theorem Forward.nil (spot : Spot) : Forward spot [] :=
  ⟨.nil, nofun⟩

theorem Forward.concat {spot p : Spot} {spots : List Spot} (h : Forward spot spots) (last : ∀ q ∈ spots, q.path < p.path)
    (behind : p.path <+: spot.path ∨ spot.path < p.path) : Forward spot (spots ++ [p]) where
  increasing := List.pairwise_append.mpr
    ⟨h.increasing, List.pairwise_singleton _ _, fun q member r same => by
      rw [List.mem_singleton.mp same]
      exact last q member⟩
  behind q member := by
    rcases List.mem_append.mp member with before | same
    · exact h.behind q before
    · rw [List.mem_singleton.mp same]
      exact behind

theorem prefix_or_lt_of_le_append {α : Type} [LinearOrder α] {x y z : List α} (h : x ≤ y ++ z) : y <+: x ∨ x < y := by
  induction y generalizing x with
  | nil => exact .inl List.nil_prefix
  | cons b y ih =>
    cases x with
    | nil => exact .inr (List.nil_lt_cons b y)
    | cons a x =>
      rw [List.cons_append, ← not_lt, List.cons_lt_cons_iff, not_or, not_and, not_lt] at h
      obtain ⟨least, rest⟩ := h
      rcases least.lt_or_eq with less | rfl
      · exact .inr (List.cons_lt_cons_iff.mpr (.inl less))
      · rcases ih (not_lt.mp (rest rfl)) with leads | behind
        · exact .inl ((List.prefix_cons_inj a).mpr leads)
        · exact .inr (List.cons_lt_cons_iff.mpr (.inr ⟨rfl, behind⟩))

/-! ### Positions in the first pass -/

/-- How far a walk has come at a position, if every way on the stack is in its first pass. -/
def firstPass (path : List ℕ) : List (ℕ ×ₗ ℕ) :=
  path.map fun index => toLex (0, index)

theorem firstPass_strictMono : StrictMono firstPass := fun _ _ less =>
  List.map_lt (fun _ _ below => Prod.Lex.toLex_lt_toLex.mpr (.inr ⟨rfl, below⟩)) less

theorem firstPass_append (path rest : List ℕ) : firstPass (path ++ rest) = firstPass path ++ firstPass rest :=
  List.map_append

/-- No way on the stack is walked more than once. -/
def Once (stack : List Activation) : Prop :=
  ∀ a ∈ stack, a.way.repeats ≤ 1

theorem pass_of_once {a : Activation} {target : Ident} (place : a.At target) (once : a.way.repeats ≤ 1) : a.pass = 0 := by
  have unfinished := place.unfinished
  omega

theorem progress_of_first {stack : List Activation} (first : ∀ a ∈ stack, a.pass = 0) :
    progress stack = firstPass (indices stack) := by
  have pointwise : ∀ a ∈ stack, a.progress = toLex (0, a.index) := fun a member => by
    rw [Activation.progress, first a member]
  rw [progress, indices, firstPass, List.map_reverse, List.map_map, List.map_congr_left pointwise]
  rfl

/-- How far a walk will have come once it has gone down to the spot that it was given. -/
def reach : List Activation → List (ℕ ×ₗ ℕ)
  | [] => []
  | a :: outer => progress (a :: outer) ++ firstPass a.inner.path

theorem path_le_inner (spot : Spot) : spot.path ≤ spot.index :: spot.inner.path := by
  obtain ⟨index, deeper⟩ := spot
  cases deeper with
  | nil =>
    show [index] ≤ [index] ++ [0]
    exact not_lt.mp List.le_append_left
  | cons next deeper => exact le_refl _

theorem firstPass_path_le (spot : Spot) : firstPass spot.path ≤ toLex (0, spot.index) :: firstPass spot.inner.path :=
  firstPass_strictMono.monotone (path_le_inner spot)

theorem reach_begin (way : Way) (spot : Spot) (limit : Nat) (outer : List Activation) :
    progress outer ++ firstPass spot.path ≤ reach (.begin way spot limit :: outer) := by
  rw [reach, progress_cons, List.append_assoc]
  exact not_lt.mp (List.append_left_le (not_lt.mpr (firstPass_path_le spot)))

theorem reach_lt_of_move {a b : Activation} (moves : a.progress < b.progress) (outer : List Activation)
    (below : List (ℕ ×ₗ ℕ)) : progress (a :: outer) ++ below < reach (b :: outer) :=
  (progress_lt_of_move moves outer below).trans_le (not_lt.mp List.le_append_left)

section

variable {w : Setting π ω} {c d : Stage π ω}

theorem once_of_decides (once : ∀ way ∈ w.definitions.ways, way.repeats ≤ 1) {outer : List Nat} {index limit : Nat}
    {target : Ident} {s t : State π ω} {move : Move} (h : Decides w outer index target limit s (.ok move) t) :
    move.Into fun way => way.repeats ≤ 1 := by
  cases h with
  | succeeded => trivial
  | dismissed => trivial
  | recovered kind ran =>
    obtain ⟨step, -, rfl⟩ := runStep_eq_catchWay.mp (congrArg Prod.fst ran)
    exact Nat.le_refl 1
  | way kind found => exact once _ (List.mem_of_find?_eq_some found)
  | branch => exact Nat.le_refl 1

theorem once_of_turn (once : ∀ way ∈ w.definitions.ways, way.repeats ≤ 1) (turned : Turn w c d) (h : Once c.stack) :
    Once d.stack :=
  ways_of_turn (motive := fun way => way.repeats ≤ 1) (fun _ _ decides => once_of_decides once decides) turned h

/-- The spot is gone down to index by index, and what moves on has left it behind. -/
theorem reach_le_of_turn (turned : Turn w c d) (walking : d.stack ≠ []) : reach c.stack ≤ reach d.stack := by
  have entered : ∀ {a b : Activation} (way : Way) (limit : Nat) (outer : List Activation), b.progress = a.progress →
      reach (a :: outer) ≤ reach (.begin way a.inner limit :: b :: outer) := by
    intro a b way limit outer same
    have down := reach_begin way a.inner limit (b :: outer)
    rwa [progress_cons, same, ← progress_cons] at down
  cases turned with
  | rest => exact absurd rfl walking
  | finish => exact absurd rfl walking
  | fail => exact absurd rfl walking
  | @leave a outer s complete =>
    cases outer with
    | nil => exact absurd rfl walking
    | cons b outer =>
      have moved := reach_lt_of_move b.progress_lt_advance outer ([a.progress] ++ firstPass a.inner.path)
      rw [← List.append_assoc, ← progress_cons] at moved
      exact moved.le
  | @again a outer => exact (reach_lt_of_move a.progress_lt_again outer _).le
  | @advance a outer => exact (reach_lt_of_move a.progress_lt_advance outer _).le
  | recover => exact entered _ _ _ rfl
  | enter => exact entered _ _ _ rfl

theorem firstPass_le_reach {root : Way} {spot : Spot} {limit : Nat} {s : State π ω}
    (h : Reaches w (start root spot limit s) d) (walking : d.stack ≠ []) : firstPass spot.path ≤ reach d.stack := by
  have first : firstPass spot.path ≤ reach (start root spot limit s).stack := reach_begin root spot limit []
  obtain ⟨n, rfl⟩ := h
  induction n with
  | zero => exact first
  | succ n ih =>
    rw [Function.iterate_succ_apply'] at walking ⊢
    exact (ih (Reaches.walking (.one rfl) walking)).trans (reach_le_of_turn (turn w _) walking)

end

/-! ### The positions of a walk -/

section

variable {w : Setting π ω} {root : Way} {spot : Spot} {limit : Nat}

/-- What holds of the positions so far at a stage of a walk in which they are recorded. -/
structure Ahead (spot : Spot) (c : Stage π (List Spot)) : Prop where
  once : Once c.stack
  forward : Forward spot c.state.world
  /-- As long as something is walked all of them are behind. -/
  passed : c.stack ≠ [] → ∀ p ∈ c.state.world, firstPass p.path < progress c.stack

theorem recording_keepsIdly (w : Setting π ω) : w.recording.KeepsIdly := fun _ _ => idle_empty

theorem progress_of_place {s t : State π (List Spot)} {a : Activation} {outer : List Activation} {target : Ident}
    (reached : Reaches w.recording (start root spot limit s) (.walking (a :: outer) t)) (place : a.At target)
    (once : Once (a :: outer)) : progress (a :: outer) = firstPass (indices (a :: outer)) := by
  obtain ⟨here, others⟩ := List.forall_mem_cons.mp once
  refine progress_of_first (List.forall_mem_cons.mpr ⟨pass_of_once place here, fun b member => ?_⟩)
  -- the activations further out stand at the references that led down here
  obtain ⟨_, stands⟩ := (linked_of_reaches reached).stands b member
  exact pass_of_once stands (others b member)

theorem ahead_of_turn (once : ∀ way ∈ w.definitions.ways, way.repeats ≤ 1) {s : State π (List Spot)}
    {c : Stage π (List Spot)} (reached : Reaches w.recording (start root spot limit s) c) (h : Ahead spot c) :
    Ahead spot (next w.recording c) := by
  have turned := turn w.recording c
  have onceNext := once_of_turn (w := w.recording) once turned h.once
  have further : ∀ walking : (next w.recording c).stack ≠ [], progress c.stack < progress (next w.recording c).stack :=
    fun walking => progress_lt_of_turn turned walking
  cases adds_of_turn (recording_keepsIdly w) turned with
  | idle world =>
    refine ⟨onceNext, world ▸ h.forward, fun walking p member => ?_⟩
    rw [world] at member
    exact (h.passed (Reaches.walking (.one rfl) walking) p member).trans (further walking)
  | @performed a outer t target _ stands place kind world =>
    subst stands
    have here := progress_of_place reached place h.once
    have path : (Spot.ofPath (indices (a :: outer))).path = indices (a :: outer) := Spot.path_ofPath (by simp)
    have grown : (next w.recording (.walking (a :: outer) t)).state.world = t.world ++ [.ofPath (indices (a :: outer))] :=
      world
    have before : ∀ p ∈ t.world, firstPass p.path < progress (a :: outer) := h.passed (by simp [Stage.stack])
    have reaches : firstPass spot.path ≤ reach (a :: outer) := firstPass_le_reach reached (by simp [Stage.stack])
    refine ⟨onceNext, ?_, fun walking p member => ?_⟩
    · rw [grown]
      refine h.forward.concat (fun q member => ?_) ?_
      · have less := before q member
        rwa [here, firstPass_strictMono.lt_iff_lt, ← path] at less
      · rw [reach, here, ← firstPass_append] at reaches
        rw [path]
        exact prefix_or_lt_of_le_append (firstPass_strictMono.le_iff_le.mp reaches)
    · rw [grown] at member
      refine lt_of_le_of_lt ?_ (further walking)
      rcases List.mem_append.mp member with earlier | same
      · exact (before p earlier).le
      · rw [List.mem_singleton.mp same, path, ← here]
        exact le_refl _

theorem ahead_of_reaches (once : ∀ way ∈ w.definitions.ways, way.repeats ≤ 1) (rootOnce : root.repeats ≤ 1)
    {s : State π (List Spot)} (unreported : s.world = []) {c : Stage π (List Spot)}
    (h : Reaches w.recording (start root spot limit s) c) : Ahead spot c := by
  have first : Ahead spot (start root spot limit s) := by
    have nothing : (start root spot limit s).state.world = [] := unreported
    refine ⟨List.forall_mem_singleton.mpr rootOnce, ?_, fun _ => ?_⟩
    · rw [nothing]
      exact .nil spot
    · rw [nothing]
      exact nofun
  exact h.carries (fun _ here ahead => ahead_of_turn once here ahead) first

/-- Where no way is walked more than once, the positions that a walk reports go forward from its spot: at every
moment of it, and whether and how it ends. -/
theorem positions_forward (w : Setting π ω) (once : ∀ way ∈ w.definitions.ways, way.repeats ≤ 1) {root : Way}
    (rootOnce : root.repeats ≤ 1) (spot : Spot) (limit : Nat) (page : π) (pockets : Pockets) (settle : Nat) :
    (∀ c, Reaches w.recording (start root spot limit { page, pockets, settle, world := [] }) c →
        Forward spot c.state.world) ∧
      ∀ depth, Forward spot (reports w depth root spot limit page pockets settle) := by
  have moments : ∀ c, Reaches w.recording (start root spot limit { page, pockets, settle, world := [] }) c →
      Forward spot c.state.world := fun c reached => (ahead_of_reaches once rootOnce rfl reached).forward
  refine ⟨moments, fun depth => ?_⟩
  unfold reports
  cases walked : walk w.recording depth [] root spot limit { page, pockets, settle, world := [] } with
  | none => exact .nil spot
  | some ended => exact moments _ (reaches_of_walk walked)

end

/-! ### A walk through a nested way, a catch way and a detour -/

/-- A step that fails, whose catch way leads into a way with a detour to nowhere behind another. -/
def winding : Setting ScriptedPage Unit where
  definitions :=
    { steps :=
        [{ id := .step "look", description := "", action := .check, selector := "#a",
           onFailure := [.step "rest", .way "below"] },
          { id := .step "rest", description := "" }]
      ways := [{ id := .way "below", description := "", repeats := 1, steps := [.step "rest", .detour "fork"] }]
      detours :=
        [{ id := .detour "fork", description := "", pocket := "k",
           entries := [{ value := "default", steps := [.step "rest", .detour "nowhere"] }] }] }
  actions := .standard

def windingRoot : Way where
  id := .way "main"
  description := ""
  repeats := 1
  steps := [.way "below", .step "look"]

theorem positions_forward_winding :
    (∀ way ∈ winding.definitions.ways, way.repeats ≤ 1) ∧ windingRoot.repeats ≤ 1 ∧
      reports winding 4 windingRoot ⟨1, [1]⟩ 1 { missing := ["#a"] } (.seeded [⟨"k", "v"⟩]) 0 =
        [⟨1, []⟩, ⟨1, [1, 0]⟩, ⟨1, [1, 1, 0]⟩] ∧
      Forward ⟨1, [1]⟩ [⟨1, []⟩, ⟨1, [1, 0]⟩, ⟨1, [1, 1, 0]⟩] := by
  have reported : reports winding 4 windingRoot ⟨1, [1]⟩ 1 { missing := ["#a"] } (.seeded [⟨"k", "v"⟩]) 0 =
      [⟨1, []⟩, ⟨1, [1, 0]⟩, ⟨1, [1, 1, 0]⟩] := by decide +kernel
  obtain ⟨-, forward⟩ := positions_forward winding (by decide) (by decide : windingRoot.repeats ≤ 1) ⟨1, [1]⟩ 1
    { missing := ["#a"] } (.seeded [⟨"k", "v"⟩]) 0
  exact ⟨by decide, by decide, reported, reported ▸ forward 4⟩

end Wayfarer.Walk
