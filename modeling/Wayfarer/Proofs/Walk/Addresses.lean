import Wayfarer.Proofs.Walk.Counters

/-!
# Positions as addresses

Every activation below another was entered from the reference where that one still stands. So the indices of a
position can be followed from the root, reference by reference, to the step that is about to run. Where one of the
references is to a step, that step has failed, and only steps below it have been run since.
-/

namespace Wayfarer.Walk

open Stage

/-! ### Following a position -/

/-- The position `path`, below the activation at `here` that walks `way`, is that of a reference to `target`. What
a reference further out `leads` into is walked below it. -/
inductive Address (leads : List Nat → Ident → Way → Prop) : (here : List Nat) → Way → (path : List Nat) → Ident → Prop where
  | last {here way index target} (there : way.steps[index]? = some target) : Address leads here way [index] target
  | deeper {here way index reference inner path target} (there : way.steps[index]? = some reference)
    (into : leads (here ++ [index]) reference inner) (rest : Address leads (here ++ [index]) inner path target) :
    Address leads here way (index :: path) target

/-- The step at the position `here` has been run and failed, and all others of the walk from `c` since then, up to
the one behind `n` others, are below it. -/
structure FailedAt (w : Setting π ω) (c : Stage π ω) (n : Nat) (here : List Nat) (target : Ident) (step : Step) (m : Nat) :
    Prop where
  before : m < n
  failed : ∃ a outer s, Arrives w c m target a outer s ∧ indices (a :: outer) = here ∧
    StepFails w.definitions w.actions target a.index s.session step
  since : ∀ i, m < i → i ≤ n → ∀ other b rest t, Arrives w c i other b rest t →
    ∃ index deeper, indices (b :: rest) = here ++ index :: deeper

/-- What a reference at the position `here` has led the walk from `c` into, where it is to run a step behind `n`
others. -/
inductive LeadsInto (w : Setting π ω) (c : Stage π ω) (n : Nat) (here : List Nat) (target : Ident) : Way → Prop where
  | way {way} (kind : target.kind = .way) (found : w.definitions.way? target = some way) : LeadsInto w c n here target way
  | branch {detour entry} (kind : target.kind = .detour) (found : w.definitions.detour? target = some detour)
    (listed : entry ∈ detour.entries) : LeadsInto w c n here target (detour.branch entry)
  | caught {step m} (kind : target.kind = .step) (failed : FailedAt w c n here target step m) :
    LeadsInto w c n here target step.catchWay

/-- The position is the address of the step that the walk from `c` runs behind `n` others, with one index for each
activation. -/
def Locates (w : Setting π ω) (c : Stage π ω) (root : Way) (n : Nat) (p : Spot) : Prop :=
  ∃ target a outer s, Arrives w c n target a outer s ∧ p.path = indices (a :: outer) ∧
    p.path.length = (a :: outer).length ∧ Address (LeadsInto w c n) [] root p.path target

/-! ### Where activations come from -/

inductive Move.Enters : Move → Way → Prop where
  | recover {way left} : Enters (.recover way left) way
  | enter {way} : Enters (.enter way) way

/-- From the place where `parent` stands, with `outer` around it, the walk from `c` has entered `way`. -/
def EnteredFrom (w : Setting π ω) (c : Stage π ω) (way : Way) (parent : Activation) (outer : List Activation) : Prop :=
  ∃ a s target move t, Reaches w c (.walking (a :: outer) s) ∧ a.At target ∧
    Decides w (indices outer) a.index target a.left s (.ok move) t ∧ move.Enters way ∧
    a.way = parent.way ∧ a.progress = parent.progress

def Rooted (w : Setting π ω) (c : Stage π ω) (root : Way) : List Activation → Prop
  | [] => True
  | [a] => a.way = root
  | a :: b :: outer => EnteredFrom w c a.way b outer ∧ Rooted w c root (b :: outer)

section

variable {w : Setting π ω} {c d : Stage π ω} {root : Way} {a b : Activation} {outer : List Activation}

theorem Rooted.move (h : Rooted w c root (a :: outer)) (way : b.way = a.way) : Rooted w c root (b :: outer) := by
  cases outer with
  | nil => exact way.trans h
  | cons parent outer => exact ⟨way ▸ h.1, h.2⟩

theorem Rooted.resumed (h : Rooted w c root (a :: outer)) : Rooted w c root (resumed outer) := by
  cases outer with
  | nil => trivial
  | cons b outer => exact Rooted.move h.2 rfl

theorem rooted_next (reached : Reaches w c d) (h : Rooted w c root d.stack) : Rooted w c root (next w d).stack := by
  generalize following : next w d = e
  have turned : Turn w d e := following ▸ turn w d
  cases turned with
  | rest => trivial
  | finish => trivial
  | leave => exact h.resumed
  | again => exact h.move rfl
  | fail => trivial
  | advance => exact h.move rfl
  | recover place decides => exact ⟨⟨_, _, _, _, _, reached, place, decides, .recover, rfl, rfl⟩, h.move rfl⟩
  | enter place decides => exact ⟨⟨_, _, _, _, _, reached, place, decides, .enter, rfl, rfl⟩, h.move rfl⟩

theorem rooted_of_reaches {spot : Spot} {limit : Nat} {s : State π ω} (h : Reaches w (start root spot limit s) d) :
    Rooted w (start root spot limit s) root d.stack :=
  h.carries (motive := fun d => Rooted w (start root spot limit s) root d.stack) (fun _ => rooted_next) rfl

/-! ### Steps below a failed one -/

theorem indices_eq_map_progress (stack : List Activation) :
    indices stack = (progress stack).map fun come => (ofLex come).2 := by
  rw [progress, indices, List.map_reverse, List.map_map]
  rfl

theorem below_of_between {α : Type} [LinearOrder α] {x y z : List α} (behind : y < x) (within : x ≤ y ++ z) :
    ∃ first rest, x = y ++ first :: rest := by
  rcases prefix_or_lt_of_le_append within with ⟨rest, rfl⟩ | ahead
  · cases rest with
    | nil => exact absurd behind (by simp)
    | cons first rest => exact ⟨first, rest, rfl⟩
  · exact absurd ahead (not_lt_of_gt behind)

theorem failedAt_of_below {n : Nat} {target reference : Ident} {e child : Activation} {below above : List Activation}
    {s u : State π ω} {step : Step} (arrives : Arrives w c n target e above u)
    (split : below ++ child :: b :: outer = e :: above) (uncounted : c.state.stats.steps = 0)
    (reached : Reaches w c (.walking (a :: outer) s)) (place : a.At reference) (kind : reference.kind = .step)
    (same : a.progress = b.progress) (fails : StepFails w.definitions w.actions reference a.index s.session step) :
    FailedAt w c n (indices (b :: outer)) reference step s.stats.steps := by
  have ran : Arrives w c s.stats.steps reference a outer s := ⟨reached, place, kind, by rw [uncounted, Nat.zero_add]⟩
  have come : progress (a :: outer) = progress (b :: outer) := by rw [progress_cons, progress_cons, same]
  have here : indices (a :: outer) = indices (b :: outer) := by
    rw [indices_eq_map_progress, indices_eq_map_progress, come]
  have deeper : progress (e :: above) = progress (a :: outer) ++ child.progress :: progress below := by
    rw [← split, List.append_cons, progress_append, progress_append, ← come]
    rfl
  have further : progress (a :: outer) < progress (e :: above) := by
    have longer : progress (a :: outer) ++ [] < progress (a :: outer) ++ child.progress :: progress below :=
      List.append_left_lt (List.nil_lt_cons _ _)
    rwa [List.append_nil, ← deeper] at longer
  refine ⟨(ran.lt_iff_progress_lt arrives).mpr further, ⟨a, outer, s, ran, here, fails⟩, ?_⟩
  -- what is run in between lies behind the failure, and not behind where the walk is now
  intro i after upTo other x rest t arrived
  have behind : progress (a :: outer) < progress (x :: rest) := (ran.lt_iff_progress_lt arrived).mp after
  have within : progress (x :: rest) ≤ progress (e :: above) :=
    not_lt.mp fun past => not_lt_of_ge upTo ((arrives.lt_iff_progress_lt arrived).mpr past)
  rw [deeper] at within
  obtain ⟨first, onward, shape⟩ := below_of_between behind within
  refine ⟨(ofLex first).2, onward.map fun come => (ofLex come).2, ?_⟩
  rw [indices_eq_map_progress, shape, List.map_append, ← indices_eq_map_progress, here]
  rfl

theorem leadsInto_of_entered {n : Nat} {target : Ident} {e child : Activation} {below above : List Activation} {way : Way}
    {u : State π ω} (arrives : Arrives w c n target e above u) (split : below ++ child :: b :: outer = e :: above)
    (uncounted : c.state.stats.steps = 0) (entered : EnteredFrom w c way b outer) :
    ∃ reference, b.way.steps[b.index]? = some reference ∧ LeadsInto w c n (indices (b :: outer)) reference way := by
  obtain ⟨a, s, reference, move, t, reached, place, decides, enters, stays, same⟩ := entered
  have index : a.index = b.index := congrArg (fun come => (ofLex come).2) same
  refine ⟨reference, by rw [← stays, ← index]; exact place.there, ?_⟩
  cases enters with
  | recover =>
    cases decides with
    | recovered kind ran =>
      obtain ⟨step, fails, caught⟩ := runStep_eq_catchWay.mp (congrArg Prod.fst ran)
      rw [← caught]
      exact .caught kind (failedAt_of_below arrives split uncounted reached place kind same fails)
  | enter =>
    cases decides with
    | way kind found => exact .way kind found
    | branch kind chosen =>
      obtain ⟨found, listed⟩ := Definitions.detour_of_resolve chosen
      exact .branch kind found listed

theorem address_of_rooted {n : Nat} {target : Ident} {e : Activation} {above : List Activation} {u : State π ω}
    (arrives : Arrives w c n target e above u) (uncounted : c.state.stats.steps = 0) {final : Ident} :
    ∀ (outer : List Activation) (a : Activation) (below : List Activation) (path : List Nat),
      below ++ a :: outer = e :: above → Rooted w c root (a :: outer) →
        Address (LeadsInto w c n) (indices outer) a.way path final →
          Address (LeadsInto w c n) [] root (indices outer ++ path) final := by
  intro outer
  -- outwards, along the part of the stack that is still around the address
  induction outer with
  | nil =>
    intro a below path split rooted rest
    rw [← show a.way = root from rooted]
    exact rest
  | cons b outer ih =>
    intro a below path split rooted rest
    obtain ⟨entered, around⟩ := rooted
    obtain ⟨reference, there, leads⟩ := leadsInto_of_entered arrives split uncounted entered
    rw [indices_cons] at leads rest ⊢
    rw [List.append_assoc, List.singleton_append]
    exact ih b (below ++ [a]) _ (by rw [← split]; simp) around (.deeper there leads rest)

end

/-! ### What has been reported -/

section

variable {w : Setting π ω} {root : Way} {spot : Spot} {limit : Nat}

theorem arrives_of_recorded {c d : Stage π (List Spot)} (unreported : c.state.world = []) (uncounted : c.state.stats.steps = 0)
    (h : Reaches w.recording c d) : ∀ n p, d.state.world[n]? = some p →
      ∃ target a outer s, Arrives w.recording c n target a outer s ∧ p = .ofPath (indices (a :: outer)) := by
  refine h.carries (motive := fun d => ∀ n p, d.state.world[n]? = some p →
    ∃ target a outer s, Arrives w.recording c n target a outer s ∧ p = .ofPath (indices (a :: outer))) ?_ ?_
  · intro d reached told n p there
    cases ran_of_turn (turn w.recording d) with
    | nothing _ _ world =>
      rw [world] at there
      exact told n p there
    | @step a outer s target stands place kind _ world =>
      subst stands
      have grown : (next w.recording (.walking (a :: outer) s)).state.world = s.world ++ [.ofPath (indices (a :: outer))] :=
        world
      have counted : s.world.length = s.stats.steps := length_of_reaches reached (by rw [unreported, uncounted]; rfl)
      rw [grown] at there
      rcases Nat.lt_or_ge n s.world.length with earlier | now
      · rw [List.getElem?_append_left earlier] at there
        exact told n p there
      · rw [List.getElem?_append_right now] at there
        obtain ⟨last, same⟩ := List.getElem?_eq_some_iff.mp there
        rw [List.getElem_singleton] at same
        rw [List.length_singleton] at last
        exact ⟨target, a, outer, s, ⟨reached, place, kind, by omega⟩, same.symm⟩
  · rw [unreported]
    exact nofun

/-- Every position that a walk reports is the address of the step that it is about to run: at every moment of the
walk, and when a walker with its trail has ended it, well or not. -/
theorem positions_are_addresses (w : Setting π ω) (root : Way) (spot : Spot) (limit : Nat) (page : π) (pockets : Pockets)
    (settle : Nat) :
    (∀ c, Reaches w.recording (start root spot limit { page, pockets, settle, world := [] }) c →
      ∀ n p, c.state.world[n]? = some p →
        Locates w.recording (start root spot limit { page, pockets, settle, world := [] }) root n p) ∧
      ∀ depth result k, Walker.walk w.recording depth root spot limit (.new page pockets settle []) = some (result, k) →
        ∀ n p, k.world[n]? = some p →
          Locates w.recording (start root spot limit { page, pockets, settle, world := [] }) root n p := by
  have moments : ∀ c, Reaches w.recording (start root spot limit { page, pockets, settle, world := [] }) c →
      ∀ n p, c.state.world[n]? = some p →
        Locates w.recording (start root spot limit { page, pockets, settle, world := [] }) root n p := by
    intro c reached n p there
    obtain ⟨target, a, outer, s, arrives, rfl⟩ := arrives_of_recorded rfl rfl reached n p there
    have path : (Spot.ofPath (indices (a :: outer))).path = indices (a :: outer) := Spot.path_ofPath (by simp)
    have rooted : Rooted w.recording _ root (a :: outer) := rooted_of_reaches arrives.reached
    refine ⟨target, a, outer, s, arrives, path, length_path a outer, ?_⟩
    rw [path, indices_cons]
    exact address_of_rooted arrives rfl outer a [] [a.index] rfl rooted (.last arrives.place.there)
  refine ⟨moments, fun depth result k walked => ?_⟩
  rw [Walker.walk_eq] at walked
  obtain ⟨⟨_, t⟩, ends, stands⟩ := Option.map_eq_some_iff.mp walked
  cases stands
  exact moments _ (reaches_of_walk ends)

end

theorem positions_are_addresses_winding :
    ∃ k, Walker.walk winding.recording 4 windingRoot ⟨1, [1]⟩ 1 (.new { missing := ["#a"] } (.seeded [⟨"k", "v"⟩]) 0 []) =
        some (.error (.unknownDetour (.detour "nowhere")), k) ∧
      k.world[2]? = some ⟨1, [1, 1, 0]⟩ ∧
        Locates winding.recording
          (start windingRoot ⟨1, [1]⟩ 1
            { page := { missing := ["#a"] }, pockets := .seeded [⟨"k", "v"⟩], settle := 0, world := [] })
          windingRoot 2 ⟨1, [1, 1, 0]⟩ := by
  have ran : (Walker.walk winding.recording 4 windingRoot ⟨1, [1]⟩ 1
      (.new { missing := ["#a"] } (.seeded [⟨"k", "v"⟩]) 0 [])).map (fun ended => (ended.1, ended.2.world[2]?)) =
        some (.error (.unknownDetour (.detour "nowhere")), some ⟨1, [1, 1, 0]⟩) := by decide +kernel
  obtain ⟨⟨_, k⟩, walked, told⟩ := Option.map_eq_some_iff.mp ran
  simp only [Prod.mk.injEq] at told
  obtain ⟨rfl, there⟩ := told
  obtain ⟨-, ended⟩ :=
    positions_are_addresses winding windingRoot ⟨1, [1]⟩ 1 { missing := ["#a"] } (.seeded [⟨"k", "v"⟩]) 0
  exact ⟨k, walked, there, ended 4 _ k walked 2 _ there⟩

end Wayfarer.Walk
