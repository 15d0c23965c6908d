import Mathlib.Data.List.DropRight
import Mathlib.Data.List.GetD
import Wayfarer.Proofs.Walk.MoreBudget
import Wayfarer.Proofs.Walk.Tandem

/-!
# Trailing zeros of a spot

A walk asks a spot for one index at each depth, and takes 0 where there is none. So spots that differ in
trailing zeros alone send it the same way, and it does the same from both.
-/

namespace Wayfarer

namespace Spot

/-- The paths of the spots are the same once their trailing zeros are dropped. -/
def Coincides (spot other : Spot) : Prop :=
  spot.path.rdropWhile (· == 0) = other.path.rdropWhile (· == 0)

instance (spot other : Spot) : Decidable (spot.Coincides other) :=
  inferInstanceAs (Decidable (_ = _))

/-- The index at a depth, and 0 where the spot does not reach down to it. -/
def indexAt (spot : Spot) (depth : Nat) : Nat :=
  spot.path.getD depth 0

theorem getD_rdropWhile_zero (path : List Nat) (depth : Nat) :
    (path.rdropWhile (· == 0)).getD depth 0 = path.getD depth 0 := by
  induction path using List.reverseRecOn with
  | nil => rfl
  | append_singleton path last ih =>
    rw [List.rdropWhile_concat]
    split
    · rename_i zero
      have last_eq : last = 0 := by simpa using zero
      rw [ih, last_eq]
      by_cases inside : depth < path.length
      · rw [List.getD_append _ _ _ _ inside]
      · rw [List.getD_eq_default _ _ (by omega), List.getD_append_right _ _ _ _ (by omega)]
        cases depth - path.length <;> rfl
    · rfl

theorem Coincides.indexAt_eq {spot other : Spot} (h : spot.Coincides other) (depth : Nat) :
    spot.indexAt depth = other.indexAt depth := by
  unfold Coincides at h
  rw [indexAt, indexAt, ← getD_rdropWhile_zero, h, getD_rdropWhile_zero]

theorem indexAt_inner (spot : Spot) (depth : Nat) : spot.inner.indexAt depth = spot.indexAt (depth + 1) := by
  obtain ⟨index, deeper⟩ := spot
  cases deeper with
  | nil => cases depth <;> rfl
  | cons next deeper => rfl

theorem coincides_start_of_isStart {spot : Spot} (h : spot.isStart = true) : spot.Coincides .start := by
  have nothing : spot.path.rdropWhile (· == 0) = [] := List.rdropWhile_eq_nil_iff.mpr (List.all_eq_true.mp h)
  rw [Coincides, nothing]
  rfl

end Spot

/-- A way is begun, and from which spot is told. -/
def Event.isBeginning : Event → Bool
  | .walking _ _ _ => true
  | _ => false

namespace Walk

theorem guides_indexAt : Guides fun spot other => ∀ depth, spot.indexAt depth = other.indexAt depth where
  index same := same 0
  inner same depth := by
    rw [Spot.indexAt_inner, Spot.indexAt_inner]
    exact same (depth + 1)
  start _ := rfl

/-- What is told but for the beginnings of ways. -/
def deeds (journal : Array (Moment ω)) : List (Moment ω) :=
  journal.toList.filter fun m => !m.event.isBeginning

@[simp] theorem deeds_append (first last : Array (Moment ω)) : deeds (first ++ last) = deeds first ++ deeds last := by
  simp [deeds]

@[simp] theorem deeds_push_walking (journal : Array (Moment ω)) (way : Way) (spot : Spot) (limit : Nat) (world : ω) :
    deeds (journal.push ⟨.walking way spot limit, world⟩) = deeds journal := by
  simp [deeds, Event.isBeginning]

/-- The states differ at most in the spots from which ways are told to have been begun. -/
abbrev State.Coincides (s t : State π ω) : Prop :=
  s.SameBut deeds t

theorem State.Coincides.begun {s t : State π ω} (h : s.Coincides t) (way : Way) (spot other : Spot) (limit : Nat) :
    (s.note (.walking way spot limit)).Coincides (t.note (.walking way other limit)) where
  page := h.page
  pockets := h.pockets
  settle := h.settle
  world := h.world
  stats := h.stats
  story := by simp [State.note, h.story]

theorem State.Coincides.trace {s t : State π ω} (h : s.Coincides t) : s.trace = t.trace := by
  have traced : ∀ u : State π ω, u.trace = ((deeds u.journal).map (·.event)).filter (·.isTraced) := by
    intro u
    -- positions and page calls are no beginnings of ways
    have both : ∀ m : Moment ω, (m.event.isTraced && !m.event.isBeginning) = m.event.isTraced := by
      intro m
      cases m.event <;> rfl
    simp [State.trace, deeds, List.filter_map, List.filter_filter, Function.comp_def, both]
  rw [traced, traced, h.story]

theorem concur_of_coincides (w : Setting π ω) : Concur State.Coincides w w := by
  intro outer index target limit s t same
  -- behind their pasts the two states are one
  rw [← State.after_fresh s, ← State.after_fresh t, ← same.fresh, meet_after, meet_after]
  exact ⟨rfl, same.after deeds_append (.refl _)⟩

/-- Two walks have had the same result, reported the same positions and made the same calls, in this order, and
left states that coincide. -/
structure SameEnd (a b : Except WalkError Unit × State π ω) : Prop where
  result : a.1 = b.1
  trace : a.2.trace = b.2.trace
  state : a.2.Coincides b.2

/-- The walks of a way from the two spots end in the same way at whatever depth they are allowed, or both do not;
and underway, be it without end, they have done the same after as many turns. -/
structure SameWalks (w : Setting π ω) (root : Way) (limit : Nat) (s : State π ω) (spot other : Spot) : Prop where
  ends : ∀ depth, Option.Rel SameEnd (walk w depth [] root spot limit s) (walk w depth [] root other limit s)
  underway : ∀ n, ((Stage.next w)^[n] (start root spot limit s)).state.Coincides
    ((Stage.next w)^[n] (start root other limit s)).state

/-- Trailing zeros of a spot mean nothing to a walk: from two spots that differ in them alone it goes the same. In
particular every spot that is a start is the start itself. -/
theorem trailing_zeros_immaterial (w : Setting π ω) (root : Way) (limit : Nat) (s : State π ω) :
    (∀ spot other : Spot, spot.Coincides other → SameWalks w root limit s spot other) ∧
      ∀ spot : Spot, spot.isStart = true → SameWalks w root limit s spot .start := by
  have begun : ∀ way spot other limit (t u : State π ω), (∀ depth, Spot.indexAt spot depth = Spot.indexAt other depth) →
      t.Coincides u → (t.note (.walking way spot limit)).Coincides (u.note (.walking way other limit)) :=
    fun way spot other limit _ _ _ same => same.begun way spot other limit
  have together : ∀ spot other : Spot, spot.Coincides other → SameWalks w root limit s spot other := by
    intro spot other coincide
    constructor
    · intro depth
      have both := walk_tandem_along guides_indexAt (concur_of_coincides w) begun depth [] root spot other limit
        coincide.indexAt_eq s s (.refl s)
      generalize walk w depth [] root spot limit s = first at both ⊢
      generalize walk w depth [] root other limit s = second at both ⊢
      cases both with
      | none => exact .none
      | some ends => exact .some ⟨ends.1, State.Coincides.trace ends.2, ends.2⟩
    · intro n
      exact states_beside guides_indexAt (concur_of_coincides w) begun root limit coincide.indexAt_eq (.refl s) n
  refine ⟨together, fun spot first => together spot .start ?_⟩
  exact Spot.coincides_start_of_isStart first

/-! ### A spot that leads into a way, a detour and a catch way -/

def layered : Setting ScriptedPage Unit where
  definitions :=
    { steps :=
        [{ id := .step "look", description := "", action := .check, selector := "#a", onFailure := [.step "rest"] },
          { id := .step "rest", description := "" }]
      ways := [{ id := .way "below", description := "", repeats := 2, steps := [.detour "fork", .step "rest"] }]
      detours :=
        [{ id := .detour "fork", description := "", pocket := "k",
           entries := [{ value := "default", steps := [.step "look"] }] }] }
  actions := .standard

def layeredRoot : Way where
  id := .way "main"
  description := ""
  repeats := 1
  steps := [.step "rest", .way "below"]

def layeredStart : State ScriptedPage Unit where
  page := { missing := ["#a"] }
  pockets := .seeded [⟨"k", "v"⟩]
  settle := 0
  world := ()

theorem trailing_zeros_immaterial_layered :
    (⟨1, []⟩ : Spot).Coincides ⟨1, [0, 0, 0]⟩ ∧ (⟨0, [0, 0]⟩ : Spot).isStart = true ∧
      (walk layered 4 [] layeredRoot ⟨1, []⟩ 2 layeredStart).map (·.1) = some (.ok ()) ∧
      SameWalks layered layeredRoot 2 layeredStart ⟨1, []⟩ ⟨1, [0, 0, 0]⟩ ∧
      SameWalks layered layeredRoot 2 layeredStart ⟨0, [0, 0]⟩ .start := by
  obtain ⟨coinciding, starting⟩ := trailing_zeros_immaterial layered layeredRoot 2 layeredStart
  refine ⟨by decide, by decide, by decide +kernel, ?_, ?_⟩
  · exact coinciding ⟨1, []⟩ ⟨1, [0, 0, 0]⟩ (by decide)
  · exact starting ⟨0, [0, 0]⟩ (by decide)

end Walk

end Wayfarer
