import Wayfarer.Page.Scripted
import Wayfarer.Proofs.Walk.Machine

/-!
# More definitions

Of several records with one identifier the first is found, so records that are put behind the others hide none
of them. A walk that misses no record is therefore the same walk when more records are put there.
-/

namespace Wayfarer

namespace Definitions

/-- The records of the one set of definitions in front of those of the other. -/
def append (d more : Definitions) : Definitions where
  steps := d.steps ++ more.steps
  ways := d.ways ++ more.ways
  detours := d.detours ++ more.detours

instance : Append Definitions := ⟨append⟩

/-- Every record that is found in `d` is found in `e`. -/
structure Extended (d e : Definitions) : Prop where
  steps : ∀ {id step}, d.step? id = some step → e.step? id = some step
  ways : ∀ {id way}, d.way? id = some way → e.way? id = some way
  detours : ∀ {id detour}, d.detour? id = some detour → e.detour? id = some detour

theorem extended_append (d more : Definitions) : d.Extended (d ++ more) where
  steps found := List.find?_append.trans (by rw [show d.steps.find? _ = _ from found]; rfl)
  ways found := List.find?_append.trans (by rw [show d.ways.find? _ = _ from found]; rfl)
  detours found := List.find?_append.trans (by rw [show d.detours.find? _ = _ from found]; rfl)

end Definitions

/-- The walk ends because there is no record for an identifier. -/
def WalkError.isMissing : WalkError → Bool
  | unknownStep _ | unknownWay _ | unknownDetour _ => true
  | missingPocket _ _ | noEntry _ _ | missingAction _ _ | budgetExhausted _ => false

namespace Walk

/-- No record was missing. -/
def Found (result : Except WalkError α) : Prop :=
  ∀ e, result = .error e → e.isMissing = false

theorem found_ok (a : α) : Found (.ok a : Except WalkError α) := nofun

/-- The second computation ends as the first one does, unless that one misses a record. -/
def Upholds (x y : Walk π ω α) : Prop :=
  ∀ s result t, x s = some (result, t) → Found result → y s = some (result, t)

theorem upholds_pure (a : α) : Upholds (pure a : Walk π ω α) (pure a) := fun _ _ _ ends _ => ends

theorem Upholds.bind {x y : Walk π ω α} {f g : α → Walk π ω β} (first : Upholds x y) (rest : ∀ a, Upholds (f a) (g a)) :
    Upholds (x >>= f) (y >>= g) := by
  intro s result t ends found
  rcases bind_some ends with ⟨a, u, began, ended⟩ | ⟨e, failed, rfl⟩
  · rw [bind_apply, first s (.ok a) u began (found_ok a)]
    exact rest a u result t ended found
  · rw [bind_apply, first s (.error e) t failed fun _ same => found _ (by cases same; rfl)]

theorem followAll_upholds {visit call : Nat → Ident → Spot → Nat → Walk π ω Nat}
    (one : ∀ index target inner limit, Upholds (visit index target inner limit) (call index target inner limit))
    (references : List Ident) :
    ∀ index inner limit, Upholds (followAll visit index references inner limit) (followAll call index references inner limit) := by
  induction references with
  | nil => exact fun _ _ limit => upholds_pure limit
  | cons target references ih =>
    intro index inner limit
    exact (one index target inner limit).bind fun left => ih (index + 1) .start left

theorem passes_upholds {once again : Nat → Walk π ω Nat} (one : ∀ limit, Upholds (once limit) (again limit)) (n : Nat) :
    ∀ limit, Upholds (passes once n limit) (passes again n limit) := by
  induction n with
  | zero => exact fun limit => upholds_pure limit
  | succ n ih => exact fun limit => (one limit).bind fun left => ih left

section

variable {w : Setting π ω} {e : Definitions} (extended : w.definitions.Extended e)

include extended

theorem act_of_extended {target : Ident} {ordinal : Nat} {s : State π ω} (found : Found (s.act w target ordinal).1) :
    s.act { w with definitions := e } target ordinal = s.act w target ordinal := by
  unfold State.act runStep at found ⊢
  cases here : w.definitions.step? target with
  | none =>
    rw [here] at found
    cases found _ rfl
  | some step => rw [extended.steps here]

theorem resolve_of_extended {pockets : Pockets} {id : Ident} (found : Found (w.definitions.resolve pockets id)) :
    e.resolve pockets id = w.definitions.resolve pockets id := by
  unfold Definitions.resolve at found ⊢
  cases here : w.definitions.detour? id with
  | none =>
    rw [here] at found
    cases found _ rfl
  | some detour => rw [extended.detours here]

theorem meet_of_extended {outer : List Nat} {index : Nat} {target : Ident} {limit : Nat} {s : State π ω}
    (found : Found (meet w outer index target limit s).1) :
    meet { w with definitions := e } outer index target limit s = meet w outer index target limit s := by
  unfold meet at found ⊢
  cases kind : target.kind with
  | step =>
    rw [kind] at found
    simp only at found ⊢
    have ran : Found ((s.reach w (.ofPath (outer ++ [index]))).act w target index).1 := by
      generalize (s.reach w (.ofPath (outer ++ [index]))).act w target index = ran at found ⊢
      obtain ⟨_ | way, t⟩ := ran
      · intro f same
        cases same
        exact found _ rfl
      · exact found_ok way
    exact congrArg (respond target limit) (act_of_extended extended ran)
  | way =>
    rw [kind] at found
    cases here : w.definitions.way? target with
    | none =>
      rw [here] at found
      cases found _ rfl
    | some way => simp only [extended.ways here]
  | detour =>
    rw [kind] at found
    have chosen : Found (w.definitions.resolve s.pockets target) := by
      intro f fails
      simp only [fails] at found
      exact found f rfl
    simp only [resolve_of_extended extended chosen]

theorem follow_upholds {descend dig : List Nat → Way → Spot → Nat → Walk π ω Unit}
    (below : ∀ outer way spot limit, Upholds (descend outer way spot limit) (dig outer way spot limit))
    (outer : List Nat) (index : Nat) (target : Ident) (inner : Spot) (limit : Nat) :
    Upholds (follow w descend outer index target inner limit)
      (follow { w with definitions := e } dig outer index target inner limit) := by
  intro s result t ends found
  rw [follow_apply] at ends ⊢
  have decided : Found (meet w outer index target limit s).1 := by
    intro f fails
    cases met : meet w outer index target limit s with
    | mk decided u =>
      rw [met] at ends fails
      cases fails
      cases ends
      exact found f rfl
  rw [meet_of_extended extended decided]
  generalize meet w outer index target limit s = met at ends ⊢
  rcases met with ⟨f | _ | ⟨way, left⟩ | way, u⟩
  · exact ends
  · exact ends
  · exact (below _ way inner left).bind (fun _ => upholds_pure left) u result t ends found
  · exact (below _ way inner limit).bind (fun _ => upholds_pure limit) u result t ends found

theorem walk_upholds (depth : Nat) : ∀ outer way spot limit,
    Upholds (walk w depth outer way spot limit) (walk { w with definitions := e } depth outer way spot limit) := by
  induction depth with
  | zero => exact fun _ _ _ _ _ _ _ ends _ => by cases ends
  | succ depth ih =>
    intro outer way spot limit s result t ends found
    have one := follow_upholds extended ih outer
    cases repeats : way.repeats with
    | zero =>
      rw [walk_zero_repeats _ _ _ _ _ _ repeats] at ends ⊢
      exact ends
    | succ more =>
      rw [walk_succ _ _ _ _ _ _ more repeats] at ends ⊢
      have first := followAll_upholds one (way.steps.drop spot.index) spot.index spot.inner limit
      have again := passes_upholds (followAll_upholds one way.steps 0 .start) more
      exact (first.bind fun left => (again left).bind fun _ => upholds_pure ()) _ result t ends found

end

/-- A walk that ends, and not for want of a record, ends alike when further records are put behind the ones
there are, whatever their identifiers: with the same result, and in the same state, with all that it has told. -/
theorem additions_immaterial {w : Setting π ω} {depth : Nat} {root : Way} {spot : Spot} {limit : Nat} {s t : State π ω}
    {result : Except WalkError Unit} (ends : walk w depth [] root spot limit s = some (result, t)) (found : Found result)
    (more : Definitions) :
    walk { w with definitions := w.definitions ++ more } depth [] root spot limit s = some (result, t) :=
  walk_upholds (w.definitions.extended_append more) depth [] root spot limit s result t ends found

def mainWay : Way where
  id := .way "main"
  description := ""
  repeats := 2
  steps := [.step "tap", .detour "fork"]

/-- A step that is recovered when it fails, and a branch. -/
def frugal : Definitions where
  steps := [{ id := .step "tap", description := "", action := .click, selector := "#a", onFailure := [.step "rest"] },
            { id := .step "rest", description := "" }]
  ways := [mainWay]
  detours := [{ id := .detour "fork", description := "", pocket := "k", entries := [⟨"default", [.step "rest"]⟩] }]

/-- Records under the same identifiers that lead elsewhere, and some in lists of another kind. -/
def surplus : Definitions where
  steps := [{ id := .step "tap", description := "", action := .closePage }, { id := .way "main", description := "" },
            { id := .step "rest", description := "", action := .openPage }]
  ways := [{ id := .way "main", description := "", repeats := 0, steps := [] },
           { id := .detour "fork", description := "", repeats := 1, steps := [.way "gone"] }]
  detours := [{ id := .detour "fork", description := "", pocket := "absent", entries := [] },
              { id := .step "rest", description := "", pocket := "", entries := [] }]

/-- The element appears behind the first wait for it. -/
def tardyStart : State ScriptedPage Unit where
  page := { flaky := [("#a", 1)] }
  pockets := .seeded [⟨"k", "v"⟩]
  settle := 0
  world := ()

theorem additions_immaterial_shadowing :
    ∃ t, t.stats = ⟨5, 1⟩ ∧ Found (.ok () : Except WalkError Unit) ∧
      walk { definitions := frugal, actions := .standard } 2 [] mainWay .start 1 tardyStart = some (.ok (), t) ∧
      walk { definitions := frugal ++ surplus, actions := .standard } 2 [] mainWay .start 1 tardyStart = some (.ok (), t) := by
  have ran : (walk { definitions := frugal, actions := .standard } 2 [] mainWay .start 1 tardyStart).map
      (fun ended => (ended.1.toOption, ended.2.stats)) = some (some (), ⟨5, 1⟩) := by
    decide +kernel
  obtain ⟨⟨_ | _, t⟩, walked, told⟩ := Option.map_eq_some_iff.mp ran
  · cases told
  obtain ⟨-, counted⟩ := Prod.mk.inj told
  exact ⟨t, counted, found_ok (), walked, additions_immaterial walked (found_ok ()) surplus⟩

end Walk

end Wayfarer
