import Mathlib.Algebra.GroupWithZero.Nat
import Wayfarer.Page.Scripted
import Wayfarer.Proofs.Walk.Deeds
import Wayfarer.Proofs.Walk.World
import Wayfarer.Walker

/-!
# Walkers

A walker does what a walk does: the trail that its activations share is always the list of indices that a walk
hands down, and it is as it was when a walk ends. So a walker that has made any walks is as good as a new one in its place.
-/

namespace Wayfarer.Walker

open Walk

/-! ### The trail -/

/-- The computation does to the state what the walk does, and leaves the trail as it was. -/
def Along (trail : Array Nat) (x : Tour π ω α) (y : Walk π ω α) : Prop :=
  ∀ s, x ⟨s, trail⟩ = (y s).map fun (result, t) => (result, ⟨t, trail⟩)

/-- The computation does to the state what the walk does, and moves at most the innermost index of the trail. -/
def Inside (outer : Array Nat) (x : Tour π ω α) (y : Walk π ω α) : Prop :=
  ∀ i s, match y s with
    | none => x ⟨s, outer.push i⟩ = none
    | some (result, t) => ∃ j, x ⟨s, outer.push i⟩ = some (result, ⟨t, outer.push j⟩)

section

variable {trail outer : Array Nat}

theorem along_pure (a : α) : Along trail (pure a : Tour π ω α) (pure a) := fun _ => rfl

theorem along_lift (y : Walk π ω α) : Along trail (lift y) y := fun _ => rfl

theorem along_report (w : Setting π ω) : Along trail (reportPosition w) (report w (.ofPath trail.toList)) := fun _ => rfl

theorem Along.bind {x : Tour π ω α} {y : Walk π ω α} {f : α → Tour π ω β} {g : α → Walk π ω β} (first : Along trail x y)
    (rest : ∀ a, Along trail (f a) (g a)) : Along trail (x >>= f) (y >>= g) := by
  intro s
  rw [bind_apply, bind_apply, first s]
  cases y s with
  | none => rfl
  | some pair =>
    obtain ⟨result, t⟩ := pair
    cases result with
    | error e => rfl
    | ok a => exact rest a t

theorem inside_pure (a : α) : Inside outer (pure a : Tour π ω α) (pure a) := fun i _ => ⟨i, rfl⟩

theorem inside_lift (y : Walk π ω α) : Inside outer (lift y) y := by
  intro i s
  cases found : y s with
  | none => simp only [lift, ExceptT.mk, found, Option.map_none]
  | some pair => exact ⟨i, by simp only [lift, ExceptT.mk, found, Option.map_some]⟩

theorem Inside.bind {x : Tour π ω α} {y : Walk π ω α} {f : α → Tour π ω β} {g : α → Walk π ω β} (first : Inside outer x y)
    (rest : ∀ a, Inside outer (f a) (g a)) : Inside outer (x >>= f) (y >>= g) := by
  intro i s
  have begun := first i s
  rw [bind_apply, bind_apply]
  cases found : y s with
  | none =>
    rw [found] at begun
    simp only [begun]
  | some pair =>
    obtain ⟨result, t⟩ := pair
    rw [found] at begun
    obtain ⟨j, begun⟩ := begun
    rw [begun]
    cases result with
    | error e => exact ⟨j, rfl⟩
    | ok a => exact rest a j t

theorem setPosition_apply (index i : Nat) (s : State π ω) :
    setPosition index ⟨s, outer.push i⟩ = some (.ok (), ⟨s, outer.push index⟩) := by
  have moved : (outer.push i).modify ((outer.push i).size - 1) (fun _ => index) = outer.push index := by
    apply Array.ext
    · simp
    · intro j before within
      rw [Array.size_push] at within
      simp only [Array.getElem_modify, Array.getElem_push, Array.size_push, Nat.add_sub_cancel]
      by_cases inner : j < outer.size
      · rw [if_neg (by omega), dif_pos inner, dif_pos inner]
      · rw [if_pos (by omega), dif_neg inner]
  simp only [setPosition, ExceptT.mk, moved]

theorem Along.inside {index : Nat} {x : Tour π ω α} {y : Walk π ω α} (h : Along (outer.push index) x y) :
    Inside outer (setPosition index >>= fun _ => x) y := by
  intro i s
  rw [bind_apply, setPosition_apply]
  simp only [h s]
  cases y s with
  | none => rfl
  | some pair => exact ⟨index, rfl⟩

/-- An activation leaves the trail as it was, however it ends. -/
theorem Inside.activate {x : Tour π ω α} {y : Walk π ω α} (h : Inside trail x y) : Along trail (activate x) y := by
  intro s
  have ran := h 0 s
  simp only [Walker.activate, ExceptT.mk]
  cases found : y s with
  | none =>
    rw [found] at ran
    rw [ran]
    rfl
  | some pair =>
    rw [found] at ran
    obtain ⟨j, ran⟩ := ran
    rw [ran]
    simp

end

/-! ### Walks -/

section

variable {outer : Array Nat} {w : Setting π ω}

theorem follow_inside {descend : Way → Spot → Nat → Tour π ω Unit} {dig : List Nat → Way → Spot → Nat → Walk π ω Unit}
    (below : ∀ (trail : Array Nat) way spot limit, Along trail (descend way spot limit) (dig trail.toList way spot limit))
    (index : Nat) (target : Ident) (inner : Spot) (limit : Nat) :
    Inside outer (follow w descend index target inner limit) (Walk.follow w dig outer.toList index target inner limit) := by
  have here : (outer.push index).toList = outer.toList ++ [index] := Array.toList_push
  have descends : ∀ way left, Along (outer.push index) (descend way inner left) (dig (outer.toList ++ [index]) way inner left) :=
    fun way left => here ▸ below (outer.push index) way inner left
  apply Along.inside
  unfold Walk.follow
  cases target.kind with
  | step =>
    simp only
    rw [← here]
    refine (along_report w).bind fun _ => (along_lift _).bind fun caught => ?_
    rw [here]
    cases caught with
    | none => exact along_pure limit
    | some way =>
      simp only
      split
      · exact along_pure limit
      · exact (along_lift _).bind fun left => (descends way left).bind fun _ => along_pure left
  | way => exact (along_lift _).bind fun way => (descends way limit).bind fun _ => along_pure limit
  | detour => exact (along_lift _).bind fun way => (descends way limit).bind fun _ => along_pure limit

/-- The first reference gets what remains of the spot, the others start afresh. -/
theorem followAll_inside {visit : Nat → Ident → Nat → Tour π ω Nat} {call : Nat → Ident → Spot → Nat → Walk π ω Nat}
    (references : List Ident) : ∀ (index : Nat) (inner : Spot) (limit : Nat),
      (∀ target limit, Inside outer (visit index target limit) (call index target inner limit)) →
      (∀ later > index, ∀ target limit, Inside outer (visit later target limit) (call later target .start limit)) →
      Inside outer (followAll visit index references limit) (Walk.followAll call index references inner limit) := by
  induction references with
  | nil => exact fun _ _ limit _ _ => inside_pure limit
  | cons target references ih =>
    intro index inner limit first others
    refine (first target limit).bind fun left => ?_
    exact ih (index + 1) .start left (others (index + 1) (Nat.lt_succ_self index))
      fun later behind => others later (Nat.lt_of_succ_lt behind)

theorem passes_inside {once : Nat → Nat → Tour π ω Nat} {again : Nat → Walk π ω Nat}
    (one : ∀ number > 0, ∀ limit, Inside outer (once number limit) (again limit)) (n : Nat) :
    ∀ number > 0, ∀ limit, Inside outer (passes once n number limit) (Walk.passes again n limit) := by
  induction n with
  | zero => exact fun _ _ limit => inside_pure limit
  | succ n ih =>
    exact fun number positive limit => (one number positive limit).bind fun left => ih (number + 1) (Nat.succ_pos number) left

variable {descend : Way → Spot → Nat → Tour π ω Unit} {dig : List Nat → Way → Spot → Nat → Walk π ω Unit}

theorem first_pass_inside
    (below : ∀ (trail : Array Nat) way spot limit, Along trail (descend way spot limit) (dig trail.toList way spot limit))
    (way : Way) (spot : Spot) (limit : Nat) :
    Inside outer (pass w descend way spot 0 limit)
      (Walk.followAll (Walk.follow w dig outer.toList) spot.index (way.steps.drop spot.index) spot.inner limit) := by
  have start : ∀ later > spot.index, later ≠ spot.index := fun later behind => Nat.ne_of_gt behind
  apply followAll_inside
  · intro target limit
    simp only [true_and, if_true]
    exact follow_inside below _ _ _ _
  · intro later behind target limit
    simp only [start later behind, and_false, if_false]
    exact follow_inside below _ _ _ _

theorem later_pass_inside
    (below : ∀ (trail : Array Nat) way spot limit, Along trail (descend way spot limit) (dig trail.toList way spot limit))
    (way : Way) (spot : Spot) {number : Nat} (positive : number > 0) (limit : Nat) :
    Inside outer (pass w descend way spot number limit)
      (Walk.followAll (Walk.follow w dig outer.toList) 0 way.steps .start limit) := by
  have later : number ≠ 0 := Nat.ne_of_gt positive
  have first : (if number = 0 then spot.index else 0) = 0 := if_neg later
  have each : ∀ index target limit,
      Inside outer (follow w descend index target (if number = 0 ∧ index = spot.index then spot.inner else .start) limit)
        (Walk.follow w dig outer.toList index target .start limit) := by
    intro index target limit
    rw [if_neg fun here => later here.1]
    exact follow_inside below _ _ _ _
  unfold pass
  simp only [first, List.drop_zero]
  exact followAll_inside way.steps 0 .start limit (each 0) fun index _ => each index

end

theorem walk_along (w : Setting π ω) (depth : Nat) : ∀ (trail : Array Nat) way spot limit,
    Along trail (walk w depth way spot limit) (Walk.walk w depth trail.toList way spot limit) := by
  induction depth with
  | zero => exact fun _ _ _ _ _ => rfl
  | succ depth ih =>
    intro trail way spot limit
    apply Inside.activate
    refine (inside_lift _).bind fun _ => ?_
    have first : Inside trail (pass w (walk w depth) way spot 0 limit)
        (Walk.followAll (Walk.follow w (Walk.walk w depth) trail.toList) spot.index (way.steps.drop spot.index) spot.inner limit) :=
      first_pass_inside ih way spot limit
    have others : ∀ n number, number > 0 → ∀ left, Inside trail (passes (pass w (walk w depth) way spot) n number left)
        (Walk.passes (Walk.followAll (Walk.follow w (Walk.walk w depth) trail.toList) 0 way.steps .start) n left) :=
      passes_inside fun number positive left => later_pass_inside ih way spot positive left
    by_cases nothing : way.steps = []
    · simp only [nothing, List.isEmpty_nil, if_true, List.drop_nil]
      cases way.repeats <;> exact inside_pure ()
    · simp only [mt List.isEmpty_iff.mp nothing]
      cases way.repeats with
      | zero => exact inside_pure ()
      | succ more =>
        have all := (first.bind fun left => others more 1 Nat.one_pos left).bind fun _ => inside_pure ()
        nth_rewrite 2 [bind_assoc] at all
        exact all

/-- A walker walks as a walk does whose activations have the indices of the trail around them, and leaves the trail
as it was, however the walk ends. -/
theorem walk_eq (w : Setting π ω) (depth : Nat) (way : Way) (spot : Spot) (limit : Nat) (k : Walker π ω) :
    walk w depth way spot limit k =
      (Walk.walk w depth k.trail.toList way spot limit k.toState).map fun (result, s) => (result, { k with toState := s }) :=
  walk_along w depth k.trail way spot limit k.toState

/-! ### One walk after the other -/

/-- A walk on which a walker is sent, and how deep it may nest. -/
structure Errand where
  way : Way
  spot : Spot
  limit : Nat
  depth : Nat

/-- Goes on one errand after the other, however each of them ends. -/
def serve (w : Setting π ω) : List Errand → Walker π ω → Option (List (Except WalkError Unit) × Walker π ω)
  | [], k => some ([], k)
  | e :: rest, k => do
    let (result, k) ← walk w e.depth e.way e.spot e.limit k
    let (results, k) ← serve w rest k
    return (result :: results, k)

/-- A new walker, which finds the session and the world as they are. -/
def renewed (k : Walker π ω) : Walker π ω :=
  .new k.page k.pockets k.settle k.world

/-- Sends a new walker on each errand, with the session and the world as the one before has left them. -/
def relay (w : Setting π ω) : List Errand → Walker π ω → Option (List (Except WalkError Unit × Walker π ω))
  | [], _ => some []
  | e :: rest, k => do
    let (result, f) ← walk w e.depth e.way e.spot e.limit k.renewed
    let runs ← relay w rest f
    return (result, f) :: runs

/-- The walker behind what a new one has done in its place. -/
def continued (k f : Walker π ω) : Walker π ω where
  page := f.page
  pockets := f.pockets
  settle := f.settle
  world := f.world
  stats := ⟨k.stats.steps + f.stats.steps, k.stats.recoveries + f.stats.recoveries⟩
  journal := k.journal ++ f.journal
  trail := k.trail

section

variable {w : Setting π ω} {k : Walker π ω}

theorem walk_of_bare (bare : k.trail = #[]) (depth : Nat) (way : Way) (spot : Spot) (limit : Nat) :
    walk w depth way spot limit k =
      (walk w depth way spot limit k.renewed).map fun (result, f) => (result, k.continued f) := by
  have past : k.toState = k.toState.fresh.after k.toState.past := (State.after_fresh _).symm
  have new : k.renewed.toState = k.toState.fresh := rfl
  rw [walk_eq, walk_eq, new, past, walk_after, ← past, bare, show k.renewed.trail = #[] from rfl, Option.map_map,
    Option.map_map]
  congr 1
  funext ends
  simp [continued, bare, State.after, State.past]

theorem relay_of_renewed {l : Walker π ω} (same : k.renewed = l.renewed) (errands : List Errand) :
    relay w errands k = relay w errands l := by
  cases errands with
  | nil => rfl
  | cons e rest => rw [relay, relay, same]

theorem serve_eq (errands : List Errand) : ∀ k : Walker π ω, k.trail = #[] →
    serve w errands k =
      (relay w errands k).map fun runs => (runs.map (·.1), runs.foldl (fun k run => k.continued run.2) k) := by
  induction errands with
  | nil => exact fun _ _ => rfl
  | cons e rest ih =>
    intro k bare
    rw [serve, relay, walk_of_bare bare]
    cases walk w e.depth e.way e.spot e.limit k.renewed with
    | none => rfl
    | some ends =>
      obtain ⟨result, f⟩ := ends
      have onward := ih (k.continued f) bare
      rw [relay_of_renewed (show (k.continued f).renewed = f.renewed from rfl)] at onward
      simp only [Option.map_some, Option.bind_eq_bind, Option.bind_some, onward]
      cases relay w rest f <;> rfl

theorem settle_of_walk (steady : w.actions.Steady) (bare : k.trail = #[]) {depth : Nat} {way : Way} {spot : Spot}
    {limit : Nat} {l : Walker π ω} {result : Except WalkError Unit}
    (walked : walk w depth way spot limit k = some (result, l)) : l.trail = #[] ∧ l.settle = k.settle := by
  rw [walk_eq, bare] at walked
  obtain ⟨⟨_, t⟩, ends, stands⟩ := Option.map_eq_some_iff.mp walked
  cases stands
  exact ⟨rfl, settle_of_reaches steady (reaches_of_walk ends)⟩

theorem settle_of_serve (steady : w.actions.Steady) (errands : List Errand) : ∀ {k l : Walker π ω} {results},
    k.trail = #[] → serve w errands k = some (results, l) → l.settle = k.settle := by
  induction errands with
  | nil =>
    intro k l results bare served
    cases served
    rfl
  | cons e rest ih =>
    intro k l results bare served
    obtain ⟨⟨result, f⟩, walked, onward⟩ := Option.bind_eq_some_iff.mp served
    obtain ⟨⟨others, last⟩, goes, same⟩ := Option.bind_eq_some_iff.mp onward
    cases same
    obtain ⟨bare, first⟩ := settle_of_walk steady bare walked
    exact (ih bare goes).trans first

theorem foldl_continued (runs : List (Except WalkError Unit × Walker π ω)) : ∀ k : Walker π ω,
    let last := runs.foldl (fun k run => k.continued run.2) k
    last.trail = k.trail ∧ last.stats.steps = k.stats.steps + (runs.map (·.2.stats.steps)).sum ∧
      last.stats.recoveries = k.stats.recoveries + (runs.map (·.2.stats.recoveries)).sum ∧
      last.journal.toList = k.journal.toList ++ (runs.map (·.2.journal.toList)).flatten := by
  induction runs with
  | nil => simp
  | cons run runs ih =>
    intro k
    obtain ⟨trail, steps, recoveries, journal⟩ := ih (k.continued run.2)
    refine ⟨trail, ?_, ?_, ?_⟩
    · rw [List.foldl_cons, steps, List.map_cons, List.sum_cons, ← Nat.add_assoc]
      rfl
    · rw [List.foldl_cons, recoveries, List.map_cons, List.sum_cons, ← Nat.add_assoc]
      rfl
    · have grown : (k.continued run.2).journal.toList = k.journal.toList ++ run.2.journal.toList := Array.toList_append
      rw [List.foldl_cons, journal, grown, List.map_cons, List.flatten_cons, List.append_assoc]

/-- Let a new walker have made any walks, each of which has ended, well or in any error. Then each of them was the
walk of a new walker in its place, and the counters are the sums of theirs; and the next walk, whatever it is,
has the result of that of a new walker, notes the same behind what has been noted, and leaves the same session and
world. In its place a new walker finds the pause behind a navigation as it is, which is the one that the first was
given, unless an action has set it. -/
theorem served_as_new (w : Setting π ω) {page : π} {pockets : Pockets} {settle : Nat} {world : ω} {errands : List Errand}
    {results : List (Except WalkError Unit)} {k : Walker π ω}
    (served : serve w errands (.new page pockets settle world) = some (results, k)) :
    (∃ runs, relay w errands (.new page pockets settle world) = some runs ∧ results = runs.map (·.1) ∧
      k.stats = ⟨(runs.map (·.2.stats.steps)).sum, (runs.map (·.2.stats.recoveries)).sum⟩ ∧
        k.journal.toList = (runs.map (·.2.journal.toList)).flatten) ∧
      k.trail = #[] ∧ (w.actions.Steady → k.settle = settle) ∧
        ∀ depth way spot limit, walk w depth way spot limit k =
          (walk w depth way spot limit k.renewed).map fun (result, f) => (result, k.continued f) := by
  have paced : w.actions.Steady → k.settle = settle := fun steady => settle_of_serve steady errands rfl served
  rw [serve_eq errands _ rfl] at served
  obtain ⟨runs, relayed, gathered⟩ := Option.map_eq_some_iff.mp served
  cases gathered
  obtain ⟨bare, steps, recoveries, journal⟩ := foldl_continued runs (.new page pockets settle world)
  refine ⟨⟨runs, relayed, rfl, ?_, by rw [journal]; rfl⟩, bare, paced, walk_of_bare bare⟩
  rw [Stats.mk.injEq]
  exact ⟨steps.trans (Nat.zero_add _), recoveries.trans (Nat.zero_add _)⟩

end

/-! ### A walker that is sent astray -/

/-- A step that would do nothing sets the pause behind a navigation; the others do what they always do. -/
def pacing : ActionTable ScriptedPage
  | .none => some fun step => ExceptT.mk fun s => (.ok (), { s with settle := delay step.payload })
  | kind => ActionTable.standard kind

/-- What recovers the step `look` leads into a way that leads nowhere. -/
def astray : Setting ScriptedPage (List Spot) := Setting.recording (ω := Unit)
  { definitions :=
      { steps :=
          [{ id := .step "look", description := "", action := .check, selector := "#a", onFailure := [.way "below"] },
            { id := .step "rest", description := "", payload := "7" }]
        ways := [{ id := .way "below", description := "", repeats := 1, steps := [.step "rest", .way "nowhere"] }] }
    actions := pacing }

def astrayErrand (limit : Nat) : Errand where
  way := { id := .way "main", description := "", repeats := 2, steps := [.step "rest", .step "look"] }
  spot := .start
  limit := limit
  depth := 3

/-- Two walks fail, one of them below two other ways and one with its budget exhausted. The pause that they have
set stays set. -/
theorem served_as_new_astray :
    ∃ k, serve astray [astrayErrand 1, astrayErrand 0] (.new { missing := ["#a"] } .empty 0 []) =
        some ([.error (.unknownWay (.way "nowhere")), .error (.budgetExhausted (.step "look"))], k) ∧
      k.world = [⟨0, []⟩, ⟨1, []⟩, ⟨1, [0, 0]⟩, ⟨0, []⟩, ⟨1, []⟩] ∧ k.stats = ⟨5, 1⟩ ∧ k.settle = 7 ∧ k.trail = #[] ∧
        ∀ depth way spot limit, walk astray depth way spot limit k =
          (walk astray depth way spot limit k.renewed).map fun (result, f) => (result, k.continued f) := by
  have ran : (serve astray [astrayErrand 1, astrayErrand 0] (.new { missing := ["#a"] } .empty 0 [])).map
      (fun served => (served.1, served.2.world, served.2.stats, served.2.settle)) =
        some ([.error (.unknownWay (.way "nowhere")), .error (.budgetExhausted (.step "look"))],
          [⟨0, []⟩, ⟨1, []⟩, ⟨1, [0, 0]⟩, ⟨0, []⟩, ⟨1, []⟩], ⟨5, 1⟩, 7) := by decide +kernel
  obtain ⟨⟨_, k⟩, served, told⟩ := Option.map_eq_some_iff.mp ran
  simp only [Prod.mk.injEq] at told
  obtain ⟨rfl, positions, counted, paced⟩ := told
  obtain ⟨-, bare, -, next⟩ := served_as_new astray served
  exact ⟨k, served, positions, counted, paced, bare, next⟩

end Wayfarer.Walker
