import Wayfarer.Page.Scripted
import Wayfarer.Proofs.Walk.Budget
import Wayfarer.Proofs.Walk.Progress
import Wayfarer.Proofs.Walk.References
import Wayfarer.Proofs.Walk.Resume

/-!
# Resuming inside a recovery

A catch way is walked only while its step is failing. A walk that is begun at a position inside catch
ways therefore runs the steps again that they recover, the outermost first, and gets into each of them
as long as these fail.
-/

namespace Wayfarer.Walk

open Stage

/-- What an activation walks, and where it stands in that. -/
def Activation.place (a : Activation) : Way × Nat × Nat :=
  (a.way, a.pass, a.index)

theorem indices_of_place {stack other : List Activation} (same : stack.map (·.place) = other.map (·.place)) :
    indices stack = indices other := by
  have projected := congrArg (List.map fun place => place.2.2) same
  simpa only [indices, List.map_map, Function.comp_def, Activation.place] using congrArg List.reverse projected

/-- Whatever step the walk from `c` runs behind `n` others, it fails. -/
def Fails (w : Setting π ω) (c : Stage π ω) (n : Nat) : Prop :=
  ∀ target a outer s, Arrives w c n target a outer s →
    ∃ step, StepFails w.definitions w.actions target a.index s.session step

/-- Where the walk from `c` stands as an activation of the stack does, a detour leads to the way that
is walked below it there. -/
def LeadsBack (w : Setting π ω) (c : Stage π ω) (stack : List Activation) : Prop :=
  ∀ below child parent rest, below ++ child :: parent :: rest = stack → ∀ b outer s,
    Reaches w c (.walking (b :: outer) s) → (b :: outer).map (·.place) = (parent :: rest).map (·.place) →
      Agrees w s.pockets child parent

theorem LeadsBack.tail {w : Setting π ω} {c : Stage π ω} {a : Activation} {outer : List Activation}
    (h : LeadsBack w c (a :: outer)) : LeadsBack w c outer :=
  fun below child parent rest split => h (a :: below) child parent rest (congrArg (a :: ·) split)

theorem LeadsBack.suffix {w : Setting π ω} {c : Stage π ω} {below stack : List Activation}
    (h : LeadsBack w c (below ++ stack)) : LeadsBack w c stack := by
  induction below with
  | nil => exact h
  | cons _ _ ih => exact ih h.tail

theorem Arrives.fails {w : Setting π ω} {c : Stage π ω} {n : Nat} {target : Ident} {a : Activation}
    {outer : List Activation} {s : State π ω} {step : Step} (h : Arrives w c n target a outer s)
    (failed : StepFails w.definitions w.actions target a.index s.session step) : Fails w c n := by
  intro other b rest t arrived
  obtain ⟨rfl, rfl, rfl⟩ := h.unique arrived
  cases h.place.there.symm.trans arrived.place.there
  exact ⟨step, failed⟩

/-! ### Catch ways on the stack -/

/-- If `parent` stands at a step, `child` walks what recovers it. -/
def Rescues (w : Setting π ω) (child parent : Activation) : Prop :=
  ∀ target, parent.way.steps[parent.index]? = some target → target.kind = .step →
    ∃ step, w.definitions.step? target = some step ∧ step.catchWay = child.way ∧ step.onFailure ≠ []

section

variable {w : Setting π ω} {c d : Stage π ω} {a b : Activation} {outer : List Activation}

theorem rescues_move (h : (a :: outer).IsChain (Rescues w)) (way : b.way = a.way) : (b :: outer).IsChain (Rescues w) := by
  obtain ⟨here, above⟩ := List.isChain_cons.mp h
  refine List.isChain_cons.mpr ⟨fun parent next target there kind => ?_, above⟩
  rw [way]
  exact here parent next target there kind

theorem rescues_of_turn (turned : Turn w c d) (h : c.stack.IsChain (Rescues w)) : d.stack.IsChain (Rescues w) := by
  cases turned with
  | rest => exact .nil
  | finish => exact .nil
  | fail => exact .nil
  | @leave a outer =>
    cases outer with
    | nil => exact .nil
    | cons b outer => exact rescues_move h.tail rfl
  | again => exact rescues_move h rfl
  | advance => exact rescues_move h rfl
  | @recover a outer s target way left t place decides =>
    refine List.isChain_cons_cons.mpr ⟨fun other there kind => ?_, rescues_move h rfl⟩
    cases there.symm.trans place.there
    cases decides with
    | recovered kind ran something cost =>
      obtain ⟨step, fails, rfl⟩ := runStep_eq_catchWay.mp (congrArg Prod.fst ran)
      exact ⟨step, fails.found, rfl, something⟩
  | @enter a outer s target way t place decides =>
    refine List.isChain_cons_cons.mpr ⟨fun other there kind => ?_, rescues_move h rfl⟩
    cases there.symm.trans place.there
    cases decides with
    | way other found => rw [kind] at other; cases other
    | branch other chosen => rw [kind] at other; cases other

theorem rescues_of_reaches {root : Way} {spot : Spot} {limit : Nat} {s : State π ω}
    (h : Reaches w (start root spot limit s) c) : c.stack.IsChain (Rescues w) :=
  h.invariant (motive := fun c => c.stack.IsChain (Rescues w)) (fun _ _ => rescues_of_turn) (.singleton _)

/-! ### Down the chain again -/

/-- An activation that stands where `b` does, with no less budget, gets to what `a` walks below `b`. -/
theorem enters_again {e : Activation} {above : List Activation} {v : State π ω} (under : Under w a b)
    (rescues : Rescues w a b) (same : e.place = b.place) (budget : b.left + b.recoveries ≤ e.left)
    (agrees : Agrees w v.pockets a b)
    (fails : ∀ target, e.At target → target.kind = .step →
      ∃ step, StepFails w.definitions w.actions target e.index v.session step) :
    ∃ (f : Activation) (left : Nat) (x : State π ω),
      next w (.walking (e :: above) v) = enter a.way e.inner left (f :: above) x ∧ f.place = b.place ∧
        a.left + a.recoveries ≤ left ∧ x.stats.steps = v.stats.steps + if b.recovers then 1 else 0 := by
  obtain ⟨drawn, unfinished, target, there, spent, onward⟩ := under
  obtain ⟨way, pass, index⟩ : e.way = b.way ∧ e.pass = b.pass ∧ e.index = b.index := by
    simpa only [Activation.place, Prod.mk.injEq] using same
  have place : e.At target := ⟨by rwa [pass, way], by rwa [way, index]⟩
  have recovers : b.recovers = decide (target.kind = .step) := by simp [Activation.recovers, there]
  rw [next_of_at place, recovers]
  cases kind : target.kind with
  | step =>
    obtain ⟨step, failed⟩ := fails target place kind
    obtain ⟨_, found, caught, something⟩ := rescues target there kind
    cases failed.found.symm.trans found
    have ran : (v.perform w (indices above) e.index target).1 = .ok (some a.way) :=
      runStep_eq_catchWay.mpr ⟨step, failed, caught⟩
    have nonempty : a.way.steps ≠ [] := caught ▸ something
    have spendable := spent kind
    obtain ⟨left, cost⟩ : ∃ left, left + 1 = e.left := ⟨e.left - 1, by omega⟩
    have decides := Decides.recovered kind (Prod.ext ran rfl) nonempty cost
    have counted := steps_of_decides decides
    rw [meet_of_decides decides]
    exact ⟨e.recovering left, left, _, rfl, same, by omega, by simpa [kind] using counted⟩
  | way =>
    rw [meet_of_decides (.way kind (onward kind))]
    exact ⟨e.waiting, e.left, v, rfl, same, by omega, by simp⟩
  | detour =>
    have agreed := agrees target there kind
    cases chosen : w.definitions.resolve v.pockets target with
    | error fault =>
      rw [chosen] at agreed
      cases agreed
    | ok branch =>
      rw [chosen] at agreed
      have leads : branch.way = a.way := Except.ok.inj agreed
      rw [meet_of_decides (.branch kind chosen), leads]
      exact ⟨e.waiting, e.left, v.note branch.event, rfl, same, by omega, by simp [State.note]⟩

theorem catches_cons (a b : Activation) (outer : List Activation) :
    catches (a :: b :: outer) = catches (b :: outer) + if b.recovers then 1 else 0 := by
  simp [catches, List.countP_cons]

/-- As long as the steps fail that have catch ways on the stack, a walk from the indices of the stack
comes to where that stood, with no less budget. Those steps are all that it runs on the way. -/
theorem descend_recovering {root : Way} {limit : Nat} {path deeper : List Nat} {t : State π ω}
    (linked : Linked w root limit (a :: outer)) (rescues : (a :: outer).IsChain (Rescues w))
    (first : ∀ b ∈ a :: outer, b.pass = 0) (leads : LeadsBack w (start root (.ofPath path) limit t) (a :: outer))
    (fails : ∀ m < catches (a :: outer), Fails w (start root (.ofPath path) limit t) m)
    (split : indices (a :: outer) ++ deeper = path) :
    ∃ (e : Activation) (above : List Activation) (v : State π ω),
      Reaches w (start root (.ofPath path) limit t) (.walking (e :: above) v) ∧ e.inner = .ofPath deeper ∧
        (e :: above).map (·.place) = (a :: outer).map (·.place) ∧ a.left + a.recoveries ≤ e.left ∧
          v.stats.steps = t.stats.steps + catches (a :: outer) := by
  induction outer generalizing a deeper with
  | nil =>
    obtain ⟨rfl, budget⟩ := linked
    have pass := first a List.mem_cons_self
    subst split
    refine ⟨_, [], _, .refl _, rfl, ?_, budget.le, rfl⟩
    simp [Activation.place, Activation.begin, pass, Spot.ofPath, indices]
  | cons b outer ih =>
    obtain ⟨under, above⟩ := linked
    obtain ⟨rescued, others⟩ := List.isChain_cons_cons.mp rescues
    obtain ⟨passHere, firstAbove⟩ := List.forall_mem_cons.mp first
    rw [catches_cons] at fails ⊢
    have onward : indices (b :: outer) ++ a.index :: deeper = path := by rw [← split, indices_cons a]; simp
    obtain ⟨e, rest, v, reached, inner, places, budget, counted⟩ :=
      ih above others firstAbove leads.tail (fun m less => fails m (by omega)) onward
    obtain ⟨here, same⟩ := List.cons.inj places
    have failing : ∀ target, e.At target → target.kind = .step →
        ∃ step, StepFails w.definitions w.actions target e.index v.session step := by
      intro target place kind
      have recovers : b.recovers = true := by
        have there := place.there
        simp only [Activation.place, Prod.mk.injEq] at here
        rw [here.1, here.2.2] at there
        simp [Activation.recovers, there, kind]
      exact fails _ (by simp [recovers]) target e rest v ⟨reached, place, kind, counted⟩
    obtain ⟨f, left, x, entered, stays, enough, ran⟩ := enters_again under rescued here budget
      (leads [] a b outer rfl e rest v reached places) failing
    have top : (Activation.begin a.way e.inner left).place = a.place := by
      rw [inner, Activation.place, Activation.place, passHere]
      rfl
    refine ⟨_, _, _, reached.trans (.one entered), by rw [inner]; rfl, ?_, enough, ?_⟩
    · simp only [List.map_cons, top, stays, same]
    · have noted : (x.note (.walking a.way e.inner left)).stats.steps = x.stats.steps := rfl
      rw [noted, ran, counted, Nat.add_assoc]

theorem goes_on_of_success {s : State π ω} {target : Ident} (place : a.At target) (kind : target.kind = .step)
    (succeeds : (runStep w.definitions w.actions target a.index s.session).1 = .ok none) :
    ∃ t, next w (.walking (a :: outer) s) = .walking (a.advance :: outer) t ∧
      ∀ d, Reaches w (.walking (a.advance :: outer) t) d → ¬ progress (a :: outer) <+: progress d.stack := by
  have ran : (s.perform w (indices outer) a.index target).1 = .ok none := succeeds
  have onward : next w (.walking (a :: outer) s) =
      .walking (a.advance :: outer) (s.perform w (indices outer) a.index target).2 := by
    rw [next_of_at place, meet_of_decides (.succeeded kind (Prod.ext ran rfl))]
    rfl
  refine ⟨_, onward, ?_⟩
  rintro d later ⟨below, split⟩
  have walking : d.stack ≠ [] := by
    intro nothing
    rw [nothing] at split
    simp [progress] at split
  have behind := later.progress_le walking
  rw [← split] at behind
  exact absurd (progress_lt_of_move a.progress_lt_advance outer below) (not_lt_of_ge behind)

end

/-- Let a walk from the start stand somewhere below a step, or at it, with every activation in its first
pass. Walking again from the position where it stands, with detours on the way down that lead where they
have led, first runs the outermost step whose catch way is being walked. As long as such steps fail
again the next of them is run, and then the step at the position; there is never less budget left than there
was, so that it is not exhausted on the way. If one of the steps succeeds, the walk goes on with the
reference behind it and comes to nothing below it. -/
theorem recovery_resumed (w : Setting π ω) {root : Way} {limit : Nat} {s t u : State π ω} {below rest : List Activation}
    {b : Activation} {target : Ident}
    (moment : Reaches w (start root .start limit s) (.walking (below ++ b :: rest) u))
    (first : ∀ a ∈ below ++ b :: rest, a.pass = 0) (place : b.At target) (kind : target.kind = .step)
    (leads : LeadsBack w (start root (.ofPath (indices (below ++ b :: rest))) limit t) (below ++ b :: rest))
    (fails : ∀ m < catches (b :: rest), Fails w (start root (.ofPath (indices (below ++ b :: rest))) limit t) m) :
    ∃ e above v,
      Arrives w (start root (.ofPath (indices (below ++ b :: rest))) limit t) (catches (b :: rest)) target e above v ∧
        (e :: above).map (·.place) = (b :: rest).map (·.place) ∧ indices (e :: above) = indices (b :: rest) ∧
        b.left + b.recoveries ≤ e.left ∧
        ((runStep w.definitions w.actions target e.index v.session).1 = .ok none →
          ∃ x, next w (.walking (e :: above) v) = .walking (e.advance :: above) x ∧
            ∀ d, Reaches w (.walking (e.advance :: above) x) d → ¬ progress (e :: above) <+: progress d.stack) := by
  have split : indices (b :: rest) ++ indices below = indices (below ++ b :: rest) := by simp [indices]
  have linked : Linked w root limit (below ++ b :: rest) := linked_of_reaches moment
  have rescues : (below ++ b :: rest).IsChain (Rescues w) := rescues_of_reaches moment
  obtain ⟨e, above, v, reached, -, places, budget, counted⟩ := descend_recovering linked.suffix
    rescues.right_of_append (fun a member => first a (List.mem_append_right below member)) leads.suffix fails split
  obtain ⟨way, pass, index⟩ : e.way = b.way ∧ e.pass = b.pass ∧ e.index = b.index := by
    simpa only [Activation.place, Prod.mk.injEq] using (List.cons.inj places).1
  have here : e.At target := ⟨by rw [pass, way]; exact place.unfinished, by rw [way, index]; exact place.there⟩
  exact ⟨e, above, v, ⟨reached, here, kind, counted⟩, places, indices_of_place places, budget, goes_on_of_success here kind⟩

/-! ### A recovery within a recovery -/

def troubledLook : Step where
  id := .step "look"
  description := ""
  action := .check
  selector := "#a"
  onFailure := [.detour "fork"]

def troubledPeek : Step where
  id := .step "peek"
  description := ""
  action := .check
  selector := "#b"
  onFailure := [.step "rest"]

def troubledFork : Detour where
  id := .detour "fork"
  description := ""
  pocket := "k"
  entries := [{ value := "default", steps := [.step "peek"] }]

/-- A step that is recovered by a detour, in which a step fails that is recovered as well. -/
def troubled : Setting ScriptedPage Unit where
  definitions :=
    { steps := [troubledLook, troubledPeek, { id := .step "rest", description := "" }], detours := [troubledFork] }
  actions := .standard

def troubledRoot : Way where
  id := .way "main"
  description := ""
  repeats := 1
  steps := [.step "rest", .step "look"]

def troubledBranch : Way :=
  troubledFork.branch { value := "default", steps := [.step "peek"] }

def troubledStart : State ScriptedPage Unit where
  page := { missing := ["#a", "#b"] }
  pockets := .seeded [⟨"k", "v"⟩]
  settle := 0
  world := ()

/-- The activations around the inner recovery. -/
def troubledOuter : List Activation :=
  [{ way := troubledBranch, index := 0, inner := .start, left := 0, recoveries := 1 },
    { way := troubledLook.catchWay, index := 0, inner := .start, left := 1 },
    { way := troubledRoot, index := 1, inner := .start, left := 1, recoveries := 1 }]

def troubledInner : Activation where
  way := troubledPeek.catchWay
  index := 0
  inner := .start
  left := 0

theorem troubled_resolves {pockets : Pockets} (there : (pockets.get? "k").isSome) :
    (troubled.definitions.resolve pockets (.detour "fork")).map Branch.way = .ok troubledBranch := by
  obtain ⟨content, found⟩ := Option.isSome_iff_exists.mp there
  have known : troubled.definitions.detour? (.detour "fork") = some troubledFork := rfl
  have chosen : troubledFork.select? content = some { value := "default", steps := [.step "peek"] } := by
    by_cases exact : "default" = content <;> simp [Detour.select?, troubledFork, Entry.isDefault, Entry.defaultValue, exact]
  have named : troubledFork.pocket = "k" := rfl
  simp only [Definitions.resolve, known, named, found, chosen]
  rfl

theorem troubled_leads : LeadsBack troubled (start troubledRoot ⟨1, [0, 0, 0]⟩ 2 troubledStart)
    (troubledInner :: troubledOuter) := by
  rintro below child parent rest split b outer s reached - target there kind
  have kept := within_of_reaches (equipped_of_standard (w := troubled) rfl) reached "k" (by decide)
  rcases below with _ | ⟨x, _ | ⟨y, _ | ⟨z, below⟩⟩⟩
  · cases split
    cases there
    cases kind
  · cases split
    cases there
    exact troubled_resolves kept
  · cases split
    cases there
    cases kind
  · have long := congrArg List.length split
    simp only [troubledOuter, List.cons_append, List.length_cons, List.length_append, List.length_nil] at long
    omega

theorem troubled_fails {m : Nat} (less : m < 2) :
    Fails troubled (start troubledRoot ⟨1, [0, 0, 0]⟩ 2 troubledStart) m := by
  obtain rfl | rfl : m = 0 ∨ m = 1 := by omega
  · have outermost : ∃ s, Arrives troubled (start troubledRoot ⟨1, [0, 0, 0]⟩ 2 troubledStart) 0 (.step "look")
        { way := troubledRoot, index := 1, inner := ⟨0, [0, 0]⟩, left := 2 } [] s ∧
        decide ((runStep troubled.definitions troubled.actions (.step "look") 1 s.session).1 =
          .ok (some troubledLook.catchWay)) = true :=
      Arrives.of_iterate (m := 0) ⟨by decide, rfl⟩ rfl (by decide +kernel)
    obtain ⟨s, arrived, failed⟩ := outermost
    obtain ⟨step, fails, -⟩ := runStep_eq_catchWay.mp (of_decide_eq_true failed)
    exact arrived.fails fails
  · have inner : ∃ s, Arrives troubled (start troubledRoot ⟨1, [0, 0, 0]⟩ 2 troubledStart) 1 (.step "peek")
        { way := troubledBranch, index := 0, inner := .start, left := 1 } troubledOuter.tail s ∧
        decide ((runStep troubled.definitions troubled.actions (.step "peek") 0 s.session).1 =
          .ok (some troubledPeek.catchWay)) = true :=
      Arrives.of_iterate (m := 2) ⟨by decide, rfl⟩ rfl (by decide +kernel)
    obtain ⟨s, arrived, failed⟩ := inner
    obtain ⟨step, fails, -⟩ := runStep_eq_catchWay.mp (of_decide_eq_true failed)
    exact arrived.fails fails

theorem recovery_resumed_in_recovery : ∃ u e above v,
    Reaches troubled (start troubledRoot .start 2 troubledStart) (.walking (troubledInner :: troubledOuter) u) ∧
      Arrives troubled (start troubledRoot ⟨1, [0, 0, 0]⟩ 2 troubledStart) 2 (.step "rest") e above v ∧
        indices (e :: above) = [1, 0, 0, 0] := by
  have place : troubledInner.At (.step "rest") := ⟨by decide, rfl⟩
  have moment : ∃ u, Arrives troubled (start troubledRoot .start 2 troubledStart) 3 (.step "rest") troubledInner
      troubledOuter u ∧ true = true := Arrives.of_iterate (m := 4) (p := fun _ => true) place rfl (by decide +kernel)
  obtain ⟨u, stands, -⟩ := moment
  have stood : Reaches troubled (start troubledRoot .start 2 troubledStart)
      (.walking ([] ++ troubledInner :: troubledOuter) u) := stands.reached
  obtain ⟨e, above, v, arrives, -, position, -⟩ := recovery_resumed (t := troubledStart) troubled stood (by decide) place
    rfl troubled_leads (fun m less => troubled_fails less)
  exact ⟨u, e, above, v, stands.reached, arrives, position⟩

end Wayfarer.Walk
