import Wayfarer.Proofs.Walk.Recoveries
import Wayfarer.Proofs.Walker

/-!
# What the counters tell

A step is counted and its position reported just before it is run, and a catch way is counted just before it is
entered, behind what ends the walk if no budget is left. So the counters of a walk tell what has been run, but for
the one catch way that is not entered when the budget is exhausted.
-/

namespace Wayfarer

/-- Something is left to be walked where the step has failed. -/
def rescuable : Except WalkError (Option Way) → Bool
  | .ok (some way) => !way.steps.isEmpty
  | _ => false

def WalkError.isExhausted : WalkError → Bool
  | .budgetExhausted _ => true
  | _ => false

def exhausts : Except WalkError α → Bool
  | .error e => e.isExhausted
  | .ok _ => false

namespace Walk

open Stage

/-- What running the step hands back, where the walk stands at one. -/
def Stage.handed? (w : Setting π ω) : Stage π ω → Option (Except WalkError (Option Way))
  | .walking (a :: _) s =>
    if a.pass < a.way.repeats then
      (a.way.steps[a.index]?.filter (·.kind = .step)).map fun target =>
        (runStep w.definitions w.actions target a.index s.session).1
    else none
  | _ => none

/-- What running steps hands back in the next `n` turns, one after the other. -/
def handed (w : Setting π ω) : (n : Nat) → Stage π ω → List (Except WalkError (Option Way))
  | 0, _ => []
  | n + 1, c => (c.handed? w).toList ++ handed w n (next w c)

inductive Ran (w : Setting π ω) (c d : Stage π ω) : Prop where
  | nothing (handed : c.handed? w = none) (steps : d.state.stats.steps = c.state.stats.steps)
    (world : d.state.world = c.state.world)
  /-- The step is counted and its position kept. -/
  | step {a : Activation} {outer : List Activation} {s : State π ω} {target : Ident}
    (stands : c = .walking (a :: outer) s) (place : a.At target) (kind : target.kind = .step)
    (steps : d.state.stats.steps = s.stats.steps + 1)
    (world : d.state.world = (w.keep (.ofPath (indices (a :: outer))) s.world).1)

section

variable {w : Setting π ω} {c d : Stage π ω} {a : Activation} {outer : List Activation} {s : State π ω} {target : Ident}

theorem handed?_of_at (place : a.At target) :
    (Stage.walking (a :: outer) s).handed? w =
      if target.kind = .step then some (runStep w.definitions w.actions target a.index s.session).1 else none := by
  by_cases kind : target.kind = .step <;> simp [handed?, place.unfinished, place.there, kind]

theorem ran_of_decides {limit : Nat} {t : State π ω} {decided : Except WalkError Move} (place : a.At target)
    (h : Decides w (indices outer) a.index target limit s decided t) (steps : d.state.stats.steps = t.stats.steps)
    (world : d.state.world = t.world) : Ran w (.walking (a :: outer) s) d := by
  have counted := steps.trans (steps_of_decides h)
  have kept := world.trans (view_of_decides (f := fun s => s.world) (fun _ _ _ => rfl) (fun _ _ => rfl) h)
  by_cases kind : target.kind = .step
  · rw [if_pos kind] at counted kept
    refine .step rfl place kind counted ?_
    rw [kept, indices_cons]
    rfl
  · rw [if_neg kind] at counted kept
    exact .nothing (by rw [handed?_of_at place, if_neg kind]) counted kept

theorem ran_of_turn (turned : Turn w c d) : Ran w c d := by
  cases turned with
  | rest => exact .nothing rfl rfl rfl
  | finish => exact .nothing rfl rfl rfl
  | leave complete => exact .nothing (if_neg (Nat.not_lt.mpr complete)) rfl rfl
  | again unfinished beyond => exact .nothing (by simp [handed?, beyond]) rfl rfl
  | fail place decides => exact ran_of_decides place decides rfl rfl
  | advance place decides => exact ran_of_decides place decides rfl rfl
  | recover place decides => exact ran_of_decides place decides rfl rfl
  | enter place decides => exact ran_of_decides place decides rfl rfl

theorem Ran.steps_eq (h : Ran w c d) : d.state.stats.steps = c.state.stats.steps + (c.handed? w).toList.length := by
  cases h with
  | nothing handed steps => rw [handed, steps]; rfl
  | step stands place kind steps =>
    subst stands
    rw [handed?_of_at place, if_pos kind, steps]
    rfl

/-! ### How many catch ways have been entered -/

theorem recoveries_of_decides {indices : List Nat} {index limit : Nat} {t : State π ω} {decided : Except WalkError Move}
    (h : Decides w indices index target limit s decided t) :
    t.stats.recoveries + (exhausts decided).toNat = s.stats.recoveries +
      (decide (target.kind = .step) && rescuable (runStep w.definitions w.actions target index s.session).1).toNat := by
  have performed : ∀ {result t}, s.perform w indices index target = (result, t) →
      (runStep w.definitions w.actions target index s.session).1 = result ∧
        t.stats.recoveries = s.stats.recoveries := by
    intro result t ran
    exact ⟨congrArg Prod.fst ran, recoveries_of_perform _ ran⟩
  cases h with
  | unrunnable kind ran =>
    obtain ⟨handed, same⟩ := performed ran
    rcases runStep_eq_error.mp handed with ⟨-, rfl⟩ | ⟨step, -, -, rfl⟩ <;>
      simp [handed, same, exhausts, WalkError.isExhausted, rescuable]
  | succeeded kind ran =>
    obtain ⟨handed, same⟩ := performed ran
    simp [handed, same, exhausts, rescuable]
  | dismissed kind ran nothing =>
    obtain ⟨handed, same⟩ := performed ran
    simp [handed, same, nothing, exhausts, rescuable]
  | @exhausted way t kind ran something =>
    obtain ⟨handed, same⟩ := performed ran
    have left : way.steps.isEmpty = false := by simpa using something
    simp [handed, same, kind, left, exhausts, WalkError.isExhausted, rescuable]
  | @recovered way t _ kind ran something =>
    obtain ⟨handed, same⟩ := performed ran
    have left : way.steps.isEmpty = false := by simpa using something
    simp [handed, same, kind, left, exhausts, rescuable, State.spent, State.note]
  | noWay kind => simp [kind, exhausts, WalkError.isExhausted]
  | way kind => simp [kind, exhausts]
  | noBranch kind fails =>
    rcases Definitions.resolve_eq_error.mp fails with ⟨-, rfl⟩ | ⟨detour, -, ⟨-, rfl⟩ | ⟨content, -, -, rfl⟩⟩ <;>
      simp [kind, exhausts, WalkError.isExhausted]
  | branch kind => simp [kind, exhausts, State.note]

/-- A catch way has been due and has not been counted. -/
def Stage.owed : Stage π ω → Nat
  | .walking _ _ => 0
  | .ended result _ => (exhausts result).toNat

theorem recoveries_of_turn (turned : Turn w c d) :
    d.state.stats.recoveries + d.owed = c.state.stats.recoveries + c.owed + (c.handed? w).toList.countP rescuable := by
  have decided : ∀ {a : Activation} {outer s target t decided}, a.At target →
      Decides w (indices outer) a.index target a.left s decided t →
      t.stats.recoveries + (exhausts decided).toNat =
        s.stats.recoveries + ((Stage.walking (a :: outer) s).handed? w).toList.countP rescuable := by
    intro a outer s target t decided place decides
    rw [recoveries_of_decides decides, handed?_of_at place]
    by_cases kind : target.kind = .step
    · cases rescued : rescuable (runStep w.definitions w.actions target a.index s.session).1 <;> simp [kind, rescued]
    · simp [kind]
  cases turned with
  | rest => rfl
  | finish => rfl
  | leave complete => simp [handed?, Nat.not_lt.mpr complete, state, owed]
  | again unfinished beyond => simp [handed?, beyond, state, owed]
  | fail place decides => exact decided place decides
  | advance place decides => exact decided place decides
  | recover place decides => exact decided place decides
  | enter place decides => exact decided place decides

/-! ### A whole walk -/

theorem counted_of_iterate (n : Nat) : ∀ c : Stage π ω,
    ((next w)^[n] c).state.stats.steps = c.state.stats.steps + (handed w n c).length ∧
      ((next w)^[n] c).state.stats.recoveries + ((next w)^[n] c).owed =
        c.state.stats.recoveries + c.owed + (handed w n c).countP rescuable := by
  induction n with
  | zero => exact fun c => ⟨rfl, rfl⟩
  | succ n ih =>
    intro c
    obtain ⟨steps, recoveries⟩ := ih (next w c)
    have ran := (ran_of_turn (turn w c)).steps_eq
    have rescued := recoveries_of_turn (turn w c)
    rw [Function.iterate_succ_apply, handed, List.length_append, List.countP_append]
    omega

theorem unrecovered_of_reaches {root : Way} {spot : Spot} (h : Reaches w (start root spot 0 s) d) :
    d.state.stats.recoveries = s.stats.recoveries := by
  refine h.carries (motive := fun c => c.state.stats.recoveries = s.stats.recoveries) (fun c reached same => ?_) rfl
  rw [← same]
  generalize following : next w c = e
  have turned : Turn w c e := following ▸ turn w c
  cases turned with
  | rest => rfl
  | finish => rfl
  | leave => rfl
  | again => rfl
  | fail _ decides => exact recoveries_of_unrecovered decides (by simp)
  | advance _ decides => exact recoveries_of_unrecovered decides (by simp)
  | recover _ decides =>
    have spent := (linked_of_reaches reached).balance
    obtain ⟨-, cost⟩ := recoveries_of_recovered decides
    omega
  | enter _ decides =>
    have kept := recoveries_of_unrecovered decides (by simp)
    exact kept

end

/-! ### The positions that are reported -/

theorem length_of_reaches {w : Setting π ω} {c d : Stage π (List Spot)} (h : Reaches w.recording c d)
    (same : c.state.world.length = c.state.stats.steps) : d.state.world.length = d.state.stats.steps := by
  refine h.invariant (motive := fun c => c.state.world.length = c.state.stats.steps) (fun c d turned counted => ?_) same
  cases ran_of_turn turned with
  | nothing _ steps world => rw [world, steps, counted]
  | @step a outer s target stands _ _ steps world =>
    subst stands
    have grown : d.state.world = s.world ++ [.ofPath (indices (a :: outer))] := world
    rw [grown, steps, List.length_append, show s.world.length = s.stats.steps from counted]
    rfl

theorem length_reports {w : Setting π ω} {depth : Nat} {way : Way} {spot : Spot} {limit : Nat} {s t : State π ω}
    {result : Except WalkError Unit} (uncounted : s.stats = {})
    (h : walk w depth [] way spot limit s = some (result, t)) :
    (reports w depth way spot limit s.page s.pockets s.settle).length = t.stats.steps := by
  obtain ⟨r, recorded, told, alike⟩ := recorded_of_walk uncounted h
  rw [← told, alike.stats]
  exact length_of_reaches (reaches_of_walk recorded) rfl

/-- Let a new walker have made a walk that has ended, well or not. Then the steps that it has counted are as many as
the positions that it has reported and as those that have been run, and the catch ways that it has counted are as
many as have been handed back with something in them, less one exactly if the budget has been exhausted. With no
budget it has counted none. -/
theorem counters_exact (w : Setting π ω) {depth : Nat} {way : Way} {spot : Spot} {limit : Nat} {page : π}
    {pockets : Pockets} {settle : Nat} {world : ω} {result : Except WalkError Unit} {k : Walker π ω}
    (walked : Walker.walk w depth way spot limit (.new page pockets settle world) = some (result, k)) :
    (∃ n, (next w)^[n] (start way spot limit { page, pockets, settle, world }) = .ended result k.toState) ∧
      (∀ n, (next w)^[n] (start way spot limit { page, pockets, settle, world }) = .ended result k.toState →
        k.stats.steps = (handed w n (start way spot limit { page, pockets, settle, world })).length ∧
          k.stats.recoveries + (if exhausts result then 1 else 0) =
            (handed w n (start way spot limit { page, pockets, settle, world })).countP rescuable) ∧
      k.stats.steps = (reports w depth way spot limit page pockets settle).length ∧
      (limit = 0 → k.stats.recoveries = 0) := by
  rw [Walker.walk_eq] at walked
  obtain ⟨⟨_, t⟩, ends, stands⟩ := Option.map_eq_some_iff.mp walked
  cases stands
  have reached := reaches_of_walk ends
  refine ⟨reached, fun n ended => ?_, (length_reports rfl ends).symm, ?_⟩
  · obtain ⟨steps, recoveries⟩ := counted_of_iterate (w := w) n (start way spot limit { page, pockets, settle, world })
    rw [ended] at steps recoveries
    refine ⟨steps.trans (Nat.zero_add _), ?_⟩
    have counted : t.stats.recoveries + (exhausts result).toNat = 0 + _ := recoveries
    rw [← counted.trans (Nat.zero_add _)]
    cases exhausts result <;> rfl
  · rintro rfl
    exact unrecovered_of_reaches reached

theorem counters_exact_stacked :
    ∃ k, Walker.walk stacked 3 stackedRoot .start 1 (.new { missing := ["#a"] } .empty 0 ()) =
        some (.error (.budgetExhausted (.step "second")), k) ∧
      k.stats = ⟨2, 1⟩ ∧ (reports stacked 3 stackedRoot .start 1 { missing := ["#a"] } .empty 0).length = 2 ∧
        ∃ n, (handed stacked n (start stackedRoot .start 1 stackedStart)).countP rescuable = 2 := by
  have ran : (Walker.walk stacked 3 stackedRoot .start 1 (.new { missing := ["#a"] } .empty 0 ())).map
      (fun ended => (ended.1, ended.2.stats)) = some (.error (.budgetExhausted (.step "second")), ⟨2, 1⟩) := by
    decide +kernel
  obtain ⟨⟨_, k⟩, walked, told⟩ := Option.map_eq_some_iff.mp ran
  simp only [Prod.mk.injEq] at told
  obtain ⟨rfl, counted⟩ := told
  obtain ⟨⟨n, ended⟩, counts, reported, -⟩ := counters_exact stacked walked
  obtain ⟨-, recovered⟩ := counts n ended
  rw [counted] at reported recovered
  exact ⟨k, walked, counted, reported.symm, n, recovered.symm⟩

end Walk

end Wayfarer
