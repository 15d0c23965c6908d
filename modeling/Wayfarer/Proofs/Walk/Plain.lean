import Wayfarer.Proofs.Walk.Progress
import Wayfarer.Proofs.Walk.Resume

/-!
# Plain walks

Where there are no detours, and no step fails that has something to recover it, the definitions alone
settle what is done at a reference. Two such walks that stand at the same place go on alike, in
whatever states they are.
-/

namespace Wayfarer.Walk

open Stage

/-- The walk from `c` meets no detour, and no step that it runs fails with something to recover it. -/
structure Plain (w : Setting π ω) (c : Stage π ω) : Prop where
  undetoured : w.definitions.detours = []
  unrecovered : ∀ {a outer s target step}, Reaches w c (.walking (a :: outer) s) → a.At target → target.kind = .step →
    StepFails w.definitions w.actions target a.index s.session step → step.onFailure = []

/-- What the definitions settle for a reference. -/
def settled (w : Setting π ω) (target : Ident) : Except WalkError Move :=
  match target.kind with
  | .step =>
    match w.definitions.step? target with
    | none => .error (.unknownStep target)
    | some step =>
      if (w.actions step.action).isNone then .error (.missingAction step.id step.action) else .ok .advance
  | .way =>
    match w.definitions.way? target with
    | none => .error (.unknownWay target)
    | some way => .ok (.enter way)
  | .detour => .error (.unknownDetour target)

section

variable {w : Setting π ω} {target : Ident} {s t : State π ω} {a : Activation} {outer : List Activation}

theorem settled_of_ran {indices : List Nat} {index : Nat} {done : Option Way} (kind : target.kind = .step)
    (ran : s.perform w indices index target = (.ok done, t)) : settled w target = .ok .advance := by
  have finished : (runStep w.definitions w.actions target index s.session).1 = .ok done := congrArg Prod.fst ran
  cases found : w.definitions.step? target with
  | none =>
    rw [runStep_eq_error.mpr (.inl ⟨found, rfl⟩)] at finished
    cases finished
  | some step =>
    cases known : w.actions step.action with
    | none =>
      rw [runStep_eq_error.mpr (.inr ⟨step, found, known, rfl⟩)] at finished
      cases finished
    | some action => simp [settled, kind, found, known]

theorem settled_of_fault {index : Nat} {e : WalkError} (kind : target.kind = .step)
    (fault : (runStep w.definitions w.actions target index s.session).1 = .error e) : settled w target = .error e := by
  rcases runStep_eq_error.mp fault with ⟨absent, rfl⟩ | ⟨step, found, unknown, rfl⟩
  · simp [settled, kind, absent]
  · simp [settled, kind, found, unknown]

variable {c : Stage π ω} (plain : Plain w c)

include plain

theorem Plain.resolve (pockets : Pockets) (id : Ident) :
    w.definitions.resolve pockets id = .error (.unknownDetour id) :=
  Definitions.resolve_eq_error.mpr (.inl ⟨by simp [Definitions.detour?, plain.undetoured], rfl⟩)

theorem Plain.eq_settled {decided : Except WalkError Move} (reached : Reaches w c (.walking (a :: outer) s))
    (place : a.At target) (decides : Decides w (indices outer) a.index target a.left s decided t) :
    decided = settled w target := by
  have dismissed : ∀ {way}, target.kind = .step → s.perform w (indices outer) a.index target = (.ok (some way), t) →
      way.steps = [] := by
    intro way kind ran
    have failed : (runStep w.definitions w.actions target a.index s.session).1 = .ok (some way) :=
      congrArg Prod.fst ran
    obtain ⟨step, fails, rfl⟩ := runStep_eq_catchWay.mp failed
    exact plain.unrecovered reached place kind fails
  cases decides with
  | unrunnable kind ran => exact (settled_of_fault kind (congrArg Prod.fst ran)).symm
  | succeeded kind ran => exact (settled_of_ran kind ran).symm
  | dismissed kind ran => exact (settled_of_ran kind ran).symm
  | exhausted kind ran something => exact absurd (dismissed kind ran) something
  | @recovered way u _ kind ran something =>
    obtain ⟨step, fails, rfl⟩ := runStep_eq_catchWay.mp (congrArg Prod.fst ran :
      (runStep w.definitions w.actions target a.index s.session).1 = .ok (some way))
    exact absurd (plain.unrecovered reached place kind fails) something
  | noWay kind absent => simp [settled, kind, absent]
  | way kind found => simp [settled, kind, found]
  | noBranch kind fails =>
    rw [plain.resolve] at fails
    cases fails
    simp [settled, kind]
  | branch kind chosen =>
    rw [plain.resolve] at chosen
    cases chosen

theorem Plain.next_at (reached : Reaches w c (.walking (a :: outer) s)) (place : a.At target) :
    ∃ t, next w (.walking (a :: outer) s) = proceed a outer (settled w target, t) ∧
      t.stats.steps = s.stats.steps + if target.kind = .step then 1 else 0 := by
  rw [next_of_at place]
  cases decided : meet w (indices outer) a.index target a.left s with
  | mk result t =>
    have decides := decides_of_meet decided
    exact ⟨t, by rw [plain.eq_settled reached place decides], steps_of_decides decides⟩

end

theorem kind_of_settled {w : Setting π ω} {target : Ident} {way : Way} (h : settled w target = .ok (.enter way)) :
    target.kind = .way := by
  unfold settled at h
  cases kind : target.kind with
  | step =>
    rw [kind] at h
    simp only at h
    split at h
    · cases h
    · split at h <;> cases h
  | way => rfl
  | detour =>
    rw [kind] at h
    cases h

theorem not_recover_of_settled {w : Setting π ω} {target : Ident} {way : Way} {left : Nat} :
    settled w target ≠ .ok (.recover way left) := by
  unfold settled
  split
  · split
    · exact nofun
    · split <;> exact nofun
  · split <;> exact nofun
  · exact nofun

/-! ### What stands on the stack -/

/-- No catch way has been entered, and no activation stands in a detour. -/
structure Straight (stack : List Activation) : Prop where
  unspent : ∀ a ∈ stack, a.recoveries = 0
  undetoured : ∀ a ∈ stack.tail, ∀ target, a.way.steps[a.index]? = some target → target.kind ≠ .detour

/-- Where the innermost activation stands does not matter, nor that it goes on. -/
theorem Straight.move {a b : Activation} {outer : List Activation} (h : Straight (a :: outer))
    (unspent : b.recoveries = a.recoveries) : Straight (b :: outer) := by
  obtain ⟨here, others⟩ := List.forall_mem_cons.mp h.unspent
  exact ⟨List.forall_mem_cons.mpr ⟨unspent.trans here, others⟩, h.undetoured⟩

theorem Straight.tail {a : Activation} {outer : List Activation} (h : Straight (a :: outer)) : Straight outer :=
  ⟨fun b member => h.unspent b (List.mem_cons_of_mem a member),
    fun b member => h.undetoured b (List.mem_of_mem_tail member)⟩

/-- Without detours the way down does not depend on the pockets. -/
theorem Straight.agrees {w : Setting π ω} {stack : List Activation} (h : Straight stack) (pockets : Pockets) :
    stack.IsChain (Agrees w pockets) := by
  induction stack with
  | nil => exact .nil
  | cons a outer ih =>
    refine List.isChain_cons.mpr ⟨fun b next target there kind => ?_, ih h.tail⟩
    exact absurd kind (h.undetoured b (List.mem_of_mem_head? next) target there)

theorem Plain.straight {w : Setting π ω} {root : Way} {spot : Spot} {limit : Nat} {s : State π ω} {d : Stage π ω}
    (plain : Plain w (start root spot limit s)) (reached : Reaches w (start root spot limit s) d) :
    Straight d.stack := by
  have alone : Straight (start root spot limit s).stack := ⟨List.forall_mem_cons.mpr ⟨rfl, nofun⟩, nofun⟩
  refine reached.carries (motive := fun d => Straight d.stack) (fun d here straight => ?_) alone
  have turned := turn w d
  generalize next w d = e at turned
  cases turned with
  | rest => exact straight
  | finish => exact straight
  | fail => exact ⟨nofun, nofun⟩
  | @leave a outer =>
    cases outer with
    | nil => exact straight.tail
    | cons b outer => exact straight.tail.move rfl
  | again => exact straight.move rfl
  | advance => exact straight.move rfl
  | recover place decides => exact absurd (plain.eq_settled here place decides).symm not_recover_of_settled
  | @enter a outer u target way t place decides =>
    have kind := kind_of_settled (plain.eq_settled here place decides).symm
    have waiting : Straight (a.waiting :: outer) := straight.move rfl
    refine ⟨List.forall_mem_cons.mpr ⟨rfl, waiting.unspent⟩, List.forall_mem_cons.mpr ⟨?_, straight.undetoured⟩⟩
    intro other there
    rw [show a.waiting.way.steps[a.waiting.index]? = some target from place.there] at there
    cases there
    simp [kind]

/-! ### Two plain walks -/

/-- Two stages with the same activations, `m` and `n` steps behind where the walks are compared. -/
inductive Parallel (m n : Nat) : Stage π ω → Stage π ω → Prop where
  | walking (stack : List Activation) {s t} (steps : s.stats.steps + n = t.stats.steps + m) :
    Parallel m n (.walking stack s) (.walking stack t)
  | ended {result s t} (steps : s.stats.steps + n = t.stats.steps + m) : Parallel m n (.ended result s) (.ended result t)

namespace Parallel

variable {m n : Nat} {c d : Stage π ω}

theorem steps (h : Parallel m n c d) : c.state.stats.steps + n = d.state.stats.steps + m := by
  cases h <;> assumption

theorem proceed {s t : State π ω} (a : Activation) (outer : List Activation) (decided : Except WalkError Move)
    (steps : s.stats.steps + n = t.stats.steps + m) :
    Parallel m n (Stage.proceed a outer (decided, s)) (Stage.proceed a outer (decided, t)) := by
  rcases decided with _ | _ | _ | _
  · exact .ended steps
  · exact .walking _ steps
  · exact .walking _ steps
  · exact .walking _ steps

variable {w : Setting π ω} {first second : Stage π ω}

theorem next (h : Parallel m n c d) (plain : Plain w first) (reached : Reaches w first c) (alike : Plain w second)
    (arrived : Reaches w second d) : Parallel m n (Stage.next w c) (Stage.next w d) := by
  cases h with
  | ended steps => exact .ended steps
  | walking stack steps =>
    cases stack with
    | nil => exact .ended steps
    | cons a outer =>
      rcases Nat.lt_or_ge a.pass a.way.repeats with unfinished | complete
      · cases there : a.way.steps[a.index]? with
        | none =>
          rw [next_of_beyond unfinished there, next_of_beyond unfinished there]
          exact .walking _ steps
        | some target =>
          obtain ⟨s, moves, ran⟩ := plain.next_at reached ⟨unfinished, there⟩
          obtain ⟨t, follows, reran⟩ := alike.next_at arrived ⟨unfinished, there⟩
          rw [moves, follows]
          exact proceed a outer _ (by omega)
      · rw [next_of_complete complete, next_of_complete complete]
        exact .walking _ steps

theorem reaches (h : Parallel m n c d) (plain : Plain w first) (reached : Reaches w first c) (alike : Plain w second)
    (arrived : Reaches w second d) {e : Stage π ω} (later : Reaches w c e) :
    ∃ f, Reaches w d f ∧ Parallel m n e f := by
  obtain ⟨k, rfl⟩ := later
  induction k with
  | zero => exact ⟨d, .refl d, h⟩
  | succ k ih =>
    obtain ⟨f, follows, together⟩ := ih
    rw [Function.iterate_succ_apply']
    exact ⟨Stage.next w f, follows.trans (.one rfl),
      together.next plain (reached.trans ⟨k, rfl⟩) alike (arrived.trans follows)⟩

theorem symm (h : Parallel m n c d) : Parallel n m d c := by
  cases h with
  | walking stack steps => exact .walking stack steps.symm
  | ended steps => exact .ended steps.symm

end Parallel

end Wayfarer.Walk
