import Mathlib.Data.List.Forall2
import Wayfarer.Proofs.Walk.Turn

/-!
# Two walks side by side

Walks of two settings go side by side from related states if their decisions at every reference do: they
come to the same result, or neither to any, in related states again. Their spots may differ, as long as they
send them the same way.
-/

namespace Wayfarer.Walk

/-- Both computations come to the same result, or to none, in states that are related. -/
def Tandem (R : State π ω → State ρ υ → Prop) (x : Walk π ω α) (y : Walk ρ υ α) : Prop :=
  ∀ s t, R s t → Option.Rel (fun a b => a.1 = b.1 ∧ R a.2 b.2) (x s) (y t)

/-- Spots that are related lead to the same index, and to related spots below it. -/
structure Guides (S : Spot → Spot → Prop) : Prop where
  index : ∀ {spot other}, S spot other → spot.index = other.index
  inner : ∀ {spot other}, S spot other → S spot.inner other.inner
  start : S .start .start

theorem guides_eq : Guides Eq := by
  refine ⟨?_, ?_, rfl⟩
  · rintro spot _ rfl
    rfl
  · rintro spot _ rfl
    rfl

section

variable {R : State π ω → State ρ υ → Prop} {S : Spot → Spot → Prop}

theorem tandem_pure (a : α) : Tandem R (pure a : Walk π ω α) (pure a) :=
  fun _ _ related => .some ⟨rfl, related⟩

theorem Tandem.bind {x : Walk π ω α} {y : Walk ρ υ α} {f : α → Walk π ω β} {g : α → Walk ρ υ β}
    (first : Tandem R x y) (rest : ∀ a, Tandem R (f a) (g a)) : Tandem R (x >>= f) (y >>= g) := by
  intro s t related
  have here := first s t related
  rw [bind_apply, bind_apply]
  cases left : x s with
  | none =>
    rw [left] at here
    cases right : y t with
    | none => exact .none
    | some _ => rw [right] at here; cases here
  | some a =>
    rw [left] at here
    cases right : y t with
    | none => rw [right] at here; cases here
    | some b =>
      rw [right] at here
      cases here with
      | some both =>
        obtain ⟨same, after⟩ := both
        obtain ⟨result, s'⟩ := a
        obtain ⟨other, t'⟩ := b
        cases same
        cases result with
        | error e => exact .some ⟨rfl, after⟩
        | ok value => exact rest value s' t' after

/-- Where the one state is told from the other, so is its end. -/
theorem Tandem.eq_map {f : State ρ υ → State π ω} {x : Walk π ω α} {y : Walk ρ υ α} (h : Tandem (fun s t => s = f t) x y)
    (t : State ρ υ) : x (f t) = (y t).map fun ends => (ends.1, f ends.2) := by
  have together := h (f t) t rfl
  cases left : x (f t) with
  | none =>
    rw [left] at together
    cases right : y t with
    | none => rfl
    | some _ => rw [right] at together; cases together
  | some ends =>
    rw [left] at together
    cases right : y t with
    | none => rw [right] at together; cases together
    | some also =>
      rw [right] at together
      cases together with
      | some both => exact congrArg some (Prod.ext both.1 both.2)

theorem followAll_tandem (guides : Guides S) {visit : Nat → Ident → Spot → Nat → Walk π ω Nat}
    {call : Nat → Ident → Spot → Nat → Walk ρ υ Nat}
    (one : ∀ index target inner other limit, S inner other →
      Tandem R (visit index target inner limit) (call index target other limit)) (references : List Ident) :
    ∀ index inner other limit, S inner other →
      Tandem R (followAll visit index references inner limit) (followAll call index references other limit) := by
  induction references with
  | nil => exact fun _ _ _ limit _ => tandem_pure limit
  | cons target references ih =>
    intro index inner other limit guided
    exact (one index target inner other limit guided).bind fun left => ih (index + 1) .start .start left guides.start

theorem passes_tandem {once : Nat → Walk π ω Nat} {twin : Nat → Walk ρ υ Nat}
    (one : ∀ limit, Tandem R (once limit) (twin limit)) (n : Nat) :
    ∀ limit, Tandem R (passes once n limit) (passes twin n limit) := by
  induction n with
  | zero => exact fun limit => tandem_pure limit
  | succ n ih => exact fun limit => (one limit).bind fun left => ih left

variable {w : Setting π ω} {v : Setting ρ υ}

variable (w v R) in
/-- At every reference the same is decided, and the states stay related. -/
def Concur : Prop :=
  ∀ outer index target limit s t, R s t →
    (meet w outer index target limit s).1 = (meet v outer index target limit t).1 ∧
      R (meet w outer index target limit s).2 (meet v outer index target limit t).2

theorem concur_of_performed (definitions : v.definitions = w.definitions)
    (resolved : ∀ target s t, R s t → w.definitions.resolve s.pockets target = w.definitions.resolve t.pockets target)
    (noted : ∀ e s t, R s t → R (s.note e) (t.note e))
    (spent : ∀ step left s t, R s t → R (s.spent step left) (t.spent step left))
    (performed : ∀ outer index target s t, R s t →
      (s.perform w outer index target).1 = (t.perform v outer index target).1 ∧
        R (s.perform w outer index target).2 (t.perform v outer index target).2) : Concur R w v := by
  intro outer index target limit s t related
  unfold meet
  cases target.kind with
  | step =>
    obtain ⟨same, after⟩ := performed outer index target s t related
    change (respond target limit (s.perform w outer index target)).1 =
        (respond target limit (t.perform v outer index target)).1 ∧
      R (respond target limit (s.perform w outer index target)).2 (respond target limit (t.perform v outer index target)).2
    cases ran : s.perform w outer index target with
    | mk result s' =>
      cases reran : t.perform v outer index target with
      | mk other t' =>
        rw [ran, reran] at same after
        cases same
        rcases result with _ | _ | way
        · exact ⟨rfl, after⟩
        · exact ⟨rfl, after⟩
        · simp only [respond]
          split
          · exact ⟨rfl, after⟩
          · cases limit with
            | zero => exact ⟨rfl, after⟩
            | succ left => exact ⟨rfl, spent target left s' t' after⟩
  | way =>
    simp only [definitions]
    cases w.definitions.way? target <;> exact ⟨rfl, related⟩
  | detour =>
    simp only [definitions, ← resolved target s t related]
    cases w.definitions.resolve s.pockets target with
    | error e => exact ⟨rfl, related⟩
    | ok branch => exact ⟨rfl, noted _ s t related⟩

theorem follow_tandem (concur : Concur R w v) {descend : List Nat → Way → Spot → Nat → Walk π ω Unit}
    {dig : List Nat → Way → Spot → Nat → Walk ρ υ Unit}
    (below : ∀ outer way spot other limit, S spot other → Tandem R (descend outer way spot limit) (dig outer way other limit))
    (outer : List Nat) (index : Nat) (target : Ident) (inner other : Spot) (limit : Nat) (guided : S inner other) :
    Tandem R (follow w descend outer index target inner limit) (follow v dig outer index target other limit) := by
  intro s t related
  obtain ⟨same, after⟩ := concur outer index target limit s t related
  rw [follow_apply, follow_apply]
  cases left : meet w outer index target limit s with
  | mk result s' =>
    cases right : meet v outer index target limit t with
    | mk also t' =>
      rw [left, right] at same after
      cases same
      rcases result with e | _ | ⟨way, less⟩ | way
      · exact .some ⟨rfl, after⟩
      · exact .some ⟨rfl, after⟩
      · exact (below _ way inner other less guided).bind (fun _ => tandem_pure less) s' t' after
      · exact (below _ way inner other limit guided).bind (fun _ => tandem_pure limit) s' t' after

/-- Walks whose decisions concur go side by side, from spots that are related. -/
theorem walk_tandem_along (guides : Guides S) (concur : Concur R w v)
    (noted : ∀ way spot other limit s t, S spot other → R s t →
      R (s.note (.walking way spot limit)) (t.note (.walking way other limit)))
    (depth : Nat) : ∀ outer way spot other limit, S spot other →
      Tandem R (walk w depth outer way spot limit) (walk v depth outer way other limit) := by
  induction depth with
  | zero => exact fun outer way spot other limit _ s t _ => .none
  | succ depth ih =>
    intro outer way spot other limit guided s t related
    have one := follow_tandem concur ih outer
    have begun := noted way spot other limit s t guided related
    cases repeats : way.repeats with
    | zero =>
      rw [walk_zero_repeats _ _ _ _ _ _ repeats, walk_zero_repeats _ _ _ _ _ _ repeats]
      exact .some ⟨rfl, begun⟩
    | succ more =>
      rw [walk_succ _ _ _ _ _ _ more repeats, walk_succ _ _ _ _ _ _ more repeats, ← guides.index guided]
      have first := followAll_tandem guides one (way.steps.drop spot.index) spot.index spot.inner other.inner limit
        (guides.inner guided)
      have again := passes_tandem (fun left => followAll_tandem guides one way.steps 0 .start .start left guides.start) more
      exact (first.bind fun left => (again left).bind fun _ => tandem_pure ()) _ _ begun

theorem walk_tandem (concur : Concur R w v)
    (noted : ∀ way spot limit s t, R s t → R (s.note (.walking way spot limit)) (t.note (.walking way spot limit)))
    (depth : Nat) (outer : List Nat) (way : Way) (spot : Spot) (limit : Nat) :
    Tandem R (walk w depth outer way spot limit) (walk v depth outer way spot limit) := by
  refine walk_tandem_along guides_eq concur ?_ depth outer way spot spot limit rfl
  rintro way spot _ limit s t rfl
  exact noted way spot limit s t

theorem walk_after (past : Past ω) (w : Setting π ω) (depth : Nat) (outer : List Nat) (way : Way) (spot : Spot) (limit : Nat)
    (s : State π ω) : walk w depth outer way spot limit (s.after past) =
      (walk w depth outer way spot limit s).map fun ends => (ends.1, ends.2.after past) := by
  have concur : Concur (fun s t => s = t.after past) w w := by
    rintro outer index target limit _ t rfl
    rw [meet_after]
    exact ⟨rfl, rfl⟩
  have noted : ∀ (way : Way) spot limit (s t : State π ω), s = t.after past →
      s.note (.walking way spot limit) = (t.note (.walking way spot limit)).after past := by
    rintro way spot limit _ t rfl
    exact State.note_after past t _
  exact (walk_tandem concur noted depth outer way spot limit).eq_map s

/-! ### Stages side by side -/

/-- The activations differ at most in what remains of their spots, and that is related. -/
inductive Activation.Beside (S : Spot → Spot → Prop) : Activation → Activation → Prop where
  | mk (a : Activation) {inner other} (guided : S inner other) : Beside S { a with inner } { a with inner := other }

inductive Stage.Beside (S : Spot → Spot → Prop) (R : State π ω → State ρ υ → Prop) : Stage π ω → Stage ρ υ → Prop where
  | walking {stack others s t} (activations : List.Forall₂ (Activation.Beside S) stack others) (related : R s t) :
    Beside S R (.walking stack s) (.walking others t)
  | ended {result s t} (related : R s t) : Beside S R (.ended result s) (.ended result t)

open Stage

theorem Stage.Beside.state {c : Stage π ω} {d : Stage ρ υ} (h : Beside S R c d) : R c.state d.state := by
  cases h <;> assumption

theorem indices_beside {stack others : List Activation} (h : List.Forall₂ (Activation.Beside S) stack others) :
    indices others = indices stack := by
  induction h with
  | nil => rfl
  | cons head _ ih =>
    cases head
    rw [indices_cons, indices_cons, ih]

theorem resumed_beside (guides : Guides S) {stack others : List Activation}
    (h : List.Forall₂ (Activation.Beside S) stack others) :
    List.Forall₂ (Activation.Beside S) (resumed stack) (resumed others) := by
  cases h with
  | nil => exact .nil
  | cons head tail =>
    cases head with
    | mk a => exact .cons (.mk a.advance guides.start) tail

theorem enter_beside (guides : Guides S)
    (noted : ∀ way spot other limit s t, S spot other → R s t →
      R (s.note (.walking way spot limit)) (t.note (.walking way other limit)))
    (way : Way) {spot other : Spot} (limit : Nat) {outer others : List Activation} {s : State π ω} {t : State ρ υ}
    (guided : S spot other) (activations : List.Forall₂ (Activation.Beside S) outer others) (related : R s t) :
    Beside S R (enter way spot limit outer s) (enter way other limit others t) := by
  have begun : Activation.Beside S (.begin way spot limit) (.begin way other limit) := by
    rw [Activation.begin, Activation.begin, guides.index guided]
    exact .mk { way, index := other.index, inner := .start, left := limit } (guides.inner guided)
  exact .walking (.cons begun activations) (noted way spot other limit s t guided related)

theorem proceed_beside (guides : Guides S)
    (noted : ∀ way spot other limit s t, S spot other → R s t →
      R (s.note (.walking way spot limit)) (t.note (.walking way other limit)))
    (a : Activation) {inner other : Spot} {outer others : List Activation} {s : State π ω} {t : State ρ υ}
    (guided : S inner other) (activations : List.Forall₂ (Activation.Beside S) outer others) (related : R s t)
    (result : Except WalkError Move) :
    Beside S R (proceed { a with inner } outer (result, s)) (proceed { a with inner := other } others (result, t)) := by
  rcases result with e | _ | ⟨way, left⟩ | way
  · exact .ended related
  · exact .walking (.cons (.mk a.advance guides.start) activations) related
  · exact enter_beside guides noted way left guided (.cons (.mk (a.recovering left) guides.start) activations) related
  · exact enter_beside guides noted way a.left guided (.cons (.mk a.waiting guides.start) activations) related

/-- Stages of walks whose decisions concur stay side by side, whether the walks come to an end or not. -/
theorem next_beside (guides : Guides S) (concur : Concur R w v)
    (noted : ∀ way spot other limit s t, S spot other → R s t →
      R (s.note (.walking way spot limit)) (t.note (.walking way other limit)))
    {c : Stage π ω} {d : Stage ρ υ} (h : Beside S R c d) : Beside S R (next w c) (next v d) := by
  cases h with
  | ended related => exact .ended related
  | @walking _ _ s t activations related =>
    cases activations with
    | nil => exact .ended related
    | @cons _ _ outer others head tail =>
      cases head with
      | @mk a inner other guided =>
        simp only [next]
        split
        · exact .walking (resumed_beside guides tail) related
        · split
          · exact .walking (.cons (.mk a.again guides.start) tail) related
          · rename_i target _
            obtain ⟨same, after⟩ := concur (indices outer) a.index target a.left s t related
            rw [indices_beside tail]
            -- the same decision, each in its own state
            have apart := proceed_beside guides noted a guided tail after
              (meet w (indices outer) a.index target a.left s).1
            nth_rewrite 2 [same] at apart
            exact apart

theorem states_beside (guides : Guides S) (concur : Concur R w v)
    (noted : ∀ way spot other limit s t, S spot other → R s t →
      R (s.note (.walking way spot limit)) (t.note (.walking way other limit)))
    (root : Way) {spot other : Spot} (limit : Nat) (guided : S spot other) {s : State π ω} {t : State ρ υ} (related : R s t)
    (n : Nat) : R ((next w)^[n] (start root spot limit s)).state ((next v)^[n] (start root other limit t)).state := by
  have stages : Beside S R ((next w)^[n] (start root spot limit s)) ((next v)^[n] (start root other limit t)) := by
    induction n with
    | zero => exact enter_beside guides noted root limit guided .nil related
    | succ n ih =>
      rw [Function.iterate_succ_apply', Function.iterate_succ_apply']
      exact next_beside guides concur noted ih
  exact stages.state

end

end Wayfarer.Walk
