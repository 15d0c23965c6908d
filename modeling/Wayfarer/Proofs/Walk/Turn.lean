import Wayfarer.Proofs.Walk.Decision
import Wayfarer.Proofs.Walk.Past

/-!
# What one step of a walk can do

A stage turns into the next one in one of a few ways, and each of them says all that was done. What
holds of a stage and is kept by every turn holds of all that follows.
-/

namespace Wayfarer.Walk

open Stage

inductive Turn (w : Setting π ω) : Stage π ω → Stage π ω → Prop where
  | rest {result s} : Turn w (.ended result s) (.ended result s)
  | finish {s} : Turn w (.walking [] s) (.ended (.ok ()) s)
  | leave {a outer s} (complete : a.way.repeats ≤ a.pass) :
    Turn w (.walking (a :: outer) s) (.walking (resumed outer) s)
  | again {a outer s} (unfinished : a.pass < a.way.repeats) (beyond : a.way.steps[a.index]? = none) :
    Turn w (.walking (a :: outer) s) (.walking (a.again :: outer) s)
  | fail {a outer s target e t} (place : a.At target)
    (decides : Decides w (indices outer) a.index target a.left s (.error e) t) :
    Turn w (.walking (a :: outer) s) (.ended (.error e) t)
  | advance {a outer s target t} (place : a.At target)
    (decides : Decides w (indices outer) a.index target a.left s (.ok .advance) t) :
    Turn w (.walking (a :: outer) s) (.walking (a.advance :: outer) t)
  | recover {a outer s target way left t} (place : a.At target)
    (decides : Decides w (indices outer) a.index target a.left s (.ok (.recover way left)) t) :
    Turn w (.walking (a :: outer) s) (enter way a.inner left (a.recovering left :: outer) t)
  | enter {a outer s target way t} (place : a.At target)
    (decides : Decides w (indices outer) a.index target a.left s (.ok (.enter way)) t) :
    Turn w (.walking (a :: outer) s) (enter way a.inner a.left (a.waiting :: outer) t)

theorem turn (w : Setting π ω) (c : Stage π ω) : Turn w c (next w c) := by
  match c with
  | .ended _ _ => exact .rest
  | .walking [] _ => exact .finish
  | .walking (a :: outer) s =>
    rcases Nat.lt_or_ge a.pass a.way.repeats with unfinished | complete
    · cases there : a.way.steps[a.index]? with
      | none =>
        rw [next_of_beyond unfinished there]
        exact .again unfinished there
      | some target =>
        have place : a.At target := ⟨unfinished, there⟩
        rw [next_of_at place]
        cases decided : meet w (indices outer) a.index target a.left s with
        | mk result t =>
          have decides := decides_of_meet decided
          rcases result with e | _ | ⟨way, left⟩ | way
          · exact .fail place decides
          · exact .advance place decides
          · exact .recover place decides
          · exact .enter place decides
    · rw [next_of_complete complete]
      exact .leave complete

namespace Stage

def state : Stage π ω → State π ω
  | .walking _ s => s
  | .ended _ s => s

def fresh : Stage π ω → Stage π ω
  | .walking stack s => .walking stack s.fresh
  | .ended result s => .ended result s.fresh

theorem after_fresh (c : Stage π ω) : c.fresh.after c.state.past = c := by
  cases c <;> simp [fresh, after, state]

theorem state_after (past : Past ω) (c : Stage π ω) : (c.after past).state = c.state.after past := by
  cases c <;> rfl

end Stage

namespace Reaches

variable {w : Setting π ω} {c d : Stage π ω}

theorem invariant {motive : Stage π ω → Prop} (kept : ∀ c d, Turn w c d → motive c → motive d) (h : Reaches w c d)
    (first : motive c) : motive d :=
  h.keeps (fun c => kept c _ (turn w c)) first

theorem journal (h : Reaches w c d) : ∃ noted, d.state.journal = c.state.journal ++ noted := by
  obtain ⟨n, rfl⟩ := h
  have later := Stage.state_after c.state.past ((next w)^[n] c.fresh)
  rw [← Stage.iterate_after, Stage.after_fresh] at later
  exact ⟨((next w)^[n] c.fresh).state.journal, by rw [later]; rfl⟩

/-- A walk that ends in an error has stood at the reference where that was decided. -/
theorem decided_of_error {e : WalkError} {t : State π ω} (h : Reaches w c (.ended (.error e) t))
    (unended : ∀ result s, c ≠ .ended result s) :
    ∃ a outer s target, Reaches w c (.walking (a :: outer) s) ∧ a.At target ∧
      Decides w (indices outer) a.index target a.left s (.error e) t := by
  obtain ⟨n, ends⟩ := h
  induction n generalizing c with
  | zero => exact absurd ends (unended _ _)
  | succ n ih =>
    rw [Function.iterate_succ_apply] at ends
    have turned := turn w c
    cases following : next w c with
    | ended result s =>
      rw [following] at ends turned
      have same := Reaches.of_ended ⟨n, ends⟩
      cases turned with
      | rest => exact absurd rfl (unended _ _)
      | finish => cases same
      | fail place decides =>
        cases same
        exact ⟨_, _, _, _, .refl _, place, decides⟩
    | walking stack s =>
      rw [following] at ends
      obtain ⟨a, outer, u, target, reached, place, decides⟩ := ih (by simp) ends
      exact ⟨a, outer, u, target, .step (following ▸ reached), place, decides⟩

end Reaches

end Wayfarer.Walk
