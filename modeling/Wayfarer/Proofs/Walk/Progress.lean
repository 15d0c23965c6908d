import Mathlib.Data.List.Lex
import Mathlib.Data.Prod.Lex
import Wayfarer.Proofs.Walk.Stack

/-!
# How far a walk has come

The passes and indices of the activations, outermost first, only go up: every turn raises them in the
lexicographic order. So a walk never stands twice where it has stood before, and the steps that it runs
can be told apart by their number.
-/

namespace Wayfarer.Walk

open Stage

/-- The passes that are complete, and then the index. -/
def Activation.progress (a : Activation) : ℕ ×ₗ ℕ :=
  toLex (a.pass, a.index)

/-- How far the activations have come, outermost first. -/
def progress (stack : List Activation) : List (ℕ ×ₗ ℕ) :=
  (stack.map (·.progress)).reverse

@[simp] theorem progress_cons (a : Activation) (outer : List Activation) :
    progress (a :: outer) = progress outer ++ [a.progress] := by
  simp [progress]

theorem progress_append (below stack : List Activation) : progress (below ++ stack) = progress stack ++ progress below := by
  simp [progress]

theorem Activation.progress_lt_advance (a : Activation) : a.progress < a.advance.progress :=
  Prod.Lex.toLex_lt_toLex.mpr (.inr ⟨rfl, Nat.lt_succ_self _⟩)

theorem Activation.progress_lt_again (a : Activation) : a.progress < a.again.progress :=
  Prod.Lex.toLex_lt_toLex.mpr (.inl (Nat.lt_succ_self _))

/-- Once the innermost activation moves on, all that has been below it is behind. -/
theorem progress_lt_of_move {a b : Activation} (moves : a.progress < b.progress) (outer : List Activation)
    (below : List (ℕ ×ₗ ℕ)) : progress (a :: outer) ++ below < progress (b :: outer) := by
  rw [progress_cons, progress_cons, List.append_assoc]
  exact List.append_left_lt (List.cons_lt_cons_iff.mpr (.inl moves))

theorem progress_lt_of_child {a b : Activation} (same : b.progress = a.progress) (child : Activation)
    (outer : List Activation) : progress (a :: outer) < progress (child :: b :: outer) := by
  have behind : progress (b :: outer) ++ [] < progress (b :: outer) ++ [child.progress] :=
    List.append_left_lt (List.nil_lt_cons child.progress [])
  rwa [List.append_nil, ← progress_cons, progress_cons b, same, ← progress_cons] at behind

section

variable {w : Setting π ω} {c d : Stage π ω}

theorem progress_lt_of_turn (turned : Turn w c d) (walking : d.stack ≠ []) : progress c.stack < progress d.stack := by
  cases turned with
  | rest => exact absurd rfl walking
  | finish => exact absurd rfl walking
  | fail => exact absurd rfl walking
  | @leave a outer s complete =>
    cases outer with
    | nil => exact absurd rfl walking
    | cons b outer =>
      have moved := progress_lt_of_move b.progress_lt_advance outer [a.progress]
      rwa [← progress_cons] at moved
  | @again a outer =>
    have moved := progress_lt_of_move a.progress_lt_again outer []
    rwa [List.append_nil] at moved
  | @advance a outer =>
    have moved := progress_lt_of_move a.progress_lt_advance outer []
    rwa [List.append_nil] at moved
  | recover => exact progress_lt_of_child rfl _ _
  | enter => exact progress_lt_of_child rfl _ _

theorem stack_next_of_nothing (nothing : c.stack = []) : (next w c).stack = [] := by
  match c with
  | .ended _ _ => rfl
  | .walking [] _ => rfl
  | .walking (a :: outer) _ => cases nothing

namespace Reaches

theorem walking (h : Reaches w c d) (walking : d.stack ≠ []) : c.stack ≠ [] := fun nothing =>
  walking (h.keeps (motive := fun d => d.stack = []) (fun _ => stack_next_of_nothing) nothing)

theorem progress_le (h : Reaches w c d) (walking : d.stack ≠ []) : progress c.stack ≤ progress d.stack := by
  obtain ⟨n, rfl⟩ := h
  induction n with
  | zero => exact le_refl _
  | succ n ih =>
    rw [Function.iterate_succ_apply'] at walking ⊢
    have before := ih (Reaches.walking (.one rfl) walking)
    exact before.trans (progress_lt_of_turn (turn w _) walking).le

theorem progress_lt (h : Reaches w (next w c) d) (walking : d.stack ≠ []) : progress c.stack < progress d.stack :=
  (progress_lt_of_turn (turn w c) (h.walking walking)).trans_le (h.progress_le walking)

theorem total {e : Stage π ω} (first : Reaches w c d) (second : Reaches w c e) : Reaches w d e ∨ Reaches w e d := by
  obtain ⟨m, rfl⟩ := first
  obtain ⟨n, rfl⟩ := second
  rcases Nat.le_total m n with before | after
  · exact .inl ⟨n - m, by rw [← Function.iterate_add_apply, Nat.sub_add_cancel before]⟩
  · exact .inr ⟨m - n, by rw [← Function.iterate_add_apply, Nat.sub_add_cancel after]⟩

theorem eq_or_next (h : Reaches w c d) : d = c ∨ Reaches w (next w c) d := by
  obtain ⟨n, rfl⟩ := h
  cases n with
  | zero => exact .inl rfl
  | succ n => exact .inr ⟨n, (Function.iterate_succ_apply _ n c).symm⟩

theorem eq_of_progress {e : Stage π ω} (first : Reaches w c d) (second : Reaches w c e) (walking : d.stack ≠ [])
    (same : progress d.stack = progress e.stack) : d = e := by
  have going : e.stack ≠ [] := fun nothing => walking (by simpa [progress, nothing] using same)
  rcases first.total second with later | earlier
  · rcases later.eq_or_next with rfl | follows
    · rfl
    · exact absurd same (follows.progress_lt going).ne
  · rcases earlier.eq_or_next with rfl | follows
    · rfl
    · exact absurd same.symm (follows.progress_lt walking).ne

end Reaches

/-! ### How many steps have been run -/

theorem steps_of_decides {outer : List Nat} {index limit : Nat} {target : Ident} {s t : State π ω}
    {decided : Except WalkError Move} (h : Decides w outer index target limit s decided t) :
    t.stats.steps = s.stats.steps + if target.kind = .step then 1 else 0 := by
  have counted := view_of_decides (f := fun s => s.stats.steps) (fun _ _ _ => rfl) (fun _ _ => rfl) h
  rw [counted]
  split <;> rfl

theorem Reaches.steps_le (h : Reaches w c d) : c.state.stats.steps ≤ d.state.stats.steps := by
  obtain ⟨n, rfl⟩ := h
  have later := Stage.state_after c.state.past ((next w)^[n] c.fresh)
  rw [← Stage.iterate_after, Stage.after_fresh] at later
  rw [later]
  exact Nat.le_add_right _ _

theorem steps_next_of_step {a : Activation} {target : Ident} (place : a.At target) (kind : target.kind = .step)
    (outer : List Activation) (s : State π ω) :
    (next w (.walking (a :: outer) s)).state.stats.steps = s.stats.steps + 1 := by
  rw [next_of_at place]
  cases decided : meet w (indices outer) a.index target a.left s with
  | mk result t =>
    have counted := steps_of_decides (decides_of_meet decided)
    rw [if_pos kind] at counted
    rcases result with _ | _ | _ | _ <;> exact counted

end

/-- The walk from `c` stands before `target`, and `n` steps have been run since `c`. -/
structure Arrives (w : Setting π ω) (c : Stage π ω) (n : Nat) (target : Ident) (a : Activation)
    (outer : List Activation) (s : State π ω) : Prop where
  reached : Reaches w c (.walking (a :: outer) s)
  place : a.At target
  kind : target.kind = .step
  steps : s.stats.steps = c.state.stats.steps + n

namespace Arrives

variable {w : Setting π ω} {c : Stage π ω} {m n : Nat} {target other : Ident} {a b : Activation}
  {outer rest : List Activation} {s t : State π ω}

theorem steps_lt (h : Arrives w c n target a outer s) {d : Stage π ω}
    (later : Reaches w (next w (.walking (a :: outer) s)) d) : s.stats.steps < d.state.stats.steps := by
  have behind := later.steps_le
  rw [steps_next_of_step h.place h.kind] at behind
  exact behind

theorem lt_of_ends {result : Except WalkError Unit} {t : State π ω} (h : Arrives w c n target a outer s)
    (ends : Reaches w c (.ended result t)) : c.state.stats.steps + n < t.stats.steps := by
  rcases (ends.ended_of_reaches h.reached).eq_or_next with same | follows
  · cases same
  · rw [← h.steps]
    exact h.steps_lt follows

theorem reaches_of_le (first : Arrives w c m target a outer s) (second : Arrives w c n other b rest t) (less : m ≤ n) :
    Reaches w (.walking (a :: outer) s) (.walking (b :: rest) t) := by
  rcases first.reached.total second.reached with later | earlier
  · exact later
  · rcases earlier.eq_or_next with same | follows
    · exact .of_eq same
    · have behind : t.stats.steps < s.stats.steps := second.steps_lt follows
      rw [first.steps, second.steps] at behind
      omega

theorem unique (first : Arrives w c n target a outer s) (second : Arrives w c n other b rest t) :
    a = b ∧ outer = rest ∧ s = t := by
  rcases (first.reaches_of_le second (le_refl n)).eq_or_next with same | follows
  · cases same
    exact ⟨rfl, rfl, rfl⟩
  · have behind : s.stats.steps < t.stats.steps := first.steps_lt follows
    rw [first.steps, second.steps] at behind
    omega

/-- The higher its number, the further the walk has come at a step. -/
theorem lt_iff_progress_lt (first : Arrives w c m target a outer s) (second : Arrives w c n other b rest t) :
    m < n ↔ progress (a :: outer) < progress (b :: rest) := by
  constructor
  · intro less
    rcases (first.reaches_of_le second less.le).eq_or_next with same | follows
    · cases same
      have counted := first.steps.symm.trans second.steps
      omega
    · exact follows.progress_lt (by simp [Stage.stack])
  · intro further
    refine not_le.mp fun behind => not_lt_of_ge ?_ further
    exact (second.reaches_of_le first behind).progress_le (by simp [Stage.stack])

theorem of_iterate {m : Nat} {p : State π ω → Bool} (place : a.At target) (kind : target.kind = .step)
    (stands : (match (next w)^[m] c with
      | .walking stack s => decide (stack = a :: outer ∧ s.stats.steps = c.state.stats.steps + n) && p s
      | .ended _ _ => false) = true) : ∃ s, Arrives w c n target a outer s ∧ p s = true := by
  split at stands
  · rename_i stack s found
    obtain ⟨here, holds⟩ := Bool.and_eq_true_iff.mp stands
    obtain ⟨rfl, counted⟩ := of_decide_eq_true here
    exact ⟨s, ⟨⟨m, found⟩, place, kind, counted⟩, holds⟩
  · cases stands

end Arrives

end Wayfarer.Walk
