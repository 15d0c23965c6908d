import Wayfarer.Proofs.Walk.Machine

/-!
# The past of a walk

The counters and the journal of a walk only tell what has happened. Nothing that a walk does depends
on them: behind another past it goes through the same stages. So states that differ in what was told alone
can be compared by a view of their journals.
-/

namespace Wayfarer.Walk

/-- What was noted and counted before. -/
structure Past (ω : Type) where
  stats : Stats := {}
  journal : Array (Moment ω) := #[]

/-- The state as it would stand behind this past. -/
def State.after (past : Past ω) (s : State π ω) : State π ω :=
  { s with
    stats := ⟨past.stats.steps + s.stats.steps, past.stats.recoveries + s.stats.recoveries⟩
    journal := past.journal ++ s.journal }

def Stage.after (past : Past ω) : Stage π ω → Stage π ω
  | .walking stack s => .walking stack (s.after past)
  | .ended result s => .ended result (s.after past)

/-- The state without its past. -/
def State.fresh (s : State π ω) : State π ω :=
  { page := s.page, pockets := s.pockets, settle := s.settle, world := s.world }

def State.past (s : State π ω) : Past ω :=
  ⟨s.stats, s.journal⟩

@[simp] theorem State.after_fresh (s : State π ω) : s.fresh.after s.past = s := by
  simp [fresh, past, after]

/-- The states differ at most in what the view of their journals leaves out. -/
structure State.SameBut (view : Array (Moment ω) → List (Moment ω)) (s t : State π ω) : Prop where
  page : s.page = t.page
  pockets : s.pockets = t.pockets
  settle : s.settle = t.settle
  world : s.world = t.world
  stats : s.stats = t.stats
  story : view s.journal = view t.journal

namespace State.SameBut

variable {view : Array (Moment ω) → List (Moment ω)} {s t u v : State π ω}

theorem refl (s : State π ω) : s.SameBut view s := ⟨rfl, rfl, rfl, rfl, rfl, rfl⟩

theorem fresh (h : s.SameBut view t) : s.fresh = t.fresh := by
  simp [State.fresh, h.page, h.pockets, h.settle, h.world]

theorem after (append : ∀ first last, view (first ++ last) = view first ++ view last) (h : s.SameBut view t)
    (later : u.SameBut view v) : (u.after s.past).SameBut view (v.after t.past) where
  page := later.page
  pockets := later.pockets
  settle := later.settle
  world := later.world
  stats := by simp [State.after, State.past, h.stats, later.stats]
  story := by simp [State.after, State.past, append, h.story, later.story]

end State.SameBut

variable (past : Past ω) (w : Setting π ω) (s : State π ω)

@[simp] theorem State.note_after (e : Event) : (s.after past).note e = (s.note e).after past := by
  simp [note, after]

@[simp] theorem State.reach_after (spot : Spot) :
    (s.after past).reach w spot = (s.reach w spot).after past := by
  simp [reach, note, after, Nat.add_assoc]

@[simp] theorem State.session_after : (s.after past).session = s.session := rfl

@[simp] theorem State.act_after (target : Ident) (ordinal : Nat) :
    (s.after past).act w target ordinal =
      ((s.act w target ordinal).1, (s.act w target ordinal).2.after past) := by
  simp only [act, session_after]
  simp [after]

@[simp] theorem State.spent_after (step : Ident) (left : Nat) :
    (s.after past).spent step left = (s.spent step left).after past := by
  simp [spent, note, after, Nat.add_assoc]

theorem respond_after (step : Ident) (limit : Nat) (result : Except WalkError (Option Way)) :
    respond step limit (result, s.after past) =
      ((respond step limit (result, s)).1, (respond step limit (result, s)).2.after past) := by
  rcases result with _ | _ | way
  · rfl
  · rfl
  · simp only [respond]
    by_cases nothing : way.steps.isEmpty
    · simp only [nothing, if_true]
    · simp only [nothing]
      cases limit with
      | zero => rfl
      | succ left => simp

theorem meet_after (outer : List Nat) (index : Nat) (target : Ident) (limit : Nat) :
    meet w outer index target limit (s.after past) =
      ((meet w outer index target limit s).1, (meet w outer index target limit s).2.after past) := by
  unfold meet
  cases target.kind with
  | step => simp only [State.reach_after, State.act_after, respond_after]
  | way =>
    simp only
    cases w.definitions.way? target <;> rfl
  | detour =>
    simp only [show (s.after past).pockets = s.pockets from rfl]
    cases w.definitions.resolve s.pockets target with
    | error e => rfl
    | ok branch => simp

namespace Stage

theorem enter_after (way : Way) (spot : Spot) (limit : Nat) (outer : List Activation) :
    enter way spot limit outer (s.after past) = (enter way spot limit outer s).after past := by
  simp [enter, after]

theorem proceed_after (a : Activation) (outer : List Activation) (decided : Except WalkError Move) :
    proceed a outer (decided, s.after past) = (proceed a outer (decided, s)).after past := by
  rcases decided with _ | _ | _ | _ <;> simp [proceed, after, enter_after]

theorem next_after (c : Stage π ω) : next w (c.after past) = (next w c).after past := by
  match c with
  | .ended _ _ => rfl
  | .walking [] _ => rfl
  | .walking (a :: outer) s =>
    simp only [after, next]
    split
    · rfl
    · split
      · rfl
      · rename_i target _
        rw [meet_after, proceed_after]
        rfl

theorem iterate_after (n : Nat) (c : Stage π ω) : (next w)^[n] (c.after past) = ((next w)^[n] c).after past :=
  have commutes : Function.Commute (after past) (next w) := fun c => (next_after past w c).symm
  ((commutes.iterate_right n) c).symm

end Stage

open Stage

variable {w past}

theorem Reaches.after {c d : Stage π ω} (h : Reaches w c d) : Reaches w (c.after past) (d.after past) := by
  obtain ⟨n, rfl⟩ := h
  exact ⟨n, iterate_after past w n c⟩

/-- An end carries the past of every earlier stage in front. -/
theorem Reaches.ended_of_after {c : Stage π ω} {result : Except WalkError Unit} {t : State π ω}
    (h : Reaches w (c.after past) (.ended result t)) :
    ∃ s, t = s.after past ∧ Reaches w c (.ended result s) := by
  obtain ⟨n, ends⟩ := h
  rw [iterate_after] at ends
  cases found : (next w)^[n] c with
  | walking stack s =>
    rw [found] at ends
    cases ends
  | ended other s =>
    rw [found] at ends
    cases ends
    exact ⟨s, rfl, n, found⟩

end Wayfarer.Walk
