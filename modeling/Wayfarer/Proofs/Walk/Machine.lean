import Mathlib.Logic.Function.Iterate
import Wayfarer.Proofs.Walk.Moves

/-!
# Walking as a machine

The activations in progress are kept in a stack, innermost first, and a stage of a walk follows from
the one before. A walk that is allowed to nest deep enough ends exactly as its stages do.
-/

namespace Wayfarer.Walk

/-- A way that is being walked. -/
structure Activation where
  way : Way
  /-- How many passes are complete. -/
  pass : Nat := 0
  index : Nat
  /-- What remains of the spot for the reference at the index. -/
  inner : Spot
  /-- What is left of the budget. -/
  left : Nat
  /-- How many catch ways have been entered. -/
  recoveries : Nat := 0
  deriving DecidableEq, Repr

namespace Activation

def begin (way : Way) (spot : Spot) (limit : Nat) : Activation :=
  { way, index := spot.index, inner := spot.inner, left := limit }

def advance (a : Activation) : Activation :=
  { a with index := a.index + 1, inner := .start }

def again (a : Activation) : Activation :=
  { a with pass := a.pass + 1, index := 0, inner := .start }

/-- The activation while the reference at its index is walked below it. -/
def waiting (a : Activation) : Activation :=
  { a with inner := .start }

def recovering (a : Activation) (left : Nat) : Activation :=
  { a with inner := .start, left, recoveries := a.recoveries + 1 }

end Activation

/-- The indices of the activations, outermost first. -/
def indices (stack : List Activation) : List Nat :=
  (stack.map (·.index)).reverse

@[simp] theorem indices_cons (a : Activation) (outer : List Activation) :
    indices (a :: outer) = indices outer ++ [a.index] := by
  simp [indices]

/-- The activations behind the end of one that they stand around. -/
def resumed : List Activation → List Activation
  | [] => []
  | a :: outer => a.advance :: outer

inductive Stage (π ω : Type) where
  | walking (stack : List Activation) (s : State π ω)
  | ended (result : Except WalkError Unit) (s : State π ω)

namespace Stage

/-- The stage in which a way is entered. -/
def enter (way : Way) (spot : Spot) (limit : Nat) (outer : List Activation) (s : State π ω) :
    Stage π ω :=
  .walking (.begin way spot limit :: outer) (s.note (.walking way spot limit))

/-- The stage behind a decision of the innermost activation. -/
def proceed (a : Activation) (outer : List Activation) :
    Except WalkError Move × State π ω → Stage π ω
  | (.error e, s) => .ended (.error e) s
  | (.ok .advance, s) => .walking (a.advance :: outer) s
  | (.ok (.recover way left), s) => enter way a.inner left (a.recovering left :: outer) s
  | (.ok (.enter way), s) => enter way a.inner a.left (a.waiting :: outer) s

def next (w : Setting π ω) : Stage π ω → Stage π ω
  | .ended result s => .ended result s
  | .walking [] s => .ended (.ok ()) s
  | .walking (a :: outer) s =>
    if a.way.repeats ≤ a.pass then .walking (resumed outer) s
    else
      match a.way.steps[a.index]? with
      | none => .walking (a.again :: outer) s
      | some target => proceed a outer (meet w (indices outer) a.index target a.left s)

def height : Stage π ω → Nat
  | .walking stack _ => stack.length
  | .ended _ _ => 0

end Stage

open Stage

/-- The activation stands at the reference to `target`. -/
structure Activation.At (a : Activation) (target : Ident) : Prop where
  unfinished : a.pass < a.way.repeats
  there : a.way.steps[a.index]? = some target

section

variable {w : Setting π ω} {a : Activation}

theorem next_of_complete (complete : a.way.repeats ≤ a.pass) (outer : List Activation) (s : State π ω) :
    next w (.walking (a :: outer) s) = .walking (resumed outer) s :=
  if_pos complete

theorem next_of_beyond (unfinished : a.pass < a.way.repeats) (beyond : a.way.steps[a.index]? = none)
    (outer : List Activation) (s : State π ω) : next w (.walking (a :: outer) s) = .walking (a.again :: outer) s := by
  simp only [next, if_neg (Nat.not_le.mpr unfinished), beyond]

theorem next_of_at {target : Ident} (place : a.At target) (outer : List Activation) (s : State π ω) :
    next w (.walking (a :: outer) s) = proceed a outer (meet w (indices outer) a.index target a.left s) := by
  simp only [next, if_neg (Nat.not_le.mpr place.unfinished), place.there]

end

def Reaches (w : Setting π ω) (c d : Stage π ω) : Prop :=
  ∃ n, (next w)^[n] c = d

namespace Reaches

variable {w : Setting π ω} {c d e : Stage π ω}

theorem refl (c : Stage π ω) : Reaches w c c := ⟨0, rfl⟩

theorem of_eq (h : c = d) : Reaches w c d := ⟨0, h⟩

theorem trans (first : Reaches w c d) (second : Reaches w d e) : Reaches w c e := by
  obtain ⟨n, rfl⟩ := first
  obtain ⟨m, rfl⟩ := second
  exact ⟨m + n, Function.iterate_add_apply _ m n c⟩

theorem step (rest : Reaches w (next w c) d) : Reaches w c d := by
  obtain ⟨n, rfl⟩ := rest
  exact ⟨n + 1, Function.iterate_succ_apply _ n c⟩

theorem one (h : next w c = d) : Reaches w c d := ⟨1, h⟩

theorem of_ended {result : Except WalkError Unit} {s : State π ω} (h : Reaches w (.ended result s) d) :
    d = .ended result s := by
  obtain ⟨n, rfl⟩ := h
  exact Function.iterate_fixed rfl n

theorem ended_of_reaches {result : Except WalkError Unit} {s : State π ω} (ends : Reaches w c (.ended result s))
    (moment : Reaches w c d) : Reaches w d (.ended result s) := by
  obtain ⟨n, ends⟩ := ends
  obtain ⟨m, rfl⟩ := moment
  rcases Nat.le_total m n with before | after
  · refine ⟨n - m, ?_⟩
    rw [← Function.iterate_add_apply, Nat.sub_add_cancel before, ends]
  · have fixed : (next w)^[m] c = .ended result s := by
      rw [← Nat.sub_add_cancel after, Function.iterate_add_apply, ends]
      exact Function.iterate_fixed rfl _
    exact ⟨0, fixed⟩

theorem keeps {motive : Stage π ω → Prop} (kept : ∀ c, motive c → motive (next w c)) (h : Reaches w c d)
    (start : motive c) : motive d := by
  obtain ⟨n, rfl⟩ := h
  induction n with
  | zero => exact start
  | succ n ih =>
    rw [Function.iterate_succ_apply']
    exact kept _ ih

theorem carries {motive : Stage π ω → Prop} (kept : ∀ d, Reaches w c d → motive d → motive (next w d)) (h : Reaches w c d)
    (first : motive c) : motive d :=
  (h.keeps (motive := fun d => Reaches w c d ∧ motive d)
    (fun d ⟨reached, here⟩ => ⟨reached.trans (.one rfl), kept d reached here⟩) ⟨.refl c, first⟩).2

end Reaches

theorem height_resumed (outer : List Activation) : (resumed outer).length = outer.length := by
  cases outer <;> rfl

theorem height_next (w : Setting π ω) (c : Stage π ω) : (next w c).height ≤ c.height + 1 := by
  match c with
  | .ended _ _ => simp [next, height]
  | .walking [] _ => simp [next, height]
  | .walking (a :: outer) s =>
    rw [next]
    split
    · simp only [height, height_resumed, List.length_cons]
      omega
    · split
      · simp [height]
      · rename_i target _
        rcases meet w (indices outer) a.index target a.left s with ⟨_ | _ | _ | _, t⟩ <;>
          simp [proceed, enter, height]

theorem height_iterate (w : Setting π ω) (c : Stage π ω) (n : Nat) :
    ((next w)^[n] c).height ≤ c.height + n := by
  induction n with
  | zero => exact Nat.le_refl _
  | succ n ih =>
    rw [Function.iterate_succ_apply']
    have bound := height_next w ((next w)^[n] c)
    omega

/-! ### The stages of a walk -/

/-- The stages from `c` on are those of the computation: they come to one that fits its value, or
end in its error; and if it has no result they come to `high` activations. -/
def Tracks (w : Setting π ω) (high : Nat) (x : Walk π ω α) (s : State π ω) (c : Stage π ω)
    (fits : α → State π ω → Stage π ω → Prop) : Prop :=
  match x s with
  | none => ∃ n, high ≤ ((next w)^[n] c).height
  | some (.error e, t) => Reaches w c (.ended (.error e) t)
  | some (.ok a, t) => ∃ d, Reaches w c d ∧ fits a t d

section

variable {w : Setting π ω} {high : Nat} {s : State π ω} {c d : Stage π ω}

theorem tracks_pure {a : α} {fits : α → State π ω → Stage π ω → Prop} (h : fits a s c) :
    Tracks w high (pure a) s c fits :=
  ⟨c, .refl c, h⟩

/-- Stages that come first change nothing. -/
theorem Tracks.after {x : Walk π ω α} {fits : α → State π ω → Stage π ω → Prop} (first : Reaches w c d)
    (h : Tracks w high x s d fits) : Tracks w high x s c fits := by
  unfold Tracks at h ⊢
  match x s, h with
  | none, ⟨n, tall⟩ =>
    obtain ⟨m, rfl⟩ := first
    exact ⟨n + m, by rwa [Function.iterate_add_apply]⟩
  | some (.error e, t), ends => exact first.trans ends
  | some (.ok a, t), ⟨d, reached, fit⟩ => exact ⟨d, first.trans reached, fit⟩

theorem Tracks.bind {x : Walk π ω α} {f : α → Walk π ω β} {fits : α → State π ω → Stage π ω → Prop}
    {ends : β → State π ω → Stage π ω → Prop} (first : Tracks w high x s c fits)
    (rest : ∀ a t d, fits a t d → Tracks w high (f a) t d ends) : Tracks w high (x >>= f) s c ends := by
  unfold Tracks at first
  cases found : x s with
  | none =>
    rw [found] at first
    unfold Tracks
    rw [bind_apply, found]
    exact first
  | some pair =>
    obtain ⟨result, t⟩ := pair
    rw [found] at first
    cases result with
    | error e =>
      unfold Tracks
      rw [bind_apply, found]
      exact first
    | ok a =>
      obtain ⟨d, reached, fit⟩ := first
      have later := (rest a t d fit).after reached
      unfold Tracks at later ⊢
      rw [bind_apply, found]
      exact later

end

/-- Where an activation stands once its reference is done with, whatever that has cost it. -/
def Behind (a : Activation) (outer : List Activation) (left : Nat) (s : State π ω) (d : Stage π ω) : Prop :=
  ∃ recoveries, d = .walking ({ a.advance with left, recoveries } :: outer) s

/-- Ways are walked below every activation as the stages go. -/
def Descends (w : Setting π ω) (depth : Nat) : Prop :=
  ∀ way spot limit outer (s : State π ω),
    Tracks w (outer.length + 1 + depth) (walk w depth (indices outer) way spot limit) s
      (enter way spot limit outer s) fun _ t d => d = .walking (resumed outer) t

section

variable {w : Setting π ω} {depth : Nat}

theorem follow_tracks (descends : Descends w depth) {a : Activation} {outer : List Activation} {target : Ident}
    (unfinished : a.pass < a.way.repeats) (there : a.way.steps[a.index]? = some target) (s : State π ω) :
    Tracks w (outer.length + 1 + (depth + 1))
      (follow w (walk w depth) (indices outer) a.index target a.inner a.left) s (.walking (a :: outer) s)
      (Behind a outer) := by
  have below : ∀ (way : Way) (limit : Nat) (b : Activation) (t : State π ω), b.index = a.index →
      b.advance = { a.advance with left := limit, recoveries := b.recoveries } →
      Tracks w (outer.length + 1 + (depth + 1))
        (walk w depth (indices outer ++ [a.index]) way a.inner limit >>= fun _ => pure limit) t
        (enter way a.inner limit (b :: outer) t) (Behind a outer) := by
    intro way limit b t same shape
    have entered := descends way a.inner limit (b :: outer) t
    rw [indices_cons, same, List.length_cons, show outer.length + 1 + 1 + depth =
      outer.length + 1 + (depth + 1) by omega] at entered
    refine entered.bind fun _ u d back => tracks_pure ⟨b.recoveries, ?_⟩
    rw [back, resumed, shape]
  refine Tracks.after (.one (next_of_at ⟨unfinished, there⟩ outer s)) ?_
  have follows := follow_apply w (walk w depth) (indices outer) a.index target a.inner a.left s
  unfold Tracks
  rw [follows]
  rcases meet w (indices outer) a.index target a.left s with ⟨_ | _ | ⟨way, left⟩ | way, t⟩
  · exact .refl _
  · exact ⟨_, .refl _, a.recoveries, rfl⟩
  · exact below way left (a.recovering left) t rfl rfl
  · exact below way a.left a.waiting t rfl rfl

/-- A pass runs to the beginning of the next one. -/
theorem followAll_tracks (descends : Descends w depth) (outer : List Activation) (references : List Ident) :
    ∀ (a : Activation) (s : State π ω), a.pass < a.way.repeats → references = a.way.steps.drop a.index →
      Tracks w (outer.length + 1 + (depth + 1))
        (followAll (follow w (walk w depth) (indices outer)) a.index references a.inner a.left) s
        (.walking (a :: outer) s)
        fun left t d => ∃ recoveries, d = .walking ({ a.again with left, recoveries } :: outer) t := by
  induction references with
  | nil =>
    intro a s unfinished rest
    have beyond : a.way.steps[a.index]? = none :=
      List.getElem?_eq_none (List.drop_eq_nil_iff.mp rest.symm)
    exact Tracks.after (.one (next_of_beyond unfinished beyond outer s)) (tracks_pure ⟨a.recoveries, rfl⟩)
  | cons target references ih =>
    intro a s unfinished rest
    have there : a.way.steps[a.index]? = some target := by
      rw [← List.head?_drop, ← rest, List.head?_cons]
    have after : references = a.way.steps.drop (a.index + 1) := by
      rw [← List.tail_drop, ← rest, List.tail_cons]
    refine (follow_tracks descends unfinished there s).bind ?_
    rintro left t _ ⟨recoveries, rfl⟩
    exact ih { a.advance with left, recoveries } t unfinished after

theorem passes_tracks (descends : Descends w depth) {outer : List Activation} (more : Nat) :
    ∀ (a : Activation) (s : State π ω), a.index = 0 → a.inner = .start → a.pass + more = a.way.repeats →
      Tracks w (outer.length + 1 + (depth + 1))
        (passes (followAll (follow w (walk w depth) (indices outer)) 0 a.way.steps .start) more a.left) s
        (.walking (a :: outer) s)
        fun _ t d => ∃ b, d = .walking (b :: outer) t ∧ b.way.repeats ≤ b.pass := by
  induction more with
  | zero =>
    intro a s _ _ complete
    exact tracks_pure ⟨a, rfl, by omega⟩
  | succ more ih =>
    intro a s first fresh complete
    have once := followAll_tracks descends outer a.way.steps a s (by omega) (by rw [first, List.drop_zero])
    rw [first, fresh] at once
    refine once.bind ?_
    rintro left t _ ⟨recoveries, rfl⟩
    exact ih { a.again with left, recoveries } t rfl rfl (by simp only [Activation.again]; omega)

/-- Over no references passes cost nothing, so that leaving them out changes nothing. -/
theorem passes_nil (visit : Nat → Ident → Spot → Nat → Walk π ω Nat) (index : Nat) (spot : Spot) (n limit : Nat) :
    passes (followAll visit index [] spot) n limit = pure limit := by
  induction n with
  | zero => rfl
  | succ n ih =>
    rw [passes, followAll]
    exact ih

theorem walk_succ (w : Setting π ω) (depth : Nat) (outer : List Nat) (way : Way) (spot : Spot) (limit more : Nat)
    (repeats : way.repeats = more + 1) (s : State π ω) :
    walk w (depth + 1) outer way spot limit s =
      (followAll (follow w (walk w depth) outer) spot.index (way.steps.drop spot.index) spot.inner limit >>=
        fun left => passes (followAll (follow w (walk w depth) outer) 0 way.steps .start) more left >>=
          fun _ => pure ()) (s.note (.walking way spot limit)) := by
  have repeated : ∀ left, (if way.steps.isEmpty then pure () else
      discard (passes (followAll (follow w (walk w depth) outer) 0 way.steps .start) more left) : Walk π ω Unit) =
      passes (followAll (follow w (walk w depth) outer) 0 way.steps .start) more left >>= fun _ => pure () := by
    intro left
    cases way.steps with
    | nil => rw [passes_nil]; rfl
    | cons => rfl
  rw [walk, bind_apply]
  simp only [repeats, repeated]
  rfl

theorem walk_zero_repeats (w : Setting π ω) (depth : Nat) (outer : List Nat) (way : Way) (spot : Spot) (limit : Nat)
    (repeats : way.repeats = 0) (s : State π ω) :
    walk w (depth + 1) outer way spot limit s = some (.ok (), s.note (.walking way spot limit)) := by
  rw [walk, bind_apply]
  simp only [repeats]
  rfl

theorem descends (w : Setting π ω) (depth : Nat) : Descends w depth := by
  induction depth with
  | zero =>
    intro way spot limit outer s
    exact ⟨0, Nat.le_refl _⟩
  | succ depth ih =>
    intro way spot limit outer s
    have leaving : ∀ (b : Activation) (t : State π ω), b.way.repeats ≤ b.pass →
        Reaches w (.walking (b :: outer) t) (.walking (resumed outer) t) :=
      fun b t complete => .one (next_of_complete complete outer t)
    unfold Tracks
    cases repeats : way.repeats with
    | zero =>
      rw [walk_zero_repeats _ _ _ _ _ _ repeats]
      exact ⟨_, leaving _ _ (by simp [Activation.begin, repeats]), rfl⟩
    | succ more =>
      rw [walk_succ _ _ _ _ _ _ more repeats]
      refine (followAll_tracks ih outer (way.steps.drop spot.index) (.begin way spot limit) _ ?_ rfl).bind ?_
      · simp [Activation.begin, repeats]
      · rintro left t _ ⟨recoveries, rfl⟩
        refine (passes_tracks ih more { (Activation.begin way spot limit).again with left, recoveries } t rfl rfl ?_).bind ?_
        · simp only [Activation.begin, Activation.again, repeats]
          omega
        · rintro _ u _ ⟨b, rfl, complete⟩
          exact Tracks.after (leaving b u complete) (tracks_pure rfl)

end

/-- The first stage of a walk. -/
def start (way : Way) (spot : Spot) (limit : Nat) (s : State π ω) : Stage π ω :=
  enter way spot limit [] s

theorem reaches_of_walk {w : Setting π ω} {depth : Nat} {way : Way} {spot : Spot} {limit : Nat} {s t : State π ω}
    {result : Except WalkError Unit} (h : walk w depth [] way spot limit s = some (result, t)) :
    Reaches w (start way spot limit s) (.ended result t) := by
  have tracked := descends w depth way spot limit [] s
  rw [show indices [] = [] from rfl] at tracked
  unfold Tracks at tracked
  rw [h] at tracked
  cases result with
  | error e => exact tracked
  | ok =>
    obtain ⟨_, reached, rfl⟩ := tracked
    exact reached.trans (.one rfl)

/-- A walk ends in some depth exactly as its stages do. -/
theorem walk_iff_reaches {w : Setting π ω} {way : Way} {spot : Spot} {limit : Nat} {s t : State π ω}
    {result : Except WalkError Unit} :
    (∃ depth, walk w depth [] way spot limit s = some (result, t)) ↔
      Reaches w (start way spot limit s) (.ended result t) := by
  constructor
  · rintro ⟨depth, h⟩
    exact reaches_of_walk h
  · rintro ⟨n, ends⟩
    refine ⟨n + 1, ?_⟩
    cases found : walk w (n + 1) [] way spot limit s with
    | none =>
      have tracked := descends w (n + 1) way spot limit [] s
      rw [show indices [] = [] from rfl] at tracked
      unfold Tracks at tracked
      rw [found] at tracked
      obtain ⟨m, tall⟩ := tracked
      rw [List.length_nil] at tall
      rcases Nat.le_total m n with before | after
      · -- so soon the stack cannot be that high
        have bound := height_iterate w (start way spot limit s) m
        change _ ≤ 1 + m at bound
        change _ ≤ ((next w)^[m] (start way spot limit s)).height at tall
        omega
      · have fixed : (next w)^[m] (start way spot limit s) = .ended result t := by
          rw [← Nat.sub_add_cancel after, Function.iterate_add_apply, ends]
          exact Function.iterate_fixed rfl _
        change _ ≤ ((next w)^[m] (start way spot limit s)).height at tall
        rw [fixed] at tall
        simp [height] at tall
    | some pair =>
      obtain ⟨other, u⟩ := pair
      have same := (reaches_of_walk found).ended_of_reaches ⟨n, ends⟩
      exact congrArg some (by cases Reaches.of_ended same; rfl)

end Wayfarer.Walk
