import Wayfarer.Proofs.Cursor
import Wayfarer.Proofs.Walk.Plain

/-!
# Walking again from a position

A position tells where the activations stand in their ways, and not which of the passes they make. A
plain walk that is begun there goes on from the first visit of the position, which has been made with
every activation in its first pass.
-/

namespace Wayfarer.Walk

open Stage

/-- Behind `n` steps the walk from `c` runs `target` at this position. -/
def Runs (w : Setting π ω) (c : Stage π ω) (n : Nat) (target : Ident) (spot : Spot) : Prop :=
  ∃ a outer s, Arrives w c n target a outer s ∧ spot = .ofPath (indices (a :: outer))

/-- The activation where it has stood at its index for the first time. -/
def Activation.first (a : Activation) : Activation :=
  { a with pass := 0, inner := .start }

/-- The stack as it was when its position was visited first. -/
def firstVisit (stack : List Activation) : List Activation :=
  stack.map (·.first)

@[simp] theorem indices_firstVisit (stack : List Activation) : indices (firstVisit stack) = indices stack := by
  simp only [indices, firstVisit, List.map_map]
  rfl

theorem firstVisit_of_first {stack : List Activation} (first : ∀ a ∈ stack, a.pass = 0) (fresh : ∀ a ∈ stack, a.inner = .start) :
    firstVisit stack = stack := by
  refine (List.map_congr_left fun a member => ?_).trans stack.map_id
  have pass := first a member
  have inner := fresh a member
  obtain ⟨way, _, index, _, left, recoveries⟩ := a
  cases pass
  cases inner
  rfl

theorem not_progress_lt_firstVisit {stack other : List Activation} (same : indices other = indices stack) :
    ¬ progress other < progress (firstVisit stack) := by
  have pointwise : ∀ xs ys : List Activation, ys.map (·.index) = xs.map (·.index) →
      ¬ ys.map (·.progress) < xs.map (·.first.progress) := by
    intro xs
    induction xs with
    | nil => exact fun ys _ => List.not_lt_nil _
    | cons x xs ih =>
      intro ys same
      cases ys with
      | nil => cases same
      | cons y ys =>
        obtain ⟨here, others⟩ := List.cons.inj same
        rw [List.map_cons, List.map_cons, List.cons_lt_cons_iff]
        rintro (less | ⟨-, less⟩)
        · rcases Prod.Lex.toLex_lt_toLex.mp less with less | ⟨-, less⟩
          · exact Nat.not_lt_zero _ less
          · exact absurd here less.ne
        · exact ih ys others less
  have reversed := pointwise stack.reverse other.reverse (by simpa only [indices, List.map_reverse] using same)
  simpa only [progress, firstVisit, List.map_map, List.map_reverse, Function.comp_def] using reversed

/-! ### Going on behind a reference -/

section

variable {w : Setting π ω} {c d : Stage π ω} {b : Activation} {outer : List Activation} {target : Ident}

/-- The activation `b` is still on the stack, at the same reference. -/
def Stays (b : Activation) (outer stack : List Activation) : Prop :=
  ∃ below again, stack = below ++ again :: outer ∧ again.waiting = b.waiting

theorem stays_of_turn (plain : Plain w c) (reached : Reaches w c d) (place : b.At target)
    (stays : Stays b outer d.stack) :
    Stays b outer (next w d).stack ∨ (next w d).stack = [] ∨ (next w d).stack = b.advance :: outer := by
  obtain ⟨below, again, stands, same⟩ := stays
  have advances : again.waiting.advance = b.waiting.advance := congrArg Activation.advance same
  have unfinished : again.pass < again.way.repeats := by
    have kept : again.waiting.pass < again.waiting.way.repeats := same ▸ place.unfinished
    exact kept
  have there : again.way.steps[again.index]? = some target := by
    have kept : again.waiting.way.steps[again.waiting.index]? = some target := same ▸ place.there
    exact kept
  have turned := turn w d
  generalize next w d = e at turned
  cases turned with
  | rest => exact .inr (.inl rfl)
  | finish => exact .inr (.inl rfl)
  | fail => exact .inr (.inl rfl)
  | recover place decides => exact absurd (plain.eq_settled reached place decides).symm not_recover_of_settled
  | leave complete =>
    rcases below with _ | ⟨x, _ | ⟨y, below⟩⟩
    · cases stands
      omega
    · cases stands
      exact .inr (.inr (congrArg (· :: outer) advances))
    · cases stands
      exact .inl ⟨y.advance :: below, again, rfl, same⟩
  | @again a _ _ _ beyond =>
    rcases below with _ | ⟨x, below⟩
    · cases stands
      rw [there] at beyond
      cases beyond
    · cases stands
      exact .inl ⟨a.again :: below, again, rfl, same⟩
  | @advance a =>
    rcases below with _ | ⟨x, below⟩
    · cases stands
      exact .inr (.inr (congrArg (· :: outer) advances))
    · cases stands
      exact .inl ⟨a.advance :: below, again, rfl, same⟩
  | @enter a _ _ _ way =>
    rcases below with _ | ⟨x, below⟩
    · cases stands
      exact .inl ⟨[_], again.waiting, rfl, same⟩
    · cases stands
      exact .inl ⟨_ :: a.waiting :: below, again, rfl, same⟩

theorem advances_of_reaches {s : State π ω} (plain : Plain w c) (reached : Reaches w c (.walking (b :: outer) s))
    (place : b.At target) (later : Reaches w (.walking (b :: outer) s) d) :
    Stays b outer d.stack ∨ d.stack = [] ∨ ∃ t, Reaches w (.walking (b :: outer) s) (.walking (b.advance :: outer) t) := by
  refine later.carries (motive := fun d => Stays b outer d.stack ∨ d.stack = [] ∨
    ∃ t, Reaches w (.walking (b :: outer) s) (.walking (b.advance :: outer) t)) ?_ (.inl ⟨[], b, rfl, rfl⟩)
  rintro d here (stays | nothing | gone)
  · rcases stays_of_turn plain (reached.trans here) place stays with stays | nothing | moved
    · exact .inl stays
    · exact .inr (.inl nothing)
    · cases following : next w d with
      | ended result t => exact .inr (.inl rfl)
      | walking stack t =>
        rw [following] at moved
        cases moved
        exact .inr (.inr ⟨t, here.trans (.one following)⟩)
  · exact .inr (.inl (stack_next_of_nothing nothing))
  · exact .inr (.inr gone)

end

/-! ### First visits -/

/-- The walk from `c` has stood with these activations where they stand, each for the first time. -/
def Visited (w : Setting π ω) (c : Stage π ω) (stack : List Activation) : Prop :=
  ∃ s, Reaches w c (.walking (firstVisit stack) s)

/-- The first pass of the activation is known as far as it has come. -/
structure Known (w : Setting π ω) (c : Stage π ω) (a : Activation) (outer : List Activation) : Prop where
  visited : Visited w c (a :: outer)
  begun : Visited w c ({ a with index := 0 } :: outer)
  complete : 0 < a.pass → ∃ beyond, a.way.steps.length ≤ beyond ∧ Visited w c ({ a with index := beyond } :: outer)

/-- So are the first passes of all activations. -/
def Explored (w : Setting π ω) (c : Stage π ω) : List Activation → Prop
  | [] => True
  | a :: outer => Known w c a outer ∧ Explored w c outer

section

variable {w : Setting π ω} {root : Way} {limit : Nat} {s t : State π ω} {a b : Activation} {outer : List Activation}
  {target : Ident}

theorem Explored.known {c : Stage π ω} {below : List Activation} (h : Explored w c (below ++ a :: outer)) :
    Known w c a outer := by
  induction below with
  | nil => exact h.1
  | cons _ _ ih => exact ih h.2

theorem first_at (place : a.At target) : a.first.At target :=
  ⟨Nat.zero_lt_of_lt place.unfinished, place.there⟩

/-- Behind the reference the place is visited first where all activations are in their first pass. If
one has completed a pass, the end of its first one comes behind the first visit of the reference, and
the place between the two. -/
theorem visited_behind (plain : Plain w (start root .start limit s))
    (reached : Reaches w (start root .start limit s) (.walking (b.advance :: outer) t)) (place : b.At target)
    (explored : Explored w (start root .start limit s) (b :: outer)) :
    Visited w (start root .start limit s) (b.advance :: outer) := by
  by_cases first : ∀ x ∈ b :: outer, x.pass = 0
  · obtain ⟨-, fresh⟩ := standing_of_reaches reached
    have same : ∀ x ∈ b.advance :: outer, x.pass = 0 := List.forall_mem_cons.mpr (List.forall_mem_cons.mp first)
    exact ⟨t, by rwa [firstVisit_of_first same fresh]⟩
  · push Not at first
    obtain ⟨x, member, repeated⟩ := first
    obtain ⟨below, rest, split⟩ := List.append_of_mem member
    obtain ⟨u, visit⟩ := explored.1.visited
    obtain ⟨beyond, long, v, passed⟩ := (split ▸ explored).known.complete (Nat.pos_of_ne_zero repeated)
    have linked := (linked_of_reaches reached).stands
    obtain ⟨other, here⟩ : ∃ other, x.At other := List.forall_mem_cons.mpr ⟨⟨target, place⟩, linked⟩ x member
    have less : x.index < beyond := (List.getElem?_eq_some_iff.mp here.there).1.trans_le long
    have before : progress (firstVisit (b :: outer)) < progress (firstVisit ({ x with index := beyond } :: rest)) := by
      have moves : x.first.progress < ({ x with index := beyond } : Activation).first.progress :=
        Prod.Lex.toLex_lt_toLex.mpr (.inr ⟨rfl, less⟩)
      rw [split, firstVisit, List.map_append, progress_append]
      exact progress_lt_of_move moves _ _
    rcases visit.total passed with later | earlier
    · rcases advances_of_reaches plain visit (first_at place) later with ⟨deeper, again, stands, same⟩ | nothing | ⟨y, gone⟩
      · -- as high as it is, the later stack can only stand at the reference itself
        have high := congrArg List.length stands
        have low := congrArg List.length split
        simp only [Stage.stack, firstVisit, List.length_map, List.length_append, List.length_cons] at high low
        obtain rfl : below = [] := List.length_eq_zero_iff.mp (by omega)
        obtain rfl : deeper = [] := List.length_eq_zero_iff.mp (by omega)
        cases split
        cases stands
        exact absurd (congrArg Activation.index same) less.ne'
      · cases nothing
      · exact ⟨y, visit.trans gone⟩
    · exact absurd before (not_lt_of_ge (earlier.progress_le (by simp [Stage.stack, firstVisit])))

theorem explored_of_turn {d : Stage π ω} (plain : Plain w (start root .start limit s))
    (reached : Reaches w (start root .start limit s) d) (explored : Explored w (start root .start limit s) d.stack) :
    Explored w (start root .start limit s) (next w d).stack := by
  have follows : Reaches w (start root .start limit s) (next w d) := reached.trans (.one rfl)
  have linked := linked_of_reaches reached
  have turned := turn w d
  generalize next w d = e at turned follows
  cases turned with
  | rest => trivial
  | finish => trivial
  | fail => trivial
  | recover place decides => exact absurd (plain.eq_settled reached place decides).symm not_recover_of_settled
  | @leave a outer t complete =>
    obtain ⟨-, explored⟩ := explored
    cases outer with
    | nil => trivial
    | cons b outer =>
      obtain ⟨target, place⟩ := linked.stands b List.mem_cons_self
      exact ⟨⟨visited_behind plain follows place explored, explored.1.begun, explored.1.complete⟩, explored.2⟩
  | @again a outer t _ beyond =>
    obtain ⟨known, others⟩ := explored
    exact ⟨⟨known.begun, known.begun, fun _ => ⟨a.index, List.getElem?_eq_none_iff.mp beyond, known.visited⟩⟩, others⟩
  | @advance a outer t target u place decides =>
    obtain ⟨known, others⟩ := explored
    refine ⟨⟨?_, known.begun, known.complete⟩, others⟩
    obtain ⟨v, visit⟩ := known.visited
    obtain ⟨x, moves, -⟩ := plain.next_at visit (first_at place)
    rw [← plain.eq_settled reached place decides] at moves
    exact ⟨x, visit.trans (.one moves)⟩
  | @enter a outer t target way u place decides =>
    obtain ⟨known, others⟩ := explored
    have fresh : a.inner = .start := (standing_of_reaches reached).2 a List.mem_cons_self
    obtain ⟨v, visit⟩ := known.visited
    obtain ⟨x, moves, -⟩ := plain.next_at visit (first_at place)
    rw [← plain.eq_settled reached place decides] at moves
    have entered : Visited w (start root .start limit s) (.begin way a.inner a.left :: a.waiting :: outer) := by
      rw [fresh]
      exact ⟨_, visit.trans (.one moves)⟩
    refine ⟨⟨entered, ?_, nofun⟩, ⟨known.visited, known.begun, known.complete⟩, others⟩
    rw [fresh] at entered ⊢
    exact entered

theorem visited_of_reaches {d : Stage π ω} (plain : Plain w (start root .start limit s))
    (reached : Reaches w (start root .start limit s) d) : Explored w (start root .start limit s) d.stack := by
  have begun : Visited w (start root .start limit s) [.begin root .start limit] := ⟨_, .refl _⟩
  exact reached.carries (motive := fun d => Explored w (start root .start limit s) d.stack)
    (fun _ here explored => explored_of_turn plain here explored) ⟨⟨begun, begun, nofun⟩, trivial⟩

/-! ### The rest of a walk -/

theorem Arrives.across {first second c d : Stage π ω} {m n k : Nat} (plain : Plain w first) (reached : Reaches w first c)
    (alike : Plain w second) (arrived : Reaches w second d)
    (together : Parallel (first.state.stats.steps + m) (second.state.stats.steps + n) c d)
    (later : Reaches w c (.walking (a :: outer) t)) (h : Arrives w first (m + k) target a outer t) :
    ∃ u, Arrives w second (n + k) target a outer u := by
  obtain ⟨f, follows, onward⟩ := together.reaches plain reached alike arrived later
  have counted := h.steps
  cases onward with
  | @walking _ _ u steps => exact ⟨u, arrived.trans follows, h.place, h.kind, by omega⟩

theorem Parallel.ends {first second c d : Stage π ω} {m n : Nat} {result : Except WalkError Unit} (h : Parallel m n c d)
    (plain : Plain w first) (reached : Reaches w first c) (alike : Plain w second) (arrived : Reaches w second d)
    (ends : Reaches w first (.ended result t)) : ∃ u, Reaches w second (.ended result u) := by
  obtain ⟨f, follows, together⟩ := h.reaches plain reached alike arrived (ends.ended_of_reaches reached)
  cases together with
  | @ended _ _ u => exact ⟨u, arrived.trans follows⟩

/-! Two plain walks that come to the same activations, behind `m` and `n` steps. -/

section

variable {first second : Stage π ω} {m n : Nat} {u v : State π ω}

theorem Arrives.parallel (here : Arrives w first m target a outer u) (there : Arrives w second n target a outer v) :
    Parallel (first.state.stats.steps + m) (second.state.stats.steps + n) (.walking (a :: outer) u)
      (.walking (a :: outer) v) :=
  .walking _ (by rw [here.steps, there.steps]; omega)

theorem Runs.across {k : Nat} {other : Ident} {place : Spot} (plain : Plain w first)
    (here : Arrives w first m target a outer u) (alike : Plain w second) (there : Arrives w second n target a outer v)
    (runs : Runs w first (m + k) other place) : Runs w second (n + k) other place := by
  obtain ⟨b, rest, x, arrives, rfl⟩ := runs
  have later := here.reaches_of_le arrives (Nat.le_add_right m k)
  obtain ⟨y, across⟩ := arrives.across plain here.reached alike there.reached (here.parallel there) later
  exact ⟨b, rest, y, across, rfl⟩

end

theorem first_visit {k : Nat} {u : State π ω} (plain : Plain w (start root .start limit s))
    (stands : Arrives w (start root .start limit s) k target a outer u) (t : State π ω) :
    ∃ first v x, Arrives w (start root .start limit s) first target a.first (firstVisit outer) v ∧
      Arrives w (start root (.ofPath (indices (a :: outer))) limit t) 0 target a.first (firstVisit outer) x := by
  obtain ⟨v, visit⟩ := (visited_of_reaches plain stands.reached).1.visited
  obtain ⟨first, counted⟩ := Nat.exists_eq_add_of_le visit.steps_le
  have standing : Standing w root limit (.walking (a.first :: firstVisit outer) v) := standing_of_reaches visit
  have straight : Straight (a.first :: firstVisit outer) := plain.straight visit
  have passes : ∀ b ∈ a.first :: firstVisit outer, b.pass = 0 := by simp [firstVisit, Activation.first]
  have same : indices (a.first :: firstVisit outer) = indices (a :: outer) := indices_firstVisit (a :: outer)
  obtain ⟨x, ⟨lead, rfl, -⟩, down⟩ := descend_again (s := t) standing.1 standing.2 straight.unspent passes
    (straight.agrees _) []
  rw [List.append_nil, same] at down
  exact ⟨first, v, _, ⟨visit, first_at stands.place, stands.kind, counted⟩,
    ⟨down, first_at stands.place, stands.kind, rfl⟩⟩

theorem first_le {c : Stage π ω} {first n : Nat} {other : Ident} {rest : List Activation} {u v : State π ω}
    (whole : Arrives w c first target a.first (firstVisit outer) u) (visit : Arrives w c n other b rest v)
    (same : indices (b :: rest) = indices (a :: outer)) : first ≤ n := by
  by_contra less
  rcases (visit.reaches_of_le whole (by omega)).eq_or_next with here | follows
  · cases here
    have counted := whole.steps
    rw [visit.steps] at counted
    omega
  · exact not_progress_lt_firstVisit same (follows.progress_lt (by simp [Stage.stack]))

theorem first_eq_iff {k first : Nat} {u v : State π ω} (stands : Arrives w (start root .start limit s) k target a outer u)
    (whole : Arrives w (start root .start limit s) first target a.first (firstVisit outer) v) :
    first = k ↔ ∀ b ∈ a :: outer, b.pass = 0 := by
  constructor
  · rintro rfl
    obtain ⟨here, others, -⟩ := whole.unique stands
    have same : firstVisit (a :: outer) = a :: outer := congrArg₂ List.cons here others
    rw [← same]
    simp [firstVisit, Activation.first]
  · intro passes
    have same := firstVisit_of_first passes (standing_of_reaches stands.reached).2
    have one := whole.reached.eq_of_progress stands.reached (by simp [Stage.stack]) (congrArg progress same)
    have counted : v.stats.steps = u.stats.steps := congrArg (·.state.stats.steps) one
    rw [whole.steps, stands.steps] at counted
    omega

/-- Let a plain walk from the start stand before its `k`th step. Walking again from the position of that
step, in any state in which this is plain as well, runs just the steps that the first walk has run from
its first visit of the position on, and comes to the same end. The steps from that first visit up to
the `k`th are run twice; there are none exactly if every activation is in its first pass. -/
theorem rerun_exact {k : Nat} {u : State π ω} (plain : Plain w (start root .start limit s))
    (stands : Arrives w (start root .start limit s) k target a outer u)
    (again : Plain w (start root (.ofPath (indices (a :: outer))) limit t)) :
    ∃ first ≤ k, Runs w (start root .start limit s) first target (.ofPath (indices (a :: outer))) ∧
      (∀ n < first, ∀ other, ¬ Runs w (start root .start limit s) n other (.ofPath (indices (a :: outer)))) ∧
      (∀ n other place, Runs w (start root (.ofPath (indices (a :: outer))) limit t) n other place ↔
        Runs w (start root .start limit s) (first + n) other place) ∧
      (∀ result, (∃ depth v, walk w depth [] root (.ofPath (indices (a :: outer))) limit t = some (result, v)) ↔
        ∃ depth v, walk w depth [] root .start limit s = some (result, v)) ∧
      (first = k ↔ ∀ b ∈ a :: outer, b.pass = 0) := by
  obtain ⟨first, v, x, whole, resumed⟩ := first_visit plain stands t
  have together := whole.parallel resumed
  refine ⟨first, first_le whole stands rfl, ⟨_, _, _, whole, by rw [← indices_firstVisit]; rfl⟩, ?_,
    fun n other place => ⟨fun runs => ?_, fun runs => ?_⟩, fun result => ⟨?_, ?_⟩, first_eq_iff stands whole⟩
  · rintro n less other ⟨b, rest, y, earlier, same⟩
    have paths := congrArg Spot.path same
    rw [Spot.path_ofPath (by simp), Spot.path_ofPath (by simp)] at paths
    exact absurd (first_le whole earlier paths.symm) (by omega)
  · rw [← Nat.zero_add n] at runs
    exact runs.across again resumed plain whole
  · have reruns := runs.across plain whole again resumed
    rwa [Nat.zero_add] at reruns
  · rintro ⟨depth, y, walked⟩
    obtain ⟨z, ends⟩ := together.symm.ends again resumed.reached plain whole.reached (reaches_of_walk walked)
    obtain ⟨other, found⟩ := walk_iff_reaches.mpr ends
    exact ⟨other, z, found⟩
  · rintro ⟨depth, y, walked⟩
    obtain ⟨z, ends⟩ := together.ends plain whole.reached again resumed.reached (reaches_of_walk walked)
    obtain ⟨other, found⟩ := walk_iff_reaches.mpr ends
    exact ⟨other, z, found⟩

end

/-! ### A walk that is stopped in a later pass -/

def doubled : Setting ScriptedPage Unit where
  definitions :=
    { steps :=
        [{ id := .step "a", description := "", onFailure := [.step "b"] }, { id := .step "b", description := "" }]
      ways := [{ id := .way "pair", description := "", repeats := 2, steps := [.step "a", .step "b"] }] }
  actions := .standard

def doubledRoot : Way where
  id := .way "main"
  description := ""
  repeats := 2
  steps := [.way "pair", .step "b"]

def doubledStart : State ScriptedPage Unit where
  page := {}
  pockets := .empty
  settle := 0
  world := ()

def doubledInner (pass : Nat) : Activation :=
  { way := ⟨.way "pair", "", 2, [.step "a", .step "b"]⟩, pass, index := 1, inner := .start, left := 3 }

def doubledOuter (pass : Nat) : Activation :=
  { way := doubledRoot, pass, index := 0, inner := .start, left := 3 }

theorem doubled_plain (c : Stage ScriptedPage Unit) : Plain doubled c where
  undetoured := rfl
  unrecovered := by
    rintro a outer s target step - - - ⟨found, action, failure, t, known, failed⟩
    have idle : ∀ step ∈ doubled.definitions.steps, step.action = .none := by decide
    have none := idle step (List.mem_of_find?_eq_some found)
    rw [none] at known
    cases known
    cases failed

theorem doubled_stands : ∃ u, Arrives doubled (start doubledRoot .start 3 doubledStart) 8 (.step "b") (doubledInner 1)
    [doubledOuter 1] u := by
  have stands : ∃ u, Arrives doubled (start doubledRoot .start 3 doubledStart) 8 (.step "b") (doubledInner 1)
      [doubledOuter 1] u ∧ true = true :=
    Arrives.of_iterate (m := 15) (p := fun _ => true) ⟨by decide, rfl⟩ rfl (by decide +kernel)
  simpa using stands

theorem rerun_exact_in_second_pass : ∃ u first,
    Arrives doubled (start doubledRoot .start 3 doubledStart) 8 (.step "b") (doubledInner 1) [doubledOuter 1] u ∧
      first < 8 ∧ Runs doubled (start doubledRoot .start 3 doubledStart) first (.step "b") ⟨0, [1]⟩ ∧
      ∀ n other place, Runs doubled (start doubledRoot ⟨0, [1]⟩ 3 u) n other place ↔
        Runs doubled (start doubledRoot .start 3 doubledStart) (first + n) other place := by
  obtain ⟨u, stands⟩ := doubled_stands
  obtain ⟨first, early, visit, -, rerun, -, once⟩ := rerun_exact (t := u) (doubled_plain _) stands (doubled_plain _)
  have later : first ≠ 8 := fun same => absurd (once.mp same) (by decide)
  exact ⟨u, first, stands, by omega, visit, rerun⟩

theorem rerun_not_from_interruption : ∃ u,
    Arrives doubled (start doubledRoot .start 3 doubledStart) 8 (.step "b") (doubledInner 1) [doubledOuter 1] u ∧
      ¬ ∀ n other place, Runs doubled (start doubledRoot ⟨0, [1]⟩ 3 u) n other place ↔
        Runs doubled (start doubledRoot .start 3 doubledStart) (8 + n) other place := by
  obtain ⟨u, stands⟩ := doubled_stands
  refine ⟨u, stands, fun same => ?_⟩
  have again : ∃ s, Arrives doubled (start doubledRoot ⟨0, [1]⟩ 3 doubledStart) 2 (.step "b") (doubledInner 1)
      [doubledOuter 0] s ∧ true = true :=
    Arrives.of_iterate (m := 4) (p := fun _ => true) ⟨by decide, rfl⟩ rfl (by decide +kernel)
  obtain ⟨v, again, -⟩ := again
  -- what is run does not depend on the state
  have together : Parallel ((start doubledRoot ⟨0, [1]⟩ 3 doubledStart).state.stats.steps + 0)
      ((start doubledRoot ⟨0, [1]⟩ 3 u).state.stats.steps + 0) (start doubledRoot ⟨0, [1]⟩ 3 doubledStart)
      (start doubledRoot ⟨0, [1]⟩ 3 u) := .walking _ (Nat.add_comm _ _)
  obtain ⟨x, across⟩ := Arrives.across (k := 2) (doubled_plain _) (.refl _) (doubled_plain _) (.refl _) together
    again.reached again
  obtain ⟨b, outer, y, runs, -⟩ := (same _ _ _).mp ⟨_, _, x, across, rfl⟩
  have ended : (walk doubled 3 [] doubledRoot .start 3 doubledStart).map (fun r => (r.1, r.2.stats.steps)) =
      some (.ok (), 10) := by decide +kernel
  obtain ⟨⟨result, t⟩, found, equal⟩ := Option.map_eq_some_iff.mp ended
  have total : t.stats.steps = 10 := congrArg Prod.snd equal
  have more := runs.lt_of_ends (reaches_of_walk found)
  rw [total, show (start doubledRoot .start 3 doubledStart).state.stats.steps = 0 from rfl] at more
  omega

end Wayfarer.Walk
