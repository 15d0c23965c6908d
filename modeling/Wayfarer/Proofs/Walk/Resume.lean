import Mathlib.Data.List.Chain
import Wayfarer.Page.Scripted
import Wayfarer.Proofs.Walk.Deeds
import Wayfarer.Proofs.Walk.Stack

/-!
# Resuming a walk

A walk that is begun at a position which another walk has reported, in the state in which that walk
was, goes down to the same activations without running a step, and from there on it is the same walk.
-/

namespace Wayfarer.Walk

open Stage

/-! ### What stands on the stack -/

def Standing (w : Setting π ω) (root : Way) (limit : Nat) : Stage π ω → Prop
  | .walking stack _ => Linked w root limit stack ∧ ∀ a ∈ stack, a.inner = .start
  | .ended _ _ => True

theorem fresh_cons {a : Activation} {outer : List Activation} (first : a.inner = .start)
    (rest : ∀ b ∈ outer, b.inner = .start) : ∀ b ∈ a :: outer, b.inner = .start := by
  intro b member
  rcases List.mem_cons.mp member with rfl | member
  · exact first
  · exact rest b member

theorem fresh_resumed {outer : List Activation} (h : ∀ b ∈ outer, b.inner = .start) :
    ∀ b ∈ resumed outer, b.inner = .start := by
  cases outer with
  | nil => exact h
  | cons a outer => exact fresh_cons rfl fun b member => h b (List.mem_cons_of_mem a member)

/-- From the start on the spot is used up: every activation goes on at the start. -/
theorem fresh_of_turn {w : Setting π ω} {c d : Stage π ω} (turned : Turn w c d)
    (h : ∀ a ∈ c.stack, a.inner = .start) : ∀ a ∈ d.stack, a.inner = .start := by
  cases turned with
  | rest => exact h
  | finish => exact h
  | leave => exact fresh_resumed (List.forall_mem_cons.mp h).2
  | again => exact fresh_cons rfl (List.forall_mem_cons.mp h).2
  | fail => simp [Stage.stack]
  | advance => exact fresh_cons rfl (List.forall_mem_cons.mp h).2
  | recover =>
    obtain ⟨start, others⟩ := List.forall_mem_cons.mp h
    exact fresh_cons (by rw [Activation.begin, start]; rfl) (fresh_cons rfl others)
  | enter =>
    obtain ⟨start, others⟩ := List.forall_mem_cons.mp h
    exact fresh_cons (by rw [Activation.begin, start]; rfl) (fresh_cons rfl others)

theorem standing_of_reaches {w : Setting π ω} {root : Way} {limit : Nat} {s : State π ω} {c : Stage π ω}
    (h : Reaches w (start root .start limit s) c) : Standing w root limit c := by
  have linked := linked_of_reaches h
  have fresh := h.invariant (motive := fun c => ∀ a ∈ c.stack, a.inner = .start) (fun _ _ => fresh_of_turn)
    (fresh_cons rfl (by simp))
  cases c with
  | walking stack u => exact ⟨linked, fresh⟩
  | ended result u => trivial

/-! ### Going down again -/

/-- Ways are entered and branches chosen, and that is all. -/
def isDescent : Event → Bool
  | .walking .. | .branched .. => true
  | _ => false

/-- A state with a descent noted behind another. -/
def Leads (s t : State π ω) : Prop :=
  ∃ lead : Array (Moment ω), t = { s with journal := s.journal ++ lead } ∧ ∀ m ∈ lead, isDescent m.event = true

theorem Leads.refl (s : State π ω) : Leads s s := ⟨#[], by simp, by simp⟩

theorem Leads.note {s t : State π ω} (h : Leads s t) {e : Event} (descent : isDescent e = true) :
    Leads s (t.note e) := by
  obtain ⟨lead, rfl, quiet⟩ := h
  refine ⟨lead.push ⟨e, s.world⟩, by simp [State.note], ?_⟩
  intro m member
  rcases Array.mem_push.mp member with member | rfl
  · exact quiet m member
  · exact descent

/-- If the reference of `parent` is a detour, it leads to `child` with these pockets. -/
def Agrees (w : Setting π ω) (pockets : Pockets) (child parent : Activation) : Prop :=
  ∀ target, parent.way.steps[parent.index]? = some target → target.kind = .detour →
    (w.definitions.resolve pockets target).map Branch.way = .ok child.way

theorem meet_again {w : Setting π ω} {s t : State π ω} {child parent : Activation} {target : Ident}
    (under : Under w child parent) (there : parent.way.steps[parent.index]? = some target)
    (unspent : parent.recoveries = 0) (agrees : Agrees w s.pockets child parent) (leads : Leads s t)
    (outer : List Nat) (limit : Nat) :
    ∃ u, Leads s u ∧ meet w outer parent.index target limit t = (.ok (.enter child.way), u) := by
  obtain ⟨-, -, _, same, step, way⟩ := under
  cases there.symm.trans same
  unfold meet
  cases kind : target.kind with
  | step =>
    have recovered := step kind
    omega
  | way => exact ⟨t, leads, by rw [way kind]⟩
  | detour =>
    have pockets : t.pockets = s.pockets := by
      obtain ⟨lead, rfl, -⟩ := leads
      rfl
    have agreed := agrees target there kind
    simp only [pockets]
    cases resolved : w.definitions.resolve s.pockets target with
    | error e =>
      rw [resolved] at agreed
      cases agreed
    | ok branch =>
      rw [resolved] at agreed
      have same : branch.way = child.way := Except.ok.inj agreed
      exact ⟨t.note branch.event, leads.note rfl, by simp only [same]⟩

theorem enter_again {w : Setting π ω} {s t : State π ω} {child parent : Activation} (outer : List Activation)
    (deeper : List Nat) (under : Under w child parent) (fresh : parent.inner = .start)
    (unspent : parent.recoveries = 0 ∧ child.recoveries = 0) (first : child.pass = 0)
    (agrees : Agrees w s.pockets child parent) (leads : Leads s t) :
    ∃ u, Leads s u ∧
      next w (.walking ({ parent with inner := .ofPath (child.index :: deeper) } :: outer) t) =
        .walking ({ child with inner := .ofPath deeper } :: parent :: outer) u := by
  obtain ⟨target, there, -⟩ := under.reference
  obtain ⟨u, leads, decided⟩ := meet_again under there unspent.1 agrees leads (indices outer) parent.left
  refine ⟨u.note (.walking child.way (.ofPath (child.index :: deeper)) parent.left), leads.note rfl, ?_⟩
  have waiting : ({ parent with inner := .ofPath (child.index :: deeper) } : Activation).waiting = parent := by
    obtain ⟨way, pass, index, inner, left, recoveries⟩ := parent
    cases fresh
    rfl
  have begun : Activation.begin child.way (.ofPath (child.index :: deeper)) parent.left =
      { child with inner := .ofPath deeper } := by
    rw [← under.budget, unspent.2]
    obtain ⟨way, pass, index, inner, left, recoveries⟩ := child
    cases first
    cases unspent.2
    rfl
  simp only [next, if_neg (Nat.not_le.mpr under.unfinished), there, decided, proceed, enter, waiting, begun]

theorem descend_again {w : Setting π ω} {root : Way} {limit : Nat} {s : State π ω} {a : Activation}
    {outer : List Activation} (linked : Linked w root limit (a :: outer))
    (fresh : ∀ b ∈ a :: outer, b.inner = .start) (unspent : ∀ b ∈ a :: outer, b.recoveries = 0)
    (first : ∀ b ∈ a :: outer, b.pass = 0) (agrees : (a :: outer).IsChain (Agrees w s.pockets))
    (deeper : List Nat) :
    ∃ t, Leads s t ∧ Reaches w (start root (.ofPath (indices (a :: outer) ++ deeper)) limit s)
      (.walking ({ a with inner := .ofPath deeper } :: outer) t) := by
  induction outer generalizing a deeper with
  | nil =>
    obtain ⟨way, budget⟩ := linked
    refine ⟨s.note (.walking root (.ofPath (a.index :: deeper)) limit), (Leads.refl s).note rfl, Reaches.of_eq ?_⟩
    obtain ⟨_, pass, index, inner, left, recoveries⟩ := a
    cases first _ List.mem_cons_self
    cases unspent _ List.mem_cons_self
    cases way
    cases budget
    rfl
  | cons b outer ih =>
    obtain ⟨under, above⟩ := linked
    obtain ⟨agree, others⟩ := List.isChain_cons_cons.mp agrees
    obtain ⟨-, freshAbove⟩ := List.forall_mem_cons.mp fresh
    obtain ⟨spentHere, unspentAbove⟩ := List.forall_mem_cons.mp unspent
    obtain ⟨passHere, firstAbove⟩ := List.forall_mem_cons.mp first
    obtain ⟨t, leads, reached⟩ := ih above freshAbove unspentAbove firstAbove others (a.index :: deeper)
    obtain ⟨u, leadsOn, entered⟩ := enter_again outer deeper under
      (freshAbove b List.mem_cons_self) ⟨unspentAbove b List.mem_cons_self, spentHere⟩ passHere agree leads
    rw [indices_cons, List.append_assoc, List.singleton_append]
    exact ⟨u, leadsOn, reached.trans (.one entered)⟩

/-! ### The same walk -/

/-- An activation is about to run the step at its index. -/
def AtStep (a : Activation) : Prop :=
  a.pass < a.way.repeats ∧ ∃ target, a.way.steps[a.index]? = some target ∧ target.kind = .step

theorem next_at_step {w : Setting π ω} {a : Activation} (h : AtStep a) (outer : List Activation) (s : State π ω) :
    ∃ d : Stage π ω, next w (.walking (a :: outer) s) =
      d.after (s.note (.reached (.ofPath (indices (a :: outer))))).past := by
  obtain ⟨unfinished, target, there, kind⟩ := h
  have reported : s.reach w (.ofPath (indices (a :: outer))) =
      State.after (s.note (.reached (.ofPath (indices (a :: outer))))).past
        { page := s.page, pockets := s.pockets, settle := s.settle
          world := (w.keep (.ofPath (indices (a :: outer))) s.world).1
          journal := (w.keep (.ofPath (indices (a :: outer))) s.world).2
          stats := ⟨1, 0⟩ } := rfl
  simp only [next, if_neg (Nat.not_le.mpr unfinished), there, meet, kind, ← indices_cons, reported,
    State.act_after, respond_after, proceed_after]
  exact ⟨_, rfl⟩

/-- Let a walk from the start stand before a step, with every activation in its first pass and none
having entered a catch way, and let the detours that led there still lead there. A walk from the
position of that step, in the session and the world as they are, first only goes down to it; then the
rest of the one walk is the rest of the other. The pause behind a navigation is then the one that the
first walk was begun with, unless an action sets it. -/
theorem resume_exact (w : Setting π ω) {root : Way} {limit depth : Nat} {s t u : State π ω}
    {result : Except WalkError Unit} {a : Activation} {outer : List Activation}
    (ends : walk w depth [] root .start limit s = some (result, t))
    (moment : Reaches w (start root .start limit s) (.walking (a :: outer) u)) (step : AtStep a)
    (unspent : ∀ b ∈ a :: outer, b.recoveries = 0) (first : ∀ b ∈ a :: outer, b.pass = 0)
    (agrees : (a :: outer).IsChain (Agrees w u.pockets)) :
    ∃ (again : Nat) (lead tail : Array (Moment ω)) (stats : Stats),
      walk w again [] root (.ofPath (indices (a :: outer))) limit u.fresh =
          some (result, { t with stats, journal := lead ++ tail }) ∧
        t.journal = u.journal ++ tail ∧
        t.stats = ⟨u.stats.steps + stats.steps, u.stats.recoveries + stats.recoveries⟩ ∧
        tail[0]? = some ⟨.reached (.ofPath (indices (a :: outer))), u.world⟩ ∧
        (∀ m ∈ lead, isDescent m.event = true) ∧ (w.actions.Steady → u.settle = s.settle) := by
  obtain ⟨linked, fresh⟩ := standing_of_reaches moment
  obtain ⟨_, ⟨lead, rfl, quiet⟩, again⟩ := descend_again (s := u.fresh) linked fresh unspent first agrees []
  -- what remains of the first walk, without its past
  have remains : Reaches w (Stage.after u.past (.walking (a :: outer) u.fresh)) (.ended result t) := by
    rw [Stage.after, State.after_fresh]
    exact (reaches_of_walk ends).ended_of_reaches moment
  obtain ⟨v, rfl, rest⟩ := remains.ended_of_after
  obtain ⟨d, reports⟩ := next_at_step step outer u.fresh
  have reported := rest.ended_of_reaches (.one reports)
  obtain ⟨x, journal, -⟩ := reported.ended_of_after
  have descent : Stage.walking ({ a with inner := .ofPath [] } :: outer) { u.fresh with journal := u.fresh.journal ++ lead } =
      Stage.after ⟨{}, lead⟩ (.walking (a :: outer) u.fresh) := by
    have top : { a with inner := .ofPath [] } = a := by
      have start := fresh a List.mem_cons_self
      obtain ⟨way, pass, index, inner, left, recoveries⟩ := a
      cases start
      rfl
    rw [top]
    simp [Stage.after, State.after, State.fresh]
  rw [descent, List.append_nil] at again
  obtain ⟨depth, walked⟩ := walk_iff_reaches.mpr (again.trans rest.after)
  refine ⟨depth, lead, v.journal, v.stats, ?_, rfl, rfl, ?_, quiet, fun steady => settle_of_reaches steady moment⟩
  · rw [walked]
    simp [State.after]
  · rw [journal]
    exact Array.getElem?_append_left Nat.zero_lt_one

/-! ### A walk that fails behind the place where it is resumed -/

def forked : Setting ScriptedPage Unit where
  definitions :=
    { steps :=
        [{ id := .step "look", description := "", action := .check, selector := "#a", onFailure := [.step "rest"] },
          { id := .step "rest", description := "" }]
      ways := [{ id := .way "below", description := "", repeats := 2, steps := [.step "rest", .step "look"] }]
      detours :=
        [{ id := .detour "fork", description := "", pocket := "k",
           entries := [{ value := "v", steps := [.way "below"] }] }] }
  actions := .standard

def forkedRoot : Way where
  id := .way "main"
  description := ""
  repeats := 1
  steps := [.step "rest", .detour "fork", .step "look"]

def forkedBranch : Way where
  id := .way "fork"
  description := ""
  repeats := 1
  steps := [.way "below"]

def forkedStart : State ScriptedPage Unit where
  page := { flaky := [("#a", 1)] }
  pockets := .seeded [⟨"k", "v"⟩]
  settle := 0
  world := ()

def forkedStack : List Activation :=
  [{ way := ⟨.way "below", "", 2, [.step "rest", .step "look"]⟩, index := 1, inner := .start, left := 3 },
    { way := forkedBranch, index := 0, inner := .start, left := 3 },
    { way := forkedRoot, index := 1, inner := .start, left := 3 }]

theorem forked_ends : ∃ t, walk forked 5 [] forkedRoot .start 3 forkedStart = some (.ok (), t) := by
  have ended : (walk forked 5 [] forkedRoot .start 3 forkedStart).map (·.1) = some (.ok ()) := by
    decide +kernel
  obtain ⟨⟨_, t⟩, found, rfl⟩ := Option.map_eq_some_iff.mp ended
  exact ⟨t, found⟩

theorem forked_stands : ∃ u, Reaches forked (start forkedRoot .start 3 forkedStart) (.walking forkedStack u) ∧
    (forked.definitions.resolve u.pockets (.detour "fork")).map Branch.way = .ok forkedBranch := by
  have stands : (match (next forked)^[4] (start forkedRoot .start 3 forkedStart) with
      | .walking stack u => decide (stack = forkedStack ∧
          (forked.definitions.resolve u.pockets (.detour "fork")).map Branch.way = .ok forkedBranch)
      | .ended _ _ => false) = true := by decide +kernel
  split at stands
  · rename_i stack u found
    obtain ⟨rfl, resolved⟩ := of_decide_eq_true stands
    exact ⟨u, ⟨4, found⟩, resolved⟩
  · cases stands

theorem resume_exact_in_branch :
    ∃ (t u : State ScriptedPage Unit) (again : Nat) (lead tail : Array (Moment Unit)) (stats : Stats),
      walk forked 5 [] forkedRoot .start 3 forkedStart = some (.ok (), t) ∧
        Reaches forked (start forkedRoot .start 3 forkedStart) (.walking forkedStack u) ∧
        walk forked again [] forkedRoot ⟨1, [0, 1]⟩ 3 u.fresh =
          some (.ok (), { t with stats, journal := lead ++ tail }) ∧
        t.journal = u.journal ++ tail ∧ u.settle = forkedStart.settle := by
  obtain ⟨t, ends⟩ := forked_ends
  obtain ⟨u, moment, resolved⟩ := forked_stands
  have agrees : forkedStack.IsChain (Agrees forked u.pockets) := by
    refine List.isChain_cons_cons.mpr ⟨?_, List.isChain_cons_cons.mpr ⟨?_, by simp⟩⟩
    · rintro _ ⟨⟩ ⟨⟩
    · rintro _ ⟨⟩ -
      exact resolved
  obtain ⟨again, lead, tail, stats, walked, journal, -, -, -, kept⟩ := resume_exact forked ends moment
    ⟨by decide, _, rfl, rfl⟩ (by decide) (by decide) agrees
  exact ⟨t, u, again, lead, tail, stats, ends, moment, walked, journal, kept ActionTable.builtIn_standard.steady⟩

end Wayfarer.Walk
