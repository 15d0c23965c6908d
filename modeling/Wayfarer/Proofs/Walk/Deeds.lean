import Wayfarer.Proofs.Action
import Wayfarer.Proofs.Walk.Turn

/-!
# What is done in one step of a walk

Pages are called and pockets written by steps only, behind the position that the step reports and in
the world in which that position has been kept. So what no action touches stays as it is on the whole walk.
-/

namespace Wayfarer

/-- The page is called or a pocket written. -/
def Event.isDeed : Event → Bool
  | .called _ | .stored _ => true
  | _ => false

/-- Of what has been noted none is a deed. -/
def Idle (moments : Array (Moment ω)) : Prop :=
  ∀ m ∈ moments, m.event.isDeed = false

theorem idle_empty : Idle (#[] : Array (Moment ω)) := by
  simp [Idle]

namespace Walk

open Stage

section

variable {w : Setting π ω} {motive : State π ω → Prop}
  (noted : ∀ s stats e, e.isDeed = false → motive s → motive ({ s with stats }.note e))
  (performed : ∀ outer index target s, motive s → motive (s.perform w outer index target).2)

include noted performed

theorem state_of_decides {outer : List Nat} {index limit : Nat} {target : Ident} {s t : State π ω}
    {decided : Except WalkError Move} (h : Decides w outer index target limit s decided t) (here : motive s) : motive t := by
  have behind : ∀ {ran}, s.perform w outer index target = ran → motive ran.2 := by
    rintro _ rfl
    exact performed outer index target s here
  cases h with
  | unrunnable kind ran => exact behind ran
  | succeeded kind ran => exact behind ran
  | dismissed kind ran => exact behind ran
  | exhausted kind ran => exact behind ran
  | recovered kind ran => exact noted _ _ _ rfl (behind ran)
  | noWay => exact here
  | way => exact here
  | noBranch => exact here
  | branch => exact noted s s.stats _ rfl here

/-- What every step keeps of a state, and every note that tells of no deed, is kept by each turn. -/
theorem state_of_turn {c d : Stage π ω} (turned : Turn w c d) (here : motive c.state) : motive d.state := by
  have entered : ∀ (s : State π ω) way spot limit, motive s → motive (s.note (.walking way spot limit)) :=
    fun s way spot limit => noted s s.stats _ rfl
  cases turned with
  | rest => exact here
  | finish => exact here
  | leave => exact here
  | again => exact here
  | fail place decides => exact state_of_decides noted performed decides here
  | advance place decides => exact state_of_decides noted performed decides here
  | recover place decides => exact entered _ _ _ _ (state_of_decides noted performed decides here)
  | enter place decides => exact entered _ _ _ _ (state_of_decides noted performed decides here)

theorem state_of_reaches {c d : Stage π ω} (h : Reaches w c d) (here : motive c.state) : motive d.state :=
  h.invariant (motive := fun d => motive d.state) (fun _ _ => state_of_turn noted performed) here

end

/-! ### What the actions leave alone -/

section

variable {w : Setting π ω}

theorem within_runStep (retains : w.actions.Retains) (target : Ident) (ordinal : Nat) (s : Session π) :
    s.pockets.Within (runStep w.definitions w.actions target ordinal s).2.pockets :=
  runStep_keeps (motive := fun t => s.pockets.Within t.pockets) (fun _ _ kept => kept)
    (fun step action _ known t kept => kept.trans (retains _ action known step t)) ordinal (.refl s.pockets)

theorem within_of_retains (retains : w.actions.Retains) {c d : Stage π ω} (h : Reaches w c d) :
    c.state.pockets.Within d.state.pockets :=
  state_of_reaches (motive := fun s => c.state.pockets.Within s.pockets) (fun _ _ _ _ kept => kept)
    (fun _ index target s kept => kept.trans (within_runStep retains target index s.session)) h (.refl _)

theorem settle_runStep (steady : w.actions.Steady) (target : Ident) (ordinal : Nat) (s : Session π) :
    (runStep w.definitions w.actions target ordinal s).2.settle = s.settle :=
  runStep_keeps (motive := fun t => t.settle = s.settle) (fun _ _ kept => kept)
    (fun step action _ known t kept => (steady _ action known step t).trans kept) ordinal rfl

/-- Where no action sets the pause behind a navigation, it stays what it was when the walk began. -/
theorem settle_of_reaches (steady : w.actions.Steady) {c d : Stage π ω} (h : Reaches w c d) :
    d.state.settle = c.state.settle :=
  state_of_reaches (motive := fun s => s.settle = c.state.settle) (fun _ _ _ _ kept => kept)
    (fun _ index target s kept => (settle_runStep steady target index s.session).trans kept) h rfl

end

/-! ### What a turn adds to the journal -/

/-- What is kept with positions is no deed. -/
def Setting.KeepsIdly (w : Setting π ω) : Prop :=
  ∀ spot world, Idle (w.keep spot world).2

/-- What a turn adds to the journal. -/
inductive Adds (w : Setting π ω) (c d : Stage π ω) : Prop where
  | idle {added : Array (Moment ω)} (world : d.state.world = c.state.world)
    (journal : d.state.journal = c.state.journal ++ added) (calm : Idle added)
  /-- The position of a step is reported and kept, and then the step does what it does. -/
  | performed {a : Activation} {outer : List Activation} {s : State π ω} {target : Ident}
    {added : Array (Moment ω)} (stands : c = .walking (a :: outer) s) (place : a.At target)
    (kind : target.kind = .step) (world : d.state.world = (w.keep (.ofPath (indices (a :: outer))) s.world).1)
    (journal : d.state.journal = s.journal ++ (#[⟨.reached (.ofPath (indices (a :: outer))), s.world⟩] ++ added))
    (done : ∀ m ∈ added, m.event.isDeed = true → m.world = d.state.world)

section

variable {w : Setting π ω}

theorem perform_adds (idly : w.KeepsIdly) (outer : List Nat) (index : Nat) (target : Ident) (s : State π ω) :
    (s.perform w outer index target).2.world = (w.keep (.ofPath (outer ++ [index])) s.world).1 ∧
      ∃ added, (s.perform w outer index target).2.journal =
          s.journal ++ (#[⟨.reached (.ofPath (outer ++ [index])), s.world⟩] ++ added) ∧
        ∀ m ∈ added, m.event.isDeed = true → m.world = (w.keep (.ofPath (outer ++ [index])) s.world).1 := by
  refine ⟨rfl, (w.keep (.ofPath (outer ++ [index])) s.world).2 ++
    (runStep w.definitions w.actions target index s.session).2.events.map
      (⟨·, (w.keep (.ofPath (outer ++ [index])) s.world).1⟩), ?_, ?_⟩
  · rw [← Array.append_assoc, ← Array.append_assoc, Array.append_singleton]
    rfl
  · intro m noted deed
    rcases Array.mem_append.mp noted with kept | done
    · rw [idly _ _ m kept] at deed
      cases deed
    · obtain ⟨e, -, rfl⟩ := Array.mem_map.mp done
      rfl

theorem adds_of_performed (idly : w.KeepsIdly) {a : Activation} {outer : List Activation} {s t : State π ω}
    {target : Ident} {result : Except WalkError (Option Way)} (place : a.At target) (kind : target.kind = .step)
    (ran : s.perform w (indices outer) a.index target = (result, t)) {d : Stage π ω} {later : Array (Moment ω)}
    (world : d.state.world = t.world) (journal : d.state.journal = t.journal ++ later) (calm : Idle later) :
    Adds w (.walking (a :: outer) s) d := by
  obtain ⟨kept, added, told, done⟩ := perform_adds idly (indices outer) a.index target s
  rw [ran, ← indices_cons] at kept told
  have grown : d.state.journal =
      s.journal ++ (#[⟨.reached (.ofPath (indices (a :: outer))), s.world⟩] ++ (added ++ later)) := by
    rw [journal, told, Array.append_assoc, Array.append_assoc]
  refine .performed rfl place kind (world.trans kept) grown fun m noted deed => ?_
  rcases Array.mem_append.mp noted with before | behind
  · rw [world, kept, indices_cons]
    exact done m before deed
  · rw [calm m behind] at deed
    cases deed

theorem adds_of_turn (idly : w.KeepsIdly) {c d : Stage π ω} (turned : Turn w c d) : Adds w c d := by
  have still : ∀ {c d : Stage π ω}, d.state = c.state → Adds w c d := fun same =>
    .idle (congrArg State.world same) (by rw [same, Array.append_empty]) idle_empty
  cases turned with
  | rest => exact still rfl
  | finish => exact still rfl
  | leave => exact still rfl
  | again => exact still rfl
  | fail place decides =>
    cases decides with
    | unrunnable kind ran => exact adds_of_performed idly place kind ran rfl (Array.append_empty).symm idle_empty
    | exhausted kind ran => exact adds_of_performed idly place kind ran rfl (Array.append_empty).symm idle_empty
    | noWay => exact still rfl
    | noBranch => exact still rfl
  | advance place decides =>
    cases decides with
    | succeeded kind ran => exact adds_of_performed idly place kind ran rfl (Array.append_empty).symm idle_empty
    | dismissed kind ran => exact adds_of_performed idly place kind ran rfl (Array.append_empty).symm idle_empty
  | @recover a outer s target way left t place decides =>
    cases decides with
    | @recovered _ t _ kind ran =>
      have noted : Idle #[⟨.recovering target left, t.world⟩, ⟨.walking way a.inner left, t.world⟩] := by
        simp [Idle, Event.isDeed]
      exact adds_of_performed idly place kind ran rfl (Array.ext' (by simp [enter, state, State.spent, State.note])) noted
  | @enter a outer s target way t place decides =>
    cases decides with
    | way =>
      have noted : Idle #[⟨.walking way a.inner a.left, s.world⟩] := by simp [Idle, Event.isDeed]
      exact .idle rfl Array.append_singleton.symm noted
    | @branch branch =>
      have noted : Idle #[⟨branch.event, s.world⟩, ⟨.walking branch.way a.inner a.left, s.world⟩] := by
        simp [Idle, Branch.event, Event.isDeed]
      exact .idle rfl (Array.ext' (by simp [enter, state, State.note])) noted

end

end Walk

end Wayfarer
