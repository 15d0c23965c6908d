import Wayfarer.Proofs.Walk.Tandem

/-!
# Walks and the world around them

A walk never looks at the world in which positions are kept. So it runs alike in every world, and the
world that it leaves is the one to which its positions lead, kept one after the other.
-/

namespace Wayfarer.Walk

/-- The same setting, but for what is done with positions. -/
def Setting.keeping (w : Setting π ω) (keep : Spot → υ → υ × Array (Moment υ)) : Setting π υ where
  definitions := w.definitions
  actions := w.actions
  keep := keep

/-- The same session and counters, in worlds that are related. -/
structure Alike (R : ω → υ → Prop) (s : State π ω) (t : State π υ) : Prop where
  page : s.page = t.page
  pockets : s.pockets = t.pockets
  settle : s.settle = t.settle
  stats : s.stats = t.stats
  world : R s.world t.world

def Mirrors (R : ω → υ → Prop) (x : Walk π ω α) (y : Walk π υ α) : Prop :=
  ∀ s t, Alike R s t → Option.Rel (fun a b => a.1 = b.1 ∧ Alike R a.2 b.2) (x s) (y t)

section

variable {R : ω → υ → Prop}

theorem Alike.note {s : State π ω} {t : State π υ} (h : Alike R s t) (e f : Event) :
    Alike R (s.note e) (t.note f) :=
  ⟨h.page, h.pockets, h.settle, h.stats, h.world⟩

variable {w : Setting π ω} {keep : Spot → υ → υ × Array (Moment υ)}

theorem perform_alike (keeps : ∀ spot a b, R a b → R (w.keep spot a).1 (keep spot b).1) {s : State π ω} {t : State π υ}
    (h : Alike R s t) (outer : List Nat) (index : Nat) (target : Ident) :
    (s.perform w outer index target).1 = (t.perform (w.keeping keep) outer index target).1 ∧
      Alike R (s.perform w outer index target).2 (t.perform (w.keeping keep) outer index target).2 := by
  obtain ⟨page, pockets, settle, stats, world⟩ := h
  simp only [State.perform, State.act, State.reach, State.note, State.session, Setting.keeping, page, pockets, settle,
    stats, true_and]
  exact ⟨rfl, rfl, rfl, rfl, keeps _ _ _ world⟩

theorem walk_mirrors (keeps : ∀ spot a b, R a b → R (w.keep spot a).1 (keep spot b).1) (depth : Nat) :
    ∀ outer way spot limit,
      Mirrors R (walk w depth outer way spot limit) (walk (w.keeping keep) depth outer way spot limit) := by
  have concur : Concur (Alike R) w (w.keeping keep) := by
    refine concur_of_performed rfl ?_ ?_ ?_ ?_
    · exact fun _ _ _ alike => by rw [alike.pockets]
    · exact fun e _ _ alike => alike.note e e
    · exact fun step left s t alike =>
        ⟨alike.page, alike.pockets, alike.settle, by simp only [State.spent, State.note, alike.stats], alike.world⟩
    · exact fun outer index target _ _ alike => perform_alike keeps alike outer index target
  exact walk_tandem concur (fun _ _ _ _ _ alike => alike.note _ _) depth

end

/-! ### The positions of a walk -/

/-- The same setting, in a world that is the list of the positions so far. -/
def Setting.recording (w : Setting π ω) : Setting π (List Spot) :=
  w.keeping fun spot spots => (spots ++ [spot], #[])

/-- The session of the state, with no positions so far. -/
def State.unrecorded (s : State π ω) : State π (List Spot) where
  page := s.page
  pockets := s.pockets
  settle := s.settle
  world := []

def reports (w : Setting π ω) (depth : Nat) (way : Way) (spot : Spot) (limit : Nat) (page : π) (pockets : Pockets)
    (settle : Nat) : List Spot :=
  match walk w.recording depth [] way spot limit { page, pockets, settle, world := [] } with
  | some (_, t) => t.world
  | none => []

/-- The world behind some positions that are kept in it. -/
def worldBehind (w : Setting π ω) (spots : List Spot) (world : ω) : ω :=
  spots.foldl (fun world spot => (w.keep spot world).1) world

theorem recording_mirrors (w : Setting π ω) (depth : Nat) (way : Way) (spot : Spot) (limit : Nat) (s : State π ω)
    (uncounted : s.stats = {}) :
    Option.Rel (fun a b => a.1 = b.1 ∧ Alike (fun world spots => world = worldBehind w spots s.world) a.2 b.2)
      (walk w depth [] way spot limit s)
      (walk w.recording depth [] way spot limit s.unrecorded) := by
  refine walk_mirrors ?_ depth [] way spot limit s _ ⟨rfl, rfl, rfl, uncounted, rfl⟩
  rintro spot _ spots rfl
  simp [worldBehind]

theorem walk_isSome (w : Setting π ω) (depth : Nat) (way : Way) (spot : Spot) (limit : Nat) (s : State π ω)
    (uncounted : s.stats = {}) :
    (walk w depth [] way spot limit s).isSome =
      (walk w.recording depth [] way spot limit s.unrecorded).isSome := by
  have mirrored := recording_mirrors w depth way spot limit s uncounted
  generalize walk w depth [] way spot limit s = walked at mirrored ⊢
  generalize walk w.recording depth [] way spot limit _ = recorded at mirrored ⊢
  cases mirrored <;> rfl

theorem recorded_of_walk {w : Setting π ω} {depth : Nat} {way : Way} {spot : Spot} {limit : Nat} {s t : State π ω}
    {result : Except WalkError Unit} (uncounted : s.stats = {})
    (h : walk w depth [] way spot limit s = some (result, t)) :
    ∃ r, walk w.recording depth [] way spot limit s.unrecorded = some (result, r) ∧
      r.world = reports w depth way spot limit s.page s.pockets s.settle ∧
        Alike (fun world spots => world = worldBehind w spots s.world) t r := by
  have mirrored := recording_mirrors w depth way spot limit s uncounted
  rw [h] at mirrored
  cases recorded : walk w.recording depth [] way spot limit s.unrecorded with
  | none => rw [recorded] at mirrored; cases mirrored
  | some pair =>
    obtain ⟨_, r⟩ := pair
    rw [recorded] at mirrored
    cases mirrored with
    | some both =>
      obtain ⟨rfl, alike⟩ := both
      refine ⟨r, rfl, ?_, alike⟩
      unfold State.unrecorded at recorded
      rw [reports, recorded]

theorem walk_world {w : Setting π ω} {depth : Nat} {way : Way} {spot : Spot} {limit : Nat} {s t : State π ω}
    {result : Except WalkError Unit} (uncounted : s.stats = {})
    (h : walk w depth [] way spot limit s = some (result, t)) :
    t.world = worldBehind w (reports w depth way spot limit s.page s.pockets s.settle) s.world := by
  obtain ⟨r, -, told, alike⟩ := recorded_of_walk uncounted h
  rw [← told]
  exact alike.world

/-! ### Worlds that show less -/

def State.image (f : υ → ω) (s : State π υ) : State π ω where
  page := s.page
  pockets := s.pockets
  settle := s.settle
  world := f s.world
  stats := s.stats
  journal := s.journal.map fun m => ⟨m.event, f m.world⟩

theorem State.image_note (f : υ → ω) (s : State π υ) (e : Event) : (s.note e).image f = (s.image f).note e := by
  simp [image, note]

/-- What is kept with a position in the one world shows in the other. -/
def Shows (f : υ → ω) (w : Setting π ω) (v : Setting π υ) : Prop :=
  ∀ spot world, w.keep spot (f world) = (f (v.keep spot world).1, (v.keep spot world).2.map fun m => ⟨m.event, f m.world⟩)

theorem perform_image {f : υ → ω} {w : Setting π ω} {keep : Spot → υ → υ × Array (Moment υ)}
    (shows : Shows f w (w.keeping keep)) (outer : List Nat) (index : Nat) (target : Ident) (s : State π υ) :
    (s.image f).perform w outer index target =
      ((s.perform (w.keeping keep) outer index target).1, (s.perform (w.keeping keep) outer index target).2.image f) := by
  have kept := shows (.ofPath (outer ++ [index])) s.world
  simp only [State.perform, State.act, State.reach, State.image, State.note, State.session, Setting.keeping] at kept ⊢
  simp [kept, Function.comp_def]

/-- A walk in a world that shows less is the walk itself, seen there. -/
theorem walk_image {f : υ → ω} {w : Setting π ω} {keep : Spot → υ → υ × Array (Moment υ)}
    (shows : Shows f w (w.keeping keep)) (depth : Nat) (outer : List Nat) (way : Way) (spot : Spot) (limit : Nat)
    (s : State π υ) :
    walk w depth outer way spot limit (s.image f) =
      (walk (w.keeping keep) depth outer way spot limit s).map fun ends => (ends.1, ends.2.image f) := by
  have concur : Concur (fun (a : State π ω) (b : State π υ) => a = b.image f) w (w.keeping keep) := by
    refine concur_of_performed rfl ?_ ?_ ?_ ?_
    · rintro target _ t rfl
      rfl
    · rintro e _ t rfl
      exact (t.image_note f e).symm
    · rintro step left _ t rfl
      simp [State.spent, State.image, State.note]
    · rintro outer index target _ t rfl
      rw [perform_image shows]
      exact ⟨rfl, rfl⟩
  have noted : ∀ (way : Way) spot limit (s : State π ω) (t : State π υ), s = t.image f →
      s.note (.walking way spot limit) = (t.note (.walking way spot limit)).image f := by
    rintro way spot limit _ t rfl
    exact (t.image_note f _).symm
  exact (walk_tandem concur noted depth outer way spot limit).eq_map s

end Wayfarer.Walk
