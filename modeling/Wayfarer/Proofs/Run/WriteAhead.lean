import Wayfarer.Proofs.Run.Idle

/-!
# Writing positions ahead

Where positions are kept, the cursor file names the step whose action is running whenever that calls the
page or writes a pocket. That holds as long as no position has been reported that nests too deep.
-/

namespace Wayfarer.Run

open Workspace

/-- Of the positions reported in the journal from `origin` on none before `i` nests too deep. -/
def FitUntil (journal : Array (Moment Files)) (origin i : Nat) : Prop :=
  ∀ j m spot, origin ≤ j → j < i → journal[j]? = some m → m.event = .reached spot →
    Spot.Fits (Json.maxDepth - 1) spot.path

theorem FitUntil.mono {journal : Array (Moment Files)} {origin i k : Nat} (h : FitUntil journal origin i) (less : k ≤ i) :
    FitUntil journal origin k :=
  fun j m spot from_ before => h j m spot from_ (Nat.lt_of_lt_of_le before less)

theorem FitUntil.of_append {journal added : Array (Moment Files)} {origin i : Nat}
    (h : FitUntil (journal ++ added) origin i) (inside : i ≤ journal.size) : FitUntil journal origin i := by
  intro j m spot behind before noted
  refine h j m spot behind before ?_
  rwa [Array.getElem?_append_left (Nat.lt_of_lt_of_le before inside)]

/-- The first stage of the walk that a run in this state makes behind a preparation. -/
def firstStage (c : Cursor) (s : State π) (p : Preparation) (way : Way) : Walk.Stage π Files :=
  Walk.start way c.spot c.limit
    { page := s.page, pockets := s.pockets.seed p.pockets, settle := p.settings.settle,
      world := (prepare (begun c s.workspace)).2.files,
      journal := (prepare (begun c s.workspace)).2.journal }

/-- What stands at `i` in the journal is noted while the step at the position is performed. The position
holds the indices of all activations, outermost first. -/
inductive NotedAt (actions : ActionTable π) (c : Cursor) (s : State π) (i : Nat) : Spot → Prop where
  | intro {p : Preparation} {way : Way} {a : Walk.Activation} {outer : List Walk.Activation}
    {u : Walk.State π Files} {target : Ident}
    (prepared : prepare.answer s.workspace.files = .ok p) (found : p.definitions.way? c.way = some way)
    (reached : Walk.Reaches (setting p.definitions actions p.settings) (firstStage c s p way) (.walking (a :: outer) u))
    (place : a.At target) (kind : target.kind = .step) (behind : u.journal.size ≤ i)
    (before : i < (Walk.Stage.next (setting p.definitions actions p.settings) (.walking (a :: outer) u)).state.journal.size) :
    NotedAt actions c s i (.ofPath (Walk.indices (a :: outer)))

/-- At every deed of a run in this state the cursor file holds the position of the step that does it. -/
def WrittenAhead (actions : ActionTable π) (c : Cursor) (s : State π) (journal : Array (Moment Files)) : Prop :=
  ∀ i m, s.workspace.journal.size ≤ i → journal[i]? = some m → m.event.isDeed = true →
    FitUntil journal s.workspace.journal.size i →
    ∃ spot, NotedAt actions c s i spot ∧
      cursorIn m.world = .ok { running := true, limit := c.limit, way := c.way, spot }

section

variable {actions : ActionTable π} {c : Cursor} {s : State π}

theorem writtenAhead_before : WrittenAhead actions c s s.workspace.journal := by
  intro i m beyond noted
  rw [Array.getElem?_eq_none beyond] at noted
  cases noted

theorem WrittenAhead.append {journal added : Array (Moment Files)} (h : WrittenAhead actions c s journal)
    (calm : Idle added) : WrittenAhead actions c s (journal ++ added) := by
  intro i m behind noted deed fits
  rcases Nat.lt_or_ge i journal.size with inside | beyond
  · rw [Array.getElem?_append_left inside] at noted
    exact h i m behind noted deed (fits.of_append (Nat.le_of_lt inside))
  · rw [Array.getElem?_append_right beyond] at noted
    rw [calm m (Array.mem_of_getElem? noted)] at deed
    cases deed

theorem WrittenAhead.idle {w t : Workspace} (h : WrittenAhead actions c s w.journal) (idles : w.IdlesTo t) :
    WrittenAhead actions c s t.journal := by
  obtain ⟨added, grown, calm⟩ := idles
  rw [grown]
  exact h.append calm

theorem keepSpot_kept {fs : Files} {d : Cursor} {spot : Spot} (kept : Kept fs d)
    (fits : Spot.Fits (Json.maxDepth - 1) spot.path) : Kept (keepSpot spot fs).1 { d with spot } := by
  rw [keepSpot_files]
  exact (updateCursor_kept (w := { files := fs }) (fun d => { d with spot }) kept).1
    ((readable_at (readable_of_cursorIn kept.loads) spot).mpr fits)

/-! ### From stage to stage -/

structure Ahead (actions : ActionTable π) (c : Cursor) (s : State π) (d : Walk.Stage π Files) : Prop where
  behind : s.workspace.journal.size ≤ d.state.journal.size
  written : WrittenAhead actions c s d.state.journal
  kept : FitUntil d.state.journal s.workspace.journal.size d.state.journal.size →
    ∃ spot, Kept d.state.world { c with spot }

variable {d e : Walk.Stage π Files}

theorem Ahead.idle {added : Array (Moment Files)} (ahead : Ahead actions c s d) (world : e.state.world = d.state.world)
    (journal : e.state.journal = d.state.journal ++ added) (calm : Idle added) : Ahead actions c s e := by
  have grown : d.state.journal.size ≤ e.state.journal.size := by
    rw [journal, Array.size_append]
    exact Nat.le_add_right _ _
  refine ⟨Nat.le_trans ahead.behind grown, ?_, fun fits => ?_⟩
  · rw [journal]
    exact ahead.written.append calm
  · have before := fits.mono grown
    rw [journal] at before
    rw [world]
    exact ahead.kept (before.of_append (Nat.le_refl _))

theorem Ahead.performed {spot : Spot} {added : Array (Moment Files)} (running : c.running = true)
    (ahead : Ahead actions c s d) (world : e.state.world = (keepSpot spot d.state.world).1)
    (journal : e.state.journal = d.state.journal ++ (#[⟨.reached spot, d.state.world⟩] ++ added))
    (done : ∀ m ∈ added, m.event.isDeed = true → m.world = e.state.world)
    (told : ∀ i, d.state.journal.size ≤ i → i < e.state.journal.size → NotedAt actions c s i spot) :
    Ahead actions c s e := by
  have size : e.state.journal.size = d.state.journal.size + (1 + added.size) := by
    rw [journal, Array.size_append, Array.size_append]
    rfl
  have report : e.state.journal[d.state.journal.size]? = some ⟨.reached spot, d.state.world⟩ := by
    rw [journal, Array.getElem?_append_right (Nat.le_refl _), Nat.sub_self]
    exact Array.getElem?_append_left Nat.zero_lt_one
  -- once the position has been reported the cursor holds it
  have holds : ∀ i, d.state.journal.size < i → FitUntil e.state.journal s.workspace.journal.size i →
      Kept e.state.world { c with spot } := by
    intro i later fits
    have here := fits d.state.journal.size _ _ ahead.behind later report rfl
    have before := fits.mono (Nat.le_of_lt later)
    rw [journal] at before
    obtain ⟨last, kept⟩ := ahead.kept (before.of_append (Nat.le_refl _))
    have keptHere := keepSpot_kept kept here
    rw [world]
    exact keptHere
  have behind := ahead.behind
  refine ⟨by omega, fun i m from_ noted deed fits => ?_, fun fits => ⟨spot, holds _ (by omega) fits⟩⟩
  rcases Nat.lt_or_ge i d.state.journal.size with inside | beyond
  · rw [journal, Array.getElem?_append_left inside] at noted
    rw [journal] at fits
    exact ahead.written i m from_ noted deed (fits.of_append (Nat.le_of_lt inside))
  · have later : d.state.journal.size < i := by
      refine Nat.lt_of_le_of_ne beyond fun same => ?_
      rw [← same, report] at noted
      cases noted
      cases deed
    have bound : i < e.state.journal.size := (Array.getElem?_eq_some_iff.mp noted).1
    have among : m ∈ added := by
      rw [journal, Array.getElem?_append_right beyond, Array.getElem?_append_right (Nat.sub_pos_of_lt later)] at noted
      exact Array.mem_of_getElem? noted
    refine ⟨spot, told i beyond bound, ?_⟩
    rw [done m among deed, (holds i later fits).loads, running]

variable {p : Preparation} {way : Way}

theorem ahead_next (running : c.running = true) (prepared : prepare.answer s.workspace.files = .ok p)
    (found : p.definitions.way? c.way = some way) (on : p.settings.checkpoint = true)
    (reached : Walk.Reaches (setting p.definitions actions p.settings) (firstStage c s p way) d)
    (ahead : Ahead actions c s d) :
    Ahead actions c s (Walk.Stage.next (setting p.definitions actions p.settings) d) := by
  have keeps : (setting p.definitions actions p.settings).keep = keepSpot := by
    unfold setting
    rw [if_pos on]
  cases Walk.adds_of_turn (keepsIdly_setting p.definitions actions p.settings) (Walk.turn _ d) with
  | idle world journal calm => exact ahead.idle world journal calm
  | performed stands place kind world journal done =>
    subst stands
    rw [keeps] at world
    exact ahead.performed running world journal done fun i behind before =>
      .intro prepared found reached place kind behind before

theorem ahead_of_reaches (loads : cursorIn s.workspace.files = .ok c) (running : c.running = true)
    (replaceable : s.workspace.files.Replaceable cursorPath) (prepared : prepare.answer s.workspace.files = .ok p)
    (found : p.definitions.way? c.way = some way) (on : p.settings.checkpoint = true)
    (reached : Walk.Reaches (setting p.definitions actions p.settings) (firstStage c s p way) d) :
    Ahead actions c s d := by
  have loading : s.workspace.IdlesTo (prepare (begun c s.workspace)).2 :=
    (idlesTo_begun c s.workspace).trans (idles_prepare _)
  have files : (prepare (begun c s.workspace)).2.files = s.workspace.files :=
    (prepare_reads.files _).trans (begun_files c s.workspace)
  have first : Ahead actions c s (firstStage c s p way) := by
    obtain ⟨added, grown, calm⟩ :=
      loading.trans (Workspace.idlesTo_note _ (rfl : (Event.walking way c.spot c.limit).isDeed = false))
    have journal : (firstStage c s p way).state.journal = s.workspace.journal ++ added := grown
    refine ⟨?_, ?_, fun _ => ⟨c.spot, ?_⟩⟩
    · rw [journal, Array.size_append]
      exact Nat.le_add_right _ _
    · rw [journal]
      exact writtenAhead_before.append calm
    · rw [show (firstStage c s p way).state.world = s.workspace.files from files]
      exact ⟨ready_of_replaceable loads replaceable, loads⟩
  exact reached.carries (fun _ reached ahead => ahead_next running prepared found on reached ahead) first

end

/-- Where positions are kept, every deed of a run is done while the cursor file holds the position of the step that
does it, at every stage of the walk and in the journal that the run leaves. -/
theorem written_ahead (actions : ActionTable π) {c : Cursor} {s : State π} {settings : Settings}
    (loads : cursorIn s.workspace.files = .ok c) (running : c.running = true)
    (replaceable : s.workspace.files.Replaceable cursorPath)
    (settled : loadSettings.answer s.workspace.files = .ok settings) (on : settings.checkpoint = true) :
    (∀ p way d, prepare.answer s.workspace.files = .ok p → p.definitions.way? c.way = some way →
        Walk.Reaches (setting p.definitions actions p.settings) (firstStage c s p way) d →
        WrittenAhead actions c s d.state.journal) ∧
      ∀ depth result t, once actions depth s = some (result, t) → WrittenAhead actions c s t.workspace.journal := by
  have stages : ∀ p way d, prepare.answer s.workspace.files = .ok p → p.definitions.way? c.way = some way →
      Walk.Reaches (setting p.definitions actions p.settings) (firstStage c s p way) d →
      WrittenAhead actions c s d.state.journal := by
    intro p way d prepared found reached
    have kept : p.settings.checkpoint = true := by
      cases settled.symm.trans (settings_of_prepare prepared)
      exact on
    exact (ahead_of_reaches loads running replaceable prepared found kept reached).written
  refine ⟨stages, fun depth result t returned => ?_⟩
  obtain ⟨attempted, u, attempts, concludes⟩ := once_concludes loads running returned
  have closing : u.workspace.IdlesTo t.workspace :=
    (idles_clearing attempted u.workspace).trans (idlesTo_conclude concludes)
  have loading : s.workspace.IdlesTo (prepare (begun c s.workspace)).2 :=
    (idlesTo_begun c s.workspace).trans (idles_prepare _)
  rw [attempt_apply, begun_files] at attempts
  cases prepared : prepare.answer s.workspace.files with
  | error f =>
    rw [prepared] at attempts
    cases attempts
    exact writtenAhead_before.idle (loading.trans closing)
  | ok p =>
    rw [prepared] at attempts
    obtain ⟨walked, v, walks, keeps⟩ := proceed_some attempts
    refine WrittenAhead.idle ?_ ((idlesTo_keepPockets keeps).trans closing)
    unfold walkFrom at walks
    cases found : p.definitions.way? c.way with
    | none =>
      rw [found] at walks
      cases walks
      exact writtenAhead_before.idle loading
    | some way =>
      rw [found] at walks
      obtain ⟨⟨ended, x⟩, ends, same⟩ := Option.bind_eq_some_iff.mp walks
      cases same
      exact stages p way _ prepared found (Walk.reaches_of_walk ends)

theorem written_ahead_stubborn : ∃ result t, once .standard 130 (stubbornState 3) = some (result, t) ∧
    WrittenAhead .standard stubbornCursor (stubbornState 3) t.workspace.journal := by
  have settled : loadSettings.answer (stubbornState 3).workspace.files = .ok {} := by decide +kernel
  obtain ⟨result, t, returned⟩ := stubborn_returns (by decide +kernel : (stubbornWalk 3).isSome)
  obtain ⟨-, written⟩ := written_ahead .standard (s := stubbornState 3) stubborn_loads rfl stubborn_replaceable settled rfl
  exact ⟨result, t, returned, written 130 result t returned⟩

end Wayfarer.Run
