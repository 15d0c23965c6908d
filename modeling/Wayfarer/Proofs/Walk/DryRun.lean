import Wayfarer.Page.Narrated
import Wayfarer.Page.Scripted
import Wayfarer.Proofs.Routine
import Wayfarer.Proofs.Walk.Deeds
import Wayfarer.Proofs.Walk.Tandem

/-!
# Walks without a browser

On pages that answer alike a walk by routines does the same: it comes to the same end by the same positions and
leaves the same pockets. A page that only narrates its calls answers like one with an empty script, so that a walk on
it shows what one on the other would do.
-/

namespace Wayfarer

section

variable [Page π] [Page ρ] {R : π → ρ → Prop} (alike : Page.AnswerAlike R)

include alike

theorem runStep_twins (d : Definitions) (routines : Routines) (id : Ident) (ordinal : Nat) {s : Session π} {t : Session ρ}
    (h : s.Twins R t) :
    (runStep d routines.table id ordinal s).1 = (runStep d routines.table id ordinal t).1 ∧
      (runStep d routines.table id ordinal s).2.Twins R (runStep d routines.table id ordinal t).2 := by
  unfold runStep
  cases d.step? id with
  | none => exact ⟨rfl, h⟩
  | some step =>
    have begun := h.note (.running ordinal step)
    simp only [Routines.table]
    cases routines step.action with
    | none => exact ⟨rfl, begun⟩
    | some routine =>
      obtain ⟨same, after⟩ := (routine step).run_twins alike begun
      simp only [Option.map_some]
      cases left : ((routine step).run : Act π Unit) (s.note (.running ordinal step)) with
      | mk result s' =>
        cases right : ((routine step).run : Act ρ Unit) (t.note (.running ordinal step)) with
        | mk other t' =>
          rw [left, right] at same after
          cases same
          cases result with
          | error f => exact ⟨rfl, after.note _⟩
          | ok => exact ⟨rfl, after⟩

end

namespace Walk

/-- The journal but for narrations. -/
def quiet (journal : Array (Moment ω)) : List (Moment ω) :=
  journal.toList.filter fun m => !m.event.isNarration

theorem quiet_append (journal more : Array (Moment ω)) : quiet (journal ++ more) = quiet journal ++ quiet more := by
  simp only [quiet, Array.toList_append, List.filter_append]

theorem quiet_map (events : Array Event) (world : ω) :
    quiet (events.map (⟨·, world⟩)) = (unnarrated events.toList).map (⟨·, world⟩) := by
  simp only [quiet, unnarrated, Array.toList_map, List.filter_map, Function.comp_def]

/-- The positions that a journal tells of, in order. -/
def positions (journal : Array (Moment ω)) : List Spot :=
  journal.toList.filterMap fun m =>
    match m.event with
    | .reached spot => some spot
    | _ => none

/-- The states differ at most in their pages, which are related, and in what is narrated of the calls. -/
structure State.Twins (R : π → ρ → Prop) (s : State π ω) (t : State ρ ω) : Prop where
  page : R s.page t.page
  pockets : s.pockets = t.pockets
  settle : s.settle = t.settle
  world : s.world = t.world
  stats : s.stats = t.stats
  journal : quiet s.journal = quiet t.journal

theorem State.Twins.positions_eq {R : π → ρ → Prop} {s : State π ω} {t : State ρ ω} (h : s.Twins R t) :
    positions s.journal = positions t.journal := by
  have told : ∀ journal : Array (Moment ω), positions journal = (quiet journal).filterMap fun m =>
      match m.event with
      | .reached spot => some spot
      | _ => none := by
    intro journal
    rw [quiet, List.filterMap_filter, positions]
    refine List.filterMap_congr fun m _ => ?_
    cases m.event <;> rfl
  rw [told, told, h.journal]

section

variable {R : π → ρ → Prop} {s : State π ω} {t : State ρ ω}

theorem State.Twins.note (h : s.Twins R t) (e : Event) : (s.note e).Twins R (t.note e) := by
  refine ⟨h.page, h.pockets, h.settle, h.world, h.stats, ?_⟩
  simp only [State.note, Array.push_eq_append, quiet_append, h.journal, h.world]

theorem State.Twins.spent (h : s.Twins R t) (step : Ident) (left : Nat) : (s.spent step left).Twins R (t.spent step left) := by
  have counted : State.Twins R { s with stats := { s.stats with recoveries := s.stats.recoveries + 1 } }
      { t with stats := { t.stats with recoveries := t.stats.recoveries + 1 } } :=
    ⟨h.page, h.pockets, h.settle, h.world, by rw [h.stats], h.journal⟩
  exact counted.note _

/-- A setting in which walks are made by routines. -/
def routineSetting [Page π] (d : Definitions) (routines : Routines) (keep : Spot → ω → ω × Array (Moment ω)) :
    Setting π ω where
  definitions := d
  actions := routines.table
  keep := keep

variable [Page π] [Page ρ] (d : Definitions) (routines : Routines) (keep : Spot → ω → ω × Array (Moment ω))

theorem State.Twins.reach (h : s.Twins R t) (spot : Spot) :
    (s.reach (routineSetting d routines keep) spot).Twins R (t.reach (routineSetting d routines keep) spot) := by
  have begun := h.note (.reached spot)
  refine ⟨h.page, h.pockets, h.settle, ?_, ?_, ?_⟩
  · simp only [State.reach, routineSetting, begun.world]
  · simp only [State.reach, routineSetting, begun.stats]
  · simp only [State.reach, routineSetting, quiet_append, begun.journal, begun.world]

variable (alike : Page.AnswerAlike R)

include alike

theorem perform_twins (h : s.Twins R t) (outer : List Nat) (index : Nat) (target : Ident) :
    (s.perform (routineSetting d routines keep) outer index target).1 =
        (t.perform (routineSetting d routines keep) outer index target).1 ∧
      (s.perform (routineSetting d routines keep) outer index target).2.Twins R
        (t.perform (routineSetting d routines keep) outer index target).2 := by
  have reached := h.reach d routines keep (.ofPath (outer ++ [index]))
  have sessions : s.session.Twins R
      t.session := ⟨h.page, h.pockets, h.settle, rfl⟩
  obtain ⟨same, ran⟩ := runStep_twins alike d routines target index sessions
  refine ⟨same, ran.page, ran.pockets, ran.settle, reached.world, reached.stats, ?_⟩
  have told : ∀ {σ : Type} [Page σ] (u : State σ ω),
      quiet (u.perform (routineSetting d routines keep) outer index target).2.journal =
        quiet (u.reach (routineSetting d routines keep) (.ofPath (outer ++ [index]))).journal ++
          (unnarrated (runStep d routines.table target index
              u.session).2.events.toList).map
            (⟨·, (u.reach (routineSetting d routines keep) (.ofPath (outer ++ [index]))).world⟩) := by
    intro σ _ u
    rw [← quiet_map, ← quiet_append]
    rfl
  rw [told, told, reached.journal, reached.world, ran.events]

theorem walk_twins (depth : Nat) (outer : List Nat) (way : Way) (spot : Spot) (limit : Nat) :
    Tandem (State.Twins R) (walk (routineSetting d routines keep : Setting π ω) depth outer way spot limit)
      (walk (routineSetting d routines keep : Setting ρ ω) depth outer way spot limit) := by
  have concur : Concur (State.Twins R) (routineSetting d routines keep : Setting π ω)
      (routineSetting d routines keep : Setting ρ ω) := by
    refine concur_of_performed rfl ?_ ?_ ?_ ?_
    · exact fun target _ _ twins => by rw [twins.pockets]
    · exact fun e _ _ twins => twins.note e
    · exact fun step left _ _ twins => twins.spent step left
    · exact fun outer index target _ _ twins => perform_twins d routines keep alike twins outer index target
  exact walk_tandem concur (fun _ _ _ _ _ twins => twins.note _) depth outer way spot limit

end

/-- A page that narrates answers like one with an empty script. -/
theorem answerAlike_narrated : Page.AnswerAlike fun (_ : NarratedPage) (q : ScriptedPage) => q = {} := by
  rintro call p _ rfl
  cases call <;> exact ⟨rfl, rfl⟩

/-- Every table of built-in actions consists of routines. With whatever routines, a walk on a page that only narrates
its calls and one on a page with an empty script, from the same store and the same pause behind a navigation in the same
world, both come to the same end or both to none: with the same counters, the same positions, the same store, pause and
world, and the same journal but for the narrations. -/
theorem dry_run_faithful :
    (∃ routines : Routines, ∀ (π : Type) [Page π], (routines.table : ActionTable π) = .standard) ∧
    (∀ kinds, ∃ routines : Routines, ∀ (π : Type) [Page π], (routines.table : ActionTable π) = .only kinds) ∧
    ∀ (d : Definitions) (routines : Routines) {ω : Type} (keep : Spot → ω → ω × Array (Moment ω)) (depth : Nat)
      (root : Way) (spot : Spot) (limit : Nat) (pockets : Pockets) (settle : Nat) (world : ω),
      Option.Rel
        (fun (ends : Except WalkError Unit × State NarratedPage ω) (also : Except WalkError Unit × State ScriptedPage ω) =>
          ends.1 = also.1 ∧ ends.2.stats = also.2.stats ∧ positions ends.2.journal = positions also.2.journal ∧
            ends.2.pockets = also.2.pockets ∧ ends.2.settle = also.2.settle ∧ ends.2.world = also.2.world ∧
              quiet ends.2.journal = quiet also.2.journal)
        (walk (routineSetting d routines keep) depth [] root spot limit { page := {}, pockets, settle, world })
        (walk (routineSetting d routines keep) depth [] root spot limit { page := {}, pockets, settle, world }) := by
  refine ⟨Routines.exists_standard, Routines.exists_only, ?_⟩
  intro d routines ω keep depth root spot limit pockets settle world
  have together := walk_twins d routines keep answerAlike_narrated depth [] root spot limit
    { page := {}, pockets, settle, world } { page := {}, pockets, settle, world } ⟨rfl, rfl, rfl, rfl, rfl, rfl⟩
  generalize walk _ depth [] root spot limit _ = narrated at together ⊢
  generalize walk _ depth [] root spot limit _ = scripted at together ⊢
  cases together with
  | none => exact .none
  | some both =>
    obtain ⟨same, twins⟩ := both
    exact .some ⟨same, twins.stats, twins.positions_eq, twins.pockets, twins.settle, twins.world, twins.journal⟩

end Walk

end Wayfarer
