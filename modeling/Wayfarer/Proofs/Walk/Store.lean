import Wayfarer.Page.Scripted
import Wayfarer.Proofs.Walk.References

/-!
# Actions and the store

An action writes as its last deed, and at most the one pocket that it names. So what fails has written
nothing, a catch way finds the store as the failed step has found it, and no walk takes a pocket away.
-/

namespace Wayfarer

theorem pockets_of_caught [Page π] {d : Definitions} {actions : ActionTable π} (builtIn : actions.BuiltIn) {id : Ident}
    {ordinal : Nat} {s : Session π} {way : Way} (caught : (runStep d actions id ordinal s).1 = .ok (some way)) :
    (runStep d actions id ordinal s).2.pockets = s.pockets := by
  obtain ⟨step, ⟨found, action, failure, t, known, failed⟩, -⟩ := runStep_eq_catchWay.mp caught
  obtain ⟨like, rfl⟩ := builtIn _ action known
  have behind : (runStep d actions id ordinal s).2 = t.note (.stepFailed step.id failure) := by
    unfold runStep
    simp only [found, known, failed]
  have kept : t.pockets = (s.note (.running ordinal step)).pockets := Action.pockets_of_error failed
  rw [behind]
  exact kept

namespace Walk

open Stage

section

variable {w : Setting π ω} {a : Activation} {outer : List Activation} {s : State π ω} {target : Ident} {step : Step}

theorem pockets_of_fails [Page π] (builtIn : w.actions.BuiltIn) {indices : List Nat} {index limit : Nat} {t : State π ω}
    {decided : Except WalkError Move} (fails : StepFails w.definitions w.actions target index s.session step)
    (decides : Decides w indices index target limit s decided t) : t.pockets = s.pockets := by
  have caught : (runStep w.definitions w.actions target index s.session).1 = .ok (some step.catchWay) :=
    runStep_eq_catchWay.mpr ⟨step, fails, rfl⟩
  have kept : (s.perform w indices index target).2.pockets = s.pockets := pockets_of_caught builtIn caught
  rw [view_of_decides (f := fun s => s.pockets) (fun _ _ _ => rfl) (fun _ _ => rfl) decides, kept, ite_self]

theorem pockets_next_of_fails [Page π] (builtIn : w.actions.BuiltIn) (place : a.At target)
    (fails : StepFails w.definitions w.actions target a.index s.session step) :
    (next w (.walking (a :: outer) s)).state.pockets = s.pockets := by
  rw [next_of_at place]
  cases decided : meet w (indices outer) a.index target a.left s with
  | mk result t =>
    have kept := pockets_of_fails builtIn fails (decides_of_meet decided)
    rcases result with _ | _ | _ | _ <;> exact kept

theorem next_of_fails (place : a.At target) (kind : target.kind = .step)
    (fails : StepFails w.definitions w.actions target a.index s.session step) (something : step.onFailure ≠ [])
    {left : Nat} (cost : left + 1 = a.left) :
    ∃ t, next w (.walking (a :: outer) s) = enter step.catchWay a.inner left (a.recovering left :: outer) t := by
  have caught : (s.perform w (indices outer) a.index target).1 = .ok (some step.catchWay) :=
    runStep_eq_catchWay.mpr ⟨step, fails, rfl⟩
  rw [next_of_at place, meet_of_decides (.recovered kind (Prod.ext caught rfl) something cost)]
  exact ⟨_, rfl⟩

end

/-- An action that fails leaves the store as it was, and one that succeeds leaves every pocket as it was but the
one that its kind writes, if it writes any. So a walk with the built-in actions never loses a pocket, and behind a
step that fails the store is the one in which the step was run, in the catch way of the step, where that is entered,
as well as behind the step. -/
theorem store_atomic [Page π] :
    (∀ (kind : ActionKind) (step : Step) (s t : Session π),
      (∀ failure, Action.ofKind kind step s = (.error failure, t) → t.pockets = s.pockets) ∧
        (Action.ofKind kind step s = (.ok (), t) →
          (∀ name, Action.written step kind ≠ some name → t.pockets.get? name = s.pockets.get? name) ∧
            (Action.written step kind = none → t.pockets = s.pockets))) ∧
      ∀ w : Setting π ω, w.actions.BuiltIn →
        (∀ c d, Reaches w c d → c.state.pockets.Within d.state.pockets) ∧
          ∀ a outer s target step, a.At target → target.kind = .step →
            StepFails w.definitions w.actions target a.index s.session step →
              (next w (.walking (a :: outer) s)).state.pockets = s.pockets ∧
                ∀ left, left + 1 = a.left → step.onFailure ≠ [] →
                  ∃ t, next w (.walking (a :: outer) s) = enter step.catchWay a.inner left (a.recovering left :: outer) t := by
  refine ⟨fun kind step s t => ⟨fun failure failed => Action.pockets_of_error failed, fun done => ⟨?_, ?_⟩⟩, ?_⟩
  · intro name elsewhere
    have kept := Action.get?_ofKind elsewhere s
    rwa [done] at kept
  · intro nothing
    have spared := Action.spares_of_unwritten nothing s
    rwa [done] at spared
  · intro w builtIn
    refine ⟨fun c d reached => within_of_retains builtIn.retains reached, fun a outer s target step place kind fails => ?_⟩
    exact ⟨pockets_next_of_fails builtIn place fails, fun left cost something => next_of_fails place kind fails something cost⟩

/-! ### A text that cannot be read -/

def copying : Step where
  id := .step "copy"
  description := ""
  action := .copyText
  selector := "#a"
  pocket := "k"
  onFailure := [.step "copy"]

def unreadable : Setting ScriptedPage Unit where
  definitions := { steps := [copying] }
  actions := .standard

/-- The element is there, but its text is not told. -/
def unreadableStart : State ScriptedPage Unit where
  page := { texts := [("#a", "new")], refused := [("read", "#a")] }
  pockets := .seeded [⟨"k", "old"⟩]
  settle := 0
  world := ()

def unreadableStand : Activation :=
  .begin { id := .way "main", description := "", repeats := 1, steps := [.step "copy"] } .start 1

theorem store_atomic_unread :
    (next unreadable (.walking [unreadableStand] unreadableStart)).state.pockets = unreadableStart.pockets ∧
      ∃ t, next unreadable (.walking [unreadableStand] unreadableStart) =
        enter copying.catchWay .start 0 [unreadableStand.recovering 0] t := by
  have caught : (runStep unreadable.definitions unreadable.actions (.step "copy") 0 unreadableStart.session).1 =
      .ok (some copying.catchWay) := by rfl
  obtain ⟨step, fails, -⟩ := runStep_eq_catchWay.mp caught
  cases fails.found
  obtain ⟨-, walks⟩ := store_atomic (π := ScriptedPage) (ω := Unit)
  obtain ⟨-, failing⟩ := walks unreadable ActionTable.builtIn_standard
  obtain ⟨kept, enters⟩ := failing unreadableStand [] unreadableStart (.step "copy") copying ⟨by decide, rfl⟩ rfl fails
  exact ⟨kept, enters 0 rfl (by decide)⟩

end Walk

end Wayfarer
