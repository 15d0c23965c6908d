import Wayfarer.Proofs.Walk.Moves

/-!
# Decisions

At a reference one of a few things is decided, and each of them says what made it so.
-/

namespace Wayfarer

/-- The action of the step that `id` names is run in this session and fails. -/
structure StepFails (d : Definitions) (actions : ActionTable π) (id : Ident) (ordinal : Nat) (s : Session π)
    (step : Step) : Prop where
  found : d.step? id = some step
  fails : ∃ action failure t, actions step.action = some action ∧
    action step (s.note (.running ordinal step)) = (.error failure, t)

theorem runStep_keeps {d : Definitions} {actions : ActionTable π} {id : Ident} {motive : Session π → Prop}
    (noted : ∀ s e, motive s → motive (s.note e))
    (acted : ∀ step action, d.step? id = some step → actions step.action = some action →
      ∀ s, motive s → motive (action step s).2)
    (ordinal : Nat) {s : Session π} (here : motive s) : motive (runStep d actions id ordinal s).2 := by
  unfold runStep
  cases found : d.step? id with
  | none => exact here
  | some step =>
    have begun := noted s (.running ordinal step) here
    simp only
    cases known : actions step.action with
    | none => exact begun
    | some action =>
      have done := acted step action found known _ begun
      simp only
      cases ran : action step (s.note (.running ordinal step)) with
      | mk result t =>
        rw [ran] at done
        cases result with
        | ok => exact done
        | error failure => exact noted t _ done

theorem runStep_eq_catchWay {d : Definitions} {actions : ActionTable π} {id : Ident} {ordinal : Nat} {s : Session π}
    {way : Way} :
    (runStep d actions id ordinal s).1 = .ok (some way) ↔
      ∃ step, StepFails d actions id ordinal s step ∧ step.catchWay = way := by
  unfold runStep
  constructor
  · intro ran
    cases found : d.step? id with
    | none =>
      rw [found] at ran
      cases ran
    | some step =>
      simp only [found] at ran
      cases known : actions step.action with
      | none =>
        simp only [known] at ran
        cases ran
      | some action =>
        simp only [known] at ran
        cases done : action step (s.note (.running ordinal step)) with
        | mk result t =>
          cases result with
          | ok =>
            simp only [done] at ran
            cases ran
          | error failure =>
            simp only [done] at ran
            cases ran
            exact ⟨step, ⟨found, action, failure, t, known, done⟩, rfl⟩
  · rintro ⟨step, ⟨found, action, failure, t, known, done⟩, rfl⟩
    simp only [found, known, done]

theorem runStep_eq_error {d : Definitions} {actions : ActionTable π} {id : Ident} {ordinal : Nat} {s : Session π}
    {e : WalkError} :
    (runStep d actions id ordinal s).1 = .error e ↔
      (d.step? id = none ∧ e = .unknownStep id) ∨
        ∃ step, d.step? id = some step ∧ actions step.action = none ∧ e = .missingAction step.id step.action := by
  unfold runStep
  cases found : d.step? id with
  | none => simp [eq_comm]
  | some step =>
    cases known : actions step.action with
    | none => simp [known, eq_comm]
    | some action =>
      rcases ran : action step (s.note (.running ordinal step)) with ⟨_ | failure, t⟩ <;> simp [known, ran]

theorem Definitions.resolve_eq_error {d : Definitions} {pockets : Pockets} {id : Ident} {e : WalkError} :
    d.resolve pockets id = .error e ↔
      (d.detour? id = none ∧ e = .unknownDetour id) ∨
        ∃ detour, d.detour? id = some detour ∧
          (pockets.get? detour.pocket = none ∧ e = .missingPocket detour.id detour.pocket ∨
            ∃ content, pockets.get? detour.pocket = some content ∧ detour.select? content = none ∧
              e = .noEntry detour.id content) := by
  unfold Definitions.resolve
  cases found : d.detour? id with
  | none => simp [eq_comm, throw, throwThe, MonadExceptOf.throw]
  | some detour =>
    cases there : pockets.get? detour.pocket with
    | none => simp [there, eq_comm, throw, throwThe, MonadExceptOf.throw]
    | some content =>
      cases chosen : detour.select? content with
      | none => simp [there, chosen, eq_comm, throw, throwThe, MonadExceptOf.throw]
      | some entry => simp [there, chosen, pure, Except.pure]

theorem Definitions.detour_of_resolve {d : Definitions} {pockets : Pockets} {id : Ident} {branch : Branch}
    (h : d.resolve pockets id = .ok branch) :
    d.detour? id = some branch.detour ∧ branch.entry ∈ branch.detour.entries := by
  unfold resolve at h
  cases found : d.detour? id with
  | none => rw [found] at h; cases h
  | some detour =>
    simp only [found] at h
    cases content : pockets.get? detour.pocket with
    | none => simp only [content] at h; cases h
    | some content' =>
      simp only [content] at h
      cases chosen : detour.select? content' with
      | none => simp only [chosen] at h; cases h
      | some entry =>
        simp only [chosen] at h
        cases h
        refine ⟨rfl, ?_⟩
        rw [Detour.select?, Option.orElse_eq_orElse, Option.orElse_eq_or, Option.or_eq_some_iff] at chosen
        rcases chosen with matched | ⟨-, default⟩
        · exact List.mem_of_find?_eq_some matched
        · exact List.mem_of_find?_eq_some default

namespace Walk

def State.perform (w : Setting π ω) (outer : List Nat) (index : Nat) (target : Ident) (s : State π ω) :
    Except WalkError (Option Way) × State π ω :=
  (s.reach w (.ofPath (outer ++ [index]))).act w target index

inductive Decides (w : Setting π ω) (outer : List Nat) (index : Nat) (target : Ident) (limit : Nat) (s : State π ω) :
    Except WalkError Move → State π ω → Prop where
  | unrunnable {e t} (kind : target.kind = .step) (ran : s.perform w outer index target = (.error e, t)) :
    Decides w outer index target limit s (.error e) t
  | succeeded {t} (kind : target.kind = .step) (ran : s.perform w outer index target = (.ok none, t)) :
    Decides w outer index target limit s (.ok .advance) t
  | dismissed {way t} (kind : target.kind = .step) (ran : s.perform w outer index target = (.ok (some way), t))
    (nothing : way.steps = []) : Decides w outer index target limit s (.ok .advance) t
  | exhausted {way t} (kind : target.kind = .step) (ran : s.perform w outer index target = (.ok (some way), t))
    (something : way.steps ≠ []) (spent : limit = 0) :
    Decides w outer index target limit s (.error (.budgetExhausted target)) t
  | recovered {way t left} (kind : target.kind = .step) (ran : s.perform w outer index target = (.ok (some way), t))
    (something : way.steps ≠ []) (cost : left + 1 = limit) :
    Decides w outer index target limit s (.ok (.recover way left)) (t.spent target left)
  | noWay (kind : target.kind = .way) (absent : w.definitions.way? target = none) :
    Decides w outer index target limit s (.error (.unknownWay target)) s
  | way {way} (kind : target.kind = .way) (found : w.definitions.way? target = some way) :
    Decides w outer index target limit s (.ok (.enter way)) s
  | noBranch {e} (kind : target.kind = .detour) (fails : w.definitions.resolve s.pockets target = .error e) :
    Decides w outer index target limit s (.error e) s
  | branch {branch} (kind : target.kind = .detour) (chosen : w.definitions.resolve s.pockets target = .ok branch) :
    Decides w outer index target limit s (.ok (.enter branch.way)) (s.note branch.event)

theorem decides_of_meet {w : Setting π ω} {outer : List Nat} {index : Nat} {target : Ident} {limit : Nat} {s t : State π ω}
    {decided : Except WalkError Move} (h : meet w outer index target limit s = (decided, t)) :
    Decides w outer index target limit s decided t := by
  unfold meet at h
  cases kind : target.kind with
  | step =>
    rw [kind] at h
    simp only at h
    cases ran : s.perform w outer index target with
    | mk result u =>
      rw [show (s.reach w (.ofPath (outer ++ [index]))).act w target index = (result, u) from ran] at h
      rcases result with e | _ | way
      · cases h
        exact .unrunnable kind ran
      · cases h
        exact .succeeded kind ran
      · simp only [respond] at h
        by_cases nothing : way.steps = []
        · rw [if_pos (List.isEmpty_iff.mpr nothing)] at h
          cases h
          exact .dismissed kind ran nothing
        · rw [if_neg (mt List.isEmpty_iff.mp nothing)] at h
          cases limit with
          | zero =>
            cases h
            exact .exhausted kind ran nothing rfl
          | succ left =>
            cases h
            exact .recovered kind ran nothing rfl
  | way =>
    rw [kind] at h
    simp only at h
    cases found : w.definitions.way? target with
    | none =>
      rw [found] at h
      cases h
      exact .noWay kind found
    | some way =>
      rw [found] at h
      cases h
      exact .way kind found
  | detour =>
    rw [kind] at h
    simp only at h
    cases chosen : w.definitions.resolve s.pockets target with
    | error e =>
      rw [chosen] at h
      cases h
      exact .noBranch kind chosen
    | ok branch =>
      rw [chosen] at h
      cases h
      exact .branch kind chosen

theorem meet_of_decides {w : Setting π ω} {outer : List Nat} {index : Nat} {target : Ident} {limit : Nat} {s t : State π ω}
    {decided : Except WalkError Move} (h : Decides w outer index target limit s decided t) :
    meet w outer index target limit s = (decided, t) := by
  have performed : ∀ {ran}, s.perform w outer index target = ran →
      target.kind = .step → meet w outer index target limit s = respond target limit ran := by
    rintro _ rfl kind
    simp only [meet, kind]
    rfl
  cases h with
  | unrunnable kind ran => exact performed ran kind
  | succeeded kind ran => exact performed ran kind
  | dismissed kind ran nothing =>
    rw [performed ran kind]
    exact if_pos (List.isEmpty_iff.mpr nothing)
  | exhausted kind ran something spent =>
    subst spent
    rw [performed ran kind]
    exact if_neg (mt List.isEmpty_iff.mp something)
  | recovered kind ran something cost =>
    subst cost
    rw [performed ran kind]
    exact if_neg (mt List.isEmpty_iff.mp something)
  | noWay kind absent => simp only [meet, kind, absent]
  | way kind found => simp only [meet, kind, found]
  | noBranch kind fails => simp only [meet, kind, fails]
  | branch kind chosen => simp only [meet, kind, chosen]

/-- What neither notes nor the spending of budget change is, behind a decision, as the step has left it, if one
was run, and as it was if none was. -/
theorem view_of_decides {f : State π ω → α} (spent : ∀ s step left, f (State.spent step left s) = f s)
    (noted : ∀ s e, f (State.note s e) = f s) {w : Setting π ω} {outer : List Nat} {index : Nat} {target : Ident} {limit : Nat}
    {s t : State π ω} {decided : Except WalkError Move} (h : Decides w outer index target limit s decided t) :
    f t = if target.kind = .step then f (s.perform w outer index target).2 else f s := by
  cases h with
  | unrunnable kind ran => rw [if_pos kind, ran]
  | succeeded kind ran => rw [if_pos kind, ran]
  | dismissed kind ran => rw [if_pos kind, ran]
  | exhausted kind ran => rw [if_pos kind, ran]
  | recovered kind ran => rw [if_pos kind, ran, spent]
  | noWay kind => simp [kind]
  | way kind => simp [kind]
  | noBranch kind => simp [kind]
  | branch kind => simp [kind, noted]

end Walk

end Wayfarer
