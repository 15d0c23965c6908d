import Mathlib.Data.List.Forall2

/-!
# Computations over a state that may have no result

Walks and attempts fail with an error, which keeps the state, or have no result at all. Work on files and actions
on pages have a result in any case.
-/

namespace Wayfarer

theorem bind_eq_ok {x : Except ε α} {f : α → Except ε β} {b : β} : x >>= f = .ok b ↔ ∃ a, x = .ok a ∧ f a = .ok b := by
  cases x with
  | error e => exact ⟨fun h => (by cases h), fun ⟨_, h, _⟩ => (by cases h)⟩
  | ok a => exact ⟨fun h => ⟨a, rfl, h⟩, fun ⟨_, same, h⟩ => (by cases same; exact h)⟩

theorem mapError_eq_ok {x : Except ε α} {f : ε → ζ} {a : α} : x.mapError f = .ok a ↔ x = .ok a := by
  cases x with
  | error e => exact ⟨fun h => (by cases h), fun h => (by cases h)⟩
  | ok b => exact ⟨fun h => (by cases h; rfl), fun h => (by cases h; rfl)⟩

theorem mapM_eq_ok {f : α → Except ε β} {xs : List α} {ys : List β} :
    xs.mapM f = .ok ys ↔ List.Forall₂ (fun x y => f x = .ok y) xs ys := by
  induction xs generalizing ys with
  | nil =>
    rw [List.forall₂_nil_left_iff]
    exact ⟨fun h => (Except.ok.inj h).symm, fun h => h ▸ rfl⟩
  | cons x xs ih =>
    rw [List.mapM_cons, bind_eq_ok, List.forall₂_cons_left_iff]
    constructor
    · rintro ⟨y, first, rest⟩
      obtain ⟨others, read, same⟩ := bind_eq_ok.mp rest
      exact ⟨y, others, first, ih.mp read, (Except.ok.inj same).symm⟩
    · rintro ⟨y, others, first, read, rfl⟩
      exact ⟨y, first, bind_eq_ok.mpr ⟨others, ih.mpr read, rfl⟩⟩

theorem total_bind_apply (x : ExceptT ε (StateM σ) α) (f : α → ExceptT ε (StateM σ) β) (s : σ) :
    (x >>= f) s = match x s with
      | (.ok a, t) => f a t
      | (.error e, t) => (.error e, t) := by
  change (ExceptT.bind x f) s = _
  simp only [ExceptT.bind, ExceptT.mk, bind, StateT.bind, ExceptT.bindCont]
  cases x s with
  | mk result t => cases result <;> rfl

theorem total_bind_eq_ok {x : ExceptT ε (StateM σ) α} {f : α → ExceptT ε (StateM σ) β} {s t : σ} {b : β} :
    (x >>= f) s = (.ok b, t) ↔ ∃ a u, x s = (.ok a, u) ∧ f a u = (.ok b, t) := by
  rw [total_bind_apply]
  cases x s with
  | mk result u =>
    cases result with
    | error e => exact ⟨fun h => (by cases h), fun ⟨_, _, h, _⟩ => (by cases h)⟩
    | ok a => exact ⟨fun h => ⟨a, u, rfl, h⟩, fun ⟨_, _, same, h⟩ => (by cases same; exact h)⟩

theorem bind_apply (x : ExceptT ε (StateT σ Option) α) (f : α → ExceptT ε (StateT σ Option) β) (s : σ) :
    (x >>= f) s = match x s with
      | none => none
      | some (.ok a, t) => f a t
      | some (.error e, t) => some (.error e, t) := by
  change (ExceptT.bind x f) s = _
  simp only [ExceptT.bind, ExceptT.mk, bind, StateT.bind, ExceptT.bindCont]
  cases x s with
  | none => rfl
  | some found =>
    obtain ⟨result, t⟩ := found
    cases result <;> rfl

theorem pure_apply (a : α) (s : σ) : (pure a : ExceptT ε (StateT σ Option) α) s = some (.ok a, s) := rfl

/-- What comes first in a computation that has a result has one, and then what follows has. -/
theorem bind_some {x : ExceptT ε (StateT σ Option) α} {f : α → ExceptT ε (StateT σ Option) β} {s t : σ}
    {result : Except ε β} (h : (x >>= f) s = some (result, t)) :
    (∃ a u, x s = some (.ok a, u) ∧ f a u = some (result, t)) ∨ ∃ e, x s = some (.error e, t) ∧ result = .error e := by
  rw [bind_apply] at h
  split at h
  · cases h
  · rename_i a u found
    exact .inl ⟨a, u, found, h⟩
  · rename_i e u found
    cases h
    exact .inr ⟨e, found, rfl⟩

theorem bind_returns {x : ExceptT ε (StateT σ Option) α} {f : α → ExceptT ε (StateT σ Option) β} {s : σ}
    (first : (x s).isSome) (rest : ∀ a u, x s = some (.ok a, u) → (f a u).isSome) : ((x >>= f) s).isSome := by
  rw [bind_apply]
  cases found : x s with
  | none =>
    rw [found] at first
    cases first
  | some pair =>
    obtain ⟨result, u⟩ := pair
    cases result with
    | error e => rfl
    | ok a => exact rest a u found

end Wayfarer
