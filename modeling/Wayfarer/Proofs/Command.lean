import Wayfarer.Command.Request
import Wayfarer.Proofs.Spot.Dotted

/-!
# What command lines carry

Budgets and positions on a command line are numerals, so the numbers that a command is given fit into
their types.
-/

namespace Wayfarer

theorem Spot.parse_lt {raw : String} {spot : Spot} (h : parse raw = .ok spot) : ∀ i ∈ spot.path, i < Text.wordBound := by
  obtain ⟨_, parts, _, _, _, _, _, numerals⟩ := parse_eq_ok.mp h
  have bounded : List.Forall₂ (fun i part => i < Text.wordBound ∧ Text.Numeral part i) spot.path parts :=
    List.Forall₂.flip (numerals.imp fun _ _ h => h.symm)
  exact ((List.forall₂_and_left _ _).mp bounded).1

namespace Command

theorem number?_lt {text : String} {n : Nat} (h : number? text = some n) : n < Text.halfWordBound := by
  unfold number? at h
  split at h
  · split at h
    · split at h
      · cases h
      · cases h
        decide
    · cases h
  · split at h
    · rename_i read
      cases h
      exact Text.readNumeral_lt (by decide) read
    · cases h

theorem spot?_lt {text : String} {spot : Spot} (h : spot? text = some spot) :
    ∀ i ∈ spot.path, i < Text.wordBound := by
  unfold spot? at h
  split at h
  · rename_i read
    cases h
    exact Spot.parse_lt read
  · cases h

theorem optional_some {read : String → Option α} {text : Option String} {a : α}
    (h : optional read text = some (some a)) : ∃ t, read t = some a := by
  unfold optional at h
  split at h
  · cases h
  · rename_i t
    exact ⟨t, by simpa using h⟩

/-- The numbers of a command are those of its options. -/
structure Bounded (limit : Option Nat) (spot : Option Spot) : Prop where
  limit : ∀ n, limit = some n → n < Text.halfWordBound
  spot : ∀ s, spot = some s → ∀ i ∈ s.path, i < Text.wordBound

theorem bounded_of_build {name raw : String} {r : Reading} {limit : Option Nat} {spot : Option Spot}
    (h : build name r = some (.arm raw limit spot)) : Bounded limit spot := by
  unfold build at h
  split at h
  · cases h
  · cases h
  · simp only [Option.bind_eq_bind, Option.bind_eq_some_iff] at h
    obtain ⟨l, readLimit, s, readSpot, same⟩ := h
    cases same
    constructor
    · rintro n rfl
      obtain ⟨text, read⟩ := optional_some readLimit
      exact number?_lt read
    · rintro s rfl
      obtain ⟨text, read⟩ := optional_some readSpot
      exact spot?_lt read
  · cases h
  · cases h
  · simp only [Option.bind_eq_bind, Option.bind_eq_some_iff] at h
    obtain ⟨_, -, same⟩ := h
    cases same
  · cases h

end Command

namespace Request

open Command

theorem build_of_ofCommand {noPause : Bool} {name : String} {args : List String} {i : Invocation}
    (h : ofCommand noPause name args = some (.invoke i)) : ∃ name r, build name r = some i.command := by
  simp only [ofCommand, Option.bind_eq_bind, Option.bind_eq_some_iff] at h
  obtain ⟨slots, -, r, -, h⟩ := h
  split at h
  · cases h
  · obtain ⟨c, built, same⟩ := Option.bind_eq_some_iff.mp h
    cases same
    exact ⟨name, r, built⟩

theorem build_of_read {r : Reading} {args : List String} {i : Invocation} (h : read r args = some (.invoke i)) :
    ∃ name r, build name r = some i.command := by
  induction args generalizing r with
  | nil => cases h
  | cons arg rest ih =>
    simp only [read] at h
    split at h
    · split at h
      · unfold ofHelp at h
        split at h
        · cases h
        · split at h <;> cases h
        · cases h
      · exact build_of_ofCommand h
    · cases h
    · obtain ⟨next, -, h⟩ := Option.bind_eq_some_iff.mp h
      split at h
      · cases h
      · split at h
        · cases h
        · exact ih h

/-- A command that is understood was built from what was read behind its name. -/
theorem build_of_ofArguments {args : List String} {i : Invocation} (h : ofArguments args = .invoke i) :
    ∃ name r, build name r = some i.command := by
  unfold ofArguments at h
  cases understood : read {} args with
  | none => rw [understood] at h; cases h
  | some request =>
    rw [understood] at h
    cases h
    exact build_of_read understood

end Request

end Wayfarer
