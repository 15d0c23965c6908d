import Wayfarer.Pockets

/-!
# What is found in the store

Under each name the store has what was last written there, and no write takes a name away.
-/

namespace Wayfarer.Pockets

theorem find?_write (p : Pocket) (cells : List Pocket) (name : String) :
    (write p cells).find? (·.name == name) = if p.name = name then some p else cells.find? (·.name == name) := by
  induction cells with
  | nil => by_cases here : p.name = name <;> simp [write, here]
  | cons q rest ih =>
    rw [write]
    by_cases before : p.name < q.name
    · rw [if_pos before]
      by_cases here : p.name = name <;> simp [here]
    · rw [if_neg before]
      by_cases behind : q.name < p.name
      · rw [if_pos behind, List.find?_cons, List.find?_cons, ih]
        by_cases there : q.name = name
        · have elsewhere : p.name ≠ name := fun here => String.lt_irrefl name (by rwa [here, there] at behind)
          simp [there, elsewhere]
        · simp only [beq_false_of_ne there]
      · have same := name_eq_of_not_lt before behind
        rw [if_neg behind]
        by_cases here : p.name = name
        · simp [here]
        · simp [here, ← same]

theorem get?_put (s : Pockets) (p : Pocket) (name : String) :
    (s.put p).get? name = if p.name = name then some p.content else s.get? name := by
  unfold get? put
  rw [find?_write]
  split <;> rfl

/-- Every name that one store has a pocket for is found in the other. -/
def Within (s t : Pockets) : Prop :=
  ∀ name, (s.get? name).isSome → (t.get? name).isSome

theorem Within.refl (s : Pockets) : s.Within s := fun _ there => there

theorem Within.trans {s t u : Pockets} (first : s.Within t) (second : t.Within u) : s.Within u :=
  fun name there => second name (first name there)

theorem Within.absent {s t : Pockets} (h : s.Within t) {name : String} (absent : t.get? name = none) :
    s.get? name = none := by
  refine Option.not_isSome_iff_eq_none.mp fun there => ?_
  have found := h name there
  rw [absent] at found
  cases found

theorem within_put (s : Pockets) (p : Pocket) : s.Within (s.put p) := by
  intro name there
  rw [get?_put]
  split
  · rfl
  · exact there

theorem isSome_get?_seed (s : Pockets) (records : List Pocket) (name : String) :
    ((s.seed records).get? name).isSome ↔ (∃ p ∈ records, p.name = name) ∨ (s.get? name).isSome := by
  induction records generalizing s with
  | nil => simp [seed]
  | cons p rest ih =>
    rw [seed, List.foldl_cons, ← seed, ih, get?_put]
    by_cases here : p.name = name <;> simp [here]

/-! ### Writing what is there already -/

theorem write_of_mem {p : Pocket} {cells : List Pocket} (ascending : cells.Pairwise (·.name < ·.name)) (there : p ∈ cells) :
    write p cells = cells := by
  induction cells with
  | nil => cases there
  | cons q rest ih =>
    obtain ⟨before, others⟩ := List.pairwise_cons.mp ascending
    rw [write]
    rcases List.mem_cons.mp there with rfl | behind
    · rw [if_neg (String.lt_irrefl _), if_neg (String.lt_irrefl _)]
    · have greater := before p behind
      rw [if_neg (String.lt_asymm greater), if_pos greater, ih others behind]

/-- A cell of a greater name comes to stand at the end. -/
theorem write_of_greater {p : Pocket} {cells : List Pocket} (greater : ∀ q ∈ cells, q.name < p.name) :
    write p cells = cells ++ [p] := by
  induction cells with
  | nil => rfl
  | cons q rest ih =>
    obtain ⟨here, others⟩ := List.forall_mem_cons.mp greater
    rw [write, if_neg (String.lt_asymm here), if_pos here, ih others, List.cons_append]

theorem seed_self (s : Pockets) : s.seed s.cells = s := by
  have put_own : ∀ p ∈ s.cells, s.put p = s := fun p there => by
    rw [put]
    congr
    exact write_of_mem s.ascending there
  have all : ∀ records : List Pocket, (∀ p ∈ records, p ∈ s.cells) → s.seed records = s := by
    intro records own
    induction records with
    | nil => rfl
    | cons p records ih =>
      obtain ⟨here, others⟩ := List.forall_mem_cons.mp own
      rw [seed, List.foldl_cons, put_own p here]
      exact ih others
  exact all s.cells fun _ there => there

/-- A store is what becomes of an empty one with its pockets. -/
theorem seeded_cells (s : Pockets) : seeded s.cells = s := by
  have grows : ∀ (records : List Pocket) (t : Pockets), (t.cells ++ records).Pairwise (·.name < ·.name) →
      (t.seed records).cells = t.cells ++ records := by
    intro records
    induction records with
    | nil => exact fun t _ => (List.append_nil _).symm
    | cons p records ih =>
      intro t ascending
      have greater : ∀ q ∈ t.cells, q.name < p.name := fun q there =>
        (List.pairwise_append.mp ascending).2.2 q there p List.mem_cons_self
      have placed : (t.put p).cells = t.cells ++ [p] := write_of_greater greater
      have later := ih (t.put p) (by rw [placed, List.append_assoc]; exact ascending)
      rw [seed, List.foldl_cons, ← seed, later, placed, List.append_assoc]
      rfl
  have same : (seeded s.cells).cells = s.cells := grows s.cells empty s.ascending
  obtain ⟨cells, ascending⟩ := s
  cases found : seeded cells with
  | mk others _ =>
    rw [found] at same
    cases same
    rfl

end Wayfarer.Pockets
