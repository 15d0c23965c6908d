import Mathlib.Data.Finset.Card
import Wayfarer.Proofs.Octets
import Wayfarer.Proofs.Pockets

/-!
# What writes leave in the store

A store holds the last content written under each name. Its pockets, in the order of their names, are a form of it
that does not depend on the order of the writes: stores with the same contents have the same pockets.
-/

namespace Wayfarer.Pockets

inductive Write where
  | put (name content : String)
  | putPocket (p : Pocket)
  | seed (records : List Pocket)

namespace Write

def apply (s : Pockets) : Write → Pockets
  | put name content => s.put ⟨name, content⟩
  | putPocket p => s.put p
  | seed records => s.seed records

/-- What is written, one pocket after the other. -/
def pockets : Write → List Pocket
  | put name content => [⟨name, content⟩]
  | putPocket p => [p]
  | seed records => records

end Write

/-- The store behind writes to an empty one. -/
def behind (writes : List Write) : Pockets :=
  writes.foldl Write.apply empty

/-- All that the writes write, one pocket after the other. -/
def history (writes : List Write) : List Pocket :=
  writes.flatMap Write.pockets

/-- The pocket is written, and nothing behind it under its name. -/
def Last (p : Pocket) (log : List Pocket) : Prop :=
  ∃ earlier later, log = earlier ++ p :: later ∧ ∀ q ∈ later, q.name ≠ p.name

theorem behind_eq (writes : List Write) : behind writes = seeded (history writes) := by
  have from_any : ∀ s : Pockets, writes.foldl Write.apply s = s.seed (history writes) := by
    induction writes with
    | nil => exact fun s => rfl
    | cons w writes ih =>
      intro s
      have one : Write.apply s w = s.seed w.pockets := by cases w <;> rfl
      rw [List.foldl_cons, ih, one]
      simp only [history, List.flatMap_cons, seed, List.foldl_append]
  exact from_any empty

/-! ### The last write -/

theorem last_cons {p q : Pocket} {log : List Pocket} :
    Last p (q :: log) ↔ Last p log ∨ p = q ∧ ∀ r ∈ log, r.name ≠ p.name := by
  constructor
  · rintro ⟨earlier, later, cut, none⟩
    cases earlier with
    | nil =>
      obtain ⟨rfl, rfl⟩ := List.cons.inj cut
      exact .inr ⟨rfl, none⟩
    | cons r earlier =>
      obtain ⟨-, rfl⟩ := List.cons.inj cut
      exact .inl ⟨earlier, later, rfl, none⟩
  · rintro (⟨earlier, later, rfl, none⟩ | ⟨rfl, none⟩)
    · exact ⟨q :: earlier, later, rfl, none⟩
    · exact ⟨[], log, rfl, none⟩

theorem get?_seed_eq_some {s : Pockets} {log : List Pocket} {name content : String} :
    (s.seed log).get? name = some content ↔
      Last ⟨name, content⟩ log ∨ (∀ p ∈ log, p.name ≠ name) ∧ s.get? name = some content := by
  induction log generalizing s with
  | nil => simp [seed, Last]
  | cons q log ih =>
    rw [seed, List.foldl_cons, ← seed, ih, get?_put, last_cons, List.forall_mem_cons, or_assoc]
    refine or_congr_right ?_
    obtain ⟨written, old⟩ := q
    by_cases here : written = name
    · subst here
      simp [eq_comm, and_comm]
    · simp [here, Ne.symm here]

theorem find?_of_mem {p : Pocket} {cells : List Pocket} (ascending : cells.Pairwise (·.name < ·.name)) (there : p ∈ cells) :
    cells.find? (·.name == p.name) = some p := by
  induction cells with
  | nil => cases there
  | cons q cells ih =>
    obtain ⟨less, ascending⟩ := List.pairwise_cons.mp ascending
    obtain rfl | behind := List.mem_cons.mp there
    · simp
    · have other : q.name ≠ p.name := fun same => String.lt_irrefl p.name (same ▸ less p behind)
      rw [List.find?_cons_of_neg (by simpa using other)]
      exact ih ascending behind

theorem mem_cells_iff {s : Pockets} {p : Pocket} : p ∈ s.cells ↔ s.get? p.name = some p.content := by
  constructor
  · intro there
    rw [get?, find?_of_mem s.ascending there]
    rfl
  · intro found
    obtain ⟨q, held, same⟩ := Option.map_eq_some_iff.mp found
    have name : q.name = p.name := by simpa using List.find?_some held
    have whole : q = p := by
      obtain ⟨_, _⟩ := q
      obtain ⟨_, _⟩ := p
      simp_all
    exact whole ▸ List.mem_of_find?_eq_some held

/-! ### The pockets in their order -/

theorem nodup_names (s : Pockets) : (s.cells.map (·.name)).Nodup :=
  List.pairwise_map.mpr (s.ascending.imp String.ne_of_lt)

/-- The name of `p` does not come behind that of `q`, octet by octet. -/
def sortsBefore (p q : Pocket) : Bool :=
  decide (Text.octets p.name ≤ Text.octets q.name)

theorem eq_of_sortsBefore {s : Pockets} {p q : Pocket} (there : p ∈ s.cells) (also : q ∈ s.cells)
    (first : sortsBefore p q = true) (second : sortsBefore q p = true) : p = q := by
  have name : p.name = q.name := name_eq_of_not_lt
    (fun less => (of_decide_eq_true second) (Text.octets_lt less))
    (fun less => (of_decide_eq_true first) (Text.octets_lt less))
  exact List.inj_on_of_nodup_map s.nodup_names there also name

/-- In whatever order the pockets of a store are taken, to sort them gives one list. -/
theorem mergeSort_of_perm {s : Pockets} {cells : List Pocket} (perm : cells.Perm s.cells) :
    cells.mergeSort sortsBefore = s.cells := by
  have sorted : s.cells.Pairwise (fun p q => sortsBefore p q = true) :=
    s.ascending.imp fun less => decide_eq_true (List.le_of_lt (Text.octets_lt less))
  have same := (List.mergeSort_perm cells sortsBefore).trans perm
  refine List.Perm.eq_of_pairwise (fun p q listed there => eq_of_sortsBefore (same.mem_iff.mp listed) there)
    (List.pairwise_mergeSort ?_ ?_ cells) sorted same
  · intro p q r first second
    exact decide_eq_true (List.le_trans (of_decide_eq_true first) (of_decide_eq_true second))
  · intro p q
    simpa [sortsBefore] using List.le_total (Text.octets p.name) (Text.octets q.name)

theorem cells_eq_iff {s t : Pockets} : s.cells = t.cells ↔ ∀ name, s.get? name = t.get? name := by
  constructor
  · intro same name
    rw [get?, get?, same]
  · intro same
    have perm : s.cells.Perm t.cells :=
      (List.perm_ext_iff_of_nodup s.nodup_names.of_map t.nodup_names.of_map).mpr fun p => by
        rw [mem_cells_iff, mem_cells_iff, same]
    rw [← mergeSort_of_perm (List.Perm.refl s.cells), mergeSort_of_perm perm]

/-- What a store has to be once all of `log` has been written to it: a map in which the last write wins, with one
list of pockets for all that it holds. -/
structure Canonical (s : Pockets) (log : List Pocket) : Prop where
  found : ∀ name content, s.get? name = some content ↔ Last ⟨name, content⟩ log
  absent : ∀ name, s.get? name = none ↔ ∀ p ∈ log, p.name ≠ name
  size : s.size = (log.map (·.name)).toFinset.card
  ascending : s.cells.Pairwise (fun p q => Text.octets p.name < Text.octets q.name)
  once : ∀ p ∈ log, (s.cells.map (·.name)).count p.name = 1
  listed : ∀ p, p ∈ s.cells ↔ Last p log
  /-- The order in which the pockets are kept is immaterial to the list. -/
  sorted : ∀ cells : List Pocket, cells.Perm s.cells → cells.mergeSort sortsBefore = s.cells
  seeds : seeded s.cells = s
  keeps : s.seed s.cells = s
  equal_iff : ∀ t : Pockets, s = t ↔ s.cells = t.cells
  same_iff : ∀ t : Pockets, (∀ name, s.get? name = t.get? name) ↔ s.cells = t.cells

theorem found_seeded {log : List Pocket} {name content : String} :
    (seeded log).get? name = some content ↔ Last ⟨name, content⟩ log := by
  have nothing : empty.get? name ≠ some content := nofun
  rw [seeded, get?_seed_eq_some, or_iff_left (fun h => nothing h.2)]

theorem mem_names_iff {s : Pockets} {name : String} : name ∈ s.cells.map (·.name) ↔ (s.get? name).isSome := by
  rw [List.mem_map, Option.isSome_iff_exists]
  constructor
  · rintro ⟨p, there, rfl⟩
    exact ⟨p.content, mem_cells_iff.mp there⟩
  · rintro ⟨content, found⟩
    exact ⟨⟨name, content⟩, mem_cells_iff.mpr found, rfl⟩

theorem names_seeded {log : List Pocket} {name : String} :
    name ∈ (seeded log).cells.map (·.name) ↔ name ∈ log.map (·.name) := by
  have nothing : (empty.get? name).isSome = false := rfl
  rw [mem_names_iff, seeded, isSome_get?_seed, nothing, List.mem_map]
  simp

theorem absent_seeded {log : List Pocket} {name : String} :
    (seeded log).get? name = none ↔ ∀ p ∈ log, p.name ≠ name := by
  rw [← Option.not_isSome_iff_eq_none, ← mem_names_iff, names_seeded, List.mem_map]
  simp

theorem size_seeded (log : List Pocket) : (seeded log).size = (log.map (·.name)).toFinset.card := by
  have names : ((seeded log).cells.map (·.name)).toFinset = (log.map (·.name)).toFinset := by
    ext name
    rw [List.mem_toFinset, List.mem_toFinset, names_seeded]
  rw [size, ← names, List.toFinset_card_of_nodup (nodup_names _), List.length_map]

theorem eq_iff_cells {s t : Pockets} : s = t ↔ s.cells = t.cells := by
  refine ⟨fun same => congrArg cells same, fun same => ?_⟩
  rw [← seeded_cells s, same, seeded_cells]

/-- Behind any writes to an empty store, the store is one in which the last of them win. -/
theorem store_canonical (writes : List Write) : Canonical (behind writes) (history writes) := by
  rw [behind_eq]
  generalize history writes = log
  have once : ∀ p ∈ log, ((seeded log).cells.map (·.name)).count p.name = 1 := fun p written =>
    List.count_eq_one_of_mem (nodup_names _) (names_seeded.mpr (List.mem_map_of_mem written))
  exact {
    found := fun _ _ => found_seeded
    absent := fun _ => absent_seeded
    size := size_seeded log
    ascending := (seeded log).ascending.imp Text.octets_lt_iff.mpr
    once
    listed := fun _ => mem_cells_iff.trans found_seeded
    sorted := fun _ => mergeSort_of_perm
    seeds := seeded_cells _
    keeps := seed_self _
    equal_iff := fun _ => eq_iff_cells
    same_iff := fun _ => cells_eq_iff.symm }

example : (behind [.put "b" "1", .seed [⟨"a", "x"⟩, ⟨"b", "2"⟩]]).cells = [⟨"a", "x"⟩, ⟨"b", "2"⟩] := by
  decide

end Wayfarer.Pockets
