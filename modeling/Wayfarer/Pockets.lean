import Wayfarer.Record

/-!
The scratch store of a walk: a map from names to contents in which the last write wins. It is kept
in ascending order of names, so that equal stores are equal lists.
-/
namespace Wayfarer

structure Pockets where
  cells : List Pocket := []
  ascending : cells.Pairwise (·.name < ·.name) := by exact .nil
  deriving DecidableEq

namespace Pockets

def empty : Pockets := {}

instance : Inhabited Pockets := ⟨empty⟩

/-- Writes a cell into an ascending list, over the one of its name if there is one. -/
def write (p : Pocket) : List Pocket → List Pocket
  | [] => [p]
  | q :: rest =>
    if p.name < q.name then p :: q :: rest
    else if q.name < p.name then q :: write p rest
    else p :: rest

theorem mem_write {p q : Pocket} {cells : List Pocket} (h : q ∈ write p cells) :
    q = p ∨ q ∈ cells := by
  induction cells with
  | nil => simpa [write] using h
  | cons r rest ih =>
    simp only [write] at h
    split at h
    · simpa using h
    · split at h
      · rcases List.mem_cons.1 h with rfl | h
        · simp
        · rcases ih h with rfl | h
          · simp
          · simp [h]
      · rcases List.mem_cons.1 h with rfl | h
        · simp
        · simp [h]

theorem name_eq_of_not_lt {a b : String} (hab : ¬ a < b) (hba : ¬ b < a) : a = b :=
  String.le_antisymm (String.not_lt.1 hba) (String.not_lt.1 hab)

theorem pairwise_write {p : Pocket} {cells : List Pocket}
    (h : cells.Pairwise (·.name < ·.name)) : (write p cells).Pairwise (·.name < ·.name) := by
  induction cells with
  | nil => simp [write]
  | cons q rest ih =>
    obtain ⟨head, tail⟩ := List.pairwise_cons.1 h
    simp only [write]
    split
    next less =>
      refine List.pairwise_cons.2 ⟨fun r hr => ?_, h⟩
      rcases List.mem_cons.1 hr with rfl | hr
      · exact less
      · exact String.lt_trans less (head r hr)
    next notLess =>
      split
      next greater =>
        refine List.pairwise_cons.2 ⟨fun r hr => ?_, ih tail⟩
        rcases mem_write hr with rfl | hr
        · exact greater
        · exact head r hr
      next notGreater =>
        refine List.pairwise_cons.2 ⟨fun r hr => ?_, tail⟩
        rw [name_eq_of_not_lt notLess notGreater]
        exact head r hr

/-- Writes a cell; whatever the name held before is gone. -/
def put (s : Pockets) (p : Pocket) : Pockets :=
  ⟨write p s.cells, pairwise_write s.ascending⟩

/-- Writes cells in the given order, so that later ones win. -/
def seed (s : Pockets) (records : List Pocket) : Pockets :=
  records.foldl put s

def seeded (records : List Pocket) : Pockets :=
  empty.seed records

def get? (s : Pockets) (name : String) : Option String :=
  (s.cells.find? (·.name == name)).map (·.content)

def size (s : Pockets) : Nat :=
  s.cells.length

def isEmpty (s : Pockets) : Bool :=
  s.cells.isEmpty

end Pockets

end Wayfarer
