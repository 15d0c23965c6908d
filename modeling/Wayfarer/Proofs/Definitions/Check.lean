import Mathlib.Data.List.Nodup
import Wayfarer.Definitions.Check

/-!
# Definitions without violations

A set of definitions has no violations exactly if every list holds records of its kind with ids of their
own, every way is walked at least once, and no detour has two entries for one value. The default is a
value like any other there.
-/

namespace Wayfarer

theorem repeats_eq_nil [DecidableEq α] {seen list : List α} :
    repeats seen list = [] ↔ list.Nodup ∧ ∀ a ∈ list, a ∉ seen := by
  induction list generalizing seen with
  | nil => simp [repeats]
  | cons a list ih =>
    rw [repeats, List.nodup_cons, List.forall_mem_cons]
    by_cases before : a ∈ seen
    · simp [before]
    · simp only [List.contains_eq_mem, before, decide_false, Bool.false_eq_true, if_false, ih, not_false_eq_true,
        List.mem_cons, not_or]
      constructor
      · rintro ⟨distinct, fresh⟩
        exact ⟨⟨fun again => (fresh a again).1 rfl, distinct⟩, trivial, fun b member => (fresh b member).2⟩
      · rintro ⟨⟨once, distinct⟩, -, fresh⟩
        exact ⟨distinct, fun b member => ⟨fun same => once (same ▸ member), fresh b member⟩⟩

namespace Definitions

/-- Ids of one kind, each of them once. -/
structure Listed (kind : Kind) (ids : List Ident) : Prop where
  kinds : ∀ id ∈ ids, id.kind = kind
  distinct : ids.Nodup

/-- What the checks ask of a set of definitions. -/
structure Sound (d : Definitions) : Prop where
  steps : Listed .step (d.steps.map (·.id))
  ways : Listed .way (d.ways.map (·.id))
  detours : Listed .detour (d.detours.map (·.id))
  walked : ∀ way ∈ d.ways, way.repeats ≠ 0
  entries : ∀ detour ∈ d.detours, (detour.entries.map (·.value)).Nodup

theorem idViolations_eq_nil {kind : Kind} {seen ids : List Ident} :
    idViolations kind seen ids = [] ↔ (∀ id ∈ ids, id.kind = kind) ∧ repeats seen ids = [] := by
  induction ids generalizing seen with
  | nil => simp [idViolations, repeats]
  | cons id ids ih =>
    rw [idViolations, repeats, List.append_eq_nil_iff, List.forall_mem_cons]
    by_cases right : id.kind = kind
    · cases seen.contains id <;> simp [right, ih]
    · simp [right]

theorem listed_iff {kind : Kind} {ids : List Ident} : idViolations kind [] ids = [] ↔ Listed kind ids := by
  rw [idViolations_eq_nil, repeats_eq_nil]
  exact ⟨fun ⟨kinds, distinct, _⟩ => ⟨kinds, distinct⟩, fun h => ⟨h.kinds, h.distinct, fun _ _ => List.not_mem_nil⟩⟩

theorem length_defaults (d : Detour) :
    (d.entries.filter (·.isDefault)).length = (d.entries.map (·.value)).count Entry.defaultValue := by
  rw [List.count, List.countP_map, List.countP_eq_length_filter]
  rfl

/-- Entries for one value are as much at fault if that is the default. -/
theorem entryViolations_eq_nil {d : Detour} : entryViolations d = [] ↔ (d.entries.map (·.value)).Nodup := by
  have others : (d.entries.filter (!·.isDefault)).map (·.value) =
      (d.entries.map (·.value)).filter (· != Entry.defaultValue) := by
    rw [List.filter_map]
    rfl
  rw [entryViolations, List.append_eq_nil_iff, List.map_eq_nil_iff, repeats_eq_nil, length_defaults, others,
    List.nodup_iff_count_le_one]
  generalize d.entries.map (·.value) = values
  simp only [ite_eq_right_iff, reduceCtorEq, imp_false, Nat.not_lt, gt_iff_lt, List.not_mem_nil, not_false_eq_true, implies_true,
    and_true, List.nodup_iff_count_le_one]
  constructor
  · rintro ⟨default, rest⟩ value
    by_cases same : value = Entry.defaultValue
    · exact same ▸ default
    · have once := rest value
      rwa [List.count_filter (by simpa using same)] at once
  · intro once
    exact ⟨once _, fun value => Nat.le_trans (List.filter_sublist.count_le value) (once value)⟩

theorem violations_eq_nil {d : Definitions} : d.violations = [] ↔ d.Sound := by
  simp only [violations, List.append_eq_nil_iff, listed_iff, List.map_eq_nil_iff, List.filter_eq_nil_iff,
    List.flatMap_eq_nil_iff, entryViolations_eq_nil, beq_iff_eq, and_assoc]
  exact ⟨fun ⟨steps, ways, detours, walked, entries⟩ => ⟨steps, ways, detours, walked, entries⟩,
    fun h => ⟨h.steps, h.ways, h.detours, h.walked, h.entries⟩⟩

end Definitions

end Wayfarer
