import Mathlib.Data.List.Forall2
import Mathlib.Data.List.Nodup
import Wayfarer.Proofs.Definitions.Check

/-!
# One violation for each fault

Each check looks at one site of a set of definitions. The violations are the faults at the sites: one for each site
that has one, however often the same id or value comes up, and nothing else.
-/

namespace Wayfarer

/-! ### Reports with one item for each site -/

section Reports

variable {σ β : Type} {fault : σ → β → Prop}

/-- The report has one item for each site of the scope at which there is a fault, and says what it is. -/
def Tells (fault : σ → β → Prop) (scope : σ → Prop) (report : List β) : Prop :=
  ∃ sites : List σ, sites.Nodup ∧ (∀ s, s ∈ sites ↔ scope s ∧ ∃ b, fault s b) ∧ List.Forall₂ fault sites report

theorem tells_nil {scope : σ → Prop} : Tells fault scope [] ↔ ∀ s b, scope s → ¬ fault s b := by
  constructor
  · rintro ⟨sites, -, all, reported⟩ s b inside wrong
    cases reported
    cases (all s).mpr ⟨inside, b, wrong⟩
  · intro none
    refine ⟨[], .nil, fun s => ⟨nofun, ?_⟩, .nil⟩
    rintro ⟨inside, b, wrong⟩
    exact absurd wrong (none s b inside)

theorem tells_check {c : Prop} [Decidable c] {site : σ} {b : β} (exact : ∀ x, fault site x ↔ c ∧ x = b) :
    Tells fault (· = site) (if c then [b] else []) := by
  by_cases wrong : c
  · have here : fault site b := (exact b).mpr ⟨wrong, rfl⟩
    rw [if_pos wrong]
    refine ⟨[site], List.nodup_singleton site, fun s => ?_, .cons here .nil⟩
    rw [List.mem_singleton]
    exact ⟨fun same => ⟨same, b, same ▸ here⟩, And.left⟩
  · rw [if_neg wrong, tells_nil]
    rintro _ x rfl found
    exact wrong ((exact x).mp found).1

/-- A check of what stands at one place of a list, if anything does. -/
theorem tells_place {α : Type} {xs : List α} {n : Nat} {c : α → Prop} [DecidablePred c] {site : σ} {b : α → β}
    (exact : ∀ x, fault site x ↔ ∃ a, xs[n]? = some a ∧ c a ∧ x = b a) :
    Tells fault (· = site) (xs[n]?.elim [] fun a => if c a then [b a] else []) := by
  cases found : xs[n]? with
  | none =>
    refine tells_nil.mpr fun s x here wrong => ?_
    obtain ⟨a, there, -⟩ := (exact x).mp (here ▸ wrong)
    cases there.symm.trans found
  | some a => exact tells_check fun x => by simp [exact, found]

theorem Tells.append {A B : σ → Prop} {report others : List β} (first : Tells fault A report)
    (second : Tells fault B others) (apart : ∀ s, A s → ¬ B s) : Tells fault (fun s => A s ∨ B s) (report ++ others) := by
  obtain ⟨sites, distinct, all, reported⟩ := first
  obtain ⟨sites', distinct', all', reported'⟩ := second
  refine ⟨sites ++ sites', distinct.append distinct' fun s here there => ?_, fun s => ?_,
    List.rel_append reported reported'⟩
  · exact apart s ((all s).mp here).1 ((all' s).mp there).1
  · rw [List.mem_append, all, all', or_and_right]

theorem Tells.congr {A B : σ → Prop} {report : List β} (same : ∀ s, A s ↔ B s) (h : Tells fault A report) :
    Tells fault B report :=
  (funext fun s => propext (same s) : A = B) ▸ h

/-- What a check makes of each element of a list, given those in front of it. -/
def sweep {α : Type} (check : List α → α → List β) : (before : List α) → List α → List β
  | _, [] => []
  | before, a :: rest => check before a ++ sweep check (before ++ [a]) rest

theorem sweep_eq_flatMap {α : Type} (check : α → List β) (before xs : List α) :
    sweep (fun _ => check) before xs = xs.flatMap check := by
  induction xs generalizing before with
  | nil => rfl
  | cons a xs ih => rw [sweep, ih, List.flatMap_cons]

/-- If a check tells of the sites at each place of a list, a sweep tells of them all. -/
theorem tells_sweep {α : Type} {check : List α → α → List β} {scope : Nat → σ → Prop} {before xs : List α}
    (each : ∀ n, Tells fault (scope n) (xs[n]?.elim [] (check (before ++ xs.take n))))
    (apart : ∀ m n s, scope m s → scope n s → m = n) : Tells fault (fun s => ∃ n, scope n s) (sweep check before xs) := by
  induction xs generalizing before scope with
  | nil =>
    refine tells_nil.mpr fun s b inside => ?_
    obtain ⟨n, inside⟩ := inside
    exact tells_nil.mp (each n) s b inside
  | cons a xs ih =>
    -- The place of each element behind the first is one less among the rest.
    have first : Tells fault (scope 0) (check before a) := by simpa using each 0
    have rest : Tells fault (fun s => ∃ n, scope (n + 1) s) (sweep check (before ++ [a]) xs) := by
      refine ih (fun n => ?_) fun m n s here there => Nat.succ.inj (apart _ _ s here there)
      simpa using each (n + 1)
    refine (first.append rest ?_).congr fun s => Nat.or_exists_add_one (p := fun n => scope n s)
    rintro s here ⟨n, there⟩
    cases apart _ _ s here there

end Reports

namespace Definitions

/-! ### The checks as sweeps -/

/-- An id is held against the kind of its list and against the ids in front of it. -/
def idCheck (kind : Kind) (before : List Ident) (id : Ident) : List Violation :=
  (if id.kind ≠ kind then [.wrongKind id kind] else []) ++ (if id ∈ before then [.repeatedId id] else [])

theorem idViolations_eq_sweep {kind : Kind} {seen before ids : List Ident} (same : ∀ id, id ∈ seen ↔ id ∈ before) :
    idViolations kind seen ids = sweep (idCheck kind) before ids := by
  induction ids generalizing seen before with
  | nil => rfl
  | cons id ids ih =>
    rw [idViolations, sweep, idCheck, List.append_assoc, ite_not]
    congr 1
    simp only [List.contains_eq_mem, decide_eq_true_eq, same id]
    -- An id that comes again is not added to those seen, but they are the ids in front all the same.
    by_cases again : id ∈ before
    · have rest : idViolations kind seen ids = sweep (idCheck kind) (before ++ [id]) ids := ih fun other => by
        rw [same, List.mem_append, List.mem_singleton]
        exact ⟨.inl, fun h => h.elim (·) fun this => this ▸ again⟩
      rw [if_pos again, if_pos again, rest]
      rfl
    · have rest : idViolations kind (id :: seen) ids = sweep (idCheck kind) (before ++ [id]) ids := ih fun other => by
        rw [List.mem_cons, same, List.mem_append, List.mem_singleton, or_comm]
      rw [if_neg again, if_neg again, rest]
      rfl

def passCheck (way : Way) : List Violation :=
  if way.repeats = 0 then [.noPass way.id] else []

theorem noPass_eq_flatMap (ways : List Way) :
    (ways.filter (·.repeats == 0)).map (Violation.noPass ·.id) = ways.flatMap passCheck := by
  induction ways with
  | nil => rfl
  | cons way ways ih =>
    rw [List.flatMap_cons, ← ih, passCheck, List.filter_cons]
    by_cases none : way.repeats = 0 <;> simp [none]

/-- The value of an entry is held against those in front of it, unless it is the default. -/
def valueCheck (detour : Ident) (before : List Entry) (e : Entry) : List Violation :=
  if e.value ≠ Entry.defaultValue ∧ e.value ∈ before.map (·.value) then [.repeatedValue detour e.value] else []

theorem repeats_eq_sweep {detour : Ident} {seen : List String} {before entries : List Entry}
    (same : ∀ value ≠ Entry.defaultValue, value ∈ seen ↔ value ∈ before.map (·.value)) :
    (repeats seen ((entries.filter (!·.isDefault)).map (·.value))).map (.repeatedValue detour) =
      sweep (valueCheck detour) before entries := by
  induction entries generalizing seen before with
  | nil => rfl
  | cons e entries ih =>
    have mem_values : ∀ value, value ∈ (before ++ [e]).map (·.value) ↔ value ∈ before.map (·.value) ∨ value = e.value := by
      simp [eq_comm]
    rw [List.filter_cons, sweep, valueCheck]
    -- Entries for the default are passed over, so that only the other values in front count as seen.
    by_cases default : e.value = Entry.defaultValue
    · have dropped : ¬ (!e.isDefault) = true := by simp [Entry.isDefault, default]
      rw [if_neg dropped, if_neg fun h => h.1 default, List.nil_append]
      refine ih fun value other => ?_
      rw [same value other, mem_values]
      exact ⟨.inl, fun h => h.elim (·) fun this => absurd (this.trans default) other⟩
    · have kept : (!e.isDefault) = true := by simp [Entry.isDefault, default]
      rw [if_pos kept, List.map_cons, repeats]
      simp only [List.contains_eq_mem, decide_eq_true_eq, same e.value default, ne_eq, default, not_false_eq_true, true_and]
      by_cases again : e.value ∈ before.map (·.value)
      · rw [if_pos again, if_pos again, List.map_cons, List.cons_append, List.nil_append]
        refine congrArg _ (ih fun value other => ?_)
        rw [same value other, mem_values]
        exact ⟨.inl, fun h => h.elim (·) fun this => this ▸ again⟩
      · rw [if_neg again, if_neg again, List.nil_append]
        refine ih fun value other => ?_
        rw [List.mem_cons, same value other, mem_values, or_comm]

/-! ### Sites and faults -/

/-- What one check looks at. -/
inductive Site where
  /-- The kind of the id at this place of a list. -/
  | kind (list : Kind) (place : Nat)
  /-- Whether that id stands further in front as well. -/
  | id (list : Kind) (place : Nat)
  | passes (way : Nat)
  | defaults (detour : Nat)
  /-- Whether the value of this entry stands further in front as well. -/
  | value (detour entry : Nat)

def ids (d : Definitions) : Kind → List Ident
  | .step => d.steps.map (·.id)
  | .way => d.ways.map (·.id)
  | .detour => d.detours.map (·.id)

def Fault (d : Definitions) : Site → Violation → Prop
  | .kind list n, v => ∃ id, (d.ids list)[n]? = some id ∧ id.kind ≠ list ∧ v = .wrongKind id list
  | .id list n, v => ∃ id, (d.ids list)[n]? = some id ∧ id ∈ (d.ids list).take n ∧ v = .repeatedId id
  | .passes n, v => ∃ way, d.ways[n]? = some way ∧ way.repeats = 0 ∧ v = .noPass way.id
  | .defaults n, v => ∃ detour, d.detours[n]? = some detour ∧
    1 < (detour.entries.map (·.value)).count Entry.defaultValue ∧ v = .manyDefaults detour.id
  | .value n m, v => ∃ detour, d.detours[n]? = some detour ∧ ∃ e, detour.entries[m]? = some e ∧
    (e.value ≠ Entry.defaultValue ∧ e.value ∈ (detour.entries.take m).map (·.value)) ∧ v = .repeatedValue detour.id e.value

variable (d : Definitions)

theorem tells_ids (list : Kind) :
    Tells d.Fault (fun s => ∃ n, s = .kind list n ∨ s = .id list n) (idViolations list [] (d.ids list)) := by
  have swept : idViolations list [] (d.ids list) = sweep (idCheck list) [] (d.ids list) :=
    idViolations_eq_sweep fun _ => Iff.rfl
  rw [swept]
  refine tells_sweep (fun n => ?_) ?_
  · have both : (d.ids list)[n]?.elim [] (idCheck list ((d.ids list).take n)) =
        (d.ids list)[n]?.elim [] (fun id => if id.kind ≠ list then [.wrongKind id list] else []) ++
        (d.ids list)[n]?.elim [] (fun id => if id ∈ (d.ids list).take n then [.repeatedId id] else []) := by
      cases (d.ids list)[n]? <;> rfl
    rw [List.nil_append, both]
    refine (tells_place fun v => Iff.rfl).append (tells_place fun v => Iff.rfl) ?_
    rintro s rfl same
    cases same
  · rintro m n s (rfl | rfl) (same | same) <;> cases same <;> rfl

theorem tells_passes : Tells d.Fault (fun s => ∃ n, s = .passes n) (d.ways.flatMap passCheck) := by
  rw [← sweep_eq_flatMap passCheck []]
  refine tells_sweep (fun n => tells_place fun v => Iff.rfl) ?_
  rintro m n s rfl same
  cases same
  rfl

theorem tells_entries {n : Nat} {detour : Detour} (found : d.detours[n]? = some detour) :
    Tells d.Fault (fun s => s = .defaults n ∨ ∃ m, s = .value n m) (entryViolations detour) := by
  have swept : (repeats [] ((detour.entries.filter (!·.isDefault)).map (·.value))).map (.repeatedValue detour.id) =
      sweep (valueCheck detour.id) [] detour.entries := repeats_eq_sweep fun _ _ => Iff.rfl
  rw [entryViolations, length_defaults, swept]
  refine (tells_check fun v => ?_).append (tells_sweep (fun m => tells_place fun v => ?_) ?_) ?_
  · simp [Fault, found]
  · simp [Fault, found]
  · rintro m k s rfl same
    cases same
    rfl
  · rintro s rfl ⟨m, same⟩
    cases same

theorem tells_detours :
    Tells d.Fault (fun s => ∃ n, s = .defaults n ∨ ∃ m, s = .value n m) (d.detours.flatMap entryViolations) := by
  rw [← sweep_eq_flatMap entryViolations []]
  refine tells_sweep (fun n => ?_) ?_
  · cases found : d.detours[n]? with
    | none =>
      refine tells_nil.mpr ?_
      rintro s v (rfl | ⟨m, rfl⟩) <;> simp [Fault, found]
    | some detour => exact d.tells_entries found
  · rintro m n s (rfl | ⟨_, rfl⟩) (same | ⟨_, same⟩) <;> cases same <;> rfl

/-- Every site is in the scope of one of the checks, and in no other's. -/
theorem tells_violations : Tells d.Fault (fun _ => True) d.violations := by
  have ids := ((d.tells_ids .step).append (d.tells_ids .way) ?_).append (d.tells_ids .detour) ?_
  have all := (ids.append d.tells_passes ?_).append d.tells_detours ?_
  · rw [violations, noPass_eq_flatMap]
    refine all.congr ?_
    rintro (⟨_ | _ | _, _⟩ | ⟨_ | _ | _, _⟩ | _ | _ | _) <;> simp
  all_goals rintro (⟨_ | _ | _, _⟩ | ⟨_ | _ | _, _⟩ | _ | _ | _) <;> simp

/-- The checks find nothing if and only if the definitions are sound. Whatever they find, there is one violation for
each site at which something is at fault, and no other. -/
theorem violations_exact :
    (d.violations = [] ↔ d.Sound) ∧
    ∃ sites : List Site, sites.Nodup ∧ (∀ site, site ∈ sites ↔ ∃ v, d.Fault site v) ∧
      List.Forall₂ d.Fault sites d.violations := by
  refine ⟨violations_eq_nil, ?_⟩
  obtain ⟨sites, distinct, all, reported⟩ := d.tells_violations
  exact ⟨sites, distinct, fun site => (all site).trans (and_iff_right trivial), reported⟩

example : (violations { steps := [{ id := .way "a", description := "" }, { id := .way "a", description := "" }] }).map
    Violation.message =
      ["Way>a: expected a Step identifier", "Way>a: expected a Step identifier", "duplicate id Way>a"] := by
  decide

end Definitions

end Wayfarer
