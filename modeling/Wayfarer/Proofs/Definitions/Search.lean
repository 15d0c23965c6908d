import Mathlib.Data.List.Chain
import Mathlib.Data.List.Perm.Subperm
import Wayfarer.Definitions.Cycle

/-!
# Searching for cycles

The search as a relation has no bound on its depth: a derivation is a search that has come to its end. Behind
it every node that was followed is done, each in front of all that it leads to but for what was found, and what
was found stands on cycles.
-/

namespace Wayfarer

namespace Ident

theorem not_before_self (a : Ident) : ¬ Before a a := by
  rintro (lower | ⟨-, less⟩)
  · exact Nat.lt_irrefl _ lower
  · exact String.lt_irrefl _ less

theorem Before.trans {a b c : Ident} (first : Before a b) (second : Before b c) : Before a c := by
  rcases first with lower | ⟨same, less⟩
  · rcases second with higher | ⟨alike, -⟩
    · exact .inl (Nat.lt_trans lower higher)
    · exact .inl (alike ▸ lower)
  · rcases second with higher | ⟨alike, greater⟩
    · exact .inl (same ▸ higher)
    · exact .inr ⟨same.trans alike, String.lt_trans less greater⟩

theorem before_of_not_before {a b : Ident} (different : a ≠ b) (notBefore : ¬ Before a b) : Before b a := by
  rw [Before, not_or, not_and] at notBefore
  obtain ⟨notLower, notLess⟩ := notBefore
  by_cases same : a.kind = b.kind
  · have names : b.name < a.name := by
      by_contra notGreater
      have equal : a.name = b.name :=
        String.le_antisymm (String.not_lt.mp notGreater) (String.not_lt.mp (notLess same))
      obtain ⟨kind, name⟩ := a
      cases same
      cases equal
      exact different rfl
    exact .inr ⟨same.symm, names⟩
  · have ranks : a.kind.rank ≠ b.kind.rank := by
      intro equal
      apply same
      generalize a.kind = k at equal ⊢
      generalize b.kind = l at equal ⊢
      cases k <;> cases l <;> first | rfl | cases equal
    exact .inl (by omega)

theorem mem_insertSorted {x id : Ident} {ids : List Ident} : x ∈ insertSorted id ids ↔ x = id ∨ x ∈ ids := by
  induction ids with
  | nil => simp [insertSorted]
  | cons other rest ih =>
    simp only [insertSorted]
    split
    · rename_i same
      simp [same]
    · split
      · simp
      · simp only [List.mem_cons, ih, or_left_comm]

theorem pairwise_insertSorted (id : Ident) {ids : List Ident} (ascending : ids.Pairwise Before) :
    (insertSorted id ids).Pairwise Before := by
  induction ids with
  | nil => exact List.pairwise_singleton _ _
  | cons other rest ih =>
    obtain ⟨first, behind⟩ := List.pairwise_cons.mp ascending
    simp only [insertSorted]
    split
    · exact ascending
    · rename_i different
      split
      · rename_i before
        refine List.pairwise_cons.mpr ⟨?_, ascending⟩
        intro x member
        rcases List.mem_cons.mp member with rfl | member
        · exact before
        · exact before.trans (first x member)
      · rename_i notBefore
        refine List.pairwise_cons.mpr ⟨?_, ih behind⟩
        intro x member
        rcases mem_insertSorted.mp member with rfl | member
        · exact before_of_not_before different notBefore
        · exact first x member

theorem mem_sorted {x : Ident} {ids : List Ident} : x ∈ sorted ids ↔ x ∈ ids := by
  have folded : ∀ (ids found : List Ident),
      x ∈ ids.foldl (fun found id => insertSorted id found) found ↔ x ∈ found ∨ x ∈ ids := by
    intro ids
    induction ids with
    | nil => simp
    | cons id rest ih =>
      intro found
      rw [List.foldl_cons, ih, mem_insertSorted, List.mem_cons, or_left_comm, or_assoc]
  rw [sorted, folded]
  simp

end Ident

namespace Definitions

variable {d : Definitions}

/-! ### The graph -/

/-- A record with the id `node`, a way or a detour, refers to the way or detour `target`. -/
inductive Refers (d : Definitions) (node target : Ident) : Prop where
  | way {way : Way} (record : way ∈ d.ways) (named : way.id = node) (member : target ∈ way.steps)
    (kind : target.kind ≠ .step)
  | detour {detour : Detour} {entry : Entry} (record : detour ∈ d.detours) (named : detour.id = node)
    (branch : entry ∈ detour.entries) (member : target ∈ entry.steps) (kind : target.kind ≠ .step)

/-- Each of the ids refers to the next one, and the last to the first. -/
def IsCycle (d : Definitions) : List Ident → Prop
  | [] => False
  | first :: rest => (first :: rest ++ [first]).IsChain d.Refers

theorem mem_onward {ids : List Ident} {id : Ident} : id ∈ onward ids ↔ id ∈ ids ∧ id.kind ≠ .step := by
  simp [onward]

theorem mem_targets {node t : Ident} : t ∈ d.targets node ↔ d.Refers node t := by
  constructor
  · intro leads
    rcases List.mem_append.mp leads with below | below
    · obtain ⟨way, found, onward⟩ := List.mem_flatMap.mp below
      obtain ⟨record, named⟩ := List.mem_filter.mp found
      obtain ⟨member, kind⟩ := mem_onward.mp onward
      exact .way record (by simpa using named) member kind
    · obtain ⟨detour, found, entries⟩ := List.mem_flatMap.mp below
      obtain ⟨record, named⟩ := List.mem_filter.mp found
      obtain ⟨entry, branch, onward⟩ := List.mem_flatMap.mp entries
      obtain ⟨member, kind⟩ := mem_onward.mp onward
      exact .detour record (by simpa using named) branch member kind
  · intro refers
    cases refers with
    | @way way record named member kind =>
      refine List.mem_append_left _ (List.mem_flatMap.mpr ⟨way, ?_, mem_onward.mpr ⟨member, kind⟩⟩)
      exact List.mem_filter.mpr ⟨record, by simpa using named⟩
    | @detour detour entry record named branch member kind =>
      refine List.mem_append_right _ (List.mem_flatMap.mpr ⟨detour, ?_, ?_⟩)
      · exact List.mem_filter.mpr ⟨record, by simpa using named⟩
      · exact List.mem_flatMap.mpr ⟨entry, branch, mem_onward.mpr ⟨member, kind⟩⟩

theorem mem_nodes {id : Ident} : id ∈ d.nodes ↔ id ∈ d.ways.map (·.id) ++ d.detours.map (·.id) := by
  rw [nodes, Ident.mem_sorted]

theorem mem_nodes_of_way {way : Way} (record : way ∈ d.ways) : way.id ∈ d.nodes :=
  mem_nodes.mpr (List.mem_append_left _ (List.mem_map_of_mem record))

theorem mem_nodes_of_detour {detour : Detour} (record : detour ∈ d.detours) : detour.id ∈ d.nodes :=
  mem_nodes.mpr (List.mem_append_right _ (List.mem_map_of_mem record))

theorem Refers.mem_nodes {node t : Ident} (h : d.Refers node t) : node ∈ d.nodes := by
  cases h with
  | way record named => exact named ▸ mem_nodes_of_way record
  | detour record named => exact named ▸ mem_nodes_of_detour record

theorem mem_reach_of_node {node : Ident} (h : node ∈ d.nodes) : node ∈ d.reach := by
  rw [reach, Ident.mem_sorted]
  exact List.mem_append_left _ h

theorem mem_reach_of_targets {node t : Ident} (h : t ∈ d.targets node) : t ∈ d.reach := by
  rw [reach, Ident.mem_sorted]
  exact List.mem_append_right _ (List.mem_flatMap.mpr ⟨node, (mem_targets.mp h).mem_nodes, h⟩)

theorem targets_of_way {id target : Ident} {way : Way} (found : d.way? id = some way) (member : target ∈ way.steps)
    (kind : target.kind ≠ .step) : target ∈ d.targets id := by
  have named : way.id = id := by simpa using List.find?_some found
  exact mem_targets.mpr (.way (List.mem_of_find?_eq_some found) named member kind)

theorem targets_of_entry {id target : Ident} {detour : Detour} {entry : Entry} (found : d.detour? id = some detour)
    (chosen : entry ∈ detour.entries) (member : target ∈ entry.steps) (kind : target.kind ≠ .step) :
    target ∈ d.targets id := by
  have named : detour.id = id := by simpa using List.find?_some found
  exact mem_targets.mpr (.detour (List.mem_of_find?_eq_some found) named chosen member kind)

/-! ### The search -/

/-- From `s` the nodes of a list are followed one after the other, below those of `trail`, which leaves `r`. -/
inductive Explores (d : Definitions) : (trail : List Ident) → Search → List Ident → Search → Prop where
  | nil {trail s} : Explores d trail s [] s
  | known {trail s node rest r} (done : node ∈ s.done) (behind : Explores d trail s rest r) :
    Explores d trail s (node :: rest) r
  | again {trail s node rest r} (undone : node ∉ s.done) (met : node ∈ trail)
    (behind : Explores d trail { s with looping := Ident.insertSorted node s.looping } rest r) :
    Explores d trail s (node :: rest) r
  | follow {trail s t node rest r} (undone : node ∉ s.done) (fresh : node ∉ trail)
    (below : Explores d (node :: trail) s (d.targets node) t)
    (behind : Explores d trail { t with done := node :: t.done } rest r) : Explores d trail s (node :: rest) r

theorem explores_of_visit {fuel : Nat} {trail : List Ident} (distinct : trail.Nodup)
    (inside : ∀ node ∈ trail, node ∈ d.reach) (enough : d.reach.length < fuel + trail.length) (s : Search)
    (nodes : List Ident) (members : ∀ node ∈ nodes, node ∈ d.reach) :
    Explores d trail s nodes (nodes.foldl (visit d fuel trail) s) := by
  induction fuel generalizing trail s nodes with
  | zero =>
    -- a trail of different nodes is no longer than the list of all nodes, so that the fuel lasts
    have short := (List.subperm_of_subset distinct inside).length_le
    omega
  | succ fuel ih =>
    induction nodes generalizing s with
    | nil => exact .nil
    | cons node rest ihRest =>
      obtain ⟨member, others⟩ := List.forall_mem_cons.mp members
      rw [List.foldl_cons]
      by_cases done : node ∈ s.done
      · have still : visit d (fuel + 1) trail s node = s := by simp [visit, done]
        rw [still]
        exact .known done (ihRest s others)
      · by_cases met : node ∈ trail
        · have found : visit d (fuel + 1) trail s node = { s with looping := Ident.insertSorted node s.looping } := by
            simp [visit, done, met]
          rw [found]
          exact .again done met (ihRest _ others)
        · have followed : visit d (fuel + 1) trail s node =
              { (d.targets node).foldl (visit d fuel (node :: trail)) s with
                done := node :: ((d.targets node).foldl (visit d fuel (node :: trail)) s).done } := by
            simp [visit, done, met]
          rw [followed]
          have longer : (node :: trail).Nodup := List.nodup_cons.mpr ⟨met, distinct⟩
          have below := ih longer (List.forall_mem_cons.mpr ⟨member, inside⟩) (by rw [List.length_cons]; omega) s
            (d.targets node) fun t leads => mem_reach_of_targets leads
          exact .follow done met below (ihRest _ others)

/-- The search through all nodes comes to an end, and what it has found then are the cycles. -/
theorem explores_nodes (d : Definitions) : ∃ r, Explores d [] {} d.nodes r ∧ r.looping = d.cycles :=
  ⟨_, explores_of_visit List.nodup_nil nofun (by simp) {} d.nodes fun _ member => mem_reach_of_node member, rfl⟩

/-! ### What the search leaves -/

/-- Every node of the list stands in front of all that it leads to, but for what was found. -/
def Ordered (d : Definitions) (found : List Ident) : List Ident → Prop
  | [] => True
  | node :: rest => (∀ t ∈ d.targets node, t ∈ rest ∨ t ∈ found) ∧ Ordered d found rest

theorem Ordered.mono {found more nodes : List Ident} (h : Ordered d found nodes) (grown : found ⊆ more) :
    Ordered d more nodes := by
  induction nodes with
  | nil => trivial
  | cons node rest ih =>
    obtain ⟨first, behind⟩ := h
    exact ⟨fun t leads => (first t leads).imp_right fun member => grown member, ih behind⟩

/-- The nodes lead down one after the other, the last one first. -/
def Trail (d : Definitions) (nodes : List Ident) : Prop :=
  nodes.IsChain fun below above => d.Refers above below

theorem isCycle_of_met {node : Ident} {trail : List Ident} (distinct : trail.Nodup) (down : d.Trail (node :: trail))
    (met : node ∈ trail) : ∃ ids, d.IsCycle ids ∧ ids.Nodup ∧ node ∈ ids := by
  obtain ⟨above, below, rfl⟩ := List.append_of_mem met
  refine ⟨node :: above.reverse, ?_, ?_, List.mem_cons_self⟩
  · have part : (node :: (above ++ [node])).IsChain fun low high => d.Refers high low := by
      have whole : (node :: (above ++ [node]) ++ below).IsChain fun low high => d.Refers high low := by
        simpa [Trail] using down
      exact whole.left_of_append
    have turned := List.isChain_reverse.mpr part
    simpa [IsCycle] using turned
  · have once := (List.nodup_append.mp distinct).1
    have fresh : node ∉ above := fun member => (List.nodup_append.mp distinct).2.2 node member node List.mem_cons_self rfl
    exact List.nodup_cons.mpr ⟨by simpa using fresh, List.pairwise_reverse.mpr (once.imp Ne.symm)⟩

namespace Explores

variable {trail nodes : List Ident} {s r other : Search}

theorem unique (h : Explores d trail s nodes r) (also : Explores d trail s nodes other) : other = r := by
  induction h generalizing other with
  | nil =>
    cases also
    rfl
  | known done _ ih =>
    cases also with
    | known _ behind => exact ih behind
    | again undone => exact absurd done undone
    | follow undone => exact absurd done undone
  | again undone met _ ih =>
    cases also with
    | known done => exact absurd done undone
    | again _ _ behind => exact ih behind
    | follow _ fresh => exact absurd met fresh
  | follow undone fresh _ _ ihBelow ih =>
    cases also with
    | known done => exact absurd done undone
    | again _ met => exact absurd met fresh
    | follow _ _ below behind =>
      cases ihBelow below
      exact ih behind

theorem done_subset (h : Explores d trail s nodes r) : s.done ⊆ r.done := by
  induction h with
  | nil => exact List.Subset.refl _
  | known _ _ ih => exact ih
  | again _ _ _ ih => exact ih
  | follow _ _ _ _ ihBelow ih => exact fun id member => ih (List.mem_cons_of_mem _ (ihBelow member))

theorem looping_subset (h : Explores d trail s nodes r) : s.looping ⊆ r.looping := by
  induction h with
  | nil => exact List.Subset.refl _
  | known _ _ ih => exact ih
  | again _ _ _ ih => exact fun id member => ih (Ident.mem_insertSorted.mpr (.inr member))
  | follow _ _ _ _ ihBelow ih => exact fun id member => ih (ihBelow member)

/-- What was followed is done, unless it was met again on the trail, and then it was found. -/
theorem done_or_met (h : Explores d trail s nodes r) : ∀ node ∈ nodes, node ∈ r.done ∨ node ∈ trail ∧ node ∈ r.looping := by
  induction h with
  | nil => exact nofun
  | known done behind ih => exact List.forall_mem_cons.mpr ⟨.inl (behind.done_subset done), ih⟩
  | again _ met behind ih =>
    have found := behind.looping_subset (Ident.mem_insertSorted.mpr (.inl rfl))
    exact List.forall_mem_cons.mpr ⟨.inr ⟨met, found⟩, ih⟩
  | follow _ _ _ behind _ ih =>
    exact List.forall_mem_cons.mpr ⟨.inl (behind.done_subset List.mem_cons_self), ih⟩

theorem ordered (h : Explores d trail s nodes r) (first : Ordered d s.looping s.done) : Ordered d r.looping r.done := by
  induction h with
  | nil => exact first
  | known _ _ ih => exact ih first
  | again _ _ _ ih =>
    apply ih
    exact first.mono fun id member => Ident.mem_insertSorted.mpr (.inr member)
  | follow _ _ below _ ihBelow ih =>
    apply ih
    refine ⟨fun t leads => ?_, ihBelow first⟩
    exact (below.done_or_met t leads).imp_right fun ⟨_, found⟩ => found

theorem ascending (h : Explores d trail s nodes r) (first : s.looping.Pairwise Ident.Before) :
    r.looping.Pairwise Ident.Before := by
  induction h with
  | nil => exact first
  | known _ _ ih => exact ih first
  | again _ _ _ ih => exact ih (Ident.pairwise_insertSorted _ first)
  | follow _ _ _ _ ihBelow ih => exact ih (ihBelow first)

theorem on_cycle (h : Explores d trail s nodes r) (distinct : trail.Nodup) (down : ∀ node ∈ nodes, d.Trail (node :: trail))
    (first : ∀ id ∈ s.looping, ∃ ids, d.IsCycle ids ∧ ids.Nodup ∧ id ∈ ids) :
    ∀ id ∈ r.looping, ∃ ids, d.IsCycle ids ∧ ids.Nodup ∧ id ∈ ids := by
  induction h with
  | nil => exact first
  | known _ _ ih => exact ih distinct (List.forall_mem_cons.mp down).2 first
  | @again trail s node _ _ _ met _ ih =>
    obtain ⟨here, others⟩ := List.forall_mem_cons.mp down
    apply ih distinct others
    intro id member
    rcases Ident.mem_insertSorted.mp member with rfl | before
    · exact isCycle_of_met distinct here met
    · exact first id before
  | @follow trail _ _ node _ _ _ fresh _ _ ihBelow ih =>
    obtain ⟨here, others⟩ := List.forall_mem_cons.mp down
    apply ih distinct others
    apply ihBelow (List.nodup_cons.mpr ⟨fresh, distinct⟩) _ first
    intro t leads
    exact List.isChain_cons_cons.mpr ⟨mem_targets.mp leads, here⟩

end Explores

end Definitions

end Wayfarer
