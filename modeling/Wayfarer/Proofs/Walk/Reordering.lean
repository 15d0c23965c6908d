import Mathlib.Data.List.Perm.Basic
import Wayfarer.Page.Scripted
import Wayfarer.Proofs.Definitions.Check
import Wayfarer.Proofs.Walk.Moves

/-!
# The order of records

Definitions without violations have one record for an id and one entry for a value. So looking one up does
not depend on the order of the records, and neither does a walk, which does nothing else with them.
-/

namespace Wayfarer

theorem find?_of_perm [DecidableEq β] (key : α → β) {list other : List α} (order : list.Perm other)
    (distinct : (list.map key).Nodup) (k : β) : list.find? (key · == k) = other.find? (key · == k) := by
  induction order with
  | nil => rfl
  | cons a order ih =>
    rw [List.find?_cons, List.find?_cons, ih (List.nodup_cons.mp distinct).2]
  | swap a b list =>
    have apart : key a ≠ key b := fun same => (List.nodup_cons.mp distinct).1 (by simp [same])
    simp only [List.find?_cons]
    cases first : key a == k with
    | false => rfl
    | true =>
      cases second : key b == k with
      | false => rfl
      | true => exact absurd ((eq_of_beq first).trans (eq_of_beq second).symm) apart
  | trans first second ih ih' => exact (ih distinct).trans (ih' ((first.map key).nodup_iff.mp distinct))

theorem find?_of_forall₂ {R : α → β → Prop} {p : α → Bool} {q : β → Bool} (same : ∀ a b, R a b → p a = q b) {list : List α}
    {other : List β} (related : List.Forall₂ R list other) : Option.Rel R (list.find? p) (other.find? q) := by
  induction related with
  | nil => exact .none
  | @cons a b list other here rest ih =>
    rw [List.find?_cons, List.find?_cons, ← same a b here]
    cases p a with
    | true => exact .some here
    | false => exact ih

namespace Detour

/-- The detours differ at most in the order of their entries. -/
structure Reordered (d e : Detour) : Prop where
  id : d.id = e.id
  description : d.description = e.description
  pocket : d.pocket = e.pocket
  entries : d.entries.Perm e.entries

theorem Reordered.select? {d e : Detour} (h : d.Reordered e) (distinct : (d.entries.map (·.value)).Nodup) (content : String) :
    d.select? content = e.select? content := by
  have found := find?_of_perm Entry.value h.entries distinct
  unfold Detour.select? Entry.isDefault
  rw [found content, found Entry.defaultValue]

theorem Reordered.branch {d e : Detour} (h : d.Reordered e) (entry : Entry) : d.branch entry = e.branch entry := by
  simp only [Detour.branch, h.id, h.description]

end Detour

namespace Definitions

/-- The definitions differ at most in the order of their records, and of the entries in their detours. -/
structure Reordered (d e : Definitions) : Prop where
  steps : d.steps.Perm e.steps
  ways : d.ways.Perm e.ways
  detours : ∃ detours, d.detours.Perm detours ∧ List.Forall₂ Detour.Reordered detours e.detours

/-- Whatever a walk looks up in the one set of definitions it finds in the other. -/
structure Interchangeable (d e : Definitions) : Prop where
  steps : ∀ id, d.step? id = e.step? id
  ways : ∀ id, d.way? id = e.way? id
  branches : ∀ pockets id, (d.resolve pockets id).map (fun branch => (branch.way, branch.event)) =
    (e.resolve pockets id).map fun branch => (branch.way, branch.event)

variable {d e : Definitions}

theorem resolve_eq (d : Definitions) (pockets : Pockets) (id : Ident) :
    d.resolve pockets id =
      match d.detour? id with
      | none => .error (.unknownDetour id)
      | some detour =>
        match pockets.get? detour.pocket with
        | none => .error (.missingPocket detour.id detour.pocket)
        | some content =>
          match detour.select? content with
          | none => .error (.noEntry detour.id content)
          | some entry => .ok { detour, content, entry } := by
  unfold resolve
  cases d.detour? id with
  | none => rfl
  | some detour =>
    simp only
    cases pockets.get? detour.pocket with
    | none => rfl
    | some content =>
      simp only
      cases detour.select? content <;> rfl

theorem Listed.of_perm {kind : Kind} {ids others : List Ident} (h : Listed kind ids) (order : ids.Perm others) :
    Listed kind others where
  kinds id member := h.kinds id (order.mem_iff.mpr member)
  distinct := order.nodup_iff.mp h.distinct

theorem detour?_of_reordered (sound : d.Sound) (h : d.Reordered e) (id : Ident) :
    Option.Rel Detour.Reordered (d.detour? id) (e.detour? id) := by
  obtain ⟨detours, order, related⟩ := h.detours
  unfold detour?
  rw [find?_of_perm Detour.id order sound.detours.distinct id]
  exact find?_of_forall₂ (fun a b same => by rw [same.id]) related

theorem Sound.of_reordered (sound : d.Sound) (h : d.Reordered e) : e.Sound := by
  obtain ⟨detours, order, related⟩ := h.detours
  have ids : detours.map (·.id) = e.detours.map (·.id) := by
    rw [← List.forall₂_eq_eq_eq, List.forall₂_map_left_iff, List.forall₂_map_right_iff]
    exact related.imp fun _ _ same => same.id
  refine ⟨sound.steps.of_perm (h.steps.map _), sound.ways.of_perm (h.ways.map _),
    ids ▸ sound.detours.of_perm (order.map _), fun way member => sound.walked way (h.ways.mem_iff.mpr member), ?_⟩
  have distinct : ∀ detour ∈ detours, (detour.entries.map (·.value)).Nodup :=
    fun detour member => sound.entries detour (order.mem_iff.mpr member)
  have both := (List.forall₂_and_left detours e.detours).mpr ⟨distinct, related⟩
  have kept := (both.imp fun before after ⟨distinct, same⟩ => And.intro ((same.entries.map (·.value)).nodup_iff.mp distinct)
    trivial).flip
  exact ((List.forall₂_and_left _ _).mp kept).1

/-- Where every id and every value is there once, a walk finds the same in whatever order. -/
theorem interchangeable_of_reordered (sound : d.Sound) (h : d.Reordered e) : d.Interchangeable e where
  steps id := find?_of_perm Step.id h.steps sound.steps.distinct id
  ways id := find?_of_perm Way.id h.ways sound.ways.distinct id
  branches pockets id := by
    have related := detour?_of_reordered sound h id
    rw [resolve_eq, resolve_eq]
    cases found : d.detour? id with
    | none =>
      rw [found] at related
      cases there : e.detour? id with
      | none => rfl
      | some other =>
        rw [there] at related
        cases related
    | some detour =>
      rw [found] at related
      have distinct := sound.entries detour (List.mem_of_find?_eq_some found)
      cases there : e.detour? id with
      | none =>
        rw [there] at related
        cases related
      | some other =>
        rw [there] at related
        cases related with
        | some same =>
          simp only [same.id, same.pocket]
          cases pockets.get? other.pocket with
          | none => rfl
          | some content =>
            simp only [same.select? distinct content]
            cases other.select? content with
            | none => rfl
            | some entry => simp [Except.map, Branch.way, Branch.event, same.branch, same.id]

end Definitions

namespace Walk

open Definitions

section

variable {w : Setting π ω} {e : Definitions} (same : w.definitions.Interchangeable e)

include same

theorem meet_of_interchangeable (outer : List Nat) (index : Nat) (target : Ident) (limit : Nat) (s : State π ω) :
    meet { w with definitions := e } outer index target limit s = meet w outer index target limit s := by
  unfold meet
  cases target.kind with
  | step =>
    simp only [State.reach, State.act, runStep, same.steps]
  | way => simp only [same.ways]
  | detour =>
    have branches := same.branches s.pockets target
    simp only
    cases here : w.definitions.resolve s.pockets target with
    | error f =>
      cases there : e.resolve s.pockets target with
      | error g =>
        rw [here, there] at branches
        cases branches
        rfl
      | ok branch =>
        rw [here, there] at branches
        cases branches
    | ok branch =>
      cases there : e.resolve s.pockets target with
      | error g =>
        rw [here, there] at branches
        cases branches
      | ok other =>
        rw [here, there] at branches
        obtain ⟨way, event⟩ := Prod.mk.inj (Except.ok.inj branches)
        simp only [way, event]

theorem follow_of_interchangeable (descend : List Nat → Way → Spot → Nat → Walk π ω Unit) :
    follow { w with definitions := e } descend = follow w descend := by
  funext outer index target inner limit s
  rw [follow_apply, follow_apply, meet_of_interchangeable same]

theorem walk_of_interchangeable (depth : Nat) : walk { w with definitions := e } depth = walk w depth := by
  induction depth with
  | zero => rfl
  | succ depth ih =>
    funext outer way spot limit
    simp only [walk, ih, follow_of_interchangeable same]

end

/-- Records without violations can be put into another order, and so can the entries of a detour: there are no
violations then either, the same ways are found, every detour leads into the same way or to the same error, and
every walk runs as before. -/
theorem order_immaterial {d e : Definitions} (valid : d.violations = []) (order : d.Reordered e) :
    e.violations = [] ∧ (∀ id, e.way? id = d.way? id) ∧
      (∀ pockets id, (e.resolve pockets id).map Branch.way = (d.resolve pockets id).map Branch.way) ∧
      ∀ {π ω : Type} (w : Setting π ω), w.definitions = d → ∀ depth outer root spot limit s,
        walk { w with definitions := e } depth outer root spot limit s = walk w depth outer root spot limit s := by
  have sound := violations_eq_nil.mp valid
  have same := interchangeable_of_reordered sound order
  refine ⟨violations_eq_nil.mpr (sound.of_reordered order), fun id => (same.ways id).symm, fun pockets id => ?_, ?_⟩
  · have chosen : ∀ found : Except WalkError Branch,
        found.map Branch.way = (found.map fun branch => (branch.way, branch.event)).map Prod.fst := by
      rintro (_ | _) <;> rfl
    rw [chosen, chosen, same.branches]
  · rintro π ω w rfl depth outer root spot limit s
    rw [walk_of_interchangeable same]

/-! ### Definitions in two orders -/

def lookStep : Step where
  id := .step "look"
  description := ""
  action := .check
  selector := "#a"
  onFailure := [.way "side"]

def restStep : Step where
  id := .step "rest"
  description := ""

def listedMain : Way where
  id := .way "main"
  description := ""
  repeats := 2
  steps := [.detour "fork", .step "look"]

def listedSide : Way where
  id := .way "side"
  description := ""
  repeats := 1
  steps := [.detour "skip"]

def listedFork (entries : List Entry) : Detour where
  id := .detour "fork"
  description := ""
  pocket := "k"
  entries

def listedSkip : Detour where
  id := .detour "skip"
  description := ""
  pocket := "k"
  entries := [⟨"default", []⟩]

def listed : Definitions where
  steps := [lookStep, restStep]
  ways := [listedMain, listedSide]
  detours := [listedFork [⟨"default", [.step "rest"]⟩, ⟨"v", [.step "look"]⟩], listedSkip]

def relisted : Definitions where
  steps := [restStep, lookStep]
  ways := [listedSide, listedMain]
  detours := [listedSkip, listedFork [⟨"v", [.step "look"]⟩, ⟨"default", [.step "rest"]⟩]]

theorem listed_reordered : listed.Reordered relisted where
  steps := .swap restStep lookStep []
  ways := .swap listedSide listedMain []
  detours := by
    refine ⟨[listedSkip, listedFork [⟨"default", [.step "rest"]⟩, ⟨"v", [.step "look"]⟩]], .swap listedSkip (listedFork _) [], ?_⟩
    exact .cons ⟨rfl, rfl, rfl, .refl _⟩ (.cons ⟨rfl, rfl, rfl, .swap _ _ []⟩ .nil)

theorem order_immaterial_to_listed :
    listed.violations = [] ∧ listed.Reordered relisted ∧ relisted.violations = [] ∧
      ∀ (s : State ScriptedPage Unit) depth,
        walk { definitions := relisted, actions := .standard } depth [] listedMain .start 2 s =
          walk { definitions := listed, actions := .standard } depth [] listedMain .start 2 s := by
  have valid : listed.violations = [] := by decide
  obtain ⟨still, -, -, walks⟩ := order_immaterial valid listed_reordered
  exact ⟨valid, listed_reordered, still,
    fun s depth => walks { definitions := listed, actions := .standard } rfl depth [] listedMain .start 2 s⟩

end Walk

end Wayfarer
