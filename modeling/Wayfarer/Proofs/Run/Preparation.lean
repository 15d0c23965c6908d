import Wayfarer.Proofs.RecordFiles
import Wayfarer.Run

/-!
# What an attempt loads

Everything that an attempt needs is loaded before it walks, and loading changes no file. So what an
attempt is given depends on the files alone.
-/

namespace Wayfarer

namespace Workspace

theorem loadSettings_reads : loadSettings.Reads := by
  refine (Work.reads_look _).bind fun there => ?_
  split
  · exact Work.reads_pure _
  · refine ((Work.reads_readText _).during _).bind fun text => ?_
    split
    · exact Work.reads_throw _
    · exact (Work.reads_ofExcept _).bind fun _ => Work.reads_pure _

end Workspace

namespace Run

open Workspace

/-- What an attempt is given. -/
structure Preparation where
  settings : Settings
  definitions : Definitions
  pockets : List Pocket
  deriving DecidableEq

def prepare : Work Preparation := do
  let settings ← loadSettings
  let definitions ← loadDefinitions.during .loadingDefinitions
  let pockets ← loadPockets
  return { settings, definitions, pockets }

theorem prepare_reads : prepare.Reads := by
  refine loadSettings_reads.bind fun settings => ?_
  refine (loadDefinitions_reads.during _).bind fun definitions => ?_
  exact loadPockets_reads.bind fun pockets => Work.reads_pure _

theorem prepare_answer (fs : Files) :
    prepare.answer fs = (do
      let settings ← loadSettings.answer fs
      let definitions ← (loadDefinitions.answer fs).mapError (·.within .loadingDefinitions)
      let pockets ← loadPockets.answer fs
      return { settings, definitions, pockets }) := by
  have last : ∀ settings definitions, (do
      let pockets ← loadPockets
      return { settings, definitions, pockets } : Work Preparation).Reads :=
    fun _ _ => loadPockets_reads.bind fun _ => Work.reads_pure _
  unfold prepare
  rw [Work.answer_bind loadSettings_reads fun _ => (loadDefinitions_reads.during _).bind fun _ => last _ _]
  refine bind_congr fun settings => ?_
  rw [Work.answer_bind (loadDefinitions_reads.during _) fun _ => last _ _, Work.answer_during]
  refine bind_congr fun definitions => ?_
  rw [Work.answer_bind loadPockets_reads fun _ => Work.reads_pure _]
  rfl

theorem prepare_eq_ok_iff {fs : Files} {p : Preparation} :
    prepare.answer fs = .ok p ↔ loadSettings.answer fs = .ok p.settings ∧
      loadDefinitions.answer fs = .ok p.definitions ∧ loadPockets.answer fs = .ok p.pockets := by
  rw [prepare_answer]
  simp only [bind_eq_ok, mapError_eq_ok]
  constructor
  · rintro ⟨settings, settled, definitions, defined, pockets, pocketed, same⟩
    cases same
    exact ⟨settled, defined, pocketed⟩
  · rintro ⟨settled, defined, pocketed⟩
    exact ⟨_, settled, _, defined, _, pocketed, rfl⟩

theorem settings_of_prepare {fs : Files} {p : Preparation} (prepared : prepare.answer fs = .ok p) :
    loadSettings.answer fs = .ok p.settings :=
  (prepare_eq_ok_iff.mp prepared).1

/-- Walks the way of the cursor, if there is such a way. -/
def walkFrom (actions : ActionTable π) (depth : Nat) (cursor : Cursor) (p : Preparation) :
    Run π (Except WalkError Unit × Stats) :=
  match p.definitions.way? cursor.way with
  | none => pure (.error (.unknownWay cursor.way), {})
  | some way => walk (setting p.definitions actions p.settings) p.settings.settle depth way cursor.spot cursor.limit

/-- Writes the pockets behind a walk, if they are to stay. -/
def keepPockets (settings : Settings) (walked : Except WalkError Unit × Stats) :
    Run π (Except WalkError Unit × Stats) := do
  if settings.persistPockets then persist
  return walked

/-- The attempt behind the loading. -/
def proceed (actions : ActionTable π) (depth : Nat) (cursor : Cursor) (p : Preparation) :
    Run π (Except WalkError Unit × Stats) := do
  seed p.pockets
  let walked ← walkFrom actions depth cursor p
  keepPockets p.settings walked

theorem walkFrom_some {actions : ActionTable π} {depth : Nat} {c : Cursor} {p : Preparation} {s t : State π}
    {result : Except Failure (Except WalkError Unit × Stats)} (h : walkFrom actions depth c p s = some (result, t)) :
    ∃ walked, result = .ok walked := by
  unfold walkFrom at h
  cases found : p.definitions.way? c.way with
  | none =>
    rw [found] at h
    cases h
    exact ⟨_, rfl⟩
  | some way =>
    rw [found] at h
    obtain ⟨⟨ended, u⟩, -, same⟩ := Option.bind_eq_some_iff.mp h
    cases same
    exact ⟨_, rfl⟩

/-- An attempt that has loaded all seeds the store, walks and keeps the pockets. -/
theorem proceed_some {actions : ActionTable π} {depth : Nat} {c : Cursor} {p : Preparation} {s t : State π}
    {attempted : Except Failure (Except WalkError Unit × Stats)}
    (h : proceed actions depth c p s = some (attempted, t)) :
    ∃ walked u, walkFrom actions depth c p { s with pockets := s.pockets.seed p.pockets } = some (.ok walked, u) ∧
      keepPockets p.settings walked u = some (attempted, t) := by
  rcases bind_some h with ⟨_, v, seeded, rest⟩ | ⟨_, seeded, -⟩
  · cases seeded
    rcases bind_some rest with ⟨walked, u, walks, keeps⟩ | ⟨f, walks, -⟩
    · exact ⟨walked, u, walks, keeps⟩
    · obtain ⟨_, same⟩ := walkFrom_some walks
      cases same
  · cases seeded

theorem work_apply (x : Work α) (s : State π) :
    work x s = some ((x s.workspace).1, { s with workspace := (x s.workspace).2 }) := rfl

theorem keepPockets_apply (settings : Settings) (walked : Except WalkError Unit × Stats) (s : State π) :
    keepPockets settings walked s =
      if settings.persistPockets then
        some (((writePockets s.pockets).during .persistingPockets s.workspace).1.map fun _ => walked,
          { s with workspace := (writePockets s.pockets s.workspace).2 })
      else some (.ok walked, s) := by
  unfold keepPockets
  split
  · rw [bind_apply, persist, ExceptT.mk, work_apply, Work.during_apply]
    cases (writePockets s.pockets s.workspace).1 <;> rfl
  · rfl

theorem work_bind (x : Work α) (f : α → Work β) :
    (work (x >>= f) : Run π β) = work x >>= fun a => work (f a) := by
  funext s
  rw [bind_apply, work_apply, work_apply, Work.bind_apply]
  cases x s.workspace with
  | mk result w => cases result <;> rfl

theorem attempt_eq (actions : ActionTable π) (depth : Nat) (cursor : Cursor) :
    attempt actions depth cursor = work prepare >>= proceed actions depth cursor := by
  have pure_work : ∀ p : Preparation, (work (pure p) : Run π Preparation) = pure p := fun _ => rfl
  simp only [attempt, prepare, work_bind, bind_assoc, pure_work, pure_bind, proceed, walkFrom,
    keepPockets]
  refine bind_congr fun settings => bind_congr fun definitions => bind_congr fun pockets => bind_congr fun _ => ?_
  cases definitions.way? cursor.way with
  | none => rfl
  | some way => rfl

theorem attempt_apply (actions : ActionTable π) (depth : Nat) (cursor : Cursor) (s : State π) :
    attempt actions depth cursor s =
      match prepare.answer s.workspace.files with
      | .ok p => proceed actions depth cursor p { s with workspace := (prepare s.workspace).2 }
      | .error f => some (.error f, { s with workspace := (prepare s.workspace).2 }) := by
  rw [attempt_eq, bind_apply, work_apply, prepare_reads.apply s.workspace]
  cases prepare.answer s.workspace.files <;> rfl

@[simp] theorem setting_definitions (d : Definitions) (actions : ActionTable π) (settings : Settings) :
    (setting d actions settings).definitions = d := by
  unfold setting
  split <;> rfl

@[simp] theorem setting_actions (d : Definitions) (actions : ActionTable π) (settings : Settings) :
    (setting d actions settings).actions = actions := by
  unfold setting
  split <;> rfl

end Run

end Wayfarer
