import Wayfarer.Proofs.Run.Flag

/-!
# Runs in company

While a run is in progress others may change the files. The run looks at its cursor once when it begins and
changes it with every position and when it clears the flag; a change reads, makes the directory, writes the
temporary file and renames that. Here whatever others do is done in front of one of these operations or
behind the last. Left alone, such a run is the run itself.
-/

namespace Wayfarer

/-- The file operations of a change of the cursor, in order. -/
inductive Access where
  | reading
  | making
  | writing
  | moving
  deriving DecidableEq, Repr

/-- Where a run in progress may be met. -/
inductive Place where
  /-- In front of an operation of the change that keeps a position; positions are counted from 0. What is
  done since the change before it is done in front of the first operation. -/
  | position (number : Nat) (access : Access)
  /-- In front of an operation of the change that clears the flag. -/
  | flag (access : Access)
  /-- Behind the last change. -/
  | returning
  deriving DecidableEq, Repr

/-- What others do to the files at each place. -/
abbrev Company := Place → Files → Files

namespace Work

def host (visit : Files → Files) : Work Unit :=
  ExceptT.mk fun w => (.ok (), { w with files := visit w.files })

/-- The replacement of a file, in front of each of whose operations others come. -/
def replaceAmid (visits : Access → Files → Files) (p : Path) (text : String) : Work Unit := do
  let parent := p.dropLast
  let beside := p.withEnding ".tmp"
  host (visits .making)
  (change (·.makeDirectories parent)).during (.creatingDirectory parent)
  host (visits .writing)
  (change (·.write beside (.text text))).during (.writingTemporary beside)
  host (visits .moving)
  (change (·.rename beside p)).during (.replacing p)

theorem host_id : host id = pure () := rfl

theorem replaceAmid_alone (p : Path) (text : String) : replaceAmid (fun _ => id) p text = replace p text := by
  simp only [replaceAmid, host_id, pure_bind]
  rfl

end Work

namespace Workspace

def updateAmid (visits : Access → Files → Files) (change : Cursor → Cursor) : Work Cursor := do
  Work.host (visits .reading)
  let cursor := change (← loadCursor)
  Work.note (.writingCursor cursorPath cursor)
  Work.replaceAmid visits cursorPath (cursorText cursor)
  return cursor

theorem updateAmid_alone (change : Cursor → Cursor) : updateAmid (fun _ => id) change = updateCursor change := by
  simp only [updateAmid, Work.host_id, pure_bind, Work.replaceAmid_alone, updateCursor, writeCursor, bind_assoc]

end Workspace

namespace Run

open Workspace

def keepWith (update : (Cursor → Cursor) → Work Cursor) (spot : Spot) (files : Files) : Files × Array (Moment Files) :=
  match update (fun c => { c with spot }) { files } with
  | (.ok _, w) => (w.files, w.journal)
  | (.error f, w) =>
    let w := w.note (.checkpointFailed f spot)
    (w.files, w.journal)

/-- Keeps a position in company. The world counts the positions. -/
def keepAmid (company : Company) (spot : Spot) (world : Files × Nat) : (Files × Nat) × Array (Moment (Files × Nat)) :=
  let (files, moments) := keepWith (updateAmid fun access => company (.position world.2 access)) spot world.1
  ((files, world.2 + 1), moments.map fun m => ⟨m.event, (m.world, world.2)⟩)

def settingAmid (company : Company) (definitions : Definitions) (actions : ActionTable π) (settings : Settings) :
    Walk.Setting π (Files × Nat) :=
  (setting definitions actions settings).keeping
    (if settings.checkpoint then keepAmid company else fun _ world => (world, #[]))

def walkFromAmid (company : Company) (actions : ActionTable π) (depth : Nat) (cursor : Cursor) (p : Preparation) :
    Run π (Except WalkError Unit × Stats) :=
  match p.definitions.way? cursor.way with
  | none => pure (.error (.unknownWay cursor.way), {})
  | some way => ExceptT.mk fun s => do
    let start : Walk.State π (Files × Nat) :=
      { page := s.page, pockets := s.pockets, settle := p.settings.settle, world := (s.workspace.files, 0),
        journal := s.workspace.journal.map fun m => ⟨m.event, (m.world, 0)⟩ }
    let (result, t) ←
      Walk.walk (settingAmid company p.definitions actions p.settings) depth [] way cursor.spot cursor.limit start
    return (.ok (result, t.stats),
      { page := t.page, pockets := t.pockets, workspace := ⟨t.world.1, t.journal.map fun m => ⟨m.event, m.world.1⟩⟩ })

def attemptAmid (company : Company) (actions : ActionTable π) (depth : Nat) (cursor : Cursor) :
    Run π (Except WalkError Unit × Stats) := do
  let p ← work prepare
  seed p.pockets
  let walked ← walkFromAmid company actions depth cursor p
  keepPockets p.settings walked

def clearingAmid (company : Company) (attempted : Except Failure (Except WalkError Unit × Stats)) : Work Cursor :=
  (updateAmid (fun access => company (.flag access)) (cleared (isCompleted attempted))).during .clearingFlag

def onceAmid (company : Company) (actions : ActionTable π) (depth : Nat) : Run π Outcome := do
  let cursor ← work loadCursor
  if !cursor.running then return .idle
  note (.starting cursor.way cursor.spot cursor.limit)
  let attempted ← observe (attemptAmid company actions depth cursor)
  let clearing ← observe (work (clearingAmid company attempted))
  work (Work.host (company .returning))
  conclude cursor attempted clearing

/-! ### Left alone -/

theorem keepAmid_alone (spot : Spot) (world : Files × Nat) :
    keepAmid (fun _ => id) spot world =
      (((keepSpot spot world.1).1, world.2 + 1),
        (keepSpot spot world.1).2.map fun m => ⟨m.event, (m.world, world.2)⟩) := by
  have alone : updateAmid (fun _ => id) = updateCursor := funext updateAmid_alone
  simp only [keepAmid, alone]
  rfl

theorem shows_alone (definitions : Definitions) (actions : ActionTable π) (settings : Settings) :
    Walk.Shows Prod.fst (setting definitions actions settings)
      (settingAmid (fun _ => id) definitions actions settings) := by
  intro spot world
  unfold settingAmid setting
  cases settings.checkpoint with
  | false => simp [Walk.Setting.keeping]
  | true => simp [Walk.Setting.keeping, keepAmid_alone, Function.comp_def]

theorem walkFromAmid_alone (actions : ActionTable π) (depth : Nat) (cursor : Cursor) (p : Preparation) :
    walkFromAmid (fun _ => id) actions depth cursor p = walkFrom actions depth cursor p := by
  funext s
  unfold walkFromAmid walkFrom
  cases p.definitions.way? cursor.way with
  | none => rfl
  | some way =>
    have seen := Walk.walk_image (shows_alone p.definitions actions p.settings) depth [] way cursor.spot cursor.limit
      { page := s.page, pockets := s.pockets, settle := p.settings.settle, world := (s.workspace.files, 0),
        journal := s.workspace.journal.map fun m => ⟨m.event, (m.world, 0)⟩ }
    simp only [Walk.State.image, Array.map_map, Function.comp_def, Array.map_id_fun', id_eq] at seen
    simp only [walk, ExceptT.mk, settingAmid, seen]
    generalize
      Walk.walk ((setting p.definitions actions p.settings).keeping _) depth [] way cursor.spot cursor.limit _ = ends
    cases ends <;> rfl

theorem attemptAmid_alone (actions : ActionTable π) (depth : Nat) (cursor : Cursor) :
    attemptAmid (fun _ => id) actions depth cursor = attempt actions depth cursor := by
  rw [attempt_eq]
  refine bind_congr fun p => ?_
  unfold proceed
  rw [walkFromAmid_alone]

/-- A run that is left alone is the run itself. -/
theorem onceAmid_alone (actions : ActionTable π) (depth : Nat) :
    onceAmid (fun _ => id) actions depth = once actions depth := by
  have quiet : (work (Work.host id) : Run π Unit) = pure () := rfl
  simp only [onceAmid, once, attemptAmid_alone, clearingAmid, updateAmid_alone, quiet, pure_bind]
  rfl

/-! ### What is left of the files -/

/-- The files behind some positions that are kept in company, counted from `number`. -/
def filesAmid (company : Company) : (number : Nat) → List Spot → Files → Files
  | _, [], files => files
  | number, spot :: spots, files =>
    filesAmid company (number + 1) spots
      (updateAmid (fun access => company (.position number access)) (fun c => { c with spot }) { files }).2.files

theorem keepAmid_files (company : Company) (spot : Spot) (files : Files) (number : Nat) :
    (keepAmid company spot (files, number)).1 =
      ((updateAmid (fun access => company (.position number access)) (fun c => { c with spot }) { files }).2.files,
        number + 1) := by
  unfold keepAmid keepWith
  cases updateAmid (fun access => company (.position number access)) (fun c => { c with spot }) { files } with
  | mk result w => cases result <;> rfl

theorem worldBehind_settingAmid (company : Company) (d : Definitions) (actions : ActionTable π) (settings : Settings)
    (spots : List Spot) (files : Files) (number : Nat) :
    (Walk.worldBehind (settingAmid company d actions settings) spots (files, number)).1 =
      filesAmid company number (if settings.checkpoint then spots else []) files := by
  unfold settingAmid
  cases settings.checkpoint with
  | true =>
    induction spots generalizing files number with
    | nil => rfl
    | cons spot spots ih =>
      have first := keepAmid_files company spot files number
      simp only [Walk.worldBehind, if_true, List.foldl_cons] at ih ⊢
      change (List.foldl _ (keepAmid company spot (files, number)).1 spots).1 = _
      rw [first]
      exact ih _ _
  | false =>
    induction spots generalizing files number with
    | nil => rfl
    | cons spot spots ih => exact ih files number

section

variable {company : Company} {actions : ActionTable π} {depth : Nat} {c : Cursor} {s : State π}

theorem walkFromAmid_some {p : Preparation} {u : State π} {result : Except Failure (Except WalkError Unit × Stats)}
    (h : walkFromAmid company actions depth c p s = some (result, u)) :
    (∃ walked, result = .ok walked) ∧
      u.workspace.files = filesAmid company 0 (positions actions depth c p s.page s.pockets) s.workspace.files := by
  unfold walkFromAmid at h
  unfold positions
  cases found : p.definitions.way? c.way with
  | none =>
    rw [found] at h
    cases h
    exact ⟨⟨_, rfl⟩, rfl⟩
  | some way =>
    rw [found] at h
    obtain ⟨⟨ended, t⟩, walked, same⟩ := Option.bind_eq_some_iff.mp h
    cases same
    have world := congrArg Prod.fst (Walk.walk_world rfl walked)
    rw [worldBehind_settingAmid] at world
    exact ⟨⟨_, rfl⟩, world⟩

theorem walkFromAmid_returns {p : Preparation} {u : State π} {result : Except Failure (Except WalkError Unit × Stats)}
    (h : walkFrom actions depth c p s = some (result, u)) : (walkFromAmid company actions depth c p s).isSome := by
  unfold walkFrom at h
  unfold walkFromAmid
  cases found : p.definitions.way? c.way with
  | none => rfl
  | some way =>
    rw [found] at h
    obtain ⟨_, walked, -⟩ := Option.bind_eq_some_iff.mp h
    have alone := Walk.walk_isSome (setting p.definitions actions p.settings) depth way c.spot c.limit
      { page := s.page, pockets := s.pockets, settle := p.settings.settle, world := s.workspace.files,
        journal := s.workspace.journal } rfl
    have amid := Walk.walk_isSome (settingAmid company p.definitions actions p.settings) depth way c.spot c.limit
      { page := s.page, pockets := s.pockets, settle := p.settings.settle, world := (s.workspace.files, 0),
        journal := s.workspace.journal.map fun m => ⟨m.event, (m.world, 0)⟩ } rfl
    rw [Option.isSome_of_eq_some walked] at alone
    obtain ⟨ends, also⟩ := Option.isSome_iff_exists.mp (amid.trans alone.symm)
    simp only [ExceptT.mk, also]
    rfl

/-- What an attempt in company leaves of the cursor is what its positions leave of it. -/
theorem attemptAmid_cursor {u : State π} {attempted : Except Failure (Except WalkError Unit × Stats)}
    (ready : Ready (filesAmid company 0 (checkpoints actions depth c s) s.workspace.files))
    (h : attemptAmid company actions depth c s = some (attempted, u)) :
    Ready u.workspace.files ∧
      cursorIn u.workspace.files = cursorIn (filesAmid company 0 (checkpoints actions depth c s) s.workspace.files) := by
  have unchanged := prepare_reads.files s.workspace
  unfold attemptAmid at h
  rw [bind_apply, work_apply, prepare_reads.apply s.workspace] at h
  unfold checkpoints at ready ⊢
  cases prepared : prepare.answer s.workspace.files with
  | error f =>
    rw [prepared] at h ready
    cases h
    exact ⟨unchanged ▸ ready, congrArg cursorIn unchanged⟩
  | ok p =>
    rw [prepared] at h ready
    rcases bind_some h with ⟨_, v, seeded, rest⟩ | ⟨_, seeded, -⟩
    · cases seeded
      rcases bind_some rest with ⟨walked, u, walks, keeps⟩ | ⟨f, walks, -⟩
      · obtain ⟨-, files⟩ := walkFromAmid_some walks
        rw [unchanged] at files
        have kept := keepPockets_cursor (files ▸ ready) keeps
        rwa [files] at kept
      · obtain ⟨⟨_, walked⟩, -⟩ := walkFromAmid_some walks
        cases walked
    · cases seeded

theorem onceAmid_apply (company : Company) (actions : ActionTable π) (depth : Nat)
    (loads : cursorIn s.workspace.files = .ok c) (running : c.running = true) :
    onceAmid company actions depth s =
      (observe (attemptAmid company actions depth c) >>= fun attempted =>
        observe (work (clearingAmid company attempted)) >>= fun clearing =>
        work (Work.host (company .returning)) >>= fun _ => conclude c attempted clearing)
        { s with workspace := begun c s.workspace } := by
  unfold onceAmid
  rw [bind_apply, work_apply, loadCursor_of_cursorIn loads]
  simp only [running, Bool.not_true, Bool.false_eq_true, if_false]
  rfl

theorem onceAmid_concludes {t : State π} {result : Except Failure Outcome}
    (loads : cursorIn s.workspace.files = .ok c) (running : c.running = true)
    (returned : onceAmid company actions depth s = some (result, t)) :
    ∃ attempted u, attemptAmid company actions depth c { s with workspace := begun c s.workspace } = some (attempted, u) ∧
      conclude c attempted (clearingAmid company attempted u.workspace).1
        { u with workspace :=
          (Work.host (company .returning) (clearingAmid company attempted u.workspace).2).2 } = some (result, t) := by
  rw [onceAmid_apply company actions depth loads running] at returned
  exact observe_bind_some returned

theorem onceAmid_returns (company : Company) {t : State π} {result : Except Failure Outcome}
    (loads : cursorIn s.workspace.files = .ok c) (running : c.running = true)
    (returned : once actions depth s = some (result, t)) :
    ∃ result t, onceAmid company actions depth s = some (result, t) := by
  obtain ⟨attempted, u, attempts, -⟩ := once_concludes loads running returned
  have also : (attemptAmid company actions depth c { s with workspace := begun c s.workspace }).isSome := by
    rw [attempt_apply] at attempts
    unfold attemptAmid
    rw [bind_apply, work_apply, prepare_reads.apply]
    cases prepared : prepare.answer (begun c s.workspace).files with
    | error f => rfl
    | ok p =>
      rw [prepared] at attempts
      obtain ⟨walked, v, walks, -⟩ := proceed_some attempts
      refine bind_returns rfl fun _ x seeded => bind_returns ?_ fun walked y _ => ?_
      · cases seeded
        exact walkFromAmid_returns walks
      · rw [keepPockets_apply]
        split <;> rfl
  have ends : (onceAmid company actions depth s).isSome := by
    rw [onceAmid_apply company actions depth loads running]
    exact observe_bind_returns also fun attempted u => bind_returns rfl fun clearing v _ => bind_returns rfl fun _ x _ =>
      conclude_returns c attempted clearing x
  obtain ⟨⟨result, t⟩, found⟩ := Option.isSome_iff_exists.mp ends
  exact ⟨result, t, found⟩

end

end Run

end Wayfarer
