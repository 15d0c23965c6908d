import Wayfarer.Page.Scripted
import Wayfarer.Proofs.Run.Checkpoint
import Wayfarer.Workspace.Init

/-!
# Clearing the flag

Behind an attempt, however it ends, the cursor is marked idle. That needs a cursor in the file: it is
there unless the walk has kept a position that nests too deep to be read again.
-/

namespace Wayfarer.Run

open Workspace

/-- The positions that a walk behind a preparation keeps in the cursor, in order. -/
def positions (actions : ActionTable π) (depth : Nat) (c : Cursor) (p : Preparation) (page : π) (pockets : Pockets) :
    List Spot :=
  match p.definitions.way? c.way with
  | none => []
  | some way =>
    if p.settings.checkpoint then
      Walk.reports (setting p.definitions actions p.settings) depth way c.spot c.limit page pockets p.settings.settle
    else []

/-- The positions that an attempt keeps in the cursor. -/
def checkpoints (actions : ActionTable π) (depth : Nat) (c : Cursor) (s : State π) : List Spot :=
  match prepare.answer s.workspace.files with
  | .error _ => []
  | .ok p => positions actions depth c p s.page (s.pockets.seed p.pockets)

theorem checkpoints_of_prepared {actions : ActionTable π} {depth : Nat} {c : Cursor} {s : State π} {p : Preparation}
    {way : Way} (prepared : prepare.answer s.workspace.files = .ok p) (found : p.definitions.way? c.way = some way)
    (kept : p.settings.checkpoint = true) :
    checkpoints actions depth c s = Walk.reports (setting p.definitions actions p.settings) depth way c.spot c.limit
      s.page (s.pockets.seed p.pockets) p.settings.settle := by
  unfold checkpoints
  rw [prepared]
  simp only [positions, found]
  rw [if_pos kept]

theorem worldBehind_setting (d : Definitions) (actions : ActionTable π) (settings : Settings) (spots : List Spot)
    (fs : Files) :
    Walk.worldBehind (setting d actions settings) spots fs =
      filesBehind (if settings.checkpoint then spots else []) fs := by
  unfold setting
  cases settings.checkpoint with
  | true => rfl
  | false =>
    induction spots with
    | nil => rfl
    | cons spot spots ih => exact ih

theorem walk_files {w : Walk.Setting π Files} {settle depth : Nat} {way : Way} {spot : Spot} {limit : Nat} {s u : State π}
    {result : Except Failure (Except WalkError Unit × Stats)}
    (h : walk w settle depth way spot limit s = some (result, u)) :
    u.workspace.files =
      Walk.worldBehind w (Walk.reports w depth way spot limit s.page s.pockets settle) s.workspace.files := by
  unfold walk at h
  obtain ⟨⟨ended, t⟩, walked, same⟩ := Option.bind_eq_some_iff.mp h
  cases same
  exact Walk.walk_world rfl walked

theorem walkFrom_files {actions : ActionTable π} {depth : Nat} {c : Cursor} {p : Preparation} {s u : State π}
    {result : Except Failure (Except WalkError Unit × Stats)}
    (h : walkFrom actions depth c p s = some (result, u)) :
    u.workspace.files = filesBehind (positions actions depth c p s.page s.pockets) s.workspace.files := by
  unfold walkFrom at h
  unfold positions
  cases found : p.definitions.way? c.way with
  | none =>
    rw [found] at h
    cases h
    rfl
  | some way =>
    rw [found] at h
    rw [walk_files h, worldBehind_setting]

theorem keepPockets_cursor {settings : Settings} {walked : Except WalkError Unit × Stats} {s u : State π}
    {result : Except Failure (Except WalkError Unit × Stats)} (ready : Ready s.workspace.files)
    (h : keepPockets settings walked s = some (result, u)) :
    Ready u.workspace.files ∧ cursorIn u.workspace.files = cursorIn s.workspace.files := by
  rw [keepPockets_apply] at h
  split at h
  · cases h
    exact writePockets_frames s.pockets ready
  · cases h
    exact ⟨ready, rfl⟩

theorem attempt_cursor {actions : ActionTable π} {depth : Nat} {c : Cursor} {s u : State π}
    {attempted : Except Failure (Except WalkError Unit × Stats)}
    (ready : ∀ spots, Ready (filesBehind spots s.workspace.files))
    (h : attempt actions depth c s = some (attempted, u)) :
    Ready u.workspace.files ∧
      cursorIn u.workspace.files = cursorIn (filesBehind (checkpoints actions depth c s) s.workspace.files) := by
  have unchanged := prepare_reads.files s.workspace
  rw [attempt_apply] at h
  unfold checkpoints
  cases prepared : prepare.answer s.workspace.files with
  | error f =>
    rw [prepared] at h
    cases h
    exact ⟨unchanged ▸ ready [], congrArg cursorIn unchanged⟩
  | ok p =>
    rw [prepared] at h
    obtain ⟨walked, t, walks, keeps⟩ := proceed_some h
    have files := walkFrom_files walks
    rw [unchanged] at files
    have kept := keepPockets_cursor (files ▸ ready _) keeps
    rwa [files] at kept

/-- What an attempt comes to behind the change of the flag. -/
def conclude (c : Cursor) (attempted : Except Failure (Except WalkError Unit × Stats))
    (clearing : Except Failure Cursor) : Run π Outcome := do
  let (result, stats) ← ofExcept attempted
  discard (ofExcept clearing)
  match result with
  | .ok () =>
    note (.completed c.way stats.steps stats.recoveries)
    return .completed c.way stats
  | .error e =>
    note (.failed c.way e stats.steps)
    return .failed c.way e stats

theorem conclude_returns (c : Cursor) (attempted : Except Failure (Except WalkError Unit × Stats))
    (clearing : Except Failure Cursor) (s : State π) : (conclude c attempted clearing s).isSome := by
  rcases attempted with f | ⟨_ | _, stats⟩ <;> cases clearing <;> rfl

theorem conclude_files {c : Cursor} {attempted : Except Failure (Except WalkError Unit × Stats)}
    {clearing : Except Failure Cursor} {s t : State π} {result : Except Failure Outcome}
    (h : conclude c attempted clearing s = some (result, t)) : t.workspace.files = s.workspace.files := by
  rcases attempted with f | ⟨ended, stats⟩
  · cases h
    rfl
  · rcases clearing with f | d
    · cases h
      rfl
    · cases ended <;> cases h <;> rfl

/-- The workspace in which an attempt begins. -/
def begun (c : Cursor) (w : Workspace) : Workspace :=
  (loadCursor w).2.note (.starting c.way c.spot c.limit)

theorem begun_files (c : Cursor) (w : Workspace) : (begun c w).files = w.files :=
  loadCursor_reads.files w

theorem checkpoints_begun (actions : ActionTable π) (depth : Nat) (c : Cursor) (s : State π) :
    checkpoints actions depth c { s with workspace := begun c s.workspace } = checkpoints actions depth c s := by
  unfold checkpoints
  rw [begun_files]

/-- The change that clears the flag behind an attempt. -/
def clearing (attempted : Except Failure (Except WalkError Unit × Stats)) : Work Cursor :=
  (updateCursor (cleared (isCompleted attempted))).during .clearingFlag

/-- A cursor that is marked running is walked, and then the flag is cleared. -/
theorem once_apply (actions : ActionTable π) (depth : Nat) {c : Cursor} {s : State π}
    (loads : cursorIn s.workspace.files = .ok c) (running : c.running = true) :
    once actions depth s =
      (observe (attempt actions depth c) >>= fun attempted => observe (work (clearing attempted)) >>= conclude c attempted)
        { s with workspace := begun c s.workspace } := by
  unfold once
  rw [bind_apply, work_apply, loadCursor_of_cursorIn loads]
  simp only [running, Bool.not_true, Bool.false_eq_true, if_false]
  rfl

theorem observe_bind_some {x : Run π α} {f : Except Failure α → Run π β} {s t : State π} {result : Except Failure β}
    (h : (observe x >>= f) s = some (result, t)) : ∃ found u, x s = some (found, u) ∧ f found u = some (result, t) := by
  rcases bind_some h with ⟨found, u, observed, rest⟩ | ⟨_, observed, -⟩
  · obtain ⟨⟨_, v⟩, ended, same⟩ := Option.map_eq_some_iff.mp observed
    cases same
    exact ⟨found, u, ended, rest⟩
  · obtain ⟨_, _, same⟩ := Option.map_eq_some_iff.mp observed
    cases same

theorem observe_bind_returns {x : Run π α} {f : Except Failure α → Run π β} {s : State π} (first : (x s).isSome)
    (rest : ∀ found u, (f found u).isSome) : ((observe x >>= f) s).isSome := by
  refine bind_returns ?_ fun found u _ => rest found u
  simp only [observe, ExceptT.mk, Option.isSome_map]
  exact first

theorem once_concludes {actions : ActionTable π} {depth : Nat} {c : Cursor} {s t : State π}
    {result : Except Failure Outcome} (loads : cursorIn s.workspace.files = .ok c) (running : c.running = true)
    (returned : once actions depth s = some (result, t)) :
    ∃ attempted u, attempt actions depth c { s with workspace := begun c s.workspace } = some (attempted, u) ∧
      conclude c attempted (clearing attempted u.workspace).1 { u with workspace := (clearing attempted u.workspace).2 } =
        some (result, t) := by
  rw [once_apply actions depth loads running] at returned
  exact observe_bind_some returned

theorem readable_cleared {c : Cursor} (readable : c.Readable) (completed : Bool) : (cleared completed c).Readable := by
  refine ⟨readable.limit, readable.way, ?_⟩
  cases completed with
  | false => exact readable.spot
  | true => exact (by decide : Spot.Fits (Json.maxDepth - 1) Spot.start.path)

/-- When the flag is to be cleared, the cursor is what the positions have left of it. -/
theorem once_behind {actions : ActionTable π} {depth : Nat} {c : Cursor} {s t : State π}
    {result : Except Failure Outcome} (kept : Kept s.workspace.files c) (running : c.running = true)
    (returned : once actions depth s = some (result, t)) :
    ∃ attempted u, attempt actions depth c { s with workspace := begun c s.workspace } = some (attempted, u) ∧
      conclude c attempted (clearing attempted u.workspace).1
        { u with workspace := (clearing attempted u.workspace).2 } = some (result, t) ∧
      t.workspace.files = (updateCursor (cleared (isCompleted attempted)) u.workspace).2.files ∧ Ready u.workspace.files ∧
      cursorIn u.workspace.files = cursorIn (filesBehind (checkpoints actions depth c s) s.workspace.files) := by
  obtain ⟨attempted, u, attempts, concludes⟩ := once_concludes kept.loads running returned
  have begins := begun_files c s.workspace
  obtain ⟨ready, behind⟩ :=
    attempt_cursor (s := { s with workspace := begun c s.workspace }) (begins.symm ▸ ready_filesBehind kept) attempts
  rw [checkpoints_begun, begins] at behind
  have files : t.workspace.files = (updateCursor (cleared (isCompleted attempted)) u.workspace).2.files := by
    rw [conclude_files concludes, clearing, Work.during_apply]
  exact ⟨attempted, u, attempts, concludes, files, ready, behind⟩

/-- Positions that fit leave an idle cursor behind an attempt; one that does not leaves none. -/
theorem once_cursor {actions : ActionTable π} {depth : Nat} {c : Cursor} {s t : State π}
    {result : Except Failure Outcome} (loads : cursorIn s.workspace.files = .ok c) (running : c.running = true)
    (replaceable : s.workspace.files.Replaceable cursorPath)
    (returned : once actions depth s = some (result, t)) :
    ((∀ spot ∈ checkpoints actions depth c s, Spot.Fits (Json.maxDepth - 1) spot.path) →
        ∃ d, cursorIn t.workspace.files = .ok d ∧ d.running = false) ∧
      (¬ (∀ spot ∈ checkpoints actions depth c s, Spot.Fits (Json.maxDepth - 1) spot.path) →
        ∃ f, cursorIn t.workspace.files = .error f) := by
  have kept : Kept s.workspace.files c := ⟨ready_of_replaceable loads replaceable, loads⟩
  obtain ⟨attempted, u, -, -, files, ready, behind⟩ := once_behind kept running returned
  obtain ⟨keeps, loses⟩ := filesBehind_kept kept (checkpoints actions depth c s)
  rw [files]
  constructor
  · intro fits
    obtain ⟨spot, -, keptAt⟩ := keeps fits
    obtain ⟨clears, -⟩ := updateCursor_kept (cleared (isCompleted attempted)) ⟨ready, behind.trans keptAt⟩
    have readable := readable_of_cursorIn keptAt
    exact ⟨_, (clears (readable_cleared readable _)).loads, rfl⟩
  · intro tooDeep
    obtain ⟨-, f, fails⟩ := loses tooDeep
    refine ⟨f, ?_⟩
    rw [updateCursor_lost _ ⟨ready, f, behind.trans fails⟩, behind, fails]

/-- Where the cursor is marked running and its file can be read and replaced, it is marked idle once
the attempt has returned, exactly if none of the positions that were kept nests too deep. -/
theorem flag_cleared_iff (actions : ActionTable π) (depth : Nat) {c : Cursor} {s t : State π}
    {result : Except Failure Outcome} (loads : cursorIn s.workspace.files = .ok c) (running : c.running = true)
    (replaceable : s.workspace.files.Replaceable cursorPath)
    (returned : once actions depth s = some (result, t)) :
    (∃ d, cursorIn t.workspace.files = .ok d ∧ d.running = false) ↔
      ∀ spot ∈ checkpoints actions depth c s, Spot.Fits (Json.maxDepth - 1) spot.path := by
  obtain ⟨clears, loses⟩ := once_cursor loads running replaceable returned
  refine ⟨?_, clears⟩
  rintro ⟨d, loadsBehind, -⟩
  by_contra tooDeep
  obtain ⟨f, fails⟩ := loses tooDeep
  cases fails.symm.trans loadsBehind

/-! ### A step that recovers itself -/

theorem walk_returns {w : Walk.Setting π Files} {settle depth : Nat} {way : Way} {spot : Spot} {limit : Nat} {s : State π}
    (walks : (Walk.walk w.recording depth [] way spot limit
      { page := s.page, pockets := s.pockets, settle, world := [] }).isSome) :
    (walk w settle depth way spot limit s).isSome := by
  have returned := Walk.walk_isSome w depth way spot limit
    { page := s.page, pockets := s.pockets, settle, world := s.workspace.files, journal := s.workspace.journal } rfl
  obtain ⟨ends, walked⟩ := Option.isSome_iff_exists.mp (returned.trans walks)
  simp only [walk, ExceptT.mk, walked]
  rfl

theorem proceed_returns {actions : ActionTable π} {depth : Nat} {c : Cursor} {p : Preparation} {s : State π}
    (walks : ∀ way, p.definitions.way? c.way = some way →
      (Walk.walk (setting p.definitions actions p.settings).recording depth [] way c.spot c.limit
        { page := s.page, pockets := s.pockets.seed p.pockets, settle := p.settings.settle, world := [] }).isSome) :
    (proceed actions depth c p s).isSome := by
  refine bind_returns rfl fun _ u seeded => bind_returns ?_ fun walked v _ => ?_
  · cases seeded
    unfold walkFrom
    cases found : p.definitions.way? c.way with
    | none => rfl
    | some way => exact walk_returns (walks way found)
  · unfold keepPockets
    split
    · exact bind_returns rfl fun _ _ _ => rfl
    · rfl

theorem once_returns {actions : ActionTable π} {depth : Nat} {c : Cursor} {s : State π}
    (loads : cursorIn s.workspace.files = .ok c) (running : c.running = true)
    (walks : ∀ p way, prepare.answer s.workspace.files = .ok p → p.definitions.way? c.way = some way →
      (Walk.walk (setting p.definitions actions p.settings).recording depth [] way c.spot c.limit
        { page := s.page, pockets := s.pockets.seed p.pockets, settle := p.settings.settle, world := [] }).isSome) :
    ∃ result t, once actions depth s = some (result, t) := by
  have attempts : (attempt actions depth c { s with workspace := begun c s.workspace }).isSome := by
    rw [attempt_apply, begun_files]
    cases prepared : prepare.answer s.workspace.files with
    | error f => rfl
    | ok p => exact proceed_returns fun way found => walks p way prepared found
  have returned : (once actions depth s).isSome := by
    rw [once_apply actions depth loads running]
    exact observe_bind_returns attempts fun attempted u => bind_returns rfl fun clearing v _ =>
      conclude_returns c attempted clearing v
  obtain ⟨⟨result, t⟩, found⟩ := Option.isSome_iff_exists.mp returned
  exact ⟨result, t, found⟩

/-- A step that recovers itself. -/
def stubborn : Preparation where
  settings := {}
  definitions :=
    { steps := [{ id := .step "a", description := "", action := .check, selector := "#a", onFailure := [.step "a"] }]
      ways := [{ id := .way "main", description := "", repeats := 1, steps := [.step "a"] }] }
  pockets := []

/-- As much budget as the deepest spot has indices. -/
def stubbornCursor : Cursor where
  running := true
  limit := 126
  way := .way "main"

def stubbornFiles : Files where
  entries := [(dataDirectory, .directory),
    (stepsPath, .file (.text (recordsText Step.toJson stubborn.definitions.steps))),
    (waysPath, .file (.text (recordsText Way.toJson stubborn.definitions.ways))),
    (detoursPath, .file (.text emptyList)),
    (pocketsPath, .file (.text emptyList)),
    (cursorPath, .file (.text (cursorText stubbornCursor)))]

/-- The element of the step appears after so many looks. -/
def stubbornState (looks : Nat) : State ScriptedPage where
  page := { flaky := [("#a", looks)] }
  workspace := { files := stubbornFiles }

theorem stubborn_loads : cursorIn stubbornFiles = .ok stubbornCursor := by
  have holds : Holds stubbornFiles stubbornCursor := rfl
  exact cursorIn_of_holds holds ⟨by decide, by decide, by decide⟩

theorem stubborn_replaceable : stubbornFiles.Replaceable cursorPath :=
  (ready_of_find? rfl rfl rfl).replaceable

theorem stubborn_prepared : prepare.answer stubbornFiles = .ok stubborn := by
  have settings : loadSettings.answer stubbornFiles = .ok {} := by decide +kernel
  have steps : (readRecords Step.ofJson stepsPath).answer stubbornFiles = .ok stubborn.definitions.steps :=
    readRecords_of_text rfl (by decide +kernel) (by decide +kernel)
  have ways : (readRecords Way.ofJson waysPath).answer stubbornFiles = .ok stubborn.definitions.ways :=
    readRecords_of_text rfl (by decide +kernel) (by decide +kernel)
  have detours : (readRecords Detour.ofJson detoursPath).answer stubbornFiles = .ok [] := by decide +kernel
  have pockets : loadPockets.answer stubbornFiles = .ok [] := by decide +kernel
  have read : readDefinitions.answer stubbornFiles = .ok stubborn.definitions := by
    rw [readDefinitions_answer, steps, ways, detours]
    rfl
  exact prepare_eq_ok_iff.mpr ⟨settings, loadDefinitions_answer read (by decide +kernel), pockets⟩

theorem stubborn_way : stubborn.definitions.way? stubbornCursor.way = some ⟨.way "main", "", 1, [.step "a"]⟩ :=
  rfl

/-- The walk of the cursor, with its positions. -/
def stubbornWalk (looks : Nat) : Option (Except WalkError Unit × Walk.State ScriptedPage (List Spot)) :=
  Walk.walk (setting stubborn.definitions .standard stubborn.settings).recording 130 [] ⟨.way "main", "", 1, [.step "a"]⟩
    stubbornCursor.spot stubbornCursor.limit
    { page := (stubbornState looks).page, pockets := (stubbornState looks).pockets.seed stubborn.pockets,
      settle := stubborn.settings.settle, world := [] }

theorem stubborn_fits : ∃ walked, stubbornWalk 3 = some walked ∧
    ∀ spot ∈ walked.2.world, Spot.Fits (Json.maxDepth - 1) spot.path := by
  have walks : (stubbornWalk 3).any (fun walked =>
      decide (∀ spot ∈ walked.2.world, Spot.Fits (Json.maxDepth - 1) spot.path)) = true := by
    decide +kernel
  obtain ⟨walked, found, fits⟩ := (Option.any_eq_true _ _).mp walks
  exact ⟨walked, found, of_decide_eq_true fits⟩

theorem stubborn_nests : ∃ walked, stubbornWalk 126 = some walked ∧
    ∃ spot ∈ walked.2.world, Json.maxDepth - 1 < spot.path.length := by
  have walks : (stubbornWalk 126).any (fun walked =>
      decide (∃ spot ∈ walked.2.world, Json.maxDepth - 1 < spot.path.length)) = true := by
    decide +kernel
  obtain ⟨walked, found, nests⟩ := (Option.any_eq_true _ _).mp walks
  exact ⟨walked, found, of_decide_eq_true nests⟩

theorem stubborn_returns {looks : Nat} (walks : (stubbornWalk looks).isSome) :
    ∃ result t, once .standard 130 (stubbornState looks) = some (result, t) := by
  refine once_returns (c := stubbornCursor) stubborn_loads rfl fun p way prepared found => ?_
  cases stubborn_prepared.symm.trans prepared
  cases stubborn_way.symm.trans found
  exact walks

theorem stubborn_checkpoints {looks : Nat} {walked : Except WalkError Unit × Walk.State ScriptedPage (List Spot)}
    (walks : stubbornWalk looks = some walked) :
    checkpoints .standard 130 stubbornCursor (stubbornState looks) = walked.2.world := by
  unfold stubbornWalk at walks
  rw [checkpoints_of_prepared (s := stubbornState looks) stubborn_prepared stubborn_way rfl, Walk.reports, walks]

theorem flag_cleared_iff_after_recoveries : ∃ result t, once .standard 130 (stubbornState 3) = some (result, t) ∧
    ∃ d, cursorIn t.workspace.files = .ok d ∧ d.running = false := by
  obtain ⟨walked, walks, fits⟩ := stubborn_fits
  obtain ⟨result, t, returned⟩ := stubborn_returns (Option.isSome_of_eq_some walks)
  have cleared := flag_cleared_iff .standard 130 (s := stubbornState 3) stubborn_loads rfl stubborn_replaceable returned
  rw [stubborn_checkpoints walks] at cleared
  exact ⟨result, t, returned, cleared.mpr fits⟩

/-- One recovery too many leaves a cursor file that nothing can read again. -/
theorem flag_not_cleared : cursorIn (stubbornState 126).workspace.files = .ok stubbornCursor ∧
    stubbornCursor.running = true ∧ (stubbornState 126).workspace.files.Replaceable cursorPath ∧
    ∃ result t, once .standard 130 (stubbornState 126) = some (result, t) ∧
      ¬ ∃ d, cursorIn t.workspace.files = .ok d ∧ d.running = false := by
  obtain ⟨walked, walks, spot, reported, nests⟩ := stubborn_nests
  obtain ⟨result, t, returned⟩ := stubborn_returns (Option.isSome_of_eq_some walks)
  refine ⟨stubborn_loads, rfl, stubborn_replaceable, result, t, returned, ?_⟩
  obtain ⟨-, loses⟩ := once_cursor (s := stubbornState 126) stubborn_loads rfl stubborn_replaceable returned
  rw [stubborn_checkpoints walks] at loses
  obtain ⟨f, fails⟩ := loses fun fits => absurd (fits spot reported).1 (Nat.not_le.mpr nests)
  rintro ⟨d, loads, -⟩
  cases fails.symm.trans loads

end Wayfarer.Run
