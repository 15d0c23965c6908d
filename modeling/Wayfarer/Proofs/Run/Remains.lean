import Wayfarer.Proofs.Run.Frame
import Wayfarer.Proofs.Run.Idle

/-!
# What a run leaves behind

Whatever becomes of a run, its cursor keeps the way and the limit, no definitions and no settings are
changed, and the file of the pockets is only changed where they are to stay.
-/

namespace Wayfarer.Run

open Workspace

def completes : Except Failure Outcome → Bool
  | .ok (.completed _ _) => true
  | _ => false

/-- The page and the pockets are what they were, and no deed has been noted. -/
structure Untouched (s t : State π) : Prop where
  page : t.page = s.page
  pockets : t.pockets = s.pockets
  idle : s.workspace.IdlesTo t.workspace

/-- What there is behind a run of the cursor `c`. -/
structure Leaves (actions : ActionTable π) (depth : Nat) (c : Cursor) (s t : State π) (result : Except Failure Outcome) :
    Prop where
  /-- Without the flag nothing is done. -/
  idle : c.running = false → result = .ok .idle ∧ t.workspace.files = s.workspace.files ∧ Untouched s t
  /-- A walk that ends well rewinds the cursor; any other leaves it at the last position that was kept. -/
  cursor : c.running = true → cursorIn t.workspace.files = .ok { c with
    running := false
    spot := if completes result then .start else (checkpoints actions depth c s).getLastD c.spot }
  definitions : ∀ path ∈ [stepsPath, waysPath, detoursPath, settingsPath],
    t.workspace.files.find? path = s.workspace.files.find? path
  pockets : t.workspace.files.find? pocketsPath ≠ s.workspace.files.find? pocketsPath →
    ∃ p, prepare.answer s.workspace.files = .ok p ∧ p.settings.persistPockets = true
  /-- Pockets that are to stay are in their file. -/
  persisted : ∀ p o, c.running = true → prepare.answer s.workspace.files = .ok p → p.settings.persistPockets = true →
    result = .ok o → t.workspace.files.readText pocketsPath = .ok (recordsText Pocket.toJson t.pockets.cells) ∧
      loadPockets.answer t.workspace.files = .ok t.pockets.cells
  /-- What cannot be loaded is told, and that is all. -/
  unloaded : ∀ f, c.running = true → prepare.answer s.workspace.files = .error f → result = .error f ∧ Untouched s t

section

variable {actions : ActionTable π} {depth : Nat} {c : Cursor} {s t : State π} {result : Except Failure Outcome}

theorem once_of_idle (loads : cursorIn s.workspace.files = .ok c) (idle : c.running = false) :
    once actions depth s = some (.ok .idle, { s with workspace := (loadCursor s.workspace).2 }) := by
  unfold once
  rw [bind_apply, work_apply, loadCursor_of_cursorIn loads]
  simp only [idle, Bool.not_false, if_true]
  rfl

theorem once_idle (loads : cursorIn s.workspace.files = .ok c) (idle : c.running = false)
    (returned : once actions depth s = some (result, t)) :
    result = .ok .idle ∧ t.workspace.files = s.workspace.files ∧ Untouched s t := by
  rw [once_of_idle loads idle] at returned
  cases returned
  exact ⟨rfl, loadCursor_reads.files s.workspace, rfl, rfl, clerical_loadCursor.idles s.workspace⟩

theorem once_unloaded {f : Failure} (loads : cursorIn s.workspace.files = .ok c) (running : c.running = true)
    (fails : prepare.answer s.workspace.files = .error f) (returned : once actions depth s = some (result, t)) :
    result = .error f ∧ Untouched s t := by
  obtain ⟨attempted, u, attempts, concludes⟩ := once_concludes loads running returned
  rcases attempt_cases attempts with ⟨g, again, rfl, rfl⟩ | ⟨p, _, _, prepared, -⟩
  · rw [begun_files] at again
    cases fails.symm.trans again
    obtain ⟨page, pockets⟩ := conclude_session concludes
    have prepares := (idlesTo_begun c s.workspace).trans (idles_prepare (begun c s.workspace))
    have clears := prepares.trans (idles_clearing (.error f) (prepare (begun c s.workspace)).2)
    have ends := idlesTo_conclude concludes
    exact ⟨conclude_some concludes, page, pockets, clears.trans ends⟩
  · rw [begun_files, fails] at prepared
    cases prepared

/-- Where all positions fit, the flag is cleared, and it is known where the cursor stands. -/
theorem once_stands (loads : cursorIn s.workspace.files = .ok c) (running : c.running = true)
    (replaceable : s.workspace.files.Replaceable cursorPath)
    (fits : ∀ spot ∈ checkpoints actions depth c s, Spot.Fits (Json.maxDepth - 1) spot.path)
    (returned : once actions depth s = some (result, t)) :
    cursorIn t.workspace.files = .ok { c with
      running := false
      spot := if completes result then .start else (checkpoints actions depth c s).getLastD c.spot } := by
  have kept : Kept s.workspace.files c := ⟨ready_of_replaceable loads replaceable, loads⟩
  obtain ⟨attempted, u, -, concludes, files, ready, behind⟩ := once_behind kept running returned
  have last := (filesBehind_last kept fits).loads
  obtain ⟨after, updated, -, holds⟩ := updateCursor_of_ok (cleared (isCompleted attempted)) (behind.trans last) ready
  -- so it is the attempt alone that decides whether the run completes
  have ends : completes result = isCompleted attempted := by
    rw [conclude_some concludes, clearing, Work.during_apply, updated]
    rcases attempted with f | ⟨_ | _, stats⟩ <;> rfl
  rw [files, updated, cursorIn_of_holds holds (readable_cleared (readable_of_cursorIn last) _), ends]
  rfl

theorem once_succeeds {p : Preparation} (loads : cursorIn s.workspace.files = .ok c) (running : c.running = true)
    (replaceable : s.workspace.files.Replaceable cursorPath)
    (fits : ∀ spot ∈ checkpoints actions depth c s, Spot.Fits (Json.maxDepth - 1) spot.path)
    (prepared : prepare.answer s.workspace.files = .ok p) (pockets : s.workspace.files.Replaceable pocketsPath)
    (returned : once actions depth s = some (result, t)) : ∃ o, result = .ok o ∧ o ≠ .idle := by
  have kept : Kept s.workspace.files c := ⟨ready_of_replaceable loads replaceable, loads⟩
  obtain ⟨attempted, u, attempts, concludes, -, ready, behind⟩ := once_behind kept running returned
  have last := (filesBehind_last kept fits).loads
  obtain ⟨after, updated, -⟩ := updateCursor_of_ok (cleared (isCompleted attempted)) (behind.trans last) ready
  have begins := begun_files c s.workspace
  obtain ⟨⟨ended, stats⟩, rfl⟩ := attempt_succeeds (s := { s with workspace := begun c s.workspace })
    (begins.symm ▸ kept) (begins.symm ▸ prepared) (begins.symm ▸ pockets) attempts
  rw [clearing, Work.during_apply, updated] at concludes
  rw [conclude_some concludes]
  cases ended with
  | ok => exact ⟨_, rfl, Outcome.noConfusion⟩
  | error e => exact ⟨_, rfl, Outcome.noConfusion⟩

theorem once_frames (loads : cursorIn s.workspace.files = .ok c) (returned : once actions depth s = some (result, t)) :
    ∃ gs hs, OnlyAt "inSpot.json" s.workspace.files gs ∧ OnlyAt "pocket.json" gs hs ∧
      OnlyAt "inSpot.json" hs t.workspace.files ∧
      (hs = gs ∨ ∃ p, prepare.answer s.workspace.files = .ok p ∧ p.settings.persistPockets = true) := by
  cases running : c.running with
  | false =>
    obtain ⟨-, same, -⟩ := once_idle loads running returned
    exact ⟨_, _, .refl _ _, .refl _ _, same ▸ .refl _ _, .inl rfl⟩
  | true => exact once_onlyAt loads running returned

theorem once_definitions (loads : cursorIn s.workspace.files = .ok c)
    (returned : once actions depth s = some (result, t)) :
    ∀ path ∈ [stepsPath, waysPath, detoursPath, settingsPath],
      t.workspace.files.find? path = s.workspace.files.find? path := by
  obtain ⟨gs, hs, positions, pockets, flag, -⟩ := once_frames loads returned
  intro path member
  have apart : path ≠ dataDirectory ++ ["inSpot.json"] ∧ path ≠ dataDirectory ++ ["inSpot.json" ++ ".tmp"] ∧
      path ≠ dataDirectory ++ ["pocket.json"] ∧ path ≠ dataDirectory ++ ["pocket.json" ++ ".tmp"] ∧
      ¬ path <+: dataDirectory := by
    revert path
    decide
  obtain ⟨notCursor, notCursorSibling, notPockets, notPocketsSibling, below⟩ := apart
  rw [flag path notCursor notCursorSibling below, pockets path notPockets notPocketsSibling below,
    positions path notCursor notCursorSibling below]

/-- What a run leaves behind, where the cursor can be read and replaced and no position nests too deep. -/
theorem once_leaves (loads : cursorIn s.workspace.files = .ok c) (replaceable : s.workspace.files.Replaceable cursorPath)
    (fits : ∀ spot ∈ checkpoints actions depth c s, Spot.Fits (Json.maxDepth - 1) spot.path)
    (returned : once actions depth s = some (result, t)) : Leaves actions depth c s t result where
  idle idle := once_idle loads idle returned
  cursor running := once_stands loads running replaceable fits returned
  definitions := once_definitions loads returned
  pockets changed := by
    obtain ⟨gs, hs, positions, -, flag, kept⟩ := once_frames loads returned
    refine kept.resolve_left fun same => changed ?_
    subst same
    rw [flag _ (by decide) (by decide) (by decide), positions _ (by decide) (by decide) (by decide)]
  persisted p o running prepared stay same := by
    subst same
    obtain ⟨-, holds⟩ := once_persists loads running returned prepared stay
    exact ⟨holds, loadPockets_of_text holds⟩
  unloaded f running fails := once_unloaded loads running fails returned

end

/-! ### A step that copies a text into a pocket -/

def mindful : Preparation where
  settings := { persistPockets := true }
  definitions :=
    { steps := [{ id := .step "copy", description := "", action := .copyText, selector := "#a", pocket := "k" }]
      ways := [{ id := .way "main", description := "", repeats := 1, steps := [.step "copy"] }] }
  pockets := []

def mindfulCursor : Cursor where
  running := true
  limit := 0
  way := .way "main"

def mindfulFiles : Files where
  entries := [(dataDirectory, .directory),
    (settingsPath, .file (.text "persist_pockets = true\n")),
    (stepsPath, .file (.text (recordsText Step.toJson mindful.definitions.steps))),
    (waysPath, .file (.text (recordsText Way.toJson mindful.definitions.ways))),
    (detoursPath, .file (.text emptyList)),
    (pocketsPath, .file (.text emptyList)),
    (cursorPath, .file (.text (cursorText mindfulCursor)))]

/-- The text is one that JSON has to escape. -/
def mindfulState : State ScriptedPage where
  page := { texts := [("#a", "\"x\"\n")] }
  workspace := { files := mindfulFiles }

theorem mindful_loads : cursorIn mindfulFiles = .ok mindfulCursor :=
  cursorIn_of_holds rfl ⟨by decide, by decide, by decide⟩

theorem mindful_ready : Ready mindfulFiles :=
  ready_of_find? rfl rfl rfl

theorem mindful_prepared : prepare.answer mindfulFiles = .ok mindful := by
  have settings : loadSettings.answer mindfulFiles = .ok mindful.settings := by decide +kernel
  have steps : (readRecords Step.ofJson stepsPath).answer mindfulFiles = .ok mindful.definitions.steps :=
    readRecords_of_text rfl (by decide +kernel) (by decide +kernel)
  have ways : (readRecords Way.ofJson waysPath).answer mindfulFiles = .ok mindful.definitions.ways :=
    readRecords_of_text rfl (by decide +kernel) (by decide +kernel)
  have detours : (readRecords Detour.ofJson detoursPath).answer mindfulFiles = .ok [] := by decide +kernel
  have pockets : loadPockets.answer mindfulFiles = .ok [] := by decide +kernel
  have read : readDefinitions.answer mindfulFiles = .ok mindful.definitions := by
    rw [readDefinitions_answer, steps, ways, detours]
    rfl
  exact prepare_eq_ok_iff.mpr ⟨settings, loadDefinitions_answer read (by decide +kernel), pockets⟩

theorem mindful_way : mindful.definitions.way? mindfulCursor.way = some ⟨.way "main", "", 1, [.step "copy"]⟩ :=
  rfl

theorem mindful_fits : ∀ spot ∈ checkpoints .standard 5 mindfulCursor mindfulState,
    Spot.Fits (Json.maxDepth - 1) spot.path := by
  rw [checkpoints_of_prepared (s := mindfulState) mindful_prepared mindful_way rfl]
  decide +kernel

theorem mindful_returns : ∃ o t, once .standard 5 mindfulState = some (.ok o, t) ∧ o ≠ .idle := by
  have returns : ∃ result t, once .standard 5 mindfulState = some (result, t) := by
    refine once_returns (c := mindfulCursor) mindful_loads rfl fun p way prepared found => ?_
    cases mindful_prepared.symm.trans prepared
    cases mindful_way.symm.trans found
    decide +kernel
  obtain ⟨result, t, returned⟩ := returns
  have pockets : mindfulFiles.Replaceable pocketsPath :=
    Files.replaceable_iff.mpr ⟨mindful_ready.clear.parents, nofun, nofun⟩
  obtain ⟨o, rfl, walked⟩ := once_succeeds (s := mindfulState) mindful_loads rfl mindful_ready.replaceable mindful_fits
    mindful_prepared pockets returned
  exact ⟨o, t, returned, walked⟩

theorem once_leaves_pockets : ∃ o t, once .standard 5 mindfulState = some (.ok o, t) ∧
    Leaves .standard 5 mindfulCursor mindfulState t (.ok o) := by
  obtain ⟨o, t, returned, -⟩ := mindful_returns
  exact ⟨o, t, returned, once_leaves (s := mindfulState) mindful_loads mindful_ready.replaceable mindful_fits returned⟩

end Wayfarer.Run
