import Wayfarer.Proofs.Pockets
import Wayfarer.Proofs.Run.Remains

/-!
# Runs behind a restart

Where the pockets are to stay, a run that has come to an outcome leaves its store in a file, and the next
one seeds the store from there. So that one goes alike with the store as it is and with an empty one.
-/

namespace Wayfarer

namespace Workspace

theorem loadSettings_congr {fs gs : Files} (same : gs.locate settingsPath = fs.locate settingsPath) :
    loadSettings.answer gs = loadSettings.answer fs := by
  have text : gs.readText settingsPath = fs.readText settingsPath := by rw [Files.readText, Files.readText, same]
  simp only [loadSettings, Work.answer, Work.bind_apply, Work.look, ExceptT.mk, Files.isThere, same]
  split
  · rfl
  · simp only [Work.bind_apply, Work.during_apply, Work.readText, Work.look, Work.ofExcept, ExceptT.mk, text]
    cases fs.readText settingsPath with
    | error fault => rfl
    | ok text =>
      simp only [Except.mapError]
      cases Settings.ofText? text with
      | none => rfl
      | some settings =>
        simp only [Work.bind_apply]
        cases settings.check <;> rfl

end Workspace

namespace Run

open Workspace

theorem prepare_of_same {fs gs : Files} {p : Preparation} {pockets : List Pocket} (prepared : prepare.answer fs = .ok p)
    (opened : fs.Open dataDirectory) (also : gs.Open dataDirectory)
    (same : ∀ path ∈ [stepsPath, waysPath, detoursPath, settingsPath], gs.find? path = fs.find? path)
    (loaded : loadPockets.answer gs = .ok pockets) : prepare.answer gs = .ok { p with pockets } := by
  have located : ∀ name : String, dataDirectory ++ [name] ∈ [stepsPath, waysPath, detoursPath, settingsPath] →
      gs.locate (dataDirectory ++ [name]) = fs.locate (dataDirectory ++ [name]) := fun name member =>
    Files.locate_concat_congr opened also (same _ member)
  have texts : ∀ name : String, dataDirectory ++ [name] ∈ [stepsPath, waysPath, detoursPath, settingsPath] →
      gs.readText (dataDirectory ++ [name]) = fs.readText (dataDirectory ++ [name]) := fun name member => by
    rw [Files.readText, Files.readText, located name member]
  have settings : loadSettings.answer gs = loadSettings.answer fs := loadSettings_congr (located "config.toml" (by decide))
  have read : readDefinitions.answer gs = readDefinitions.answer fs :=
    readDefinitions_congr (texts "step.json" (by decide)) (texts "way.json" (by decide)) (texts "detour.json" (by decide))
  have definitions : loadDefinitions.answer gs = loadDefinitions.answer fs := by
    rw [loadDefinitions_eq, loadDefinitions_eq, read]
  obtain ⟨settled, defined, -⟩ := prepare_eq_ok_iff.mp prepared
  exact prepare_eq_ok_iff.mpr ⟨settings.trans settled, definitions.trans defined, loaded⟩

section

variable {actions : ActionTable π} {depth : Nat} {c : Cursor} {s t : State π}

theorem attempt_of_seeded {p : Preparation} {page : π} {w : Workspace} {stored others : Pockets}
    (prepared : prepare.answer w.files = .ok p) (same : stored.seed p.pockets = others.seed p.pockets) :
    attempt actions depth c { page, pockets := stored, workspace := w } =
      attempt actions depth c { page, pockets := others, workspace := w } := by
  rw [attempt_apply, attempt_apply, prepared]
  simp only [proceed, bind_apply, seed, ExceptT.mk, same]

/-- A run that comes to an outcome other than idle has found the flag and has loaded all it needs. -/
theorem prepared_of_once {o : Outcome} (returned : once actions depth s = some (.ok o, t)) (walked : o ≠ .idle) :
    ∃ c p, cursorIn s.workspace.files = .ok c ∧ c.running = true ∧ prepare.answer s.workspace.files = .ok p := by
  cases loads : cursorIn s.workspace.files with
  | error f =>
    unfold once at returned
    rw [bind_apply, work_apply, loadCursor_of_cursorIn loads] at returned
    cases returned
  | ok c =>
    cases running : c.running with
    | false =>
      obtain ⟨same, -⟩ := once_idle loads running returned
      cases same
      exact absurd rfl walked
    | true =>
      cases prepared : prepare.answer s.workspace.files with
      | error f =>
        obtain ⟨same, -⟩ := once_unloaded loads running prepared returned
        cases same
      | ok p => exact ⟨c, p, rfl, running, rfl⟩

/-- Behind a run that has come to an outcome, in a workspace whose pockets are to stay, let the cursor be set to
anything that can be loaded and is marked running. Then the next run is the same one, in what it answers and in
all that it leaves, whether it is given the store that there was or an empty one. -/
theorem restart_unnoticed {settings : Settings} {o : Outcome} {d : Cursor} {files : Files}
    (settled : loadSettings.answer s.workspace.files = .ok settings) (stay : settings.persistPockets = true)
    (returned : once actions depth s = some (.ok o, t)) (walked : o ≠ .idle)
    (same : ∀ q, q ≠ cursorPath → q ≠ dataDirectory ++ ["inSpot.json.tmp"] → files.find? q = t.workspace.files.find? q)
    (loads : cursorIn files = .ok d) (running : d.running = true) (again : ActionTable π) (deep : Nat) (page : π)
    (journal : Array (Moment Files)) :
    once again deep { page, pockets := t.pockets, workspace := ⟨files, journal⟩ } =
      once again deep { page, pockets := .empty, workspace := ⟨files, journal⟩ } := by
  obtain ⟨c, p, there, flagged, prepared⟩ := prepared_of_once returned walked
  have known : p.settings = settings := Except.ok.inj ((settings_of_prepare prepared).symm.trans settled)
  rw [← known] at stay
  obtain ⟨opened, holds⟩ := once_persists there flagged returned prepared stay
  have apart : ∀ q, q <+: dataDirectory → files.find? q = t.workspace.files.find? q := by
    rintro q above
    refine same q ?_ ?_ <;> rintro rfl <;> exact Files.not_concat_prefix above
  have also : files.Open dataDirectory := fun q above => (apart q above).trans (opened q above)
  have pockets : files.readText pocketsPath = t.workspace.files.readText pocketsPath := by
    rw [Files.readText, Files.readText, show pocketsPath = dataDirectory ++ ["pocket.json"] from rfl,
      Files.locate_concat_congr opened also (same _ (by decide) (by decide))]
  have definitions : ∀ path ∈ [stepsPath, waysPath, detoursPath, settingsPath],
      files.find? path = s.workspace.files.find? path := by
    intro path member
    rw [← once_definitions there returned path member]
    exact same path (by revert path; decide) (by revert path; decide)
  have seeded := prepare_of_same prepared (open_of_cursorIn there) also definitions
    (loadPockets_of_text (pockets.trans holds))
  -- both stores are the one that was written once the file has been put over them
  have filled : t.pockets.seed t.pockets.cells = Pockets.empty.seed t.pockets.cells :=
    t.pockets.seed_self.trans t.pockets.seeded_cells.symm
  have attempts : attempt again deep d { page, pockets := t.pockets, workspace := begun d ⟨files, journal⟩ } =
      attempt again deep d { page, pockets := .empty, workspace := begun d ⟨files, journal⟩ } :=
    attempt_of_seeded (by rw [begun_files]; exact seeded) filled
  rw [once_apply (s := { page, pockets := t.pockets, workspace := ⟨files, journal⟩ }) again deep loads running,
    once_apply (s := { page, pockets := .empty, workspace := ⟨files, journal⟩ }) again deep loads running, bind_apply,
    bind_apply]
  simp only [observe, ExceptT.mk, attempts]

end

theorem restart_unnoticed_pockets : ∃ o t files, once .standard 5 mindfulState = some (.ok o, t) ∧ o ≠ .idle ∧
    cursorIn files = .ok mindfulCursor ∧
      once .standard 5 { page := mindfulState.page, pockets := t.pockets, workspace := ⟨files, #[]⟩ } =
        once .standard 5 { page := mindfulState.page, pockets := .empty, workspace := ⟨files, #[]⟩ } := by
  obtain ⟨o, t, returned, walked⟩ := mindful_returns
  have settled : loadSettings.answer mindfulFiles = .ok mindful.settings := settings_of_prepare mindful_prepared
  obtain ⟨opened, -⟩ := once_persists (s := mindfulState) mindful_loads rfl returned mindful_prepared rfl
  -- the cursor is armed again
  let files := t.workspace.files.set cursorPath (.file (.text (cursorText mindfulCursor)))
  have found : ∀ q, files.find? q =
      if q = cursorPath then some (.file (.text (cursorText mindfulCursor))) else t.workspace.files.find? q :=
    fun q => Files.find?_set _ q _ (by decide)
  have also : files.Open dataDirectory := fun q above => by
    rw [found, if_neg (by rintro rfl; exact Files.not_concat_prefix above)]
    exact opened q above
  have loads : cursorIn files = .ok mindfulCursor := by
    refine cursorIn_of_holds ?_ ⟨by decide, by decide, by decide⟩
    have located : files.locate (dataDirectory ++ ["inSpot.json"]) = .ok (.file (.text (cursorText mindfulCursor))) :=
      (Files.locate_concat also).mpr ((found _).trans (if_pos rfl))
    rw [Holds, Files.readText, show cursorPath = dataDirectory ++ ["inSpot.json"] from rfl, located]
  exact ⟨o, t, files, returned, walked, loads, restart_unnoticed (s := mindfulState) settled rfl returned walked
    (fun q apart _ => (found q).trans (if_neg apart)) loads rfl .standard 5 mindfulState.page #[]⟩

end Run

end Wayfarer
