import Wayfarer.Proofs.CursorFile
import Wayfarer.Workspace.RecordFiles
import Wayfarer.Workspace.SettingsFile

/-!
# Files that are written whole

Where a file is replaced, it holds the whole new text or it is what it was, whatever stands in the tree. So does the
file of the cursor, of the pockets and of the settings, at whatever stage the work on it fails.
-/

namespace Wayfarer

namespace Work

/-- The new text is read from the file, the one beside it is gone, and all else that was there still is. -/
structure Renewed (p : Path) (text : String) (before after : Files) : Prop where
  target : after.readText p = .ok text
  sibling : after.find? (p.withEnding ".tmp") = none
  others : ∀ q, q ≠ p → q ≠ p.withEnding ".tmp" → before.find? q ≠ none → after.find? q = before.find? q

/-- At the path stands what stood there, and the same holds of all that was there but for the file beside it. -/
structure Spared (p : Path) (before after : Files) : Prop where
  target : after.find? p = before.find? p
  others : ∀ q, q ≠ p.withEnding ".tmp" → before.find? q ≠ none → after.find? q = before.find? q

theorem Spared.refl (p : Path) (fs : Files) : Spared p fs fs :=
  ⟨rfl, fun _ _ _ => rfl⟩

/-- Either the file holds the whole text that goes with the answer, or the work has failed and spared the file. -/
def Renews (p : Path) (text : α → String) (x : Work α) : Prop :=
  ∀ w, match x w with
    | (.ok a, after) => Renewed p (text a) w.files after.files
    | (.error _, after) => Spared p w.files after.files

theorem find?_of_open {fs gs : Files} {q : Path} (here : gs.find? q = some .directory)
    (free : ∀ content, fs.find? q ≠ some (.file content)) (there : fs.find? q ≠ none) : gs.find? q = fs.find? q := by
  cases found : fs.find? q with
  | none => exact absurd found there
  | some e =>
    cases e with
    | directory => exact here
    | file content => exact absurd found (free content)

theorem renewed_of_ok {dir : Path} {name text : String} {w after : Workspace}
    (h : replace (dir ++ [name]) text w = (.ok (), after)) : Renewed (dir ++ [name]) text w.files after.files := by
  obtain ⟨replaced, -⟩ := replaced_of_ok h
  have clear := clear_of_replace h
  refine ⟨replaced.readText, by rw [Path.withEnding_concat, replaced.sibling], ?_⟩
  intro q notTarget notSibling there
  rw [Path.withEnding_concat] at notSibling
  by_cases above : q <+: dir
  · exact find?_of_open (replaced.parents q above) (clear.parents q above) there
  · exact replaced.others q notTarget notSibling above

theorem spared_of_error {dir : Path} {name text : String} {w after : Workspace} {f : Failure}
    (h : replace (dir ++ [name]) text w = (.error f, after)) : Spared (dir ++ [name]) w.files after.files := by
  obtain ⟨untouched, -⟩ := untouched_of_error h
  refine ⟨?_, ?_⟩
  · obtain same | ⟨above, -⟩ := untouched (dir ++ [name]) (sibling_ne dir name)
    · exact same
    · exact absurd above Files.not_concat_prefix
  · intro q notSibling there
    rw [Path.withEnding_concat] at notSibling
    obtain same | ⟨above, made⟩ := untouched q notSibling
    · exact same
    -- a directory was made here unless something stood in the way, and then nothing was made
    rw [replace_concat] at h
    split at h
    · cases h
      rfl
    · rename_i fs makes
      exact find?_of_open made (Files.makeDirectories_isOk.mp ⟨fs, makes⟩ q above) there

theorem renews_replace (p : Path) (text : String) : Renews p (fun _ => text) (replace p text) := by
  intro w
  rcases List.eq_nil_or_concat p with rfl | ⟨dir, name, rfl⟩
  · exact Spared.refl [] w.files
  · rw [List.concat_eq_append]
    split
    next result replaced => exact renewed_of_ok replaced
    next failed => exact spared_of_error failed

/-- Nothing but a file among the parents, and a directory in the place of the file or of the one beside it, stops a
replacement. -/
theorem replace_eq_ok_iff (p : Path) (text : String) (w : Workspace) :
    (replace p text w).1 = .ok () ↔ ∃ dir name, p = dir ++ [name] ∧ w.files.Clear dir name := by
  constructor
  · intro done
    rcases List.eq_nil_or_concat p with rfl | ⟨dir, name, rfl⟩
    · cases done
    · rw [List.concat_eq_append] at done ⊢
      exact ⟨dir, name, rfl, (replace_ok_iff text w).mp done⟩
  · rintro ⟨dir, name, rfl, clear⟩
    exact (replace_ok_iff text w).mpr clear

/-! ### Work around a replacement -/

theorem Reads.renews {p : Path} {text : β → String} {x : Work α} (reads : Reads x) {f : α → Work β}
    (rest : ∀ a, Renews p text (f a)) : Renews p text (x >>= f) := by
  intro w
  obtain ⟨journal, looked⟩ := reads w
  rw [bind_apply, looked]
  cases x.answer w.files with
  | error e => exact Spared.refl p w.files
  | ok a => exact rest a { w with journal }

theorem Renews.andThen {p : Path} {text : String} {x : Work α} (renews : Renews p (fun _ => text) x) (also : β → String) {b : β}
    (same : also b = text) : Renews p also (x >>= fun _ => pure b) := by
  intro w
  have here := renews w
  rw [bind_apply]
  cases ran : x w with
  | mk result after =>
    rw [ran] at here
    cases result with
    | error e => exact here
    | ok a =>
      rw [← same] at here
      exact here

end Work

namespace Workspace

open Work (Renews)

theorem renews_updateCursor (change : Cursor → Cursor) : Renews cursorPath cursorText (updateCursor change) := by
  refine loadCursor_reads.renews fun c => ?_
  have written : Renews cursorPath (fun _ => cursorText (change c)) (writeCursor (change c)) :=
    (Work.reads_note _).renews fun _ => Work.renews_replace cursorPath _
  exact written.andThen cursorText rfl

theorem renews_writeSettings (s : Settings) : Renews settingsPath (fun _ => s.text) (writeSettings s) :=
  (Work.reads_ofExcept _).renews fun _ => Work.renews_replace settingsPath s.text

/-- A file is replaced by one that holds the whole text, with nothing left beside it and all else as it was; or the
replacement fails, for nothing but what stands in its way, and spares the file. The files of the cursor, the pockets
and the settings are renewed or spared in the same way by all that writes them. -/
theorem writes_whole_or_spares :
    (∀ p text, Renews p (fun _ => text) (Work.replace p text)) ∧
    (∀ p text w, (Work.replace p text w).1 = .ok () ↔ ∃ dir name, p = dir ++ [name] ∧ w.files.Clear dir name) ∧
    (∀ change, Renews cursorPath cursorText (updateCursor change)) ∧
    (∀ running, Renews cursorPath cursorText (setRunning running)) ∧
    (∀ s : Pockets, Renews pocketsPath (fun _ => recordsText Pocket.toJson s.cells) (writePockets s)) ∧
    ∀ s : Settings, Renews settingsPath (fun _ => s.text) (writeSettings s) := by
  refine ⟨Work.renews_replace, Work.replace_eq_ok_iff, renews_updateCursor, ?_, ?_, renews_writeSettings⟩
  · exact fun running => renews_updateCursor fun c => { c with running }
  · exact fun s => Work.renews_replace pocketsPath _

end Workspace

end Wayfarer
