import Wayfarer.Proofs.CursorFile
import Wayfarer.Proofs.Run.Preparation
import Wayfarer.Proofs.Walk.World

/-!
# Positions in the cursor file

Keeping a position changes the spot of the cursor in its file. A spot that nests too deep makes the
file unreadable, and from then on no position is kept.
-/

namespace Wayfarer

namespace Workspace

/-- The file holds this cursor and can be replaced. -/
structure Kept (fs : Files) (c : Cursor) : Prop where
  ready : Ready fs
  loads : cursorIn fs = .ok c

/-- The file can be replaced, but holds nothing that is a cursor. -/
structure Lost (fs : Files) : Prop where
  ready : Ready fs
  fails : ∃ f, cursorIn fs = .error f

theorem updateCursor_kept {w : Workspace} {c : Cursor} (change : Cursor → Cursor) (kept : Kept w.files c) :
    ((change c).Readable → Kept (updateCursor change w).2.files (change c)) ∧
      (¬ (change c).Readable → Lost (updateCursor change w).2.files) := by
  obtain ⟨after, updated, ready, holds⟩ := updateCursor_of_ok change kept.loads kept.ready
  rw [updated]
  exact ⟨fun readable => ⟨ready, cursorIn_of_holds holds readable⟩,
    fun unreadable => ⟨ready, cursorIn_error_of_holds holds unreadable⟩⟩

theorem updateCursor_lost {w : Workspace} (change : Cursor → Cursor) (lost : Lost w.files) :
    (updateCursor change w).2.files = w.files := by
  obtain ⟨f, fails⟩ := lost.fails
  obtain ⟨journal, updated⟩ := updateCursor_of_error change fails
  rw [updated]

/-- Files with the same in the place of the cursor, in an open directory, hold the same cursor. -/
theorem cursor_framed {before after : Files} (ready : Ready before) (opened : after.Open dataDirectory)
    (target : after.find? cursorPath = before.find? cursorPath)
    (sibling : after.find? (dataDirectory ++ ["inSpot.json.tmp"]) ≠ some .directory) :
    Ready after ∧ cursorIn after = cursorIn before := by
  refine ⟨⟨opened, target ▸ ready.target, sibling⟩, ?_⟩
  have located : after.locate cursorPath = before.locate cursorPath :=
    Files.locate_concat_congr ready.directory opened target
  rw [cursorIn_eq, cursorIn_eq, Files.readText, Files.readText, located]

theorem writePockets_frames (pockets : Pockets) {w : Workspace} (ready : Ready w.files) :
    Ready (writePockets pockets w).2.files ∧ cursorIn (writePockets pockets w).2.files = cursorIn w.files := by
  have splits : writePockets pockets w =
      Work.replace (dataDirectory ++ ["pocket.json"]) (recordsText Pocket.toJson pockets.cells) w := rfl
  rw [splits]
  cases written : Work.replace (dataDirectory ++ ["pocket.json"]) (recordsText Pocket.toJson pockets.cells) w with
  | mk result after =>
    cases result with
    | ok =>
      obtain ⟨replaced, -⟩ := Work.replaced_of_ok written
      refine cursor_framed ready replaced.parents ?_ ?_
      · exact replaced.others _ (by decide) (by decide) (by decide)
      · rw [replaced.others _ (by decide) (by decide) (by decide)]
        exact ready.sibling
    | error f =>
      obtain ⟨untouched, -⟩ := Work.untouched_of_error written
      refine cursor_framed ready (fun q inside => ?_) ?_ ?_
      · have apart : q ≠ dataDirectory ++ ["pocket.json" ++ ".tmp"] := by
          rintro rfl
          exact Files.not_concat_prefix inside
        exact (untouched q apart).elim (fun same => same.trans (ready.directory q inside)) (·.2)
      · exact (untouched _ (by decide)).resolve_right fun above => absurd above.1 (by decide)
      · rw [(untouched _ (by decide)).resolve_right fun above => absurd above.1 (by decide)]
        exact ready.sibling

end Workspace

namespace Run

open Workspace

theorem keepSpot_files (spot : Spot) (fs : Files) :
    (keepSpot spot fs).1 = (updateCursor (fun c => { c with spot }) { files := fs }).2.files := by
  unfold keepSpot
  cases updateCursor (fun c => { c with spot }) { files := fs } with
  | mk result w => cases result <;> rfl

theorem readable_at {c : Cursor} (readable : c.Readable) (spot : Spot) :
    Cursor.Readable { c with spot } ↔ Spot.Fits (Json.maxDepth - 1) spot.path :=
  ⟨fun h => h.spot, fun fits => ⟨readable.limit, readable.way, fits⟩⟩

def filesBehind (spots : List Spot) (fs : Files) : Files :=
  spots.foldl (fun fs spot => (keepSpot spot fs).1) fs

theorem filesBehind_lost {fs : Files} (lost : Lost fs) (spots : List Spot) : filesBehind spots fs = fs := by
  induction spots with
  | nil => rfl
  | cons spot spots ih =>
    rw [filesBehind, List.foldl_cons, keepSpot_files, updateCursor_lost (w := { files := fs }) _ lost]
    exact ih

theorem filesBehind_last {fs : Files} {c : Cursor} (kept : Kept fs c) {spots : List Spot}
    (fits : ∀ spot ∈ spots, Spot.Fits (Json.maxDepth - 1) spot.path) :
    Kept (filesBehind spots fs) { c with spot := spots.getLastD c.spot } := by
  induction spots generalizing fs c with
  | nil => exact kept
  | cons spot spots ih =>
    obtain ⟨here, others⟩ := List.forall_mem_cons.mp fits
    have readable := (readable_at (readable_of_cursorIn kept.loads) spot).mpr here
    have first := (updateCursor_kept (w := { files := fs }) (fun c => { c with spot }) kept).1 readable
    rw [← keepSpot_files] at first
    rw [List.getLastD_cons]
    exact ih first others

/-- All positions that fit leave a cursor at one of them; one that does not loses the cursor. -/
theorem filesBehind_kept {fs : Files} {c : Cursor} (kept : Kept fs c) (spots : List Spot) :
    ((∀ spot ∈ spots, Spot.Fits (Json.maxDepth - 1) spot.path) → ∃ spot, Kept (filesBehind spots fs) { c with spot }) ∧
      (¬ (∀ spot ∈ spots, Spot.Fits (Json.maxDepth - 1) spot.path) → Lost (filesBehind spots fs)) := by
  refine ⟨fun fits => ⟨_, filesBehind_last kept fits⟩, fun tooDeep => ?_⟩
  induction spots generalizing fs c with
  | nil => exact absurd (by simp) tooDeep
  | cons spot spots ih =>
    obtain ⟨keeps, loses⟩ := updateCursor_kept (w := { files := fs }) (fun c => { c with spot }) kept
    rw [← keepSpot_files, readable_at (readable_of_cursorIn kept.loads)] at keeps loses
    rw [List.forall_mem_cons] at tooDeep
    change Lost (filesBehind spots (keepSpot spot fs).1)
    by_cases fits : Spot.Fits (Json.maxDepth - 1) spot.path
    · exact ih (keeps fits) fun rest => tooDeep ⟨fits, rest⟩
    · have lost := loses fits
      rwa [filesBehind_lost lost]

theorem ready_filesBehind {fs : Files} {c : Cursor} (kept : Kept fs c) (spots : List Spot) : Ready (filesBehind spots fs) := by
  obtain ⟨keeps, loses⟩ := filesBehind_kept kept spots
  by_cases fits : ∀ spot ∈ spots, Spot.Fits (Json.maxDepth - 1) spot.path
  · exact (keeps fits).elim fun _ kept => kept.ready
  · exact (loses fits).ready

end Run

end Wayfarer
