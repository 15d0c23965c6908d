import Wayfarer.Proofs.Cursor
import Wayfarer.Proofs.Workspace
import Wayfarer.Run

/-!
# The cursor in its file

What loading finds depends on the files alone. A change of the cursor either finds no cursor and
leaves the files as they are, or puts the text of the changed cursor into the file; that text is a
cursor again exactly if the changed cursor is readable.
-/

namespace Wayfarer.Workspace

theorem loadCursor_reads : loadCursor.Reads := by
  refine (Work.reads_note _).bind fun _ => ?_
  refine ((Work.reads_readText _).during _).bind fun text => ?_
  refine ((Work.reads_decode _ text).during _).bind fun c => ?_
  exact (Work.reads_note _).bind fun _ => Work.reads_pure c

/-- What loading the cursor finds in these files. -/
def cursorIn (fs : Files) : Except Failure Cursor :=
  loadCursor.answer fs

/-- The cursor that a text is. -/
def cursorOf (text : String) : Except Failure Cursor :=
  ((Json.decode Cursor.ofJson text).mapError Failure.ofJson).mapError (·.within (.parsingCursor cursorPath))

theorem cursorIn_eq (fs : Files) :
    cursorIn fs = match fs.readText cursorPath with
      | .ok text => cursorOf text
      | .error fault => .error ((Failure.ofSystem fault).within (.readingCursor cursorPath)) := by
  unfold cursorIn Work.answer loadCursor Work.readText Work.decode cursorOf
  simp only [Work.bind_apply, Work.during_apply, Work.note, Work.look, Work.ofExcept, ExceptT.mk]
  simp only [note]
  cases fs.readText cursorPath with
  | error fault => rfl
  | ok text =>
    simp only [Except.mapError]
    cases Json.decode Cursor.ofJson text <;> rfl

theorem loadCursor_apply (w : Workspace) :
    ∃ journal, loadCursor w = (cursorIn w.files, { w with journal }) :=
  loadCursor_reads w

theorem loadCursor_of_cursorIn {w : Workspace} {found : Except Failure Cursor} (h : cursorIn w.files = found) :
    loadCursor w = (found, (loadCursor w).2) :=
  (loadCursor_reads.apply w).trans (Prod.ext h rfl)

theorem readable_of_cursorIn {fs : Files} {c : Cursor} (h : cursorIn fs = .ok c) : c.Readable := by
  rw [cursorIn_eq] at h
  split at h
  · rw [cursorOf, mapError_eq_ok, mapError_eq_ok] at h
    obtain ⟨j, value⟩ := Json.value_of_decode h
    exact Cursor.readable_of_ofJson value
  · cases h

/-! ### The file and its surroundings -/

/-- The cursor file holds the text of this cursor, which may be none that can be read. -/
def Holds (fs : Files) (c : Cursor) : Prop :=
  fs.readText cursorPath = .ok (cursorText c)

theorem cursorIn_of_holds {fs : Files} {c : Cursor} (h : Holds fs c) (readable : c.Readable) :
    cursorIn fs = .ok c := by
  rw [cursorIn_eq, h]
  simp only [cursorOf, cursorText, (Cursor.decode_text c).1 readable]
  rfl

theorem cursorIn_error_of_holds {fs : Files} {c : Cursor} (h : Holds fs c) (unreadable : ¬ c.Readable) :
    ∃ f, cursorIn fs = .error f := by
  obtain ⟨f, decoded⟩ := (Cursor.decode_text c).2 unreadable
  rw [cursorIn_eq, h]
  simp only [cursorOf, cursorText, decoded]
  exact ⟨_, rfl⟩

/-- The cursor file can be replaced in its directory. -/
structure Ready (fs : Files) : Prop where
  directory : fs.Open dataDirectory
  target : fs.find? cursorPath ≠ some .directory
  sibling : fs.find? (dataDirectory ++ ["inSpot.json.tmp"]) ≠ some .directory

theorem Ready.clear {fs : Files} (h : Ready fs) : fs.Clear dataDirectory "inSpot.json" where
  parents q above content same := by
    rw [h.directory q above] at same
    cases same
  target := h.target
  sibling := h.sibling

theorem Ready.replaceable {fs : Files} (h : Ready fs) : fs.Replaceable cursorPath :=
  Files.replaceable_iff.mpr h.clear

theorem ready_of_find? {fs : Files} {content : Content} (directory : fs.find? dataDirectory = some .directory)
    (target : fs.find? cursorPath = some (.file content))
    (sibling : fs.find? (dataDirectory ++ ["inSpot.json.tmp"]) = none) : Ready fs := by
  have noDirectory : fs.find? cursorPath ≠ some .directory := by
    rw [target]
    nofun
  refine ⟨fun q above => ?_, noDirectory, by rw [sibling]; nofun⟩
  rcases List.prefix_cons_iff.mp above with rfl | ⟨rest, rfl, below⟩
  · rfl
  · rw [List.prefix_nil.mp below]
    exact directory

theorem open_of_cursorIn {fs : Files} {c : Cursor} (loads : cursorIn fs = .ok c) : fs.Open dataDirectory := by
  rw [cursorIn_eq] at loads
  split at loads
  · rename_i text read
    unfold Files.readText at read
    split at read
    · rename_i text located
      have inside : fs.locate (dataDirectory ++ ["inSpot.json"]) = .ok (.file (.text text)) := located
      exact Files.open_of_locate inside
    · cases read
    · cases read
    · cases read
  · cases loads

theorem ready_of_replaceable {fs : Files} {c : Cursor} (loads : cursorIn fs = .ok c)
    (replaceable : fs.Replaceable cursorPath) : Ready fs := by
  have clear : fs.Clear dataDirectory "inSpot.json" := Files.replaceable_iff.mp replaceable
  exact ⟨open_of_cursorIn loads, clear.target, clear.sibling⟩

theorem replace_cursor (text : String) {w : Workspace} (h : Ready w.files) :
    ∃ after, Work.replace cursorPath text w = (.ok (), after) ∧ Ready after.files ∧
      after.files.readText cursorPath = .ok text ∧ after.journal = w.journal := by
  obtain ⟨after, replaced⟩ := Work.replace_of_clear text w h.clear
  obtain ⟨seen, journal⟩ := Work.replaced_of_ok replaced
  refine ⟨after, replaced, ⟨seen.parents, ?_, ?_⟩, seen.readText, journal⟩
  · rw [show cursorPath = dataDirectory ++ ["inSpot.json"] from rfl, seen.target]
    simp
  · rw [show "inSpot.json.tmp" = "inSpot.json" ++ ".tmp" from rfl, seen.sibling]
    simp

theorem updateCursor_of_error {w : Workspace} {f : Failure} (change : Cursor → Cursor)
    (fails : cursorIn w.files = .error f) :
    ∃ journal, updateCursor change w = (.error f, { w with journal }) := by
  obtain ⟨journal, loaded⟩ := loadCursor_apply w
  refine ⟨journal, ?_⟩
  rw [updateCursor, Work.bind_apply, loaded, fails]

theorem updateCursor_of_ok {w : Workspace} {c : Cursor} (change : Cursor → Cursor)
    (loads : cursorIn w.files = .ok c) (h : Ready w.files) :
    ∃ after, updateCursor change w = (.ok (change c), after) ∧ Ready after.files ∧
      Holds after.files (change c) := by
  obtain ⟨journal, loaded⟩ := loadCursor_apply w
  have ready : Ready (({ w with journal } : Workspace).note (.writingCursor cursorPath (change c))).files := h
  obtain ⟨after, replaced, readyAfter, holds, -⟩ := replace_cursor (cursorText (change c)) ready
  refine ⟨after, ?_, readyAfter, holds⟩
  rw [updateCursor, Work.bind_apply, loaded, loads]
  simp only [writeCursor, Work.bind_apply, Work.note, ExceptT.mk, replaced]
  rfl

theorem updateCursor_ok {change : Cursor → Cursor} {w after : Workspace} {d : Cursor}
    (h : updateCursor change w = (.ok d, after)) :
    ∃ c, cursorIn w.files = .ok c ∧ d = change c ∧
      Work.Replaced dataDirectory "inSpot.json" (cursorText d) w.files after.files := by
  obtain ⟨journal, loaded⟩ := loadCursor_apply w
  rw [updateCursor, Work.bind_apply, loaded] at h
  cases loads : cursorIn w.files with
  | error f =>
    rw [loads] at h
    cases h
  | ok c =>
    rw [loads] at h
    simp only [writeCursor, Work.bind_apply, Work.note, ExceptT.mk] at h
    cases replaced : Work.replace cursorPath (cursorText (change c))
        (({ w with journal } : Workspace).note (.writingCursor cursorPath (change c))) with
    | mk result x =>
      rw [replaced] at h
      cases result with
      | error f => cases h
      | ok =>
        cases h
        exact ⟨c, rfl, rfl, (Work.replaced_of_ok replaced).1⟩

/-! ### A cursor that was written -/

theorem holds_of_writeCursor {c : Cursor} {w after : Workspace} (h : writeCursor c w = (.ok (), after)) :
    Holds after.files c := by
  have replaced : Work.replace cursorPath (cursorText c) (w.note (.writingCursor cursorPath c)) = (.ok (), after) := h
  exact (Work.replaced_of_ok replaced).1.readText

/-- Whether a cursor can be written depends on the files alone, and not on the depth of its spot. -/
theorem writeCursor_ok_iff (c : Cursor) (w : Workspace) :
    (∃ after, writeCursor c w = (.ok (), after)) ↔ w.files.Replaceable cursorPath := by
  constructor
  · rintro ⟨after, written⟩
    have replaced : Work.replace (dataDirectory ++ ["inSpot.json"]) (cursorText c)
        (w.note (.writingCursor cursorPath c)) = (.ok (), after) := written
    have clear := Work.clear_of_replace replaced
    exact Files.replaceable_iff.mpr clear
  · intro replaceable
    have clear : (w.note (.writingCursor cursorPath c)).files.Clear dataDirectory "inSpot.json" :=
      Files.replaceable_iff.mp replaceable
    exact Work.replace_of_clear (cursorText c) _ clear

theorem cursorIn_of_sized {fs : Files} {c : Cursor} (h : Holds fs c) (sized : c.Sized) :
    cursorIn fs = if c.spot.path.length ≤ Json.maxDepth - 1 then .ok c
      else .error ⟨.json .malformed, [.parsingCursor cursorPath]⟩ := by
  rw [cursorIn_eq, h]
  simp only [cursorOf, cursorText, Json.decode_pretty (Cursor.printable_toJson c), sized.ofJson_toJson]
  split_ifs <;> rfl

/-- Once a cursor is written, loading gives it back, unless its spot has more than 126 indices: then the text
that was written is refused. -/
theorem loadCursor_behind_writeCursor {c : Cursor} (sized : c.Sized) {w after : Workspace}
    (written : writeCursor c w = (.ok (), after)) :
    (c.spot.path.length ≤ 126 → (loadCursor after).1 = .ok c) ∧
      (127 ≤ c.spot.path.length →
        (loadCursor after).1 = .error ⟨.json .malformed, [.parsingCursor cursorPath]⟩) := by
  obtain ⟨journal, loaded⟩ := loadCursor_apply after
  have found := cursorIn_of_sized (holds_of_writeCursor written) sized
  rw [show Json.maxDepth - 1 = 126 from rfl] at found
  rw [loaded, found]
  refine ⟨fun shallow => if_pos shallow, fun deep => if_neg ?_⟩
  omega

/-- A cursor with so many indices below the first. -/
def deepCursor (below : Nat) : Cursor where
  running := true
  limit := 4294967295
  way := .way "über>alles"
  spot := ⟨18446744073709551615, List.replicate below 18446744073709551615⟩

theorem sized_deepCursor (below : Nat) : (deepCursor below).Sized := by
  refine ⟨show 4294967295 < Text.halfWordBound by decide, show "über>alles" ≠ "" by decide, fun i member => ?_⟩
  have same : i = 18446744073709551615 := List.eq_of_mem_replicate (n := below + 1) member
  rw [same]
  decide

theorem length_deepCursor (below : Nat) : (deepCursor below).spot.path.length = below + 1 := by
  simp [deepCursor, Spot.path]

theorem loadCursor_behind_writeCursor_at_limit :
    (∃ after, writeCursor (deepCursor 125) {} = (.ok (), after) ∧ (loadCursor after).1 = .ok (deepCursor 125)) ∧
      ∃ after, writeCursor (deepCursor 126) {} = (.ok (), after) ∧
        (loadCursor after).1 = .error ⟨.json .malformed, [.parsingCursor cursorPath]⟩ := by
  have replaceable : ({} : Files).Replaceable cursorPath := by
    have clear : ({} : Files).Clear dataDirectory "inSpot.json" := by
      refine ⟨fun q _ content => ?_, by decide, by decide⟩
      cases q <;> nofun
    exact Files.replaceable_iff.mpr clear
  obtain ⟨shallow, kept⟩ := (writeCursor_ok_iff (deepCursor 125) {}).mpr replaceable
  obtain ⟨deep, lost⟩ := (writeCursor_ok_iff (deepCursor 126) {}).mpr replaceable
  refine ⟨⟨shallow, kept, ?_⟩, deep, lost, ?_⟩
  · exact (loadCursor_behind_writeCursor (sized_deepCursor 125) kept).1 (length_deepCursor 125).le
  · exact (loadCursor_behind_writeCursor (sized_deepCursor 126) lost).2 (length_deepCursor 126).ge

end Wayfarer.Workspace
