import Wayfarer.Proofs.Arm
import Wayfarer.Proofs.Run.Company
import Wayfarer.Proofs.Run.Remains

/-!
# Arming during a run

A run does not hold its cursor while it walks. Whoever arms in the meantime changes a cursor that the run
changes again, and at its end the run marks whatever cursor it finds idle. So an arming outlives the run only
if it comes behind all that the last change does, or takes away the temporary file of that change.
-/

namespace Wayfarer

def Access.meeting (access : Access) (f : Files → Files) : Access → Files → Files :=
  fun here => if here = access then f else id

/-- Others come once, at this place. -/
def Place.meeting (place : Place) (f : Files → Files) : Company :=
  fun here => if here = place then f else id

namespace Work

open Files

section

variable {dir : Path} (name text : String) {visits : Access → Files → Files} {w : Workspace}

theorem replaceAmid_concat (opened : (visits .making w.files).Open dir)
    (also : (visits .writing (visits .making w.files)).Open dir)
    (free : (visits .writing (visits .making w.files)).find? (dir ++ [name ++ ".tmp"]) ≠ some .directory) :
    replaceAmid visits (dir ++ [name]) text w =
      let met := visits .moving
        ((visits .writing (visits .making w.files)).set (dir ++ [name ++ ".tmp"]) (.file (.text text)))
      match met.rename (dir ++ [name ++ ".tmp"]) (dir ++ [name]) with
      | .ok files => (.ok (), { w with files })
      | .error fault =>
        (.error ((Failure.ofSystem fault).within (.replacing (dir ++ [name]))), { w with files := met }) := by
  simp only [replaceAmid, List.dropLast_concat, Path.withEnding_concat, bind_apply, during_apply, change, host,
    ExceptT.mk, makeDirectories_of_open opened, write_concat _ _ also free, Except.mapError]
  cases (visits .moving ((visits .writing (visits .making w.files)).set (dir ++ [name ++ ".tmp"])
    (.file (.text text)))).rename (dir ++ [name ++ ".tmp"]) (dir ++ [name]) <;> rfl

/-- A replacement that is not met in front of its last operation is one that begins when it was met last. -/
theorem replaceAmid_early (alone : visits .moving = id) (opened : (visits .making w.files).Open dir)
    (also : (visits .writing (visits .making w.files)).Open dir)
    (free : (visits .writing (visits .making w.files)).find? (dir ++ [name ++ ".tmp"]) ≠ some .directory) :
    replaceAmid visits (dir ++ [name]) text w =
      replace (dir ++ [name]) text { w with files := visits .writing (visits .making w.files) } := by
  rw [replaceAmid_concat name text opened also free, replace_concat]
  simp only [alone, id_eq, makeDirectories_of_open also, write_concat _ _ also free]
  cases ((visits .writing (visits .making w.files)).set (dir ++ [name ++ ".tmp"]) (.file (.text text))).rename
    (dir ++ [name ++ ".tmp"]) (dir ++ [name]) <;> rfl

end

theorem replaceAmid_late {dir : Path} (name text : String) {f : Files → Files} {w : Workspace} (opened : w.files.Open dir)
    (free : w.files.find? (dir ++ [name ++ ".tmp"]) ≠ some .directory)
    (gone : (f (w.files.set (dir ++ [name ++ ".tmp"]) (.file (.text text)))).find? (dir ++ [name ++ ".tmp"]) = none) :
    ∃ failure, replaceAmid (Access.moving.meeting f) (dir ++ [name]) text w =
      (.error failure, { w with files := f (w.files.set (dir ++ [name ++ ".tmp"]) (.file (.text text))) }) := by
  have unmet : ∀ access, access ≠ .moving → Access.moving.meeting f access = id := fun _ early => if_neg early
  have replaced : replaceAmid (Access.moving.meeting f) (dir ++ [name]) text w = _ :=
    replaceAmid_concat name text opened opened free
  rw [replaced]
  have met : Access.moving.meeting f .moving = f := rfl
  simp only [unmet .making nofun, unmet .writing nofun, met, id_eq]
  cases renamed : (f (w.files.set (dir ++ [name ++ ".tmp"]) (.file (.text text)))).rename
      (dir ++ [name ++ ".tmp"]) (dir ++ [name]) with
  | error fault => exact ⟨_, rfl⟩
  | ok after =>
    obtain ⟨-, content, located, -⟩ := rename_eq_set renamed
    rw [(locate_eq_ok.mp located).2] at gone
    cases gone

end Work

namespace Workspace

/-- The files are given back with another cursor in place, whatever its flag and its position were, and with
no temporary file. -/
structure Rewrites (f : Files → Files) (g : Cursor → Cursor) : Prop where
  blind : ∀ c running spot, g { c with running, spot } = g c
  kept : ∀ fs c, Kept fs c → Kept (f fs) (g c)
  clean : ∀ fs c, Kept fs c → (f fs).find? (dataDirectory ++ ["inSpot.json.tmp"]) = none

/-- What a change of the cursor leaves that is met in front of this operation. -/
def met (g change : Cursor → Cursor) (c : Cursor) : Access → Cursor
  | .reading => change (g c)
  | .making | .writing => change c
  | .moving => g c

section

variable {f : Files → Files} {g : Cursor → Cursor} (change : Cursor → Cursor) {w : Workspace} {c : Cursor}

theorem updateAmid_apply {visits : Access → Files → Files} (loads : cursorIn (visits .reading w.files) = .ok c) :
    ∃ journal, updateAmid visits change w =
      (Work.replaceAmid visits cursorPath (cursorText (change c)) >>= fun _ => pure (change c))
        ⟨visits .reading w.files, journal⟩ := by
  obtain ⟨journal, loaded⟩ := loadCursor_apply { w with files := visits .reading w.files }
  rw [loads] at loaded
  refine ⟨journal.push ⟨.writingCursor cursorPath (change c), visits .reading w.files⟩, ?_⟩
  rw [updateAmid, Work.bind_apply]
  simp only [Work.host, ExceptT.mk, Work.bind_apply, loaded, Work.note]
  rfl

theorem updateAmid_early (visits : Access → Files → Files) (alone : visits .moving = id)
    (read : Kept (visits .reading w.files) c) (making : Ready (visits .making (visits .reading w.files)))
    (writing : Ready (visits .writing (visits .making (visits .reading w.files)))) (readable : (change c).Readable) :
    ∃ after, updateAmid visits change w = (.ok (change c), after) ∧ Kept after.files (change c) := by
  obtain ⟨journal, applied⟩ := updateAmid_apply change read.loads
  have early : Work.replaceAmid visits cursorPath (cursorText (change c)) ⟨visits .reading w.files, journal⟩ =
      Work.replace cursorPath (cursorText (change c))
        ⟨visits .writing (visits .making (visits .reading w.files)), journal⟩ :=
    Work.replaceAmid_early "inSpot.json" _ alone making.directory writing.directory writing.sibling
  obtain ⟨after, replaced, ready, holds, -⟩ := replace_cursor (cursorText (change c))
    (w := ⟨visits .writing (visits .making (visits .reading w.files)), journal⟩) writing
  refine ⟨after, ?_, ready, cursorIn_of_holds holds readable⟩
  rw [applied, Work.bind_apply, early, replaced]
  rfl

theorem Kept.beside {fs : Files} (kept : Kept fs c) (text : String) :
    Kept (fs.set (dataDirectory ++ ["inSpot.json.tmp"]) (.file (.text text))) c := by
  have sibling : (fs.set (dataDirectory ++ ["inSpot.json.tmp"]) (.file (.text text))).find?
      (dataDirectory ++ ["inSpot.json.tmp"]) ≠ some .directory := by
    rw [Files.find?_set _ _ _ (by decide), if_pos rfl]
    nofun
  obtain ⟨ready, same⟩ := cursor_framed kept.ready kept.ready.directory.set
    (Files.find?_set_other (by decide) (by decide)) sibling
  exact ⟨ready, same.trans kept.loads⟩

theorem updateAmid_late (rewrites : Rewrites f g) (kept : Kept w.files c) :
    ∃ failure after, updateAmid (Access.moving.meeting f) change w = (.error failure, after) ∧
      Kept after.files (g c) := by
  have unmet : Access.moving.meeting f .reading w.files = w.files := rfl
  obtain ⟨journal, applied⟩ := updateAmid_apply change (unmet.symm ▸ kept.loads)
  have written := kept.beside (cursorText (change c))
  obtain ⟨failure, replacing⟩ := Work.replaceAmid_late "inSpot.json" _ (w := ⟨w.files, journal⟩)
    kept.ready.directory kept.ready.sibling (rewrites.clean _ c written)
  have fails : Work.replaceAmid (Access.moving.meeting f) cursorPath (cursorText (change c)) ⟨w.files, journal⟩ = _ :=
    replacing
  have rewritten := rewrites.kept _ c written
  refine ⟨failure, ⟨_, journal⟩, ?_, rewritten⟩
  rw [applied, unmet, Work.bind_apply, fails]
  rfl

theorem updateAmid_met (rewrites : Rewrites f g) (access : Access) (kept : Kept w.files c)
    (readable : ∀ d : Cursor, d.Readable → (change d).Readable) :
    Kept (updateAmid (access.meeting f) change w).2.files (met g change c access) ∧
      (access ≠ .moving → ∃ d, (updateAmid (access.meeting f) change w).1 = .ok d) := by
  have rewritten := rewrites.kept w.files c kept
  have changed := readable c (readable_of_cursorIn kept.loads)
  cases access with
  | reading =>
    have both := readable (g c) (readable_of_cursorIn rewritten.loads)
    obtain ⟨after, updated, keeps⟩ := updateAmid_early change (Access.reading.meeting f) rfl rewritten rewritten.ready
      rewritten.ready both
    rw [updated]
    exact ⟨keeps, fun _ => ⟨_, rfl⟩⟩
  | making =>
    obtain ⟨after, updated, keeps⟩ := updateAmid_early change (Access.making.meeting f) rfl kept rewritten.ready
      rewritten.ready changed
    rw [updated]
    exact ⟨keeps, fun _ => ⟨_, rfl⟩⟩
  | writing =>
    obtain ⟨after, updated, keeps⟩ := updateAmid_early change (Access.writing.meeting f) rfl kept kept.ready
      rewritten.ready changed
    rw [updated]
    exact ⟨keeps, fun _ => ⟨_, rfl⟩⟩
  | moving =>
    obtain ⟨failure, after, updated, keeps⟩ := updateAmid_late change rewrites kept
    rw [updated]
    exact ⟨keeps, fun late => absurd rfl late⟩

end

end Workspace

namespace Job

open Workspace Command

/-- An arming that is accepted and leaves a cursor. -/
structure Arms (raw : String) (limit : Option Nat) (spot : Option Spot) (way : Ident) : Prop where
  names : Names raw way
  named : raw ≠ ""
  bounded : Bounded limit spot
  shallow : (spot.getD .start).path.length ≤ Json.maxDepth - 1

def armFiles (raw : String) (limit : Option Nat) (spot : Option Spot) (fs : Files) : Files :=
  (arm raw limit spot { files := fs }).2.files

theorem Arms.rewrites {raw : String} {limit : Option Nat} {spot : Option Spot} {way : Ident}
    (arms : Arms raw limit spot way) : Rewrites (armFiles raw limit spot) (armed way limit spot) := by
  have files : ∀ fs, armFiles raw limit spot fs = (updateCursor (armed way limit spot) { files := fs }).2.files := by
    intro fs
    simp only [armFiles, arm, wayIdent_eq_ok.mpr arms.names, Work.ofExcept, ExceptT.mk, Work.bind_apply,
      Work.during_apply]
    cases updateCursor (armed way limit spot) { files := fs } with
    | mk result w => cases result <;> rfl
  refine ⟨fun _ _ _ => rfl, fun fs c kept => ?_, fun fs c kept => ?_⟩
  all_goals
    obtain ⟨after, updated, ready, holds⟩ :=
      updateCursor_of_ok (w := { files := fs }) (armed way limit spot) kept.loads kept.ready
    rw [files, updated]
  · have left := armed_of_holds arms.bounded (readable_of_cursorIn kept.loads) arms.names holds
    obtain ⟨named, names, loads⟩ := left.written
    cases arms.names.unique names
    exact ⟨ready, loads ⟨arms.named, arms.shallow⟩⟩
  · obtain ⟨_, -, -, replaced⟩ := updateCursor_ok updated
    exact replaced.sibling

end Job

namespace Run

open Workspace

def arming (raw : String) (limit : Option Nat) (spot : Option Spot) (place : Place) : Company :=
  place.meeting (Job.armFiles raw limit spot)

theorem filesAmid_append (company : Company) (before after : List Spot) (number : Nat) (fs : Files) :
    filesAmid company number (before ++ after) fs =
      filesAmid company (number + before.length) after (filesAmid company number before fs) := by
  induction before generalizing number fs with
  | nil => rfl
  | cons spot before ih =>
    rw [List.cons_append, filesAmid, ih, List.length_cons, Nat.add_assoc, Nat.add_comm 1, filesAmid]

theorem filesAmid_unmet {company : Company} {number : Nat} {spots : List Spot}
    (unmet : ∀ n access, number ≤ n → n < number + spots.length → company (.position n access) = id) (fs : Files) :
    filesAmid company number spots fs = filesBehind spots fs := by
  induction spots generalizing number fs with
  | nil => rfl
  | cons spot spots ih =>
    have here : (fun access => company (.position number access)) = fun _ => id :=
      funext fun access => unmet number access (Nat.le_refl _) (by simp)
    rw [filesAmid, here, updateAmid_alone, ← keepSpot_files]
    refine ih (fun n access least below => unmet n access (by omega) ?_) _
    rw [List.length_cons]
    omega

section

variable {f : Files → Files} {g : Cursor → Cursor} {fs : Files} {c : Cursor}

theorem filesAmid_met (rewrites : Rewrites f g) (kept : Kept fs c) {before after : List Spot} {spot : Spot}
    (fits : ∀ x ∈ before ++ spot :: after, Spot.Fits (Json.maxDepth - 1) x.path) (access : Access) :
    ∃ d, d = met g (fun d => { d with spot }) { c with spot := before.getLastD c.spot } access ∧
      Kept (filesAmid ((Place.position before.length access).meeting f) 0 (before ++ spot :: after) fs)
        { d with spot := after.getLastD d.spot } := by
  refine ⟨_, rfl, ?_⟩
  rw [List.forall_mem_append, List.forall_mem_cons] at fits
  obtain ⟨earlier, here, later⟩ := fits
  -- nobody comes at the positions before and behind
  have first : filesAmid ((Place.position before.length access).meeting f) 0 before fs = filesBehind before fs := by
    refine filesAmid_unmet (fun n other _ below => if_neg ?_) fs
    rintro ⟨⟩
    omega
  have reached := filesBehind_last kept earlier
  have come : (fun other => (Place.position before.length access).meeting f (.position (0 + before.length) other)) =
      access.meeting f := by
    funext other
    simp [Place.meeting, Access.meeting]
  obtain ⟨left, -⟩ := updateAmid_met (fun d => { d with spot }) rewrites access (w := { files := filesBehind before fs })
    reached fun d readable => (readable_at readable spot).mpr here
  have last : ∀ gs, filesAmid ((Place.position before.length access).meeting f) (0 + before.length + 1) after gs =
      filesBehind after gs := by
    refine filesAmid_unmet fun n other above _ => if_neg ?_
    rintro ⟨⟩
    omega
  rw [filesAmid_append, filesAmid, first, come, last]
  exact filesBehind_last left later

end

end Run

namespace Place

open Run

/-- The cursor of a run that is about to clear the flag. -/
def standing (spots : List Spot) (c armed : Cursor) : Place → Cursor
  | .position _ .reading => { armed with spot := spots.getLastD c.spot }
  | .position number .moving => { armed with spot := (spots.drop (number + 1)).getLastD armed.spot }
  | _ => { c with spot := spots.getLastD c.spot }

def leaves (completed : Bool) (standing armed : Cursor) : Place → Cursor
  | .flag .reading => cleared completed armed
  | .flag .moving | .returning => armed
  | _ => cleared completed standing

def Within (count : Nat) : Place → Prop
  | .position number _ => number < count
  | _ => True

/-- What remains to be done behind the place leaves the cursor alone. -/
def isLate : Place → Bool
  | .flag .moving | .returning => true
  | _ => false

variable {place : Place} {completed : Bool} {stands armed : Cursor}

theorem leaves_of_late (late : place.isLate = true) : place.leaves completed stands armed = armed := by
  cases place with
  | position => cases late
  | returning => rfl
  | flag access =>
    cases access with
    | moving => rfl
    | reading | making | writing => cases late

theorem leaves_idle (early : place.isLate = false) : (place.leaves completed stands armed).running = false := by
  cases place with
  | position => rfl
  | returning => cases early
  | flag access =>
    cases access with
    | moving => cases early
    | reading | making | writing => rfl

end Place

namespace Run

open Workspace

theorem standing_kept {f : Files → Files} {g : Cursor → Cursor} (rewrites : Rewrites f g) {fs : Files} {c : Cursor}
    (kept : Kept fs c) {spots : List Spot}
    (fits : ∀ spot ∈ spots, Spot.Fits (Json.maxDepth - 1) spot.path) {place : Place}
    (within : place.Within spots.length) :
    Kept (filesAmid (place.meeting f) 0 spots fs) (place.standing spots c (g c)) := by
  have blind : ∀ spot, g { c with spot } = g c := rewrites.blind c c.running
  cases place with
  | position number access =>
    have inside : number < spots.length := within
    have split : spots.take number ++ spots[number] :: spots.drop (number + 1) = spots := by
      rw [← List.drop_eq_getElem_cons inside, List.take_append_drop]
    have length : (spots.take number).length = number := List.length_take_of_le (Nat.le_of_lt inside)
    rw [← split] at fits
    obtain ⟨d, rfl, left⟩ := filesAmid_met rewrites kept fits access
    rw [split, length] at left
    -- where the position itself is kept, the run stands at the last of all
    have last : (spots.drop (number + 1)).getLastD spots[number] = spots.getLastD c.spot := by
      have whole := congrArg (List.getLastD · c.spot) split
      simpa only [List.getLastD_eq_getLast?, List.getLast?_append, List.getLast?_cons, Option.some_or,
        Option.getD_some] using whole
    cases access with
    | reading =>
      simp only [met, blind, last] at left
      exact left
    | making | writing =>
      simp only [met, last] at left
      exact left
    | moving =>
      simp only [met, blind] at left
      exact left
  | flag access =>
    rw [filesAmid_unmet fun n other _ _ => rfl]
    exact filesBehind_last kept fits
  | returning =>
    rw [filesAmid_unmet fun n other _ _ => rfl]
    exact filesBehind_last kept fits

theorem clearingAmid_unmet (company : Company) (unmet : ∀ access, company (.flag access) = id) {w : Workspace}
    {d : Cursor} (kept : Kept w.files d) (attempted : Except Failure (Except WalkError Unit × Stats)) :
    ∃ after, clearingAmid company attempted w = (.ok (cleared (isCompleted attempted) d), after) ∧
      Kept after.files (cleared (isCompleted attempted) d) := by
  obtain ⟨after, updated, ready, holds⟩ := updateCursor_of_ok (cleared (isCompleted attempted)) kept.loads kept.ready
  have readable := readable_cleared (readable_of_cursorIn kept.loads) (isCompleted attempted)
  refine ⟨after, ?_, ready, cursorIn_of_holds holds readable⟩
  rw [clearingAmid, funext unmet, updateAmid_alone, Work.during_apply, updated]
  rfl

theorem clearing_kept {f : Files → Files} {g : Cursor → Cursor} (rewrites : Rewrites f g) {w : Workspace} {d : Cursor}
    (kept : Kept w.files d) (place : Place) (attempted : Except Failure (Except WalkError Unit × Stats)) :
    Kept (place.meeting f .returning (clearingAmid (place.meeting f) attempted w).2.files)
        (place.leaves (isCompleted attempted) d (g d)) ∧
      (place ≠ .flag .moving → ∃ e, (clearingAmid (place.meeting f) attempted w).1 = .ok e) := by
  cases place with
  | position number access =>
    obtain ⟨after, clears, left⟩ :=
      clearingAmid_unmet ((Place.position number access).meeting f) (fun _ => rfl) kept attempted
    rw [clears]
    exact ⟨left, fun _ => ⟨_, rfl⟩⟩
  | returning =>
    obtain ⟨after, clears, left⟩ :=
      clearingAmid_unmet (Place.returning.meeting f) (fun _ => rfl) kept attempted
    have armed := rewrites.kept _ _ left
    rw [cleared, rewrites.blind] at armed
    rw [clears]
    exact ⟨armed, fun _ => ⟨_, rfl⟩⟩
  | flag access =>
    have come : (fun other => (Place.flag access).meeting f (.flag other)) = access.meeting f := by
      funext other
      simp [Place.meeting, Access.meeting]
    have leaves : (Place.flag access).leaves (isCompleted attempted) d (g d) =
        met g (cleared (isCompleted attempted)) d access := by
      cases access <;> rfl
    obtain ⟨left, clears⟩ := updateAmid_met (cleared (isCompleted attempted)) rewrites access kept
      fun d readable => readable_cleared readable _
    rw [clearingAmid, come, Work.during_apply, leaves]
    refine ⟨left, fun early => ?_⟩
    obtain ⟨e, updated⟩ := clears fun late => early (congrArg Place.flag late)
    rw [updated]
    exact ⟨e, rfl⟩

/-- What becomes of an arming that meets a run, and of the next run. -/
structure Becomes (place : Place) (spots : List Spot) (c armed : Cursor) (completed : Bool) (t : State π) : Prop where
  cursor : cursorIn t.workspace.files = .ok (place.leaves completed (place.standing spots c armed) armed)
  outlives : (∃ d, cursorIn t.workspace.files = .ok d ∧ d.running = true) ↔ place.isLate = true
  /-- The next run is an attempt at what was armed. -/
  walked : place.isLate = true → ∀ (actions : ActionTable π) (depth : Nat) (s : State π),
    s.workspace.files = t.workspace.files →
      once actions depth s =
        (observe (attempt actions depth armed) >>= fun attempted =>
          observe (work (clearing attempted)) >>= conclude armed attempted)
          { s with workspace := begun armed s.workspace }
  /-- The next run has nothing to do. -/
  lost : place.isLate = false → ∀ (actions : ActionTable π) (depth : Nat) (s : State π),
    s.workspace.files = t.workspace.files →
      once actions depth s = some (.ok .idle, { s with workspace := (loadCursor s.workspace).2 })

section

variable {actions : ActionTable π} {depth : Nat} {c : Cursor} {s t : State π} {result : Except Failure Outcome}

theorem onceAmid_cursor {f : Files → Files} {g : Cursor → Cursor} (rewrites : Rewrites f g)
    (loads : cursorIn s.workspace.files = .ok c) (running : c.running = true)
    (replaceable : s.workspace.files.Replaceable cursorPath)
    (fits : ∀ spot ∈ checkpoints actions depth c s, Spot.Fits (Json.maxDepth - 1) spot.path)
    {place : Place} (within : place.Within (checkpoints actions depth c s).length)
    (returned : onceAmid (place.meeting f) actions depth s = some (result, t)) :
    cursorIn t.workspace.files =
      .ok (place.leaves (completes result) (place.standing (checkpoints actions depth c s) c (g c)) (g c)) := by
  obtain ⟨attempted, u, attempts, concludes⟩ := onceAmid_concludes loads running returned
  have stands := standing_kept rewrites ⟨ready_of_replaceable loads replaceable, loads⟩ fits within
  obtain ⟨ready, behind⟩ :=
    attemptAmid_cursor (by rw [checkpoints_begun, begun_files]; exact stands.ready) attempts
  rw [checkpoints_begun, begun_files, stands.loads] at behind
  obtain ⟨left, clears⟩ := clearing_kept rewrites ⟨ready, behind⟩ place attempted
  have files := (congrArg cursorIn (conclude_files concludes)).trans left.loads
  -- unless clearing the flag fails, it is the attempt alone that decides whether the run completes
  have ends : place ≠ .flag .moving → completes result = isCompleted attempted := by
    intro early
    obtain ⟨e, clearing⟩ := clears early
    rw [conclude_some concludes, clearing]
    rcases attempted with f | ⟨_ | _, stats⟩ <;> rfl
  rw [files]
  cases place with
  | position number access =>
    rw [ends nofun]
    rfl
  | returning =>
    exact congrArg Except.ok (rewrites.blind c c.running _)
  | flag access =>
    have same : g { c with spot := (checkpoints actions depth c s).getLastD c.spot } = g c := rewrites.blind c c.running _
    cases access with
    | reading =>
      rw [ends nofun]
      exact congrArg (fun d => Except.ok (cleared (isCompleted attempted) d)) same
    | making | writing =>
      rw [ends nofun]
      rfl
    | moving => exact congrArg Except.ok same

theorem becomes_of_cursor {place : Place} {spots : List Spot} {armed : Cursor} {completed : Bool}
    (running : armed.running = true)
    (loads : cursorIn t.workspace.files = .ok (place.leaves completed (place.standing spots c armed) armed)) :
    Becomes place spots c armed completed t := by
  refine ⟨loads, ⟨?_, fun late => ?_⟩, fun late actions depth s same => ?_, fun early actions depth s same => ?_⟩
  · rintro ⟨d, found, flag⟩
    cases loads.symm.trans found
    by_contra early
    rw [Place.leaves_idle (Bool.eq_false_iff.mpr early)] at flag
    cases flag
  · rw [Place.leaves_of_late late] at loads
    exact ⟨armed, loads, running⟩
  · rw [Place.leaves_of_late late, ← same] at loads
    exact once_apply actions depth loads running
  · rw [← same] at loads
    exact once_of_idle loads (Place.leaves_idle early)

/-- Whenever one meets a run with an arming: the arming outlives the run exactly if it comes behind all that
clears the flag, or in front of its last operation, which then fails. Any earlier one is marked idle. -/
theorem arming_outlives_iff_late {raw : String} {limit : Option Nat} {spot : Option Spot} {way : Ident} {place : Place}
    (loads : cursorIn s.workspace.files = .ok c) (running : c.running = true)
    (replaceable : s.workspace.files.Replaceable cursorPath)
    (fits : ∀ spot ∈ checkpoints actions depth c s, Spot.Fits (Json.maxDepth - 1) spot.path)
    (arms : Job.Arms raw limit spot way) (within : place.Within (checkpoints actions depth c s).length)
    (returned : onceAmid (arming raw limit spot place) actions depth s = some (result, t)) :
    Becomes place (checkpoints actions depth c s) c (Job.armed way limit spot c) (completes result) t :=
  becomes_of_cursor rfl (onceAmid_cursor arms.rewrites loads running replaceable fits within returned)

end

/-! ### A run of four positions -/

theorem arms_main : Job.Arms "main" (some 5) none (.way "main") where
  names := Job.wayIdent_eq_ok.mp rfl
  named := by decide
  bounded := ⟨by rintro _ ⟨⟩; decide, nofun⟩
  shallow := by decide

theorem arming_outlives_iff_late_stubborn : ∃ result t,
    onceAmid (arming "main" (some 5) none (.position 1 .reading)) .standard 130 (stubbornState 3) = some (result, t) ∧
      Becomes (.position 1 .reading) (checkpoints .standard 130 stubbornCursor (stubbornState 3)) stubbornCursor
        (Job.armed (.way "main") (some 5) none stubbornCursor) (completes result) t := by
  obtain ⟨walked, walks, fits⟩ := stubborn_fits
  obtain ⟨result, u, alone⟩ := stubborn_returns (Option.isSome_of_eq_some walks)
  obtain ⟨result, t, returned⟩ := onceAmid_returns (s := stubbornState 3)
    (arming "main" (some 5) none (.position 1 .reading)) stubborn_loads rfl alone
  have long : 1 < walked.2.world.length := by
    have counted : (stubbornWalk 3).any (fun walked => decide (1 < walked.2.world.length)) = true := by decide +kernel
    rw [walks] at counted
    exact of_decide_eq_true counted
  rw [← stubborn_checkpoints walks] at fits long
  exact ⟨result, t, returned,
    arming_outlives_iff_late (s := stubbornState 3) stubborn_loads rfl stubborn_replaceable fits arms_main long returned⟩

/-- An arming between the last position and the change of the flag is lost. -/
theorem arming_lost : cursorIn (stubbornState 3).workspace.files = .ok stubbornCursor ∧ stubbornCursor.running = true ∧
    (stubbornState 3).workspace.files.Replaceable cursorPath ∧ Job.Arms "main" (some 5) none (.way "main") ∧
    ∃ result t,
      onceAmid (arming "main" (some 5) none (.flag .reading)) .standard 130 (stubbornState 3) = some (result, t) ∧
        ¬ ∃ d, cursorIn t.workspace.files = .ok d ∧ d.running = true := by
  obtain ⟨walked, walks, fits⟩ := stubborn_fits
  obtain ⟨result, u, alone⟩ := stubborn_returns (Option.isSome_of_eq_some walks)
  obtain ⟨result, t, returned⟩ := onceAmid_returns (s := stubbornState 3)
    (arming "main" (some 5) none (.flag .reading)) stubborn_loads rfl alone
  refine ⟨stubborn_loads, rfl, stubborn_replaceable, arms_main, result, t, returned, ?_⟩
  rw [← stubborn_checkpoints walks] at fits
  have within : (Place.flag .reading).Within (checkpoints .standard 130 stubbornCursor (stubbornState 3)).length :=
    trivial
  have left := onceAmid_cursor (s := stubbornState 3) arms_main.rewrites stubborn_loads rfl stubborn_replaceable fits
    within returned
  rintro ⟨d, loads, flag⟩
  cases left.symm.trans loads
  cases flag

end Run

end Wayfarer
