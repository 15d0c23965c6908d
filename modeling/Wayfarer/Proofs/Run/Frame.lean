import Wayfarer.Proofs.Run.Validated

/-!
# Which files an attempt changes

An attempt replaces the cursor file and, if the pockets are to stay, theirs. Below a workspace nothing
else changes, but that the data directory may be made.
-/

namespace Wayfarer

namespace Workspace

/-- The trees differ at most in this file of the data directory, in the one beside it, and in that the
directory may have been made. -/
def OnlyAt (name : String) (before after : Files) : Prop :=
  ∀ q, q ≠ dataDirectory ++ [name] → q ≠ dataDirectory ++ [name ++ ".tmp"] → ¬ q <+: dataDirectory →
    after.find? q = before.find? q

theorem OnlyAt.refl (name : String) (fs : Files) : OnlyAt name fs fs := fun _ _ _ _ => rfl

theorem OnlyAt.trans {name : String} {fs gs hs : Files} (first : OnlyAt name fs gs) (second : OnlyAt name gs hs) :
    OnlyAt name fs hs := fun q notTarget notSibling below =>
  (second q notTarget notSibling below).trans (first q notTarget notSibling below)

end Workspace

namespace Work

open Workspace

/-- The work changes nothing but this file of the data directory. -/
def Confined (name : String) (x : Work α) : Prop :=
  ∀ w, OnlyAt name w.files (x w).2.files

theorem Reads.confined {x : Work α} (reads : Reads x) (name : String) : Confined name x := by
  intro w
  rw [reads.files]
  exact .refl _ _

theorem Confined.bind {name : String} {x : Work α} (first : Confined name x) {f : α → Work β}
    (rest : ∀ a, Confined name (f a)) : Confined name (x >>= f) := by
  intro w
  have here := first w
  rw [bind_apply]
  cases ran : x w with
  | mk result t =>
    rw [ran] at here
    cases result with
    | error e => exact here
    | ok a => exact here.trans (rest a t)

theorem Confined.during {name : String} {x : Work α} (confined : Confined name x) (u : Undertaking) :
    Confined name (x.during u) := by
  intro w
  rw [during_apply]
  exact confined w

/-- Whether or not a replacement succeeds. -/
theorem confined_replace (name text : String) : Confined name (replace (dataDirectory ++ [name]) text) := by
  intro w q notTarget notSibling below
  cases replaced : replace (dataDirectory ++ [name]) text w with
  | mk result after =>
    cases result with
    | ok => exact (replaced_of_ok replaced).1.others q notTarget notSibling below
    | error f =>
      rcases (untouched_of_error replaced).1 q notSibling with same | ⟨above, -⟩
      · exact same
      · exact absurd above below

theorem confined_updateCursor (change : Cursor → Cursor) : Confined "inSpot.json" (updateCursor change) := by
  refine (loadCursor_reads.confined _).bind fun c => ?_
  refine (((reads_note _).confined _).bind fun _ => ?_).bind fun _ => (reads_pure _).confined _
  exact confined_replace "inSpot.json" _

theorem confined_writePockets (pockets : Pockets) : Confined "pocket.json" (writePockets pockets) :=
  confined_replace "pocket.json" _

end Work

namespace Run

open Workspace

theorem onlyAt_filesBehind (spots : List Spot) (fs : Files) : OnlyAt "inSpot.json" fs (filesBehind spots fs) := by
  induction spots generalizing fs with
  | nil => exact .refl _ _
  | cons spot spots ih =>
    have kept := Work.confined_updateCursor (fun c => { c with spot }) { files := fs }
    rw [← keepSpot_files] at kept
    exact kept.trans (ih _)

/-! ### The parts of an attempt -/

variable {actions : ActionTable π} {depth : Nat} {c : Cursor} {s t u : State π}

theorem walkFrom_onlyAt {p : Preparation} {result : Except Failure (Except WalkError Unit × Stats)}
    (h : walkFrom actions depth c p s = some (result, u)) : OnlyAt "inSpot.json" s.workspace.files u.workspace.files := by
  rw [walkFrom_files h]
  exact onlyAt_filesBehind _ _

theorem conclude_session {attempted : Except Failure (Except WalkError Unit × Stats)} {clearing : Except Failure Cursor}
    {result : Except Failure Outcome} (h : conclude c attempted clearing s = some (result, t)) :
    t.page = s.page ∧ t.pockets = s.pockets := by
  rcases attempted with f | ⟨_ | _, stats⟩ <;> rcases clearing with g | d <;> cases h <;> exact ⟨rfl, rfl⟩

theorem attempt_cases {attempted : Except Failure (Except WalkError Unit × Stats)}
    (h : attempt actions depth c s = some (attempted, u)) :
    (∃ f, prepare.answer s.workspace.files = .error f ∧ attempted = .error f ∧
        u = { s with workspace := (prepare s.workspace).2 }) ∨
      ∃ p walked v, prepare.answer s.workspace.files = .ok p ∧
        walkFrom actions depth c p
          { s with pockets := s.pockets.seed p.pockets, workspace := (prepare s.workspace).2 } = some (.ok walked, v) ∧
        keepPockets p.settings walked v = some (attempted, u) := by
  rw [attempt_apply] at h
  cases prepared : prepare.answer s.workspace.files with
  | error f =>
    rw [prepared] at h
    cases h
    exact .inl ⟨f, rfl, rfl, rfl⟩
  | ok p =>
    rw [prepared] at h
    obtain ⟨walked, v, walks, keeps⟩ := proceed_some h
    exact .inr ⟨p, walked, v, rfl, walks, keeps⟩

/-- Only an attempt that has loaded all, in a workspace whose pockets are to stay, changes their file. -/
theorem attempt_onlyAt {attempted : Except Failure (Except WalkError Unit × Stats)}
    (h : attempt actions depth c s = some (attempted, u)) :
    ∃ gs, OnlyAt "inSpot.json" s.workspace.files gs ∧ OnlyAt "pocket.json" gs u.workspace.files ∧
      (u.workspace.files = gs ∨ ∃ p, prepare.answer s.workspace.files = .ok p ∧ p.settings.persistPockets = true) := by
  have unchanged := prepare_reads.files s.workspace
  rcases attempt_cases h with ⟨f, -, -, rfl⟩ | ⟨p, walked, v, prepared, walks, keeps⟩
  · exact ⟨_, .refl _ _, prepare_reads.confined _ s.workspace, .inl unchanged⟩
  · have first := walkFrom_onlyAt walks
    rw [unchanged] at first
    rw [keepPockets_apply] at keeps
    split at keeps
    · rename_i stay
      cases keeps
      exact ⟨_, first, Work.confined_writePockets _ _, .inr ⟨p, prepared, stay⟩⟩
    · cases keeps
      exact ⟨_, first, .refl _ _, .inl rfl⟩

theorem attempt_succeeds {attempted : Except Failure (Except WalkError Unit × Stats)} {p : Preparation}
    (kept : Kept s.workspace.files c) (prepared : prepare.answer s.workspace.files = .ok p)
    (pockets : s.workspace.files.Replaceable pocketsPath) (h : attempt actions depth c s = some (attempted, u)) :
    ∃ walked, attempted = .ok walked := by
  have before : s.workspace.files.Clear dataDirectory "pocket.json" := Files.replaceable_iff.mp pockets
  rcases attempt_cases h with ⟨f, fails, -⟩ | ⟨_, walked, v, -, walks, keeps⟩
  · rw [prepared] at fails
    cases fails
  · have files := walkFrom_files walks
    have same := walkFrom_onlyAt walks
    rw [prepare_reads.files] at files same
    have ready : Ready v.workspace.files := files ▸ ready_filesBehind kept _
    have clear : v.workspace.files.Clear dataDirectory "pocket.json" := by
      refine ⟨ready.clear.parents, ?_, ?_⟩
      · rw [same _ (by decide) (by decide) (by decide)]
        exact before.target
      · rw [same _ (by decide) (by decide) (by decide)]
        exact before.sibling
    obtain ⟨after, written⟩ := Work.replace_of_clear (recordsText Pocket.toJson v.pockets.cells) v.workspace clear
    have writes : writePockets v.pockets v.workspace = (.ok (), after) := written
    rw [keepPockets_apply, Work.during_apply, writes] at keeps
    split at keeps <;> cases keeps <;> exact ⟨walked, rfl⟩

/-- What a run does to files is done in this order: positions, pockets, and the flag. -/
theorem once_onlyAt {result : Except Failure Outcome} (loads : cursorIn s.workspace.files = .ok c)
    (running : c.running = true) (returned : once actions depth s = some (result, t)) :
    ∃ gs hs, OnlyAt "inSpot.json" s.workspace.files gs ∧ OnlyAt "pocket.json" gs hs ∧
      OnlyAt "inSpot.json" hs t.workspace.files ∧
      (hs = gs ∨ ∃ p, prepare.answer s.workspace.files = .ok p ∧ p.settings.persistPockets = true) := by
  obtain ⟨attempted, u, attempts, concludes⟩ := once_concludes loads running returned
  obtain ⟨gs, positions, pockets, kept⟩ := attempt_onlyAt attempts
  have cleared := (Work.confined_updateCursor (cleared (isCompleted attempted))).during .clearingFlag u.workspace
  rw [begun_files] at positions kept
  rw [conclude_files concludes]
  exact ⟨gs, u.workspace.files, positions, pockets, cleared, kept⟩

theorem outcome_eq_ok {attempted : Except Failure (Except WalkError Unit × Stats)} {clearing : Except Failure Cursor}
    {o : Outcome} (h : outcome c attempted clearing = .ok o) :
    (∃ walked, attempted = .ok walked) ∧ ∃ d, clearing = .ok d := by
  rcases attempted with f | ⟨_ | _, stats⟩ <;> rcases clearing with g | d <;> cases h <;> exact ⟨⟨_, rfl⟩, _, rfl⟩

theorem clearing_ok {attempted : Except Failure (Except WalkError Unit × Stats)} {w : Workspace} {d : Cursor}
    (h : (clearing attempted w).1 = .ok d) :
    (∃ c, cursorIn w.files = .ok c ∧ d = cleared (isCompleted attempted) c) ∧
      Work.Replaced dataDirectory "inSpot.json" (cursorText d) w.files (clearing attempted w).2.files := by
  rw [clearing, Work.during_apply] at h ⊢
  cases updated : updateCursor (cleared (isCompleted attempted)) w with
  | mk result after =>
    rw [updated] at h
    cases result with
    | error f => cases h
    | ok =>
      cases h
      obtain ⟨c, loads, changed, replaced⟩ := updateCursor_ok updated
      exact ⟨⟨c, loads, changed⟩, replaced⟩

theorem keepPockets_ok {settings : Settings} {walked result : Except WalkError Unit × Stats}
    (stay : settings.persistPockets = true) (h : keepPockets settings walked s = some (.ok result, t)) :
    t.pockets = s.pockets ∧ Work.Replaced dataDirectory "pocket.json" (recordsText Pocket.toJson s.pockets.cells)
      s.workspace.files t.workspace.files := by
  rw [keepPockets_apply, if_pos stay, Work.during_apply] at h
  cases written : writePockets s.pockets s.workspace with
  | mk result after =>
    rw [written] at h
    cases result with
    | error f => cases h
    | ok =>
      cases h
      exact ⟨rfl, (Work.replaced_of_ok written).1⟩

/-- Behind a run that comes to an outcome the data directory is there. If the pockets are to stay, their file holds
those of the store. -/
theorem once_persists {o : Outcome} {p : Preparation} (loads : cursorIn s.workspace.files = .ok c)
    (running : c.running = true) (returned : once actions depth s = some (.ok o, t))
    (prepared : prepare.answer s.workspace.files = .ok p) (stay : p.settings.persistPockets = true) :
    t.workspace.files.Open dataDirectory ∧
      t.workspace.files.readText pocketsPath = .ok (recordsText Pocket.toJson t.pockets.cells) := by
  obtain ⟨attempted, u, attempts, concludes⟩ := once_concludes loads running returned
  obtain ⟨⟨walked, rfl⟩, d, clears⟩ := outcome_eq_ok (conclude_some concludes).symm
  obtain ⟨-, pockets⟩ := conclude_session concludes
  obtain ⟨-, cleared⟩ := clearing_ok clears
  rcases attempt_cases attempts with ⟨_, -, same, -⟩ | ⟨p', _, v, again, -, keeps⟩
  · cases same
  · rw [begun_files] at again
    cases prepared.symm.trans again
    obtain ⟨same, written⟩ := keepPockets_ok stay keeps
    have holds := (cleared.others pocketsPath (by decide) (by decide) (by decide)).trans written.target
    rw [conclude_files concludes, pockets]
    refine ⟨cleared.parents, ?_⟩
    rw [Files.readText, show pocketsPath = dataDirectory ++ ["pocket.json"] from rfl,
      (Files.locate_concat cleared.parents).mpr holds]
    simp only [same]

end Run

end Wayfarer
