import Wayfarer.Proofs.Run.Flag
import Wayfarer.Proofs.Walk.References
import Wayfarer.Workspace.Report

/-!
# Workspaces that validate

A workspace whose report has no errors gives an attempt everything that it loads, and a walk there
meets no reference that leads nowhere. What it may still lack are pockets, entries and budget.
-/

namespace Wayfarer

namespace Workspace

theorem examine_eq_ok {fs : Files} {r : Report} :
    examine.answer fs = .ok r ↔
      readDefinitions.answer fs = .ok r.definitions ∧ loadPockets.answer fs = .ok r.pockets ∧ cursorIn fs = .ok r.cursor := by
  have last : ∀ definitions pockets, (do
      let cursor ← loadCursor.during .loadingCursor
      return { definitions, pockets, cursor } : Work Report).Reads :=
    fun _ _ => (loadCursor_reads.during _).bind fun _ => Work.reads_pure _
  have stands : ∀ c, (loadCursor.during .loadingCursor).answer fs = .ok c ↔ cursorIn fs = .ok c := by
    intro c
    rw [Work.answer_during, mapError_eq_ok, cursorIn]
  unfold examine
  rw [Work.answer_bind_eq_ok readDefinitions_reads fun _ => loadPockets_reads.bind fun _ => last _ _]
  simp only [Work.answer_bind_eq_ok loadPockets_reads fun _ => last _ _,
    Work.answer_bind_eq_ok (loadCursor_reads.during _) fun _ => Work.reads_pure _, stands]
  constructor
  · rintro ⟨definitions, read, pockets, loaded, cursor, found, same⟩
    cases same
    exact ⟨read, loaded, found⟩
  · rintro ⟨read, loaded, found⟩
    exact ⟨_, read, _, loaded, _, found, rfl⟩

end Workspace

namespace Report

theorem isValid_iff {r : Report} :
    r.isValid = true ↔ r.definitions.violations = [] ∧ r.definitions.Closed ∧ (r.definitions.way? r.cursor.way).isSome := by
  rw [isValid, errors, List.isEmpty_iff, List.append_eq_nil_iff, List.append_eq_nil_iff, List.map_eq_nil_iff,
    List.map_eq_nil_iff, Definitions.dangling_eq_nil, and_assoc]
  simp [Option.isSome_iff_ne_none]

/-- The errors that a walk may still end in when the report of its workspace has none and it is begun
with these pockets in store. -/
structure Allows (r : Report) (stored : Pockets) (e : WalkError) : Prop where
  kind : (∃ detour pocket, e = .missingPocket detour pocket) ∨ (∃ detour value, e = .noEntry detour value) ∨
    ∃ step, e = .budgetExhausted step
  defaulted : (∀ detour ∈ r.definitions.detours, ∃ entry ∈ detour.entries, entry.isDefault) →
    ∀ detour value, e ≠ .noEntry detour value
  pocketed : (∀ detour ∈ r.definitions.detours,
      (∃ p ∈ r.pockets, p.name = detour.pocket) ∨ (stored.get? detour.pocket).isSome) →
    ∀ detour pocket, e ≠ .missingPocket detour pocket

theorem allows_of_foreseen {r : Report} {stored : Pockets} {e : WalkError}
    (h : Walk.Foreseen r.definitions (stored.seed r.pockets) e) : r.Allows stored e := by
  cases h with
  | @missingPocket detour known absent =>
    refine ⟨.inl ⟨_, _, rfl⟩, fun _ _ _ => by simp, fun pocketed => ?_⟩
    have there := (Pockets.isSome_get?_seed stored r.pockets detour.pocket).mpr (pocketed detour known)
    rw [absent] at there
    cases there
  | @noEntry detour content known unmatched =>
    refine ⟨.inr (.inl ⟨_, _, rfl⟩), fun defaulted => ?_, fun _ _ _ => by simp⟩
    obtain ⟨entry, listed, default⟩ := defaulted detour known
    rw [Detour.select?, Option.orElse_eq_orElse, Option.orElse_eq_or, Option.or_eq_none_iff] at unmatched
    exact absurd default (List.find?_eq_none.mp unmatched.2 entry listed)
  | budgetExhausted step => exact ⟨.inr (.inr ⟨step, rfl⟩), fun _ _ _ => by simp, fun _ _ _ => by simp⟩

end Report

/-- What was read for a report without errors is loaded wherever the records are the same. -/
theorem Workspace.loads_of_valid {before fs : Files} {r : Report} (examined : examine.answer before = .ok r)
    (valid : r.isValid = true) (same : SameRecords fs before) :
    loadDefinitions.answer fs = .ok r.definitions ∧ loadPockets.answer fs = .ok r.pockets := by
  obtain ⟨read, pocketed, -⟩ := examine_eq_ok.mp examined
  exact ⟨loadDefinitions_answer ((readDefinitions_congr same.steps same.ways same.detours).trans read) (Report.isValid_iff.mp valid).1,
    (readRecords_congr _ same.pockets).trans pocketed⟩

namespace Run

open Workspace

/-! ### The parts of an attempt -/

/-- On a workspace that validates, only the settings can keep an attempt from what it loads. -/
theorem prepare_of_valid {fs : Files} {r : Report}
    (loaded : loadDefinitions.answer fs = .ok r.definitions ∧ loadPockets.answer fs = .ok r.pockets) :
    prepare.answer fs = (loadSettings.answer fs).map fun settings => ⟨settings, r.definitions, r.pockets⟩ := by
  rw [prepare_answer, loaded.1, loaded.2]
  cases loadSettings.answer fs <;> rfl

theorem during_eq_error {x : Work α} {u : Undertaking} {w t : Workspace} {f : Failure}
    (h : x.during u w = (.error f, t)) : f.during.head? = some u := by
  rw [Work.during_apply] at h
  cases ran : (x w).1 with
  | ok a =>
    rw [ran] at h
    cases h
  | error g =>
    rw [ran] at h
    cases h
    rfl

/-- What a run comes to. What went wrong in the attempt is told first. -/
def outcome (c : Cursor) : Except Failure (Except WalkError Unit × Stats) → Except Failure Cursor → Except Failure Outcome
  | .error f, _ => .error f
  | .ok _, .error f => .error f
  | .ok (.ok (), stats), .ok _ => .ok (.completed c.way stats)
  | .ok (.error e, stats), .ok _ => .ok (.failed c.way e stats)

section

variable {c : Cursor} {s t : State π}

theorem conclude_some {attempted : Except Failure (Except WalkError Unit × Stats)} {clearing : Except Failure Cursor}
    {result : Except Failure Outcome} (h : conclude c attempted clearing s = some (result, t)) :
    result = outcome c attempted clearing := by
  rcases attempted with f | ⟨_ | _, stats⟩ <;> rcases clearing with g | d <;> cases h <;> rfl

theorem keepPockets_some {settings : Settings} {walked : Except WalkError Unit × Stats}
    {attempted : Except Failure (Except WalkError Unit × Stats)} (h : keepPockets settings walked s = some (attempted, t)) :
    attempted = .ok walked ∨ ∃ f, attempted = .error f ∧ f.during.head? = some .persistingPockets := by
  rw [keepPockets_apply] at h
  split at h
  · cases persists : (writePockets s.pockets).during .persistingPockets s.workspace with
    | mk result w =>
      rw [persists] at h
      cases result with
      | error f =>
        cases h
        exact .inr ⟨f, rfl, during_eq_error persists⟩
      | ok =>
        cases h
        exact .inl rfl
  · cases h
    exact .inl rfl

end

/-! ### Runs of a workspace that validates -/

/-- What a run may come to on files whose report has no errors: the walk ends well or in an error that
the report allows, or something outside of the walk goes wrong. -/
inductive MayEnd (r : Report) (c : Cursor) (s : State π) : Except Failure Outcome → Prop where
  | completed {stats : Stats} : MayEnd r c s (.ok (.completed c.way stats))
  | failed {e : WalkError} {stats : Stats} (allowed : r.Allows s.pockets e) : MayEnd r c s (.ok (.failed c.way e stats))
  | unset {f : Failure} (fails : loadSettings.answer s.workspace.files = .error f) : MayEnd r c s (.error f)
  | unkept {f : Failure} (pockets : f.during.head? = some .persistingPockets) : MayEnd r c s (.error f)
  | uncleared {f : Failure} (flag : f.during.head? = some .clearingFlag) : MayEnd r c s (.error f)

section

variable [Page π] {depth : Nat} {c : Cursor} {r : Report}

theorem allows_of_walkFrom {settings : Settings} {stored : Pockets} {s t : State π} {e : WalkError} {stats : Stats}
    (valid : r.isValid = true) (way : c.way = r.cursor.way) (seeded : s.pockets = stored.seed r.pockets)
    (h : walkFrom .standard depth c ⟨settings, r.definitions, r.pockets⟩ s = some (.ok (.error e, stats), t)) :
    r.Allows stored e := by
  obtain ⟨-, closed, there⟩ := Report.isValid_iff.mp valid
  obtain ⟨root, found⟩ := Option.isSome_iff_exists.mp there
  rw [← way] at found
  unfold walkFrom at h
  simp only [found] at h
  unfold walk at h
  obtain ⟨⟨result, u⟩, walks, same⟩ := Option.bind_eq_some_iff.mp h
  cases same
  have foreseen := Walk.foreseen_of_reaches (Walk.equipped_of_standard (setting_actions _ _ _))
    (by rwa [setting_definitions]) (by rw [setting_definitions]; exact closed.ways root (List.mem_of_find?_eq_some found))
    (Walk.reaches_of_walk walks)
  rw [setting_definitions] at foreseen
  exact Report.allows_of_foreseen (seeded ▸ foreseen)

theorem mayEnd_of_once {s t : State π} {result : Except Failure Outcome} (valid : r.isValid = true)
    (loaded : loadDefinitions.answer s.workspace.files = .ok r.definitions ∧
      loadPockets.answer s.workspace.files = .ok r.pockets)
    (loads : cursorIn s.workspace.files = .ok c) (running : c.running = true) (way : c.way = r.cursor.way)
    (returned : once .standard depth s = some (result, t)) : MayEnd r c s result := by
  obtain ⟨attempted, u, attempts, concludes⟩ := once_concludes loads running returned
  rw [conclude_some concludes]
  rw [attempt_apply, begun_files, prepare_of_valid loaded] at attempts
  cases settled : loadSettings.answer s.workspace.files with
  | error f =>
    rw [settled] at attempts
    cases attempts
    exact .unset settled
  | ok settings =>
    rw [settled] at attempts
    obtain ⟨⟨walked, stats⟩, v, walks, keeps⟩ := proceed_some attempts
    rcases keepPockets_some keeps with rfl | ⟨f, rfl, keeping⟩
    · cases flag : clearing (.ok (walked, stats)) u.workspace with
      | mk cleared w =>
        rcases cleared with f | d
        · exact .uncleared (during_eq_error flag)
        · rcases walked with e | _
          · exact .failed (allows_of_walkFrom valid way rfl walks)
          · exact .completed
    · exact .unkept keeping

/-- Where a report has no errors, a run on files with the same records, whose cursor stands on the same way and is
marked running, loads all definitions and pockets, and its walk ends well or in an error that the report allows. -/
theorem once_of_valid {before : Files} {s : State π} (examined : examine.answer before = .ok r)
    (valid : r.isValid = true) (same : SameRecords s.workspace.files before) (loads : cursorIn s.workspace.files = .ok c)
    (running : c.running = true) (way : c.way = r.cursor.way) :
    loadDefinitions.answer s.workspace.files = .ok r.definitions ∧
      loadPockets.answer s.workspace.files = .ok r.pockets ∧
      (∀ depth p (u : State π) e stats t, prepare.answer s.workspace.files = .ok p → u.pockets = s.pockets.seed p.pockets →
        walkFrom .standard depth c p u = some (.ok (.error e, stats), t) → r.Allows s.pockets e) ∧
      ∀ depth result t, once .standard depth s = some (result, t) → MayEnd r c s result := by
  have loaded := loads_of_valid examined valid same
  refine ⟨loaded.1, loaded.2, fun depth p u e stats t prepared seeded walks => ?_,
    fun depth result t returned => mayEnd_of_once valid loaded loads running way returned⟩
  rw [prepare_of_valid loaded] at prepared
  cases settled : loadSettings.answer s.workspace.files with
  | error f =>
    rw [settled] at prepared
    cases prepared
  | ok settings =>
    rw [settled] at prepared
    cases prepared
    exact allows_of_walkFrom valid way seeded walks

end

/-! ### A fork on a pocket that is seeded -/

def forked : Preparation where
  settings := {}
  definitions :=
    { steps := [{ id := .step "look", description := "", action := .check, selector := "#a", onFailure := [.way "main"] }]
      ways := [{ id := .way "main", description := "", repeats := 1, steps := [.detour "fork"] }]
      detours := [{ id := .detour "fork", description := "", pocket := "mode",
                    entries := [{ value := "default", steps := [.step "look"] }] }] }
  pockets := [⟨"mode", "slow"⟩]

def forkedFiles (c : Cursor) : Files where
  entries := [(dataDirectory, .directory),
    (stepsPath, .file (.text (recordsText Step.toJson forked.definitions.steps))),
    (waysPath, .file (.text (recordsText Way.toJson forked.definitions.ways))),
    (detoursPath, .file (.text (recordsText Detour.toJson forked.definitions.detours))),
    (pocketsPath, .file (.text (recordsText Pocket.toJson forked.pockets))),
    (cursorPath, .file (.text (cursorText c)))]

def forkedReport : Report where
  definitions := forked.definitions
  pockets := forked.pockets
  cursor := .idle (.way "main") 0

def forkedCursor : Cursor where
  running := true
  limit := 2
  way := .way "main"
  spot := ⟨0, [0]⟩

/-- The element never appears. -/
def forkedState : State ScriptedPage where
  page := { missing := ["#a"] }
  workspace := { files := forkedFiles forkedCursor }

theorem forked_loads (c : Cursor) (readable : c.Readable) : cursorIn (forkedFiles c) = .ok c :=
  cursorIn_of_holds rfl readable

theorem forked_examined : examine.answer (forkedFiles forkedReport.cursor) = .ok forkedReport := by
  have steps : (readRecords Step.ofJson stepsPath).answer (forkedFiles forkedReport.cursor) = .ok forked.definitions.steps :=
    readRecords_of_text rfl (by decide +kernel) (by decide +kernel)
  have ways : (readRecords Way.ofJson waysPath).answer (forkedFiles forkedReport.cursor) = .ok forked.definitions.ways :=
    readRecords_of_text rfl (by decide +kernel) (by decide +kernel)
  have detours : (readRecords Detour.ofJson detoursPath).answer (forkedFiles forkedReport.cursor) =
      .ok forked.definitions.detours :=
    readRecords_of_text rfl (by decide +kernel) (by decide +kernel)
  refine examine_eq_ok.mpr ⟨?_, ?_, forked_loads _ ⟨by decide, by decide, by decide⟩⟩
  · rw [readDefinitions_answer, steps, ways, detours]
    rfl
  · exact readRecords_of_text rfl (by decide +kernel) (by decide +kernel)

theorem once_of_valid_forked : ∃ result t, once .standard 9 forkedState = some (result, t) ∧
    MayEnd forkedReport forkedCursor forkedState result := by
  have loads := forked_loads forkedCursor ⟨by decide, by decide, by decide⟩
  have valid : forkedReport.isValid = true := by decide +kernel
  have same : SameRecords forkedState.workspace.files (forkedFiles forkedReport.cursor) := ⟨rfl, rfl, rfl, rfl⟩
  have returns : ∃ result t, once .standard 9 forkedState = some (result, t) := by
    refine once_returns loads rfl fun p way prepared found => ?_
    have settled : loadSettings.answer forkedState.workspace.files = .ok {} := by decide +kernel
    rw [prepare_of_valid (loads_of_valid forked_examined valid same), settled] at prepared
    cases prepared
    have there : forked.definitions.way? forkedCursor.way = some ⟨.way "main", "", 1, [.detour "fork"]⟩ := by decide +kernel
    cases there.symm.trans found
    decide +kernel
  obtain ⟨result, t, returned⟩ := returns
  obtain ⟨-, -, -, ends⟩ := once_of_valid (s := forkedState) forked_examined valid same loads rfl rfl
  exact ⟨result, t, returned, ends 9 result t returned⟩

end Run

end Wayfarer
