import Wayfarer.Command.Job
import Wayfarer.Proofs.Command
import Wayfarer.Proofs.CursorFile
import Wayfarer.Workspace.Init

/-!
# Arming the cursor

Arming accepts every text that names a way, even an empty name, and every position, however deep. The
cursor that it leaves is the one that was asked for, or, for an empty name or too deep a position, none.
-/

namespace Wayfarer

namespace Job

open Workspace Command

/-- A text names a way by its identifier or by its bare name. -/
def Names (raw : String) (way : Ident) : Prop :=
  way.kind = .way ∧ (raw = way.text ∧ way.name ≠ "" ∨ '>' ∉ raw.toList ∧ raw = way.name)

theorem wayIdent_eq_ok {raw : String} {way : Ident} : wayIdent raw = .ok way ↔ Names raw way := by
  constructor
  · intro h
    unfold wayIdent at h
    split at h
    · split at h
      · cases h
      · rename_i id parsed
        split at h
        · rename_i kind
          cases h
          exact ⟨kind, .inl ⟨(Ident.text_of_parse? parsed).symm, Ident.name_of_parse? parsed⟩⟩
        · cases h
    · rename_i bare
      cases h
      exact ⟨rfl, .inr ⟨by simpa using bare, rfl⟩⟩
  · obtain ⟨kind, name⟩ := way
    rintro ⟨rfl, ⟨rfl, named⟩ | ⟨bare, rfl⟩⟩
    · have separated : (Ident.text ⟨.way, name⟩).toList.contains '>' = true := by
        rw [Ident.toList_text]
        simp
      rw [wayIdent, if_pos separated, Ident.parse?_text, if_neg named]
      rfl
    · rw [wayIdent, if_neg (by simpa using bare)]
      rfl

theorem Names.unique {raw : String} {way other : Ident} (h : Names raw way) (also : Names raw other) : way = other :=
  Except.ok.inj ((wayIdent_eq_ok.mpr h).symm.trans (wayIdent_eq_ok.mpr also))

theorem Names.nameless {raw : String} {way : Ident} (h : Names raw way) : way.name = "" ↔ raw = "" := by
  obtain ⟨-, ⟨rfl, named⟩ | ⟨-, rfl⟩⟩ := h
  · refine ⟨fun empty => absurd empty named, fun empty => ?_⟩
    have nothing := congrArg String.toList empty
    rw [Ident.toList_text] at nothing
    simp at nothing
  · rfl

/-- What arming leaves behind. -/
structure Armed (limit : Option Nat) (spot : Option Spot) (raw : String) (c : Cursor) (after : Files) : Prop where
  written : ∃ way, Names raw way ∧
    (raw ≠ "" ∧ (spot.getD .start).path.length ≤ Json.maxDepth - 1 →
      cursorIn after = .ok { running := true, limit := limit.getD c.limit, way, spot := spot.getD .start })
  lost : raw = "" ∨ Json.maxDepth - 1 < (spot.getD .start).path.length → ∃ f, cursorIn after = .error f

theorem armed_of_holds {raw : String} {way : Ident} {limit : Option Nat} {spot : Option Spot}
    (bounded : Bounded limit spot) {c : Cursor} (readable : c.Readable) (names : Names raw way) {after : Files}
    (holds : Holds after (armed way limit spot c)) : Armed limit spot raw c after := by
  have limits : limit.getD c.limit < Text.halfWordBound := by
    cases limit with
    | none => exact readable.limit
    | some n => exact bounded.limit n rfl
  have indices : ∀ i ∈ (spot.getD .start).path, i < Text.wordBound := by
    cases spot with
    | none => decide
    | some spot => exact bounded.spot spot rfl
  refine ⟨⟨way, names, ?_⟩, fun unfit => cursorIn_error_of_holds holds fun fits => ?_⟩
  · rintro ⟨named, shallow⟩
    exact cursorIn_of_holds holds ⟨limits, fun empty => named (names.nameless.mp empty), shallow, indices⟩
  · rcases unfit with empty | deep
    · exact fits.way (names.nameless.mpr empty)
    · exact absurd fits.spot.1 (Nat.not_le.mpr deep)

/-- Arming fails on a text that names no way, and on nothing else. -/
theorem arm_of_error {raw : String} {f : Failure} (named : wayIdent raw = .error f) (limit : Option Nat)
    (spot : Option Spot) (w : Workspace) : arm raw limit spot w = (.error f, w) := by
  rw [arm, Work.bind_apply, named]
  rfl

theorem arm_of_ok {raw : String} {way : Ident} (named : wayIdent raw = .ok way) {limit : Option Nat}
    {spot : Option Spot} (bounded : Bounded limit spot) {w : Workspace} {c : Cursor}
    (loads : cursorIn w.files = .ok c) (replaceable : w.files.Replaceable cursorPath) :
    ∃ out after, arm raw limit spot w = (.ok { out }, after) ∧ Armed limit spot raw c after.files := by
  obtain ⟨after, updated, -, holds⟩ :=
    updateCursor_of_ok (armed way limit spot) loads (ready_of_replaceable loads replaceable)
  have armed := armed_of_holds bounded (readable_of_cursorIn loads) (wayIdent_eq_ok.mp named) holds
  unfold arm
  simp only [named, Work.ofExcept, ExceptT.mk, Work.bind_apply, Work.during_apply, updated]
  exact ⟨_, after, rfl, armed⟩

/-- Whatever a command line asks to arm: the exit code is zero exactly if the text names a way. With
another the files are as they were, and with zero the cursor is the one that was asked for, unless that
has no name or too deep a spot. -/
theorem arm_exact {args : List String} {noPause : Bool} {raw : String} {limit : Option Nat} {spot : Option Spot}
    (asked : Request.ofArguments args = .invoke ⟨noPause, .arm raw limit spot⟩) {w : Workspace} {c : Cursor}
    (loads : cursorIn w.files = .ok c) (replaceable : w.files.Replaceable cursorPath) (depth : Nat) :
    ∃ s code, step depth w (.command (.arm raw limit spot)) = some s ∧ s.next = .inr code ∧
      (code = 0 ↔ ∃ way, Names raw way) ∧ (code ≠ 0 → s.workspace.files = w.files) ∧
      (code = 0 → Armed limit spot raw c s.workspace.files) := by
  obtain ⟨name, r, built⟩ := Request.build_of_ofArguments asked
  cases named : wayIdent raw with
  | error f =>
    have nameless : ¬ ∃ way, Names raw way := by
      rintro ⟨way, names⟩
      cases named.symm.trans (wayIdent_eq_ok.mpr names)
    refine ⟨stride w (failure f), invalidCode, ?_, rfl, ⟨nofun, fun names => absurd names nameless⟩, fun _ => rfl, nofun⟩
    simp only [step, ofWork, arm_of_error named]
  | ok way =>
    obtain ⟨out, after, done, armed⟩ := arm_of_ok named (bounded_of_build built) loads replaceable
    have names := wayIdent_eq_ok.mp named
    refine ⟨stride after { out }, 0, ?_, rfl, ⟨fun _ => ⟨way, names⟩, fun _ => rfl⟩, nofun, fun _ => armed⟩
    simp only [step, ofWork, done]

/-! ### A new workspace -/

def newFiles : Files where
  entries := [(dataDirectory, .directory), (cursorPath, .file (.text (cursorText firstCursor)))]

theorem new_loads : cursorIn newFiles = .ok firstCursor := by
  have holds : Holds newFiles firstCursor := rfl
  exact cursorIn_of_holds holds ⟨by decide, by decide, by decide⟩

theorem new_replaceable : newFiles.Replaceable cursorPath :=
  (ready_of_find? rfl rfl rfl).replaceable

theorem arm_exact_by_bare_name :
    Request.ofArguments ["arm", "main", "-l5", "--spot", "1.2"] =
        .invoke ⟨false, .arm "main" (some 5) (some ⟨1, [2]⟩)⟩ ∧
      ∃ s, step 1 { files := newFiles } (.command (.arm "main" (some 5) (some ⟨1, [2]⟩))) = some s ∧ s.next = .inr 0 ∧
        cursorIn s.workspace.files = .ok { running := true, limit := 5, way := .way "main", spot := ⟨1, [2]⟩ } := by
  have asked : Request.ofArguments ["arm", "main", "-l5", "--spot", "1.2"] =
      .invoke ⟨false, .arm "main" (some 5) (some ⟨1, [2]⟩)⟩ := by
    decide +kernel
  have main : Names "main" (.way "main") := wayIdent_eq_ok.mp rfl
  obtain ⟨s, code, done, next, accepted, -, armed⟩ :=
    arm_exact asked (w := { files := newFiles }) new_loads new_replaceable 1
  cases accepted.mpr ⟨_, main⟩
  obtain ⟨way, names, loads⟩ := (armed rfl).written
  cases main.unique names
  exact ⟨asked, s, done, next, loads ⟨by decide, by decide⟩⟩

/-- An empty name is accepted and leaves a cursor file that nothing can read again. -/
theorem armed_without_name : Request.ofArguments ["arm", ""] = .invoke ⟨false, .arm "" none none⟩ ∧
    cursorIn newFiles = .ok firstCursor ∧ newFiles.Replaceable cursorPath ∧
    ∃ s, step 1 { files := newFiles } (.command (.arm "" none none)) = some s ∧ s.next = .inr 0 ∧
      ∃ f, cursorIn s.workspace.files = .error f := by
  have bounded : Bounded none none := ⟨nofun, nofun⟩
  have named : wayIdent "" = .ok (.way "") := rfl
  obtain ⟨out, after, done, armed⟩ :=
    arm_of_ok named bounded (w := { files := newFiles }) new_loads new_replaceable
  refine ⟨by decide +kernel, new_loads, new_replaceable, stride after { out }, ?_, rfl, armed.lost (.inl rfl)⟩
  simp only [step, ofWork, done]

end Job

end Wayfarer
