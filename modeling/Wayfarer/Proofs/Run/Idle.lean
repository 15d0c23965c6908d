import Wayfarer.Proofs.Run.Flag
import Wayfarer.Proofs.Walk.Deeds
import Wayfarer.Proofs.Walk.Expansion

/-!
# Work that does no deeds

Whatever an attempt does to files, be it to load or to write them, is clerical work: it calls no page,
writes no pocket and runs no step.
-/

namespace Wayfarer

/-- The event tells of loading or writing files. -/
def Event.isClerical : Event → Bool
  | .readingCursor _ | .cursorRead _ | .writingCursor _ _ | .definitionsRead _ _ _ | .checkpointFailed _ _ => true
  | _ => false

theorem Event.isDeed_of_clerical {e : Event} (clerical : e.isClerical = true) : e.isDeed = false := by
  cases e <;> first | rfl | cases clerical

namespace Workspace

/-- Nothing has been noted since but events of this kind. -/
def Notes (P : Event → Prop) (w t : Workspace) : Prop :=
  ∃ added, t.journal = w.journal ++ added ∧ ∀ m ∈ added, P m.event

theorem Notes.of_eq {P : Event → Prop} {w t : Workspace} (same : t.journal = w.journal) : w.Notes P t :=
  ⟨#[], by rw [same, Array.append_empty], by simp⟩

theorem Notes.trans {P : Event → Prop} {w t u : Workspace} (first : w.Notes P t) (second : t.Notes P u) : w.Notes P u := by
  obtain ⟨added, grown, told⟩ := first
  obtain ⟨more, further, also⟩ := second
  refine ⟨added ++ more, by rw [further, grown, Array.append_assoc], fun m member => ?_⟩
  rcases Array.mem_append.mp member with before | behind
  · exact told m before
  · exact also m behind

theorem Notes.mono {P Q : Event → Prop} {w t : Workspace} (h : w.Notes P t) (implies : ∀ e, P e → Q e) : w.Notes Q t := by
  obtain ⟨added, grown, told⟩ := h
  exact ⟨added, grown, fun m member => implies m.event (told m member)⟩

theorem notes_note {P : Event → Prop} (w : Workspace) {e : Event} (kind : P e) : w.Notes P (w.note e) :=
  ⟨#[⟨e, w.files⟩], Array.append_singleton.symm, by simpa using kind⟩

/-- What has been noted since is no deed. -/
def IdlesTo (w t : Workspace) : Prop :=
  ∃ added, t.journal = w.journal ++ added ∧ Idle added

theorem IdlesTo.of_eq {w t : Workspace} (same : t.journal = w.journal) : w.IdlesTo t :=
  Notes.of_eq (P := (·.isDeed = false)) same

theorem IdlesTo.trans {w t u : Workspace} (first : w.IdlesTo t) (second : t.IdlesTo u) : w.IdlesTo u :=
  Notes.trans (P := (·.isDeed = false)) first second

theorem idlesTo_note (w : Workspace) {e : Event} (calm : e.isDeed = false) : w.IdlesTo (w.note e) :=
  notes_note (P := (·.isDeed = false)) w calm

end Workspace

namespace Work

/-- All that the work notes is clerical. -/
def Clerical (x : Work α) : Prop :=
  ∀ w : Workspace, w.Notes (·.isClerical = true) (x w).2

/-- The work does no deeds. -/
def Idles (x : Work α) : Prop :=
  ∀ w : Workspace, w.IdlesTo (x w).2

theorem Clerical.idles {x : Work α} (clerical : Clerical x) : Idles x := fun w =>
  (clerical w).mono fun _ => Event.isDeed_of_clerical

theorem clerical_of_silent {x : Work α} (silent : ∀ w, (x w).2.journal = w.journal) : Clerical x :=
  fun w => .of_eq (silent w)

theorem clerical_pure (a : α) : Clerical (pure a) := clerical_of_silent fun _ => rfl

theorem clerical_throw (f : Failure) : Clerical (throw f : Work α) := clerical_of_silent fun _ => rfl

theorem clerical_note {e : Event} (clerical : e.isClerical = true) : Clerical (note e) :=
  fun w => Workspace.notes_note w clerical

theorem clerical_look (question : Files → α) : Clerical (look question) := clerical_of_silent fun _ => rfl

theorem clerical_ofExcept (result : Except Failure α) : Clerical (ofExcept result) := clerical_of_silent fun _ => rfl

theorem clerical_change (operation : Files → Except FileFault Files) : Clerical (change operation) := by
  refine clerical_of_silent fun w => ?_
  unfold change
  simp only [ExceptT.mk]
  cases operation w.files <;> rfl

theorem Clerical.bind {x : Work α} (first : Clerical x) {f : α → Work β} (rest : ∀ a, Clerical (f a)) :
    Clerical (x >>= f) := by
  intro w
  have here := first w
  rw [bind_apply]
  cases ran : x w with
  | mk result t =>
    rw [ran] at here
    cases result with
    | error e => exact here
    | ok a => exact here.trans (rest a t)

theorem Clerical.during {x : Work α} (clerical : Clerical x) (u : Undertaking) : Clerical (x.during u) := by
  intro w
  rw [during_apply]
  exact clerical w

theorem clerical_readText (p : Path) : Clerical (readText p) :=
  (clerical_look _).bind fun _ => clerical_ofExcept _

theorem clerical_decode (value : Json → Json.Decode α) (text : String) : Clerical (decode value text) :=
  clerical_ofExcept _

theorem clerical_replace (p : Path) (text : String) : Clerical (replace p text) := by
  refine ((clerical_change _).during _).bind fun _ => ?_
  exact ((clerical_change _).during _).bind fun _ => (clerical_change _).during _

end Work

namespace Workspace

open Work

theorem clerical_loadCursor : loadCursor.Clerical := by
  refine (clerical_note rfl).bind fun _ => ?_
  refine ((clerical_readText _).during _).bind fun text => ?_
  refine ((clerical_decode _ text).during _).bind fun c => ?_
  exact (clerical_note rfl).bind fun _ => clerical_pure c

theorem clerical_updateCursor (change : Cursor → Cursor) : (updateCursor change).Clerical := by
  refine clerical_loadCursor.bind fun c => ?_
  exact ((clerical_note rfl).bind fun _ => clerical_replace _ _).bind fun _ => clerical_pure _

theorem clerical_loadSettings : loadSettings.Clerical := by
  refine (clerical_look _).bind fun there => ?_
  split
  · exact clerical_pure _
  · refine ((clerical_readText _).during _).bind fun text => ?_
    split
    · exact clerical_throw _
    · exact (clerical_ofExcept _).bind fun _ => clerical_pure _

theorem clerical_readRecords (record : Json → Json.Decode α) (p : Path) : (readRecords record p).Clerical :=
  ((clerical_readText p).during _).bind fun text => (clerical_decode _ text).during _

theorem clerical_loadDefinitions : loadDefinitions.Clerical := by
  have read : readDefinitions.Clerical := by
    refine (clerical_readRecords _ _).bind fun steps => (clerical_readRecords _ _).bind fun ways => ?_
    exact (clerical_readRecords _ _).bind fun detours => (clerical_note rfl).bind fun _ => clerical_pure _
  refine read.bind fun d => ?_
  split
  · exact clerical_pure d
  · exact clerical_throw _

end Workspace

namespace Run

open Workspace

theorem idles_prepare : prepare.Idles := by
  have loads : prepare.Clerical := by
    refine clerical_loadSettings.bind fun settings => ?_
    refine (clerical_loadDefinitions.during _).bind fun definitions => ?_
    exact (clerical_readRecords _ _).bind fun pockets => Work.clerical_pure _
  exact loads.idles

theorem idlesTo_begun (c : Cursor) (w : Workspace) : w.IdlesTo (begun c w) :=
  (clerical_loadCursor.idles w).trans (idlesTo_note _ rfl)

theorem idles_clearing (attempted : Except Failure (Except WalkError Unit × Stats)) : (clearing attempted).Idles :=
  ((clerical_updateCursor _).during _).idles

theorem clerical_keepSpot (spot : Spot) (files : Files) : ∀ m ∈ (keepSpot spot files).2, m.event.isClerical = true := by
  obtain ⟨added, grown, told⟩ := clerical_updateCursor (fun c => { c with spot }) { files }
  rw [Array.empty_append] at grown
  subst grown
  unfold keepSpot
  cases updated : updateCursor (fun c => { c with spot }) { files } with
  | mk result w =>
    rw [updated] at told
    cases result with
    | ok => exact told
    | error f =>
      intro m noted
      rcases Array.mem_push.mp noted with before | rfl
      · exact told m before
      · rfl

theorem clerical_keep (d : Definitions) (actions : ActionTable π) (settings : Settings) (spot : Spot) (files : Files) :
    ∀ m ∈ ((setting d actions settings).keep spot files).2, m.event.isClerical = true := by
  unfold setting
  split
  · exact clerical_keepSpot spot files
  · exact fun m noted => absurd noted (by simp)

/-- Keeping positions as the settings say is no deed. -/
theorem keepsIdly_setting (d : Definitions) (actions : ActionTable π) (settings : Settings) :
    (setting d actions settings).KeepsIdly :=
  fun spot files m noted => Event.isDeed_of_clerical (clerical_keep d actions settings spot files m noted)

section

variable {s t : State π}

theorem idlesTo_keepPockets {settings : Settings} {walked : Except WalkError Unit × Stats}
    {result : Except Failure (Except WalkError Unit × Stats)} (h : keepPockets settings walked s = some (result, t)) :
    s.workspace.IdlesTo t.workspace := by
  rw [keepPockets_apply] at h
  split at h
  · cases h
    exact (Work.clerical_replace _ _).idles s.workspace
  · cases h
    exact .of_eq rfl

theorem idlesTo_conclude {c : Cursor} {attempted : Except Failure (Except WalkError Unit × Stats)}
    {clearing : Except Failure Cursor} {result : Except Failure Outcome}
    (h : conclude c attempted clearing s = some (result, t)) : s.workspace.IdlesTo t.workspace := by
  rcases attempted with f | ⟨ended, stats⟩
  · cases h
    exact .of_eq rfl
  · rcases clearing with f | d
    · cases h
      exact .of_eq rfl
    · cases ended <;> cases h <;> exact idlesTo_note _ rfl

end

end Run

end Wayfarer
