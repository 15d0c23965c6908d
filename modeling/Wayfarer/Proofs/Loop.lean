import Wayfarer.Loop
import Wayfarer.Proofs.Run.Restart

/-!
# One attempt for each arming

A tick of a loop attempts a walk exactly if it finds the cursor marked running, and leaves the cursor idle
when it comes to an outcome. So behind the first attempt nothing but the hook can lead to another.
-/

namespace Wayfarer

def Event.isStarting : Event → Bool
  | .starting _ _ _ => true
  | _ => false

theorem Event.isStarting_of_clerical {e : Event} (clerical : e.isClerical = true) : e.isStarting = false := by
  cases e <;> first | rfl | cases clerical

namespace Workspace

/-- The cursor in these files can be read and is marked running. -/
def isRunning (fs : Files) : Bool :=
  match cursorIn fs with
  | .ok c => c.running
  | .error _ => false

/-- The settings in these files can be read and ask for the cursor to be marked running first. -/
def armsOnStart (fs : Files) : Bool :=
  match loadSettings.answer fs with
  | .ok settings => settings.armOnStart
  | .error _ => false

/-- The cursor is idle, and the settings can be read. -/
structure Rests (fs : Files) : Prop where
  cursor : ∃ c, cursorIn fs = .ok c ∧ c.running = false
  settings : ∃ settings, loadSettings.answer fs = .ok settings

def Grows (w t : Workspace) : Prop :=
  w.Notes (fun _ => True) t

theorem IdlesTo.grows {w t : Workspace} (h : w.IdlesTo t) : w.Grows t :=
  Notes.mono (P := (·.isDeed = false)) h fun _ _ => trivial

end Workspace

namespace Run

open Workspace

variable {actions : ActionTable π} {depth : Nat} {c : Cursor} {s t : State π} {result : Except Failure Outcome}

theorem walkFrom_grows {p : Preparation} {walked : Except Failure (Except WalkError Unit × Stats)}
    (h : walkFrom actions depth c p s = some (walked, t)) : s.workspace.Grows t.workspace := by
  unfold walkFrom at h
  cases found : p.definitions.way? c.way with
  | none =>
    rw [found] at h
    cases h
    exact .of_eq rfl
  | some way =>
    rw [found] at h
    obtain ⟨⟨ended, u⟩, walks, same⟩ := Option.bind_eq_some_iff.mp h
    cases same
    obtain ⟨added, grown⟩ := (Walk.reaches_of_walk walks).journal
    have behind : (s.workspace.note (.walking way c.spot c.limit)).Grows ⟨u.world, u.journal⟩ :=
      ⟨added, grown, fun _ _ => trivial⟩
    exact (notes_note s.workspace trivial).trans behind

theorem attempt_grows {attempted : Except Failure (Except WalkError Unit × Stats)}
    (h : attempt actions depth c s = some (attempted, t)) : s.workspace.Grows t.workspace := by
  have prepares := (idles_prepare s.workspace).grows
  rcases attempt_cases h with ⟨f, -, -, rfl⟩ | ⟨p, walked, v, -, walks, keeps⟩
  · exact prepares
  · exact (prepares.trans (walkFrom_grows walks)).trans (idlesTo_keepPockets keeps).grows

theorem once_grows (loads : cursorIn s.workspace.files = .ok c) (running : c.running = true)
    (returned : once actions depth s = some (result, t)) : (begun c s.workspace).Grows t.workspace := by
  obtain ⟨attempted, u, attempts, concludes⟩ := once_concludes loads running returned
  have clears := (idles_clearing attempted u.workspace).grows
  exact ((attempt_grows attempts).trans clears).trans (idlesTo_conclude concludes).grows

theorem once_of_unloaded {f : Failure} (fails : cursorIn s.workspace.files = .error f) :
    once actions depth s = some (.error f, { s with workspace := (loadCursor s.workspace).2 }) := by
  unfold once
  rw [bind_apply, work_apply, loadCursor_of_cursorIn fails]

theorem outcome_ne_idle {attempted : Except Failure (Except WalkError Unit × Stats)} {clearing : Except Failure Cursor} :
    outcome c attempted clearing ≠ .ok .idle := by
  rcases attempted with f | ⟨_ | _, stats⟩ <;> rcases clearing with g | d <;> exact nofun

theorem once_ne_idle (loads : cursorIn s.workspace.files = .ok c) (running : c.running = true)
    (returned : once actions depth s = some (result, t)) : result ≠ .ok .idle := by
  obtain ⟨attempted, u, -, concludes⟩ := once_concludes loads running returned
  rw [conclude_some concludes]
  exact outcome_ne_idle

theorem once_rests {o : Outcome} (loads : cursorIn s.workspace.files = .ok c) (running : c.running = true)
    (returned : once actions depth s = some (.ok o, t)) : Rests t.workspace.files := by
  obtain ⟨attempted, u, attempts, concludes⟩ := once_concludes loads running returned
  obtain ⟨⟨walked, rfl⟩, d, clears⟩ := outcome_eq_ok (conclude_some concludes).symm
  obtain ⟨⟨last, there, rfl⟩, replaced⟩ := clearing_ok clears
  rw [← conclude_files concludes] at replaced
  refine ⟨⟨_, cursorIn_of_holds replaced.readText (readable_cleared (readable_of_cursorIn there) _), rfl⟩, ?_⟩
  rcases attempt_cases attempts with ⟨_, -, same, -⟩ | ⟨p, _, _, prepared, -⟩
  · cases same
  · rw [begun_files] at prepared
    -- the settings have been read for the attempt, and no attempt changes them
    have kept := once_definitions loads returned settingsPath (by simp)
    have located : t.workspace.files.locate settingsPath = s.workspace.files.locate settingsPath :=
      Files.locate_concat_congr (open_of_cursorIn loads) replaced.parents kept
    exact ⟨p.settings, (loadSettings_congr located).trans (settings_of_prepare prepared)⟩

end Run

namespace Loop

open Workspace

/-! ### Ticks -/

/-- A tick: the state in which it begins, and what comes of it. Nothing does if its walk nests too deep. -/
structure Tick (π σ : Type) where
  before : State π σ
  ended : Option (Except Failure Outcome × Run.State π)

namespace Tick

def make (actions : ActionTable π) (depth : Nat) (s : State π σ) : Tick π σ :=
  ⟨s, tick actions depth s.run⟩

/-- The outcome to which the tick comes, if it comes to one, and what the hook finds then. -/
def look (t : Tick π σ) : Option (Outcome × Run.State π) :=
  match t.ended with
  | some (.ok o, run) => some (o, run)
  | _ => none

/-- The state behind the call of the hook. -/
def behind (hook : Hook σ) (t : Tick π σ) : Option (State π σ) :=
  t.look.map fun (o, run) =>
    let (files, outside) := hook o run.workspace t.before.outside
    { run := { run with workspace := { run.workspace with files } }, summary := t.before.summary.count o, outside }

/-- A walk is attempted: that is noted, or else the walk nests too deep. -/
def attempts (t : Tick π σ) : Bool :=
  match t.ended with
  | none => true
  | some (_, run) => (run.workspace.journal.toList.drop t.before.run.workspace.journal.size).any (·.event.isStarting)

/-- The hook is called and leaves the cursor marked running. -/
def rearms (hook : Hook σ) (t : Tick π σ) : Bool :=
  (t.behind hook).any (isRunning ·.run.workspace.files)

end Tick

/-- The ticks of a loop from this state on, up to the first that comes to no outcome. -/
def history (actions : ActionTable π) (depth : Nat) (hook : Hook σ) : (count : Nat) → State π σ → List (Tick π σ)
  | 0, _ => []
  | count + 1, s =>
    let t := Tick.make actions depth s
    t :: (t.behind hook).elim [] (history actions depth hook count)

def allTicks (actions : ActionTable π) (depth : Nat) (hook : Hook σ) (count : Nat) (s : State π σ) : List (Tick π σ) :=
  match begin s.run with
  | some (.ok (), run) => history actions depth hook count { s with run }
  | _ => []

section

variable {actions : ActionTable π} {depth : Nat} {r t : Run.State π} {s : State π σ}

def surveyed (w : Workspace) : Workspace :=
  (loadSettings (loadCursor w).2).2

theorem surveyed_files (w : Workspace) : (surveyed w).files = w.files :=
  (loadSettings_reads.files _).trans (loadCursor_reads.files w)

/-- How a tick goes. -/
inductive Ticks (actions : ActionTable π) (depth : Nat) (r : Run.State π) :
    Option (Except Failure Outcome × Run.State π) → Prop where
  | unread {f} (fails : cursorIn r.workspace.files = .error f) :
    Ticks actions depth r (some (.error f, { r with workspace := (loadCursor r.workspace).2 }))
  | unsettled {c f} (loads : cursorIn r.workspace.files = .ok c) (idle : c.running = false)
    (fails : loadSettings.answer r.workspace.files = .error f) :
    Ticks actions depth r (some (.error f, { r with workspace := surveyed r.workspace }))
  | slept {c settings} (loads : cursorIn r.workspace.files = .ok c) (idle : c.running = false)
    (settled : loadSettings.answer r.workspace.files = .ok settings) :
    Ticks actions depth r
      (some (.ok .idle, { r with workspace := (surveyed r.workspace).note (.idling settings.pollInterval) }))
  | attempted {c} (loads : cursorIn r.workspace.files = .ok c) (running : c.running = true) :
    Ticks actions depth r (Run.once actions depth r)

theorem tick_of_once {result : Except Failure Outcome} (returned : Run.once actions depth r = some (result, t))
    (attempted : result ≠ .ok .idle) : tick actions depth r = some (result, t) := by
  unfold tick
  rw [bind_apply, returned]
  cases result with
  | error f => rfl
  | ok o =>
    have walked : o ≠ .idle := fun same => attempted (congrArg Except.ok same)
    simp only [walked, if_false]
    rfl

theorem tick_of_idle {c : Cursor} (loads : cursorIn r.workspace.files = .ok c) (idle : c.running = false) :
    tick actions depth r =
      match loadSettings.answer r.workspace.files with
      | .error f => some (.error f, { r with workspace := surveyed r.workspace })
      | .ok settings =>
        some (.ok .idle, { r with workspace := (surveyed r.workspace).note (.idling settings.pollInterval) }) := by
  have same := loadCursor_reads.files r.workspace
  unfold tick
  rw [bind_apply, Run.once_of_idle loads idle]
  simp only [if_true]
  rw [bind_apply, Run.work_apply, loadSettings_reads.apply, same]
  cases loadSettings.answer r.workspace.files <;> rfl

variable (actions depth r) in
theorem ticks_tick : Ticks actions depth r (tick actions depth r) := by
  cases loads : cursorIn r.workspace.files with
  | error f =>
    rw [tick_of_once (Run.once_of_unloaded loads) nofun]
    exact .unread loads
  | ok c =>
    cases running : c.running with
    | false =>
      rw [tick_of_idle loads running]
      cases settled : loadSettings.answer r.workspace.files with
      | error f => exact .unsettled loads running settled
      | ok settings => exact .slept loads running settled
    | true =>
      have same : tick actions depth r = Run.once actions depth r := by
        cases returned : Run.once actions depth r with
        | none =>
          unfold tick
          rw [bind_apply, returned]
        | some pair =>
          obtain ⟨result, t⟩ := pair
          exact tick_of_once returned (Run.once_ne_idle loads running returned)
      rw [same]
      exact .attempted loads running

theorem attempts_of_notes {result : Except Failure Outcome}
    (calm : s.run.workspace.Notes (·.isStarting = false) t.workspace) :
    (⟨s, some (result, t)⟩ : Tick π σ).attempts = false := by
  obtain ⟨added, grown, told⟩ := calm
  simp only [Tick.attempts, grown, Array.toList_append]
  rw [← Array.length_toList, List.drop_left, List.any_eq_false]
  intro m member
  rw [told m (Array.mem_toList_iff.mp member)]
  exact Bool.false_ne_true

theorem attempts_of_grows {result : Except Failure Outcome} {c : Cursor}
    (behind : (Run.begun c s.run.workspace).Grows t.workspace) :
    (⟨s, some (result, t)⟩ : Tick π σ).attempts = true := by
  obtain ⟨loaded, told, -⟩ := clerical_loadCursor s.run.workspace
  obtain ⟨added, grown, -⟩ := behind
  simp only [Tick.attempts, grown, Run.begun, note, told, Array.toList_append, Array.toList_push, List.append_assoc]
  rw [← Array.length_toList, List.drop_left]
  simp [Event.isStarting]

theorem attempts_eq : (Tick.make actions depth s).attempts = isRunning s.run.workspace.files := by
  have reading : s.run.workspace.Notes (·.isStarting = false) (loadCursor s.run.workspace).2 :=
    (clerical_loadCursor _).mono fun _ => Event.isStarting_of_clerical
  have surveying : s.run.workspace.Notes (·.isStarting = false) (surveyed s.run.workspace) :=
    reading.trans ((clerical_loadSettings _).mono fun _ => Event.isStarting_of_clerical)
  have ticked := ticks_tick actions depth s.run
  unfold Tick.make isRunning
  generalize tick actions depth s.run = ended at ticked ⊢
  cases ticked with
  | unread fails =>
    rw [fails]
    exact attempts_of_notes reading
  | unsettled loads idle =>
    simp only [loads, idle]
    exact attempts_of_notes surveying
  | slept loads idle =>
    simp only [loads, idle]
    exact attempts_of_notes (surveying.trans (notes_note _ rfl))
  | attempted loads running =>
    simp only [loads, running]
    cases returned : Run.once actions depth s.run with
    | none => rfl
    | some pair => exact attempts_of_grows (Run.once_grows loads running returned)

/-- A tick comes to an outcome with the cursor idle, and has then attempted a walk unless the outcome says idle. -/
theorem rests_of_tick {o : Outcome} (ended : tick actions depth r = some (.ok o, t)) :
    Rests t.workspace.files ∧ (isRunning r.workspace.files = true ↔ o ≠ .idle) := by
  have ticked := ticks_tick actions depth r
  generalize tick actions depth r = result at ticked ended
  unfold isRunning
  cases ticked with
  | unread => cases ended
  | unsettled => cases ended
  | @slept c settings loads idle settled =>
    cases ended
    have same : ((surveyed r.workspace).note (.idling settings.pollInterval)).files = r.workspace.files :=
      surveyed_files r.workspace
    refine ⟨⟨⟨c, by rw [same, loads], idle⟩, settings, by rw [same, settled]⟩, ?_⟩
    simp [loads, idle]
  | attempted loads running =>
    have walked := Run.once_ne_idle loads running ended
    refine ⟨Run.once_rests loads running ended, ?_⟩
    simpa [loads, running] using walked

theorem tick_of_rests (actions : ActionTable π) (depth : Nat) (h : Rests r.workspace.files) :
    ∃ t, tick actions depth r = some (.ok .idle, t) := by
  obtain ⟨⟨c, loads, idle⟩, settings, settled⟩ := h
  rw [tick_of_idle loads idle, settled]
  exact ⟨_, rfl⟩

end

/-! ### All ticks -/

section

variable {actions : ActionTable π} {depth : Nat} {hook : Hook σ} {count : Nat} {s : State π σ} {t : Tick π σ}

theorem ended_of_look {o : Outcome} {run : Run.State π} (looked : t.look = some (o, run)) :
    t.ended = some (.ok o, run) := by
  unfold Tick.look at looked
  split at looked
  · rename_i ended
    cases looked
    exact ended
  · cases looked

theorem make_of_mem (member : t ∈ history actions depth hook count s) : t = .make actions depth t.before := by
  induction count generalizing s with
  | zero => cases member
  | succ count ih =>
    rw [history] at member
    rcases List.mem_cons.mp member with rfl | later
    · rfl
    · cases following : (Tick.make actions depth s).behind hook with
      | none =>
        rw [following] at later
        cases later
      | some u =>
        rw [following] at later
        exact ih later

/-- A tick behind the first begins in the state that a call of the hook has left. -/
theorem behind_of_mem_tail (member : t ∈ (history actions depth hook count s).tail) :
    ∃ u ∈ history actions depth hook count s, u.behind hook = some t.before := by
  induction count generalizing s with
  | zero => cases member
  | succ count ih =>
    rw [history, List.tail_cons] at member
    rw [history]
    cases following : (Tick.make actions depth s).behind hook with
    | none =>
      rw [following] at member
      cases member
    | some u =>
      rw [following] at member
      simp only [Option.elim] at member ⊢
      cases count with
      | zero => cases member
      | succ count =>
        rcases List.mem_cons.mp member with rfl | later
        · exact ⟨_, List.mem_cons_self, following⟩
        · obtain ⟨v, there, called⟩ := ih later
          exact ⟨v, List.mem_cons_of_mem _ there, called⟩

theorem attempts_le (actions : ActionTable π) (depth : Nat) (hook : Hook σ) (count : Nat) (s : State π σ) :
    (history actions depth hook count s).countP (·.attempts) ≤
      (isRunning s.run.workspace.files).toNat + (history actions depth hook count s).countP (·.rearms hook) := by
  induction count generalizing s with
  | zero => exact Nat.zero_le _
  | succ count ih =>
    have counted : ∀ b : Bool, (if b = true then 1 else 0) = b.toNat := fun b => by cases b <;> rfl
    rw [history, List.countP_cons, List.countP_cons, attempts_eq, counted, counted]
    cases following : (Tick.make actions depth s).behind hook with
    | none =>
      simp only [Option.elim, List.countP_nil]
      omega
    | some u =>
      have later := ih u
      -- the next tick finds the cursor as the hook has left it
      have rearmed : (Tick.make actions depth s).rearms hook = isRunning u.run.workspace.files := by
        rw [Tick.rearms, following, Option.any_some]
      simp only [Option.elim, rearmed]
      omega

theorem ticks_succ {u : State π σ} {result : Except Failure Unit}
    (h : ticks actions depth hook (count + 1) s = some (result, u)) :
    (∃ v, (Tick.make actions depth s).behind hook = some v ∧ ticks actions depth hook count v = some (result, u)) ∨
      ∃ f, (Tick.make actions depth s).behind hook = none ∧ result = .error f ∧
        (Tick.make actions depth s).ended = some (.error f, u.run) := by
  rw [ticks, bind_apply] at h
  simp only [run, ExceptT.mk] at h
  simp only [Tick.behind, Tick.look, Tick.make]
  rcases ended : tick actions depth s.run with _ | ⟨f | o, r⟩
  · rw [ended] at h
    cases h
  · rw [ended] at h
    cases h
    exact .inr ⟨f, rfl, rfl, rfl⟩
  · rw [ended] at h
    simp only [Option.map] at h
    rw [bind_apply] at h
    exact .inl ⟨_, rfl, h⟩

theorem look_of_behind {u : State π σ} (called : t.behind hook = some u) :
    ∃ o run, t.look = some (o, run) ∧ u.summary = t.before.summary.count o ∧
      u.outside = (hook o run.workspace t.before.outside).2 := by
  obtain ⟨⟨o, run⟩, looked, same⟩ := Option.map_eq_some_iff.mp called
  exact ⟨o, run, looked, by rw [← same], by rw [← same]⟩

/-- What a loop that goes through all its ticks comes to in `t`. -/
structure Accounted (hook : Hook σ) (count : Nat) (outside : σ) (sum : Summary) (made : List (Tick π σ))
    (t : State π σ) : Prop where
  length : made.length = count
  all : ∀ tick ∈ made, tick.look.isSome
  /-- The hook is called once for each tick, in order. -/
  called : t.outside = (made.filterMap Tick.look).foldl (fun x (o, run) => (hook o run.workspace x).2) outside
  counted : t.summary = (made.filterMap Tick.look).foldl (fun sum (o, _) => sum.count o) sum

theorem ticks_ok {u : State π σ} (h : ticks actions depth hook count s = some (.ok (), u)) :
    Accounted hook count s.outside s.summary (history actions depth hook count s) u := by
  induction count generalizing s with
  | zero =>
    cases h
    exact ⟨rfl, List.forall_mem_nil _, rfl, rfl⟩
  | succ count ih =>
    rcases ticks_succ h with ⟨v, following, goes⟩ | ⟨f, -, failed, -⟩
    · obtain ⟨o, run, looked, summary, outside⟩ := look_of_behind following
      have rest := ih goes
      rw [history, following]
      refine ⟨?_, List.forall_mem_cons.mpr ⟨by rw [looked]; rfl, rest.all⟩, ?_, ?_⟩
      · rw [List.length_cons, Option.elim, rest.length]
      · rw [List.filterMap_cons, looked, List.foldl_cons, Option.elim, rest.called, outside]
        rfl
      · rw [List.filterMap_cons, looked, List.foldl_cons, Option.elim, rest.counted, summary]
        rfl
    · cases failed

theorem ticks_error {u : State π σ} {f : Failure} (h : ticks actions depth hook count s = some (.error f, u)) :
    ∃ last, (history actions depth hook count s).getLast? = some last ∧ last.ended = some (.error f, u.run) := by
  induction count generalizing s with
  | zero => cases h
  | succ count ih =>
    rcases ticks_succ h with ⟨v, following, goes⟩ | ⟨g, ends, failed, ended⟩
    · obtain ⟨last, there, ended⟩ := ih goes
      rw [history, following]
      refine ⟨last, ?_, ended⟩
      rw [List.getLast?_cons, Option.elim, there]
      rfl
    · cases failed
      rw [history, ends]
      exact ⟨_, rfl, ended⟩

theorem summary_foldl (looks : List (Outcome × Run.State π)) (sum : Summary) :
    (looks.foldl (fun sum (o, _) => sum.count o) sum).ticks = sum.ticks + looks.length ∧
      (looks.foldl (fun sum (o, _) => sum.count o) sum).completed +
        (looks.foldl (fun sum (o, _) => sum.count o) sum).failed + looks.countP (·.1 = .idle) =
      sum.completed + sum.failed + looks.length := by
  induction looks generalizing sum with
  | nil => simp
  | cons look looks ih =>
    obtain ⟨o, run⟩ := look
    obtain ⟨ticked, sorted⟩ := ih (sum.count o)
    rw [List.foldl_cons, List.countP_cons, List.length_cons]
    refine ⟨?_, ?_⟩
    · rw [ticked]
      cases o <;> simp only [Summary.count] <;> omega
    · cases o <;> simp [Summary.count] at sorted ⊢ <;> omega

theorem Accounted.sums {outside : σ} {made : List (Tick π σ)} {u : State π σ}
    (h : Accounted hook count outside {} made u) :
    u.summary.ticks = count ∧
      u.summary.completed + u.summary.failed + (made.filterMap Tick.look).countP (·.1 = .idle) = count := by
  have looks : (made.filterMap Tick.look).length = count := by
    rw [List.length_filterMap_eq_countP, List.countP_eq_length.mpr h.all, h.length]
  have sums := summary_foldl (made.filterMap Tick.look) {}
  rw [looks, ← h.counted] at sums
  simpa using sums

end

/-! ### Whole loops -/

def start (page : π) (w : Workspace) (outside : σ) : State π σ where
  run := { page, workspace := w }
  outside

/-- What holds of the ticks of a loop that begins in these files. -/
structure Disciplined (hook : Hook σ) (fs : Files) (made : List (Tick π σ)) : Prop where
  /-- A tick attempts a walk exactly if it finds the cursor marked running. -/
  armed : ∀ t ∈ made, t.attempts = isRunning t.before.run.workspace.files
  /-- There is one attempt at most for the start and one for each time that the hook leaves the cursor marked running. -/
  attempts : made.countP (·.attempts) ≤ (armsOnStart fs || isRunning fs).toNat + made.countP (·.rearms hook)
  /-- The hook finds the cursor idle whenever it is called, be it behind an attempt or not. -/
  found : ∀ t ∈ made, ∀ o run, t.look = some (o, run) → Rests run.workspace.files ∧ (t.attempts = true ↔ o ≠ .idle)
  /-- Without the hook's doing all ticks but the first are idle. -/
  unarmed : (∀ t ∈ made, t.rearms hook = false) → ∀ t ∈ made.tail, t.attempts = false ∧
    (∀ o run, t.look = some (o, run) → o = .idle) ∧
    (Rests t.before.run.workspace.files → ∃ run, t.look = some (.idle, run))

section

variable {actions : ActionTable π} {depth : Nat} {hook : Hook σ} {count : Nat} {s : State π σ}

theorem isRunning_of_begin {r t : Run.State π} (began : begin r = some (.ok (), t)) :
    (isRunning t.workspace.files).toNat ≤ (armsOnStart r.workspace.files || isRunning r.workspace.files).toNat := by
  unfold begin at began
  rw [bind_apply, Run.work_apply, loadSettings_reads.apply] at began
  unfold armsOnStart
  cases settled : loadSettings.answer r.workspace.files with
  | error f =>
    rw [settled] at began
    cases began
  | ok settings =>
    rw [settled] at began
    simp only at began ⊢
    cases arms : settings.armOnStart with
    | true => exact Bool.toNat_le _
    | false =>
      simp only [arms, Bool.false_eq_true, if_false] at began
      cases began
      rw [Bool.false_or, loadSettings_reads.files]

theorem disciplined_of_history {fs : Files}
    (first : (isRunning s.run.workspace.files).toNat ≤ (armsOnStart fs || isRunning fs).toNat) :
    Disciplined hook fs (history actions depth hook count s) := by
  have armed : ∀ t ∈ history actions depth hook count s, t.attempts = isRunning t.before.run.workspace.files := by
    intro t member
    rw [make_of_mem member]
    exact attempts_eq
  have found : ∀ t ∈ history actions depth hook count s, ∀ o run, t.look = some (o, run) →
      Rests run.workspace.files ∧ (t.attempts = true ↔ o ≠ .idle) := by
    intro t member o run looked
    rw [armed t member]
    rw [make_of_mem member] at looked
    exact rests_of_tick (ended_of_look looked)
  refine ⟨armed, ?_, found, fun calm t later => ?_⟩
  · have bound := attempts_le actions depth hook count s
    omega
  · have member := List.mem_of_mem_tail later
    -- what the tick finds, the hook has left behind an earlier one
    obtain ⟨u, earlier, called⟩ := behind_of_mem_tail later
    have idle : t.attempts = false := by
      have left := calm u earlier
      rw [Tick.rearms, called, Option.any_some] at left
      rw [armed t member, left]
    refine ⟨idle, fun o run looked => ?_, fun rests => ?_⟩
    · by_contra walked
      rw [(found t member o run looked).2.mpr walked] at idle
      cases idle
    · obtain ⟨run, ended⟩ := tick_of_rests actions depth rests
      refine ⟨run, ?_⟩
      rw [make_of_mem member, Tick.make, Tick.look, ended]

theorem Disciplined.nil (hook : Hook σ) (fs : Files) : Disciplined hook fs ([] : List (Tick π σ)) where
  armed := List.forall_mem_nil _
  attempts := Nat.zero_le _
  found := List.forall_mem_nil _
  unarmed _ := List.forall_mem_nil _

theorem disciplined_of_allTicks (actions : ActionTable π) (depth : Nat) (hook : Hook σ) (count : Nat) (s : State π σ) :
    Disciplined hook s.run.workspace.files (allTicks actions depth hook count s) := by
  unfold allTicks
  rcases began : begin s.run with _ | ⟨_ | _, r⟩
  · exact .nil hook _
  · exact .nil hook _
  · exact disciplined_of_history (isRunning_of_begin began)

theorem loop_cases {u : State π σ} {result : Except Failure Unit}
    (h : loop actions depth hook count s = some (result, u)) :
    (∃ f, result = .error f ∧ allTicks actions depth hook count s = []) ∨
      ∃ r, allTicks actions depth hook count s = history actions depth hook count { s with run := r } ∧
        ticks actions depth hook count { s with run := r } = some (result, u) := by
  unfold loop at h
  unfold allTicks
  rw [bind_apply] at h
  simp only [run, ExceptT.mk] at h
  rcases began : begin s.run with _ | ⟨f | _, r⟩
  · rw [began] at h
    cases h
  · rw [began] at h
    cases h
    exact .inl ⟨f, rfl, rfl⟩
  · rw [began] at h
    exact .inr ⟨r, rfl, h⟩

/-- In every loop each attempt to walk goes back to the start or to a call of the hook that has left the cursor
marked running. A loop that ends well has made all its ticks and has called the hook behind each of them; one that fails
behind its beginning has failed in its last tick. -/
theorem one_attempt_per_arming (actions : ActionTable π) (depth : Nat) (hook : Hook σ) (count : Nat) (page : π)
    (w : Workspace) (outside : σ) :
    Disciplined hook w.files (allTicks actions depth hook count (start page w outside)) ∧
      (∀ t, loop actions depth hook count (start page w outside) = some (.ok (), t) →
        Accounted hook count outside {} (allTicks actions depth hook count (start page w outside)) t ∧
          t.summary.ticks = count ∧
          t.summary.completed + t.summary.failed +
            ((allTicks actions depth hook count (start page w outside)).filterMap Tick.look).countP (·.1 = .idle) = count) ∧
      ∀ f t, loop actions depth hook count (start page w outside) = some (.error f, t) →
        allTicks actions depth hook count (start page w outside) = [] ∨
          ∃ last, (allTicks actions depth hook count (start page w outside)).getLast? = some last ∧
            last.ended = some (.error f, t.run) := by
  refine ⟨disciplined_of_allTicks actions depth hook count (start page w outside), fun t ended => ?_, fun f t failed => ?_⟩
  · rcases loop_cases ended with ⟨f, same, -⟩ | ⟨r, made, ticked⟩
    · cases same
    · have accounted := ticks_ok ticked
      rw [made]
      exact ⟨accounted, accounted.sums⟩
  · rcases loop_cases failed with ⟨_, -, nothing⟩ | ⟨r, made, ticked⟩
    · exact .inl nothing
    · rw [made]
      exact .inr (ticks_error ticked)

end

end Loop

end Wayfarer
