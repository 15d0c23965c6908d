import Wayfarer.Proofs.Run.Preparation
import Wayfarer.Proofs.Toml.Lines

/-!
# Settings in their file

Some of the settings, each on a line of its own, make the settings that have the given values and otherwise the
defaults. The text of settings gives all of them, so that settings that were written are loaded again.
-/

namespace Wayfarer

/-- One of the settings, with a value. -/
inductive Setting where
  | pollInterval (n : Nat)
  | settle (n : Nat)
  | armOnStart (b : Bool)
  | checkpoint (b : Bool)
  | persistPockets (b : Bool)
  deriving DecidableEq

namespace Setting

open Toml (Literal Line Lines BareKey Trail)

def key : Setting → String
  | pollInterval _ => "poll_interval_ms"
  | settle _ => "open_page_settle_ms"
  | armOnStart _ => "arm_on_start"
  | checkpoint _ => "checkpoint_spot"
  | persistPockets _ => "persist_pockets"

def value : Setting → Toml.Value
  | pollInterval n | settle n => .integer n
  | armOnStart b | checkpoint b | persistPockets b => .boolean b

/-- Numbers fit a word. -/
def Fits : Setting → Prop
  | pollInterval n | settle n => n < Text.wordBound
  | armOnStart _ | checkpoint _ | persistPockets _ => True

def put (s : Settings) : Setting → Settings
  | pollInterval n => { s with pollInterval := n }
  | settle n => { s with settle := n }
  | armOnStart b => { s with armOnStart := b }
  | checkpoint b => { s with checkpoint := b }
  | persistPockets b => { s with persistPockets := b }

/-- The settings that have these values, and otherwise the defaults. -/
def given (as : List Setting) : Settings :=
  as.foldl put {}

/-- The text consists of lines that give these values, in this order, and of lines that say nothing. -/
def Written (as : List Setting) (text : String) : Prop :=
  Lines (as.map fun a => (a.key, a.value)) text.toList

/-! ### Fields -/

/-- A field of the settings that is read under the key, and that no setting with another key changes. -/
structure Field (key : String) (read : Toml.Value → Option α) (get : Settings → α) : Prop where
  own : ∀ (s : Settings) {a : Setting}, a.Fits → a.key = key → read a.value = some (get (put s a))
  other : ∀ (s : Settings) {a : Setting}, a.key ≠ key → get (put s a) = get s

theorem millis_natCast {n : Nat} (fits : n < Text.wordBound) : Settings.millis (.integer n) = some n := by
  have small : (n : Int) < Text.wordBound := by exact_mod_cast fits
  simp [Settings.millis, small]

theorem field_pollInterval : Field "poll_interval_ms" Settings.millis (·.pollInterval) where
  own s a fits same := by
    cases a <;> simp [Setting.key] at same
    exact millis_natCast fits
  other s a apart := by
    cases a <;> first | rfl | exact absurd rfl apart

theorem field_settle : Field "open_page_settle_ms" Settings.millis (·.settle) where
  own s a fits same := by
    cases a <;> simp [Setting.key] at same
    exact millis_natCast fits
  other s a apart := by
    cases a <;> first | rfl | exact absurd rfl apart

theorem field_armOnStart : Field "arm_on_start" Settings.flag (·.armOnStart) where
  own s a _ same := by
    cases a <;> simp [Setting.key] at same
    rfl
  other s a apart := by
    cases a <;> first | rfl | exact absurd rfl apart

theorem field_checkpoint : Field "checkpoint_spot" Settings.flag (·.checkpoint) where
  own s a _ same := by
    cases a <;> simp [Setting.key] at same
    rfl
  other s a apart := by
    cases a <;> first | rfl | exact absurd rfl apart

theorem field_persistPockets : Field "persist_pockets" Settings.flag (·.persistPockets) where
  own s a _ same := by
    cases a <;> simp [Setting.key] at same
    rfl
  other s a apart := by
    cases a <;> first | rfl | exact absurd rfl apart

namespace Field

variable {key : String} {read : Toml.Value → Option α} {get : Settings → α} {as : List Setting}

theorem foldl_other (field : Field key read get) (apart : key ∉ as.map Setting.key) (s : Settings) :
    get (as.foldl put s) = get s := by
  induction as generalizing s with
  | nil => rfl
  | cons a as ih =>
    obtain ⟨here, rest⟩ := List.ne_and_not_mem_of_not_mem_cons apart
    rw [List.foldl_cons, ih rest, field.other s here.symm]

/-- A field that is given at most once is read as it is given, and otherwise as it is. -/
theorem entry (field : Field key read get) (fit : ∀ a ∈ as, a.Fits) (apart : (as.map Setting.key).Nodup) (s : Settings) :
    Settings.entry read (get s) key (as.map fun a => Toml.node (a.key, a.value)) = some (get (as.foldl put s)) := by
  induction as generalizing s with
  | nil => rfl
  | cons a as ih =>
    obtain ⟨fits, fit⟩ := List.forall_mem_cons.mp fit
    obtain ⟨once, apart⟩ := List.nodup_cons.mp apart
    by_cases same : a.key = key
    · rw [List.foldl_cons, field.foldl_other (same ▸ once), ← field.own s fits same]
      simp [Settings.entry, Toml.Entries.find?, Toml.node, same]
    · rw [List.foldl_cons, ← ih fit apart (put s a), field.other s same]
      simp [Settings.entry, Toml.Entries.find?, Toml.node, same]

theorem foldl_of_mem (field : Field key read get) (apart : (as.map Setting.key).Nodup) {a : Setting} (member : a ∈ as)
    (same : a.key = key) (s : Settings) : ∃ before, get (as.foldl put s) = get (put before a) := by
  obtain ⟨front, back, rfl⟩ := List.append_of_mem member
  rw [List.map_append, List.map_cons, same] at apart
  have once : key ∉ back.map Setting.key := (List.nodup_cons.mp (List.nodup_append.mp apart).2.1).1
  refine ⟨front.foldl put s, ?_⟩
  rw [List.foldl_append, List.foldl_cons, field.foldl_other once]

end Field

/-! ### Reading -/

theorem ofText?_written {as : List Setting} {text : String} (written : Written as text) (fit : ∀ a ∈ as, a.Fits)
    (apart : (as.map key).Nodup) : Settings.ofText? text = some (given as) := by
  have read : Toml.read? text = some (as.map fun a => Toml.node (a.key, a.value)) := by
    rw [Toml.read?_of_lines written (by simpa [Function.comp_def] using apart), List.map_map]
    rfl
  simp [Settings.ofText?, read, field_pollInterval.entry fit apart {}, field_settle.entry fit apart {},
    field_armOnStart.entry fit apart {}, field_checkpoint.entry fit apart {}, field_persistPockets.entry fit apart {},
    given]

theorem mem_of_pollInterval_eq_zero {as : List Setting} {s : Settings} (some : s.pollInterval ≠ 0)
    (none : (as.foldl put s).pollInterval = 0) : pollInterval 0 ∈ as := by
  induction as generalizing s with
  | nil => exact absurd none some
  | cons a as ih =>
    by_cases here : a = pollInterval 0
    · exact here ▸ List.mem_cons_self
    · refine List.mem_cons_of_mem a (ih (s := put s a) ?_ none)
      cases a
      case pollInterval n => exact fun zero => here (congrArg pollInterval zero)
      all_goals exact some

theorem pollInterval_eq_zero_iff {as : List Setting} (apart : (as.map key).Nodup) :
    (given as).pollInterval = 0 ↔ pollInterval 0 ∈ as := by
  constructor
  · exact mem_of_pollInterval_eq_zero (by decide)
  · intro member
    obtain ⟨before, same⟩ := field_pollInterval.foldl_of_mem apart member rfl {}
    exact same

/-! ### Writing -/

/-- The value as it is written. -/
def literal : Setting → String
  | pollInterval n | settle n => toString n
  | armOnStart b | checkpoint b | persistPockets b => toString b

def line (a : Setting) : String :=
  a.key ++ " = " ++ a.literal ++ "\n"

/-- All that the settings are, in the order of their text. -/
def all (s : Settings) : List Setting :=
  [pollInterval s.pollInterval, settle s.settle, armOnStart s.armOnStart, checkpoint s.checkpoint,
    persistPockets s.persistPockets]

theorem given_all (s : Settings) : given (all s) = s :=
  rfl

theorem literal_value {a : Setting} (fits : a.Fits) : Literal a.value a.literal.toList := by
  cases a
  case pollInterval | settle => exact .integer (fits.trans (by decide))
  all_goals exact .boolean _

theorem bareKey_key (a : Setting) : BareKey a.key.toList := by
  cases a <;> (rw [key]; exact ⟨by decide, List.all_eq_true.mp (by decide)⟩)

theorem line_reads {a : Setting} (fits : a.Fits) (rest : List Char) :
    Line [(a.key, a.value)] (a.line.toList ++ rest) rest := by
  have space : Toml.Gap [' '] := by decide
  have ends : Trail ('\n' :: rest) rest := .intro Toml.Gap.nil .none (.feed rest)
  have read := Line.entry Toml.Gap.nil (bareKey_key a) space space (literal_value fits) ends
  simpa [line] using read

theorem lines_read {as : List Setting} (fit : ∀ a ∈ as, a.Fits) {rest : List Char} (blank : Lines [] rest) :
    Lines (as.map fun a => (a.key, a.value)) (as.flatMap (·.line.toList) ++ rest) := by
  induction as with
  | nil => exact blank
  | cons a as ih =>
    obtain ⟨fits, fit⟩ := List.forall_mem_cons.mp fit
    rw [List.flatMap_cons, List.append_assoc]
    exact .cons (line_reads fits _) (ih fit)

theorem text_eq (s : Settings) :
    s.text = line (pollInterval s.pollInterval) ++ line (settle s.settle) ++ line (armOnStart s.armOnStart) ++
      line (checkpoint s.checkpoint) ++ line (persistPockets s.persistPockets) ++ "\n" :=
  rfl

theorem written_text {s : Settings} (fit : ∀ a ∈ all s, a.Fits) : Written (all s) s.text := by
  have blank : Lines [] ['\n'] := .cons (.blank (.intro Toml.Gap.nil .none (.feed []))) .nil
  have text : s.text.toList = (all s).flatMap (·.line.toList) ++ ['\n'] := by
    rw [text_eq]
    simp [all]
  rw [Written, text]
  exact lines_read fit blank

end Setting

namespace Workspace

open Setting (given Written)

theorem loadSettings_of_text {w : Workspace} {text : String} {s : Settings}
    (found : w.files.readText settingsPath = .ok text) (read : Settings.ofText? text = some s) :
    (loadSettings w).1 = s.check.map fun _ => s := by
  have there : w.files.isThere settingsPath = true := by
    rw [Files.isThere]
    rw [Files.readText] at found
    cases located : w.files.locate settingsPath with
    | ok e => rfl
    | error fault => rw [located] at found; cases found
  simp only [loadSettings, Work.bind_apply, Work.during_apply, Work.readText, Work.look, Work.ofExcept, ExceptT.mk, there,
    Bool.not_true, Bool.false_eq_true, if_false, found, read, Except.mapError]
  cases s.check <;> rfl

theorem writeSettings_ok_iff (s : Settings) (w : Workspace) :
    (writeSettings s w).1 = .ok () ↔ 0 < s.pollInterval ∧ w.files.Replaceable settingsPath := by
  have replaces : (Work.replace settingsPath s.text w).1 = .ok () ↔ w.files.Replaceable settingsPath :=
    (Work.replace_ok_iff s.text w).trans Files.replaceable_iff.symm
  rw [writeSettings, Work.bind_apply, Work.ofExcept, Settings.check]
  by_cases zero : s.pollInterval = 0
  · simp [zero, ExceptT.mk]
  · simp only [beq_iff_eq, zero, if_false, ExceptT.mk, replaces]
    exact (and_iff_right (Nat.pos_of_ne_zero zero)).symm

theorem readText_writeSettings {s : Settings} {w : Workspace} (done : (writeSettings s w).1 = .ok ()) :
    (writeSettings s w).2.files.readText settingsPath = .ok s.text ∧ s.check = .ok () := by
  obtain ⟨positive, -⟩ := (writeSettings_ok_iff s w).mp done
  have checked : s.check = .ok () := if_neg (by simp only [beq_iff_eq]; omega)
  rw [writeSettings, Work.bind_apply, Work.ofExcept, checked] at done ⊢
  obtain ⟨replaced, -⟩ := Work.replaced_of_ok (Prod.ext done rfl)
  exact ⟨replaced.readText, rfl⟩

/-- Settings can be written if the interval is some and nothing stands in the way of their file, and then they are
loaded as they are. A file in which each setting is given at most once, in whatever order and layout, is loaded as
the given values with the defaults of the others, unless no interval is given. -/
theorem settings_read_back :
    (∀ (s : Settings) (w : Workspace), s.pollInterval < Text.wordBound → s.settle < Text.wordBound →
      ((writeSettings s w).1 = .ok () ↔ 0 < s.pollInterval ∧ w.files.Replaceable settingsPath) ∧
      ((writeSettings s w).1 = .ok () → (loadSettings (writeSettings s w).2).1 = .ok s)) ∧
    ∀ (as : List Setting) (text : String) (w : Workspace), (as.map Setting.key).Nodup → (∀ a ∈ as, a.Fits) →
      Written as text → w.files.readText settingsPath = .ok text →
        (loadSettings w).1 = if .pollInterval 0 ∈ as then .error ⟨.noInterval, []⟩ else .ok (given as) := by
  refine ⟨fun s w interval settle => ⟨writeSettings_ok_iff s w, fun done => ?_⟩, ?_⟩
  · obtain ⟨found, checked⟩ := readText_writeSettings done
    have fit : ∀ a ∈ Setting.all s, a.Fits := by simp [Setting.all, Setting.Fits, interval, settle]
    have apart : ((Setting.all s).map Setting.key).Nodup := by simp [Setting.all, Setting.key]
    rw [loadSettings_of_text found (Setting.ofText?_written (Setting.written_text fit) fit apart), Setting.given_all,
      checked]
    rfl
  · intro as text w apart fit written found
    rw [loadSettings_of_text found (Setting.ofText?_written written fit apart), Settings.check]
    simp only [beq_iff_eq, Setting.pollInterval_eq_zero_iff apart]
    split <;> rfl

/-- Two of the settings, with a comment, an empty line and no end of the last line. -/
def crowdedText : String :=
  "persist_pockets=true # keep\r\n\n\tpoll_interval_ms = 18446744073709551615"

def crowdedFiles : Files where
  entries := [(dataDirectory, .directory), (settingsPath, .file (.text crowdedText))]

theorem crowded_written : Written [.persistPockets true, .pollInterval 18446744073709551615] crowdedText := by
  have keep : ∀ rest, Toml.Line [("persist_pockets", .boolean true)] ([] ++ ("persist_pockets".toList ++ ([] ++
      '=' :: ([] ++ ((toString true).toList ++ ([' '] ++ (('#' :: " keep".toList) ++ (['\r', '\n'] ++ rest)))))))) rest :=
    fun rest => .entry Toml.Gap.nil (Setting.bareKey_key (.persistPockets true)) Toml.Gap.nil Toml.Gap.nil (.boolean true)
      (.intro (by decide) (.some (List.all_eq_true.mp (by decide))) (.both rest))
  have nothing : ∀ rest, Toml.Line [] ([] ++ ([] ++ (['\n'] ++ rest))) rest :=
    fun rest => .blank (.intro Toml.Gap.nil .none (.feed rest))
  have poll : Toml.Line [("poll_interval_ms", .integer (18446744073709551615 : Nat))] (['\t'] ++ ("poll_interval_ms".toList ++
      ([' '] ++ '=' :: ([' '] ++ ((toString 18446744073709551615).toList ++ ([] ++ ([] ++ ([] ++ [])))))))) [] :=
    .entry (by decide) (Setting.bareKey_key (.pollInterval 0)) (by decide) (by decide) (.integer (by decide))
      (.intro Toml.Gap.nil .none .last)
  exact .cons (keep _) (.cons (nothing _) (.cons poll .nil))

theorem settings_read_back_crowded : (loadSettings { files := crowdedFiles }).1 =
    .ok { pollInterval := 18446744073709551615, persistPockets := true } := by
  have fit : ∀ a ∈ [Setting.persistPockets true, .pollInterval 18446744073709551615], a.Fits := by
    simp [Setting.Fits, Text.wordBound]
  exact (settings_read_back.2 _ crowdedText { files := crowdedFiles } (by decide) fit crowded_written (by decide)).trans
    (by decide)

end Workspace

end Wayfarer
