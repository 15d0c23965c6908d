import Mathlib.Data.List.Infix
import Wayfarer.Files

/-!
# What operations do at each path

A tree of files is seen through `find?`. Walking along a path, making directories, writing and
renaming are described by what stands at every path afterwards.
-/

namespace Wayfarer

namespace Path

theorem withEnding_concat (ending : String) (dir : Path) (name : String) :
    withEnding ending (dir ++ [name]) = dir ++ [name ++ ending] := by
  induction dir with
  | nil => rfl
  | cons first rest ih =>
    cases rest with
    | nil => rfl
    | cons second rest => simpa [withEnding] using ih

end Path

namespace Files

@[simp] theorem find?_nil (fs : Files) : fs.find? [] = some .directory := rfl

/-- Only directories lead to the end of a path. -/
theorem locateFrom_eq_ok {fs : Files} {here rest : Path} {e : FileEntry} :
    fs.locateFrom here rest = .ok e ↔
      (∀ q, q <+: rest → q ≠ rest → fs.find? (here ++ q) = some .directory) ∧
        fs.find? (here ++ rest) = some e := by
  induction rest generalizing here with
  | nil =>
    simp only [locateFrom, List.append_nil, List.prefix_nil]
    cases fs.find? here <;> simp +contextual
  | cons name rest ih =>
    simp only [locateFrom]
    constructor
    · intro h
      split at h
      · rename_i directory
        obtain ⟨parents, found⟩ := ih.mp h
        refine ⟨fun q isPrefix different => ?_, by simpa using found⟩
        cases q with
        | nil => simpa using directory
        | cons first q =>
          obtain ⟨rfl, below⟩ := List.cons_prefix_cons.mp isPrefix
          simpa using parents q below (fun same => different (by rw [same]))
      · cases h
      · cases h
    · rintro ⟨parents, found⟩
      have directory := parents [] (List.nil_prefix) (by simp)
      rw [List.append_nil] at directory
      rw [directory]
      refine ih.mpr ⟨fun q below different => ?_, by simpa using found⟩
      simpa using parents (name :: q) (List.cons_prefix_cons.mpr ⟨rfl, below⟩) (by simpa using different)

theorem locate_eq_ok {fs : Files} {p : Path} {e : FileEntry} :
    fs.locate p = .ok e ↔
      (∀ q, q <+: p → q ≠ p → fs.find? q = some .directory) ∧ fs.find? p = some e := by
  exact locateFrom_eq_ok

theorem locateFrom_congr {fs gs : Files} {here rest : Path}
    (same : ∀ q, q <+: rest → gs.find? (here ++ q) = fs.find? (here ++ q)) :
    gs.locateFrom here rest = fs.locateFrom here rest := by
  induction rest generalizing here with
  | nil =>
    have found := same [] List.nil_prefix
    rw [List.append_nil] at found
    simp only [locateFrom, found]
  | cons name rest ih =>
    have found := same [] List.nil_prefix
    rw [List.append_nil] at found
    have below : gs.locateFrom (here ++ [name]) rest = fs.locateFrom (here ++ [name]) rest := by
      refine ih fun q above => ?_
      simpa using same (name :: q) (List.cons_prefix_cons.mpr ⟨rfl, above⟩)
    simp only [locateFrom, found, below]

theorem locate_congr {fs gs : Files} {p : Path} (same : ∀ q, q <+: p → gs.find? q = fs.find? q) :
    gs.locate p = fs.locate p :=
  locateFrom_congr same

/-- Directories stand at a path and everywhere above it. -/
def Open (fs : Files) (dir : Path) : Prop :=
  ∀ q, q <+: dir → fs.find? q = some .directory

theorem locate_of_open {fs : Files} {dir : Path} (h : fs.Open dir) : fs.locate dir = .ok .directory :=
  locate_eq_ok.mpr ⟨fun q above _ => h q above, h dir (List.prefix_refl dir)⟩

theorem not_concat_prefix {dir : Path} {name : String} : ¬ dir ++ [name] <+: dir := by
  intro above
  have short := above.length_le
  rw [List.length_append, List.length_singleton] at short
  omega

theorem prefix_concat_of_ne {q dir : Path} {name : String} (above : q <+: dir ++ [name])
    (different : q ≠ dir ++ [name]) : q <+: dir := by
  rcases List.prefix_concat_iff.mp above with same | below
  · exact absurd (by simpa using same) different
  · exact below

/-- In an open directory a name is located exactly if something stands there. -/
theorem locate_concat {fs : Files} {dir : Path} {name : String} {e : FileEntry} (h : fs.Open dir) :
    fs.locate (dir ++ [name]) = .ok e ↔ fs.find? (dir ++ [name]) = some e := by
  rw [locate_eq_ok]
  exact and_iff_right fun q above different => h q (prefix_concat_of_ne above different)

theorem locate_concat_congr {fs gs : Files} {dir : Path} {name : String} (opened : fs.Open dir) (also : gs.Open dir)
    (same : gs.find? (dir ++ [name]) = fs.find? (dir ++ [name])) : gs.locate (dir ++ [name]) = fs.locate (dir ++ [name]) := by
  refine locate_congr fun q above => ?_
  by_cases target : q = dir ++ [name]
  · rw [target, same]
  · have inside := prefix_concat_of_ne above target
    rw [opened q inside, also q inside]

theorem open_of_locate {fs : Files} {dir : Path} {name : String} {e : FileEntry}
    (h : fs.locate (dir ++ [name]) = .ok e) : fs.Open dir := by
  intro q above
  refine (locate_eq_ok.mp h).1 q (above.trans (List.prefix_append dir [name])) ?_
  rintro rfl
  exact not_concat_prefix above

theorem find?_set_other {fs : Files} {p q : Path} {e : FileEntry} (proper : p ≠ []) (different : q ≠ p) :
    (fs.set p e).find? q = fs.find? q := by
  rw [find?_set _ _ _ proper, if_neg different]

theorem Open.set {fs : Files} {dir : Path} {name : String} {e : FileEntry} (h : fs.Open dir) :
    (fs.set (dir ++ [name]) e).Open dir := by
  intro q above
  rw [find?_set_other (by simp), h q above]
  rintro rfl
  exact not_concat_prefix above

theorem readText_concat {fs : Files} {dir : Path} {name text : String} (h : fs.Open dir)
    (found : fs.find? (dir ++ [name]) = some (.file (.text text))) : fs.readText (dir ++ [name]) = .ok text := by
  rw [readText, (locate_concat h).mpr found]

/-! ### Making directories -/

theorem find?_makeFrom {fs made : Files} {here rest : Path} (h : fs.makeFrom here rest = .ok made)
    (q : Path) :
    made.find? q = if q <+: here ++ rest ∧ ¬ q <+: here then some .directory else fs.find? q := by
  induction rest generalizing fs here with
  | nil =>
    simp only [makeFrom, Except.ok.injEq] at h
    subst h
    rw [List.append_nil, if_neg (fun both => both.2 both.1)]
  | cons name rest ih =>
    have split : (q <+: here ++ name :: rest ∧ ¬ q <+: here) ↔
        q = here ++ [name] ∨ (q <+: here ++ [name] ++ rest ∧ ¬ q <+: here ++ [name]) := by
      have next : here ++ name :: rest = here ++ [name] ++ rest := by simp
      rw [next, List.prefix_concat_iff]
      constructor
      · rintro ⟨above, outside⟩
        by_cases same : q = here ++ [name]
        · exact .inl same
        · exact .inr ⟨above, fun either => either.elim same outside⟩
      · rintro (rfl | ⟨above, outside⟩)
        · exact ⟨List.prefix_append _ rest, not_concat_prefix⟩
        · exact ⟨above, fun inside => outside (.inr inside)⟩
    simp only [makeFrom] at h
    split at h
    · rename_i directory
      rw [ih h]
      by_cases next : q = here ++ [name]
      · rw [if_pos (split.mpr (.inl next)), next, directory, ite_self]
      · simp only [split, next, false_or]
    · cases h
    · rw [ih h, find?_set fs q _ (by simp)]
      by_cases next : q = here ++ [name]
      · rw [if_pos (split.mpr (.inl next)), if_pos next, ite_self]
      · simp only [split, next, false_or, if_false]

theorem find?_makeDirectories {fs made : Files} {p : Path} (h : fs.makeDirectories p = .ok made)
    (q : Path) : made.find? q = if q <+: p then some .directory else fs.find? q := by
  rw [find?_makeFrom h, List.nil_append]
  by_cases root : q = []
  · simp [root]
  · simp [root, List.prefix_nil]

theorem open_of_makeDirectories {fs made : Files} {dir : Path} (h : fs.makeDirectories dir = .ok made) : made.Open dir :=
  fun q above => by rw [find?_makeDirectories h, if_pos above]

theorem find?_concat_of_makeDirectories {fs made : Files} {dir : Path} (h : fs.makeDirectories dir = .ok made)
    (name : String) : made.find? (dir ++ [name]) = fs.find? (dir ++ [name]) := by
  rw [find?_makeDirectories h, if_neg not_concat_prefix]

theorem makeFrom_of_open {fs : Files} {here rest : Path} (h : ∀ r, r <+: rest → fs.find? (here ++ r) = some .directory) :
    fs.makeFrom here rest = .ok fs := by
  induction rest generalizing here with
  | nil => rfl
  | cons name rest ih =>
    have next := h [name] (List.cons_prefix_cons.mpr ⟨rfl, List.nil_prefix⟩)
    simp only [makeFrom, next]
    exact ih fun r above => by simpa using h (name :: r) (List.cons_prefix_cons.mpr ⟨rfl, above⟩)

theorem makeDirectories_of_open {fs : Files} {dir : Path} (h : fs.Open dir) : fs.makeDirectories dir = .ok fs :=
  makeFrom_of_open fun r above => h r above

theorem makeFrom_isOk {fs : Files} {here rest : Path}
    (free : ∀ r, r <+: rest → ∀ content, fs.find? (here ++ r) ≠ some (.file content)) :
    ∃ made, fs.makeFrom here rest = .ok made := by
  induction rest generalizing fs here with
  | nil => exact ⟨fs, rfl⟩
  | cons name rest ih =>
    have below : ∀ r, r <+: rest → ∀ content, fs.find? (here ++ [name] ++ r) ≠ some (.file content) := by
      intro r isPrefix content
      simpa using free (name :: r) (List.cons_prefix_cons.mpr ⟨rfl, isPrefix⟩) content
    simp only [makeFrom]
    split
    · exact ih below
    · rename_i content found
      exact absurd found (by simpa using below [] List.nil_prefix content)
    · refine ih fun r isPrefix content => ?_
      rw [find?_set fs _ _ (by simp)]
      split
      · simp
      · exact below r isPrefix content

theorem not_file_of_makeFrom {fs made : Files} {here rest : Path} (h : fs.makeFrom here rest = .ok made)
    (start : ∀ content, fs.find? here ≠ some (.file content)) :
    ∀ r, r <+: rest → ∀ content, fs.find? (here ++ r) ≠ some (.file content) := by
  induction rest generalizing fs here with
  | nil =>
    intro r isPrefix
    rw [List.prefix_nil.mp isPrefix, List.append_nil]
    exact start
  | cons name rest ih =>
    intro r isPrefix content
    cases r with
    | nil => simpa using start content
    | cons first r =>
      obtain ⟨rfl, below⟩ := List.cons_prefix_cons.mp isPrefix
      rw [List.append_cons]
      simp only [makeFrom] at h
      split at h
      · rename_i directory
        exact ih h (by simp [directory]) r below content
      · cases h
      · rename_i absent
        have later := ih h (by simp [find?_set]) r below content
        rw [find?_set _ _ _ (by simp)] at later
        by_cases same : here ++ [first] ++ r = here ++ [first]
        · simp [same, absent]
        · rwa [if_neg same] at later

/-- Directories can be made exactly if no file stands in the way. -/
theorem makeDirectories_isOk {fs : Files} {p : Path} :
    (∃ made, fs.makeDirectories p = .ok made) ↔
      ∀ q, q <+: p → ∀ content, fs.find? q ≠ some (.file content) := by
  constructor
  · rintro ⟨made, h⟩
    exact not_file_of_makeFrom h (by simp)
  · intro free
    exact makeFrom_isOk (by simpa using free)

/-! ### Writing and renaming -/

theorem write_eq_set {fs written : Files} {p : Path} {content : Content}
    (h : fs.write p content = .ok written) :
    fs.locate p ≠ .ok .directory ∧ written = fs.set p (.file content) := by
  unfold write at h
  split at h
  · cases h
  · rename_i located
    exact ⟨by simp [located], (Except.ok.inj h).symm⟩
  · rename_i located
    split at h
    · exact ⟨by simp [located], (Except.ok.inj h).symm⟩
    · cases h
    · cases h

/-- Into an open directory a file can be written under every name that is no directory. -/
theorem write_concat {fs : Files} {dir : Path} (name : String) (content : Content) (h : fs.Open dir)
    (free : fs.find? (dir ++ [name]) ≠ some .directory) :
    fs.write (dir ++ [name]) content = .ok (fs.set (dir ++ [name]) (.file content)) := by
  unfold write
  split
  · rename_i located
    exact absurd ((locate_concat h).mp located) free
  · rfl
  · rw [List.dropLast_concat, locate_of_open h]

theorem open_of_write {fs written : Files} {dir : Path} {name : String} {content : Content}
    (h : fs.write (dir ++ [name]) content = .ok written) : fs.Open dir ∧ fs.find? (dir ++ [name]) ≠ some .directory := by
  obtain ⟨free, -⟩ := write_eq_set h
  have opened : fs.Open dir := by
    unfold write at h
    split at h
    · cases h
    · rename_i located
      exact open_of_locate located
    · split at h
      · rename_i parent
        rw [List.dropLast_concat] at parent
        obtain ⟨above, here⟩ := locate_eq_ok.mp parent
        intro q inside
        by_cases same : q = dir
        · rw [same, here]
        · exact above q inside same
      · cases h
      · cases h
  exact ⟨opened, fun there => free ((locate_concat opened).mpr there)⟩

theorem rename_eq_set {fs renamed : Files} {source target : Path}
    (h : fs.rename source target = .ok renamed) :
    fs.locate target ≠ .ok .directory ∧ ∃ content, fs.locate source = .ok (.file content) ∧
      renamed = (fs.erase source).set target (.file content) := by
  unfold rename at h
  split at h
  · cases h
  · cases h
  · cases h
  · rename_i content located unoccupied
    split at h
    · exact ⟨unoccupied, content, located, (Except.ok.inj h).symm⟩
    · cases h
    · cases h

theorem rename_concat {fs : Files} {dir : Path} (source target : String) {content : Content}
    (h : fs.Open dir) (found : fs.find? (dir ++ [source]) = some (.file content))
    (free : fs.find? (dir ++ [target]) ≠ some .directory) :
    fs.rename (dir ++ [source]) (dir ++ [target]) =
      .ok ((fs.erase (dir ++ [source])).set (dir ++ [target]) (.file content)) := by
  have located := (locate_concat h).mpr found
  have unoccupied : fs.locate (dir ++ [target]) = .ok .directory → False :=
    fun there => free ((locate_concat h).mp there)
  unfold rename
  simp only [located, List.dropLast_concat, locate_of_open h]

end Files

end Wayfarer
