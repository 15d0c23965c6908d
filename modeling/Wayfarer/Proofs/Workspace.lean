import Wayfarer.Proofs.Files
import Wayfarer.Proofs.Partial
import Wayfarer.Workspace

/-!
# Work on files

Binding and naming of undertakings, and what replacing a file leaves behind: either the file holds
the new text, or it is what it was.
-/

namespace Wayfarer

namespace Work

theorem bind_apply (x : Work α) (f : α → Work β) (w : Workspace) :
    (x >>= f) w = match x w with
      | (.ok a, u) => f a u
      | (.error e, u) => (.error e, u) := by
  rw [total_bind_apply]
  cases x w with
  | mk result u => cases result <;> rfl

theorem during_apply (u : Undertaking) (work : Work α) (w : Workspace) :
    work.during u w = ((work w).1.mapError (·.within u), (work w).2) := by
  change (match work w with | (.ok a, w) => _ | (.error f, w) => _) = _
  cases work w with
  | mk result v => cases result <;> rfl

/-! ### Work that only looks -/

/-- What the work answers with these files. -/
def answer (x : Work α) (fs : Files) : Except Failure α :=
  (x { files := fs }).1

theorem answer_during (u : Undertaking) (x : Work α) (fs : Files) :
    (x.during u).answer fs = (x.answer fs).mapError (·.within u) := by
  rw [answer, during_apply]
  rfl

/-- The work changes no file, and its answer depends on the files alone. -/
def Reads (x : Work α) : Prop :=
  ∀ w, ∃ journal, x w = (x.answer w.files, { w with journal })

theorem Reads.apply {x : Work α} (reads : Reads x) (w : Workspace) : x w = (x.answer w.files, (x w).2) := by
  obtain ⟨journal, looked⟩ := reads w
  rw [looked]

theorem Reads.files {x : Work α} (reads : Reads x) (w : Workspace) : (x w).2.files = w.files := by
  obtain ⟨journal, looked⟩ := reads w
  rw [looked]

theorem reads_pure (a : α) : Reads (pure a) := fun w => ⟨w.journal, rfl⟩

theorem reads_throw (f : Failure) : Reads (throw f : Work α) := fun w => ⟨w.journal, rfl⟩

theorem reads_note (e : Event) : Reads (note e) := fun w => ⟨(w.note e).journal, rfl⟩

theorem reads_look (question : Files → α) : Reads (look question) := fun w => ⟨w.journal, rfl⟩

theorem reads_ofExcept (result : Except Failure α) : Reads (ofExcept result) := fun w => ⟨w.journal, rfl⟩

theorem answer_bind {x : Work α} (reads : Reads x) {f : α → Work β} (also : ∀ a, Reads (f a)) (fs : Files) :
    (x >>= f).answer fs = x.answer fs >>= fun a => (f a).answer fs := by
  obtain ⟨journal, looked⟩ := reads { files := fs }
  rw [answer, bind_apply, looked]
  cases x.answer fs with
  | error e => rfl
  | ok a =>
    obtain ⟨later, followed⟩ := also a { files := fs, journal }
    simp only [followed]
    rfl

theorem answer_bind_eq_ok {x : Work α} (reads : Reads x) {f : α → Work β} (also : ∀ a, Reads (f a)) {fs : Files} {b : β} :
    (x >>= f).answer fs = .ok b ↔ ∃ a, x.answer fs = .ok a ∧ (f a).answer fs = .ok b := by
  rw [answer_bind reads also, bind_eq_ok]

theorem Reads.bind {x : Work α} (reads : Reads x) {f : α → Work β} (also : ∀ a, Reads (f a)) : Reads (x >>= f) := by
  intro w
  obtain ⟨journal, looked⟩ := reads w
  rw [answer_bind reads also, bind_apply, looked]
  cases x.answer w.files with
  | error e => exact ⟨journal, rfl⟩
  | ok a =>
    obtain ⟨later, followed⟩ := also a { w with journal }
    exact ⟨later, followed⟩

theorem Reads.during {x : Work α} (reads : Reads x) (u : Undertaking) : Reads (x.during u) := by
  intro w
  obtain ⟨journal, looked⟩ := reads w
  exact ⟨journal, by rw [answer, during_apply, during_apply, looked]; rfl⟩

theorem reads_readText (p : Path) : Reads (readText p) :=
  (reads_look _).bind fun _ => reads_ofExcept _

theorem reads_decode (value : Json → Json.Decode α) (text : String) : Reads (decode value text) :=
  reads_ofExcept _

/-! ### Replacing a file -/

/-- The three changes of a replacement, one after the other. -/
theorem replace_concat (dir : Path) (name text : String) (w : Workspace) :
    replace (dir ++ [name]) text w =
      match w.files.makeDirectories dir with
      | .error fault => (.error ((Failure.ofSystem fault).within (.creatingDirectory dir)), w)
      | .ok made =>
        match made.write (dir ++ [name ++ ".tmp"]) (.text text) with
        | .error fault =>
          (.error ((Failure.ofSystem fault).within (.writingTemporary (dir ++ [name ++ ".tmp"]))),
            { w with files := made })
        | .ok written =>
          match written.rename (dir ++ [name ++ ".tmp"]) (dir ++ [name]) with
          | .error fault =>
            (.error ((Failure.ofSystem fault).within (.replacing (dir ++ [name]))),
              { w with files := written })
          | .ok renamed => (.ok (), { w with files := renamed }) := by
  simp only [replace, List.dropLast_concat, Path.withEnding_concat, bind_apply, during_apply, change,
    ExceptT.mk]
  cases w.files.makeDirectories dir with
  | error fault => rfl
  | ok made =>
    simp only [Except.mapError]
    cases made.write (dir ++ [name ++ ".tmp"]) (.text text) with
    | error fault => rfl
    | ok written =>
      simp only
      cases written.rename (dir ++ [name ++ ".tmp"]) (dir ++ [name]) <;> rfl

theorem sibling_ne (dir : Path) (name : String) : dir ++ [name] ≠ dir ++ [name ++ ".tmp"] := by
  intro same
  have names := congrArg String.length (List.singleton_inj.mp (List.append_cancel_left same))
  rw [String.length_append, show ".tmp".length = 4 from rfl] at names
  omega

/-- What stands in the tree behind a replacement. -/
structure Replaced (dir : Path) (name text : String) (before after : Files) : Prop where
  target : after.find? (dir ++ [name]) = some (.file (.text text))
  sibling : after.find? (dir ++ [name ++ ".tmp"]) = none
  parents : after.Open dir
  others : ∀ q, q ≠ dir ++ [name] → q ≠ dir ++ [name ++ ".tmp"] → ¬ q <+: dir →
    after.find? q = before.find? q

theorem Replaced.readText {dir : Path} {name text : String} {before after : Files}
    (h : Replaced dir name text before after) : after.readText (dir ++ [name]) = .ok text :=
  Files.readText_concat h.parents h.target

/-- What stands in the tree behind a replacement that failed: only the sibling file may have changed
and directories may have been made. -/
def Untouched (dir : Path) (name : String) (before after : Files) : Prop :=
  ∀ q, q ≠ dir ++ [name ++ ".tmp"] →
    after.find? q = before.find? q ∨ q <+: dir ∧ after.find? q = some .directory

theorem replaced_of_ok {dir : Path} {name text : String} {w after : Workspace}
    (h : replace (dir ++ [name]) text w = (.ok (), after)) :
    Replaced dir name text w.files after.files ∧ after.journal = w.journal := by
  rw [replace_concat] at h
  split at h
  · cases h
  · rename_i made makes
    split at h
    · cases h
    · rename_i written writes
      split at h
      · cases h
      · rename_i renamed renames
        cases h
        obtain ⟨-, rfl⟩ := Files.write_eq_set writes
        obtain ⟨-, content, located, rfl⟩ := Files.rename_eq_set renames
        have nonempty : ∀ name : String, dir ++ [name] ≠ [] := by simp
        have different := sibling_ne dir name
        have stored : content = .text text := by
          have found := (Files.locate_eq_ok.mp located).2
          rw [Files.find?_set _ _ _ (nonempty _), if_pos rfl] at found
          cases found
          rfl
        have seen : ∀ q, ((((made.set (dir ++ [name ++ ".tmp"]) (.file (.text text))).erase
              (dir ++ [name ++ ".tmp"])).set (dir ++ [name]) (.file content))).find? q =
            if q = dir ++ [name] then some (.file (.text text))
            else if q = dir ++ [name ++ ".tmp"] then none
            else made.find? q := by
          intro q
          rw [Files.find?_set _ _ _ (nonempty _), Files.find?_erase _ _ (nonempty _),
            Files.find?_set _ _ _ (nonempty _), stored]
          split_ifs <;> rfl
        refine ⟨⟨?_, ?_, ?_, ?_⟩, rfl⟩
        · rw [seen, if_pos rfl]
        · rw [seen, if_neg different.symm, if_pos rfl]
        · intro q above
          have apart : ∀ name : String, q ≠ dir ++ [name] := by
            rintro name rfl
            exact Files.not_concat_prefix above
          rw [seen, if_neg (apart _), if_neg (apart _), Files.find?_makeDirectories makes, if_pos above]
        · intro q notTarget notSibling outside
          rw [seen, if_neg notTarget, if_neg notSibling, Files.find?_makeDirectories makes, if_neg outside]

theorem untouched_of_error {dir : Path} {name text : String} {w after : Workspace} {f : Failure}
    (h : replace (dir ++ [name]) text w = (.error f, after)) :
    Untouched dir name w.files after.files ∧ after.journal = w.journal := by
  have making : ∀ {made : Files}, w.files.makeDirectories dir = .ok made →
      ∀ q, made.find? q = w.files.find? q ∨ q <+: dir ∧ made.find? q = some .directory := by
    intro made makes q
    rw [Files.find?_makeDirectories makes]
    by_cases above : q <+: dir
    · exact .inr ⟨above, if_pos above⟩
    · exact .inl (if_neg above)
  rw [replace_concat] at h
  split at h
  · cases h
    exact ⟨fun q _ => .inl rfl, rfl⟩
  · rename_i made makes
    split at h
    · cases h
      exact ⟨fun q _ => making makes q, rfl⟩
    · rename_i written writes
      split at h
      · cases h
        obtain ⟨-, rfl⟩ := Files.write_eq_set writes
        refine ⟨fun q other => ?_, rfl⟩
        rw [Files.find?_set _ _ _ (by simp), if_neg other]
        exact making makes q
      · cases h

end Work

namespace Files

/-- A file can be replaced at the path, whatever text it is to hold. -/
def Replaceable (p : Path) (fs : Files) : Prop :=
  ∀ text, (Work.replace p text { files := fs }).1 = .ok ()

/-- Nothing stands in the way of a replacement. -/
structure Clear (dir : Path) (name : String) (fs : Files) : Prop where
  parents : ∀ q, q <+: dir → ∀ content, fs.find? q ≠ some (.file content)
  target : fs.find? (dir ++ [name]) ≠ some .directory
  sibling : fs.find? (dir ++ [name ++ ".tmp"]) ≠ some .directory

end Files

open Files in
theorem Work.replace_of_clear {dir : Path} {name : String} (text : String) (w : Workspace)
    (h : Clear dir name w.files) : ∃ after, replace (dir ++ [name]) text w = (.ok (), after) := by
  obtain ⟨made, makes⟩ := makeDirectories_isOk.mpr h.parents
  have opened := open_of_makeDirectories makes
  have apart := find?_concat_of_makeDirectories makes
  have writes := write_concat (name ++ ".tmp") (.text text) opened (by rw [apart]; exact h.sibling)
  have stillOpen : (made.set (dir ++ [name ++ ".tmp"]) (.file (.text text))).Open dir := opened.set
  have written : (made.set (dir ++ [name ++ ".tmp"]) (.file (.text text))).find? (dir ++ [name ++ ".tmp"]) =
      some (.file (.text text)) := by
    rw [find?_set _ _ _ (by simp), if_pos rfl]
  have renames := rename_concat (name ++ ".tmp") name stillOpen written
    (by rw [find?_set _ _ _ (by simp), if_neg (sibling_ne dir name), apart]; exact h.target)
  rw [replace_concat]
  simp only [makes, writes, renames]
  exact ⟨_, rfl⟩

open Files in
theorem Work.clear_of_replace {dir : Path} {name text : String} {w after : Workspace}
    (h : replace (dir ++ [name]) text w = (.ok (), after)) : Clear dir name w.files := by
  rw [replace_concat] at h
  split at h
  · cases h
  · rename_i made makes
    have opened := open_of_makeDirectories makes
    have apart := find?_concat_of_makeDirectories makes
    split at h
    · cases h
    · rename_i written writes
      split at h
      · cases h
      · rename_i renamed renames
        obtain ⟨notSibling, rfl⟩ := write_eq_set writes
        obtain ⟨notTarget, -⟩ := rename_eq_set renames
        refine ⟨makeDirectories_isOk.mp ⟨made, makes⟩, fun there => notTarget ?_, fun there => notSibling ?_⟩
        · refine locate_eq_ok.mpr ⟨fun q above different => ?_, ?_⟩
          · have inside := prefix_concat_of_ne above different
            rw [find?_set _ _ _ (by simp), if_neg, opened q inside]
            rintro rfl
            exact not_concat_prefix inside
          · rw [find?_set _ _ _ (by simp), if_neg (sibling_ne dir name), apart, there]
        · exact (locate_concat opened).mpr (by rw [apart, there])

open Files in
theorem Work.replace_ok_iff {dir : Path} {name : String} (text : String) (w : Workspace) :
    (replace (dir ++ [name]) text w).1 = .ok () ↔ Clear dir name w.files := by
  constructor
  · exact fun done => clear_of_replace (Prod.ext done rfl)
  · intro clear
    obtain ⟨after, replaced⟩ := replace_of_clear text w clear
    rw [replaced]

namespace Files

/-- A file can be replaced exactly if no file stands where a directory must be, and no directory
where a file must be. -/
theorem replaceable_iff {dir : Path} {name : String} {fs : Files} :
    fs.Replaceable (dir ++ [name]) ↔ Clear dir name fs := by
  constructor
  · exact fun h => (Work.replace_ok_iff "" _).mp (h "")
  · exact fun h text => (Work.replace_ok_iff text _).mpr h

end Files

end Wayfarer
