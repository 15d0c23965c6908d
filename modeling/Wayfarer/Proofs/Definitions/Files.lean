import Wayfarer.Proofs.Cursor
import Wayfarer.Proofs.RecordFiles

/-!
# Definitions in their files

Each kind of record has a printed form, which is read back field by field in the order in which the
fields stand. What is lost is an identifier without a name and a count that does not fit; any other
record comes back as it was. Definitions are written in place, so they are kept exactly where their
directory is there and no directory has taken the place of one of their files.
-/

namespace Wayfarer

/-! ### Printed records -/

theorem ActionKind.ofJson_toJson (kind : ActionKind) : ActionKind.ofJson kind.toJson = .ok kind := by
  cases kind <;> rfl

theorem Ident.ofJson_toJson_iff (id : Ident) : Ident.ofJson id.toJson = .ok id ↔ id.name ≠ "" := by
  rw [Ident.ofJson_toJson]
  split_ifs with nameless <;> simp [nameless]

theorem readIdents_identsJson (ids : List Ident) : readIdents (identsJson ids) = .ok ids ↔ ∀ id ∈ ids, id.name ≠ "" := by
  rw [readIdents, identsJson, Json.toList_map]
  exact forall₂_congr fun id _ => Ident.ofJson_toJson_iff id

theorem printable_identsJson (ids : List Ident) : (identsJson ids).printable = true := by
  rw [identsJson, Json.printable_array, List.forall_mem_map]
  exact fun _ _ => rfl

open Json (RecordField)

namespace Step

/-- The step can be read back once it is written. -/
structure Storable (s : Step) : Prop where
  id : s.id.name ≠ ""
  onFailure : ∀ id ∈ s.onFailure, id.name ≠ ""

theorem printable_toJson (s : Step) : s.toJson.printable = true := by
  simp [toJson, Json.record, Json.printable, Json.printableMembers, Ident.toJson, ActionKind.toJson,
    printable_identsJson]

/-- The fields of a printed step are read in the order in which they stand. -/
theorem ofJson_toJson (s : Step) :
    ofJson s.toJson = (do
      let id ← Ident.ofJson s.id.toJson
      let onFailure ← readIdents (identsJson s.onFailure)
      return { s with id, onFailure }) := by
  simp only [ofJson, toJson, Json.record, List.map_cons, List.map_nil, Json.toRecord, Json.takeMembers, fields,
    List.find?_cons, RecordField.required, RecordField.optionalOf, beq_self_eq_true, String.reduceBEq,
    ActionKind.ofJson_toJson]
  cases Ident.ofJson s.id.toJson with
  | error f => rfl
  | ok id => cases readIdents (identsJson s.onFailure) <;> rfl

theorem ofJson_toJson_iff (s : Step) : ofJson s.toJson = .ok s ↔ s.Storable := by
  rw [ofJson_toJson]
  simp only [bind_eq_ok]
  constructor
  · rintro ⟨id, named, onFailure, listed, back⟩
    have same : ({ s with id, onFailure } : Step) = s := Except.ok.inj back
    obtain rfl : id = s.id := congrArg Step.id same
    obtain rfl : onFailure = s.onFailure := congrArg Step.onFailure same
    exact ⟨(Ident.ofJson_toJson_iff s.id).mp named, (readIdents_identsJson _).mp listed⟩
  · intro h
    exact ⟨s.id, (Ident.ofJson_toJson_iff s.id).mpr h.id, s.onFailure, (readIdents_identsJson _).mpr h.onFailure, rfl⟩

end Step

namespace Way

structure Storable (w : Way) : Prop where
  id : w.id.name ≠ ""
  repeats : w.repeats < Text.halfWordBound
  steps : ∀ id ∈ w.steps, id.name ≠ ""

theorem printable_toJson (w : Way) : w.toJson.printable = true := by
  simp [toJson, Json.record, Json.printable, Json.printableMembers, Ident.toJson, printable_identsJson]

theorem ofJson_toJson (w : Way) :
    ofJson w.toJson = (do
      let id ← Ident.ofJson w.id.toJson
      let repeats ← (Json.nat w.repeats).toNatBelow Text.halfWordBound
      let steps ← readIdents (identsJson w.steps)
      return { w with id, repeats, steps }) := by
  simp only [ofJson, toJson, Json.record, List.map_cons, List.map_nil, Json.toRecord, Json.takeMembers, fields,
    List.find?_cons, RecordField.required, beq_self_eq_true, String.reduceBEq]
  cases Ident.ofJson w.id.toJson with
  | error f => rfl
  | ok id =>
    cases (Json.nat w.repeats).toNatBelow Text.halfWordBound with
    | error f => rfl
    | ok repeats => cases readIdents (identsJson w.steps) <;> rfl

theorem ofJson_toJson_iff (w : Way) : ofJson w.toJson = .ok w ↔ w.Storable := by
  have counted : (Json.nat w.repeats).toNatBelow Text.halfWordBound = .ok w.repeats ↔ w.repeats < Text.halfWordBound := by
    rw [Spot.toNatBelow_nat]
    split_ifs with small <;> simp [small]
  rw [ofJson_toJson]
  simp only [bind_eq_ok]
  constructor
  · rintro ⟨id, named, repeats, small, steps, listed, back⟩
    have same : ({ w with id, repeats, steps } : Way) = w := Except.ok.inj back
    obtain rfl : id = w.id := congrArg Way.id same
    obtain rfl : repeats = w.repeats := congrArg Way.repeats same
    obtain rfl : steps = w.steps := congrArg Way.steps same
    exact ⟨(Ident.ofJson_toJson_iff w.id).mp named, counted.mp small, (readIdents_identsJson _).mp listed⟩
  · intro h
    exact ⟨w.id, (Ident.ofJson_toJson_iff w.id).mpr h.id, w.repeats, counted.mpr h.repeats, w.steps,
      (readIdents_identsJson _).mpr h.steps, rfl⟩

end Way

namespace Entry

def Storable (e : Entry) : Prop :=
  ∀ id ∈ e.steps, id.name ≠ ""

theorem printable_toJson (e : Entry) : e.toJson.printable = true := by
  simp [toJson, Json.record, Json.printable, Json.printableMembers, printable_identsJson]

theorem ofJson_toJson (e : Entry) :
    ofJson e.toJson = (do
      let steps ← readIdents (identsJson e.steps)
      return { e with steps }) := by
  simp only [ofJson, toJson, Json.record, List.map_cons, List.map_nil, Json.toRecord, Json.takeMembers, fields,
    List.find?_cons, RecordField.required, RecordField.optionalOf, beq_self_eq_true, String.reduceBEq]
  cases readIdents (identsJson e.steps) <;> rfl

theorem ofJson_toJson_iff (e : Entry) : ofJson e.toJson = .ok e ↔ e.Storable := by
  rw [ofJson_toJson]
  simp only [bind_eq_ok]
  constructor
  · rintro ⟨steps, listed, back⟩
    have same : ({ e with steps } : Entry) = e := Except.ok.inj back
    obtain rfl : steps = e.steps := congrArg Entry.steps same
    exact (readIdents_identsJson _).mp listed
  · intro h
    exact ⟨e.steps, (readIdents_identsJson _).mpr h, rfl⟩

end Entry

namespace Detour

structure Storable (d : Detour) : Prop where
  id : d.id.name ≠ ""
  entries : ∀ e ∈ d.entries, e.Storable

theorem printable_toJson (d : Detour) : d.toJson.printable = true := by
  have entries : (Json.array (d.entries.map Entry.toJson)).printable = true := by
    rw [Json.printable_array, List.forall_mem_map]
    exact fun e _ => e.printable_toJson
  simp [toJson, Json.record, Json.printable, Json.printableMembers, Ident.toJson] at entries ⊢
  exact entries

theorem ofJson_toJson (d : Detour) :
    ofJson d.toJson = (do
      let id ← Ident.ofJson d.id.toJson
      let entries ← Json.toList Entry.ofJson (.array (d.entries.map Entry.toJson))
      return { d with id, entries }) := by
  simp only [ofJson, toJson, Json.record, List.map_cons, List.map_nil, Json.toRecord, Json.takeMembers, fields,
    List.find?_cons, RecordField.required, beq_self_eq_true, String.reduceBEq]
  cases Ident.ofJson d.id.toJson with
  | error f => rfl
  | ok id => cases Json.toList Entry.ofJson (.array (d.entries.map Entry.toJson)) <;> rfl

theorem ofJson_toJson_iff (d : Detour) : ofJson d.toJson = .ok d ↔ d.Storable := by
  have listed : Json.toList Entry.ofJson (.array (d.entries.map Entry.toJson)) = .ok d.entries ↔
      ∀ e ∈ d.entries, e.Storable := by
    rw [Json.toList_map]
    exact forall₂_congr fun e _ => e.ofJson_toJson_iff
  rw [ofJson_toJson]
  simp only [bind_eq_ok]
  constructor
  · rintro ⟨id, named, entries, read, back⟩
    have same : ({ d with id, entries } : Detour) = d := Except.ok.inj back
    obtain rfl : id = d.id := congrArg Detour.id same
    obtain rfl : entries = d.entries := congrArg Detour.entries same
    exact ⟨(Ident.ofJson_toJson_iff d.id).mp named, listed.mp read⟩
  · intro h
    exact ⟨d.id, (Ident.ofJson_toJson_iff d.id).mpr h.id, d.entries, listed.mpr h.entries, rfl⟩

end Detour

/-! ### Written definitions -/

structure Definitions.Storable (d : Definitions) : Prop where
  steps : ∀ s ∈ d.steps, s.Storable
  ways : ∀ w ∈ d.ways, w.Storable
  detours : ∀ x ∈ d.detours, x.Storable

theorem Work.write_ok_iff {dir : Path} {name text : String} {w u : Workspace} :
    write (dir ++ [name]) text w = (.ok (), u) ↔
      (w.files.Open dir ∧ w.files.find? (dir ++ [name]) ≠ some .directory) ∧
        u = { w with files := w.files.set (dir ++ [name]) (.file (.text text)) } := by
  rw [write, during_apply]
  simp only [change, ExceptT.mk]
  constructor
  · intro h
    cases writes : w.files.write (dir ++ [name]) (.text text) with
    | error fault => rw [writes] at h; cases h
    | ok written =>
      rw [writes] at h
      cases h
      obtain ⟨-, rfl⟩ := Files.write_eq_set writes
      exact ⟨Files.open_of_write writes, rfl⟩
  · rintro ⟨⟨opened, free⟩, rfl⟩
    rw [Files.write_concat name (.text text) opened free]
    rfl

namespace Workspace

/-- The files of definitions can be written where they belong. -/
structure Receives (fs : Files) : Prop where
  directory : fs.Open dataDirectory
  steps : fs.find? stepsPath ≠ some .directory
  ways : fs.find? waysPath ≠ some .directory
  detours : fs.find? detoursPath ≠ some .directory

/-- The files with the records of definitions in their places. -/
def withDefinitions (d : Definitions) (fs : Files) : Files :=
  let fs := fs.set stepsPath (.file (.text (recordsText Step.toJson d.steps)))
  let fs := fs.set waysPath (.file (.text (recordsText Way.toJson d.ways)))
  fs.set detoursPath (.file (.text (recordsText Detour.toJson d.detours)))

theorem writeDefinitions_ok_iff (d : Definitions) {w u : Workspace} :
    writeDefinitions d w = (.ok (), u) ↔ Receives w.files ∧ u = { w with files := withDefinitions d w.files } := by
  have ways (e) : (w.files.set stepsPath e).find? waysPath = w.files.find? waysPath :=
    Files.find?_set_other (by decide) (by decide)
  have detours (e f) : ((w.files.set stepsPath e).set waysPath f).find? detoursPath = w.files.find? detoursPath := by
    rw [Files.find?_set_other (by decide) (by decide), Files.find?_set_other (by decide) (by decide)]
  simp only [writeDefinitions, writeRecords, total_bind_eq_ok]
  constructor
  · rintro ⟨⟨⟩, first, wroteSteps, ⟨⟩, second, wroteWays, wroteDetours⟩
    obtain ⟨⟨opened, freeSteps⟩, rfl⟩ := Work.write_ok_iff.mp wroteSteps
    obtain ⟨⟨-, freeWays⟩, rfl⟩ := Work.write_ok_iff.mp wroteWays
    obtain ⟨⟨-, freeDetours⟩, rfl⟩ := Work.write_ok_iff.mp wroteDetours
    exact ⟨⟨opened, freeSteps, fun there => freeWays ((ways _).trans there),
      fun there => freeDetours ((detours _ _).trans there)⟩, rfl⟩
  · rintro ⟨h, rfl⟩
    refine ⟨(), _, Work.write_ok_iff.mpr ⟨⟨h.directory, h.steps⟩, rfl⟩, (), _, Work.write_ok_iff.mpr ⟨⟨?_, ?_⟩, rfl⟩,
      Work.write_ok_iff.mpr ⟨⟨?_, ?_⟩, rfl⟩⟩
    · exact h.directory.set
    · exact fun there => h.ways ((ways _).symm.trans there)
    · exact h.directory.set.set
    · exact fun there => h.detours ((detours _ _).symm.trans there)

theorem readDefinitions_withDefinitions (d : Definitions) {fs : Files} (opened : fs.Open dataDirectory) :
    readDefinitions.answer (withDefinitions d fs) = .ok d ↔ d.Storable := by
  have still : (withDefinitions d fs).Open dataDirectory := opened.set.set.set
  have steps : (withDefinitions d fs).readText stepsPath = .ok (recordsText Step.toJson d.steps) := by
    refine Files.readText_concat still ?_
    change (withDefinitions d fs).find? stepsPath = _
    rw [withDefinitions, Files.find?_set_other (by decide) (by decide), Files.find?_set_other (by decide) (by decide),
      Files.find?_set _ _ _ (by decide), if_pos rfl]
  have ways : (withDefinitions d fs).readText waysPath = .ok (recordsText Way.toJson d.ways) := by
    refine Files.readText_concat still ?_
    change (withDefinitions d fs).find? waysPath = _
    rw [withDefinitions, Files.find?_set_other (by decide) (by decide), Files.find?_set _ _ _ (by decide), if_pos rfl]
  have detours : (withDefinitions d fs).readText detoursPath = .ok (recordsText Detour.toJson d.detours) := by
    refine Files.readText_concat still ?_
    change (withDefinitions d fs).find? detoursPath = _
    rw [withDefinitions, Files.find?_set _ _ _ (by decide), if_pos rfl]
  rw [readDefinitions_answer]
  simp only [bind_eq_ok]
  constructor
  · rintro ⟨steps', readSteps, ways', readWays, detours', readDetours, same⟩
    cases same
    exact ⟨fun s member => s.ofJson_toJson_iff.mp ((readRecords_of_text_iff steps Step.printable_toJson).mp readSteps s member),
      fun w member => w.ofJson_toJson_iff.mp ((readRecords_of_text_iff ways Way.printable_toJson).mp readWays w member),
      fun x member => x.ofJson_toJson_iff.mp ((readRecords_of_text_iff detours Detour.printable_toJson).mp readDetours x member)⟩
  · intro h
    refine ⟨d.steps, ?_, d.ways, ?_, d.detours, ?_, rfl⟩
    · exact (readRecords_of_text_iff steps Step.printable_toJson).mpr fun s member => s.ofJson_toJson_iff.mpr (h.steps s member)
    · exact (readRecords_of_text_iff ways Way.printable_toJson).mpr fun w member => w.ofJson_toJson_iff.mpr (h.ways w member)
    · exact (readRecords_of_text_iff detours Detour.printable_toJson).mpr fun x member =>
        x.ofJson_toJson_iff.mpr (h.detours x member)

/-- Definitions are read back as they were written if and only if they can be written and every
identifier in them has a name and every count fits. -/
theorem written_read_back (d : Definitions) (w : Workspace) :
    ((writeDefinitions d >>= fun _ => readDefinitions) w).1 = .ok d ↔ Receives w.files ∧ d.Storable := by
  constructor
  · intro back
    obtain ⟨⟨⟩, u, wrote, read⟩ := total_bind_eq_ok.mp (Prod.ext back rfl)
    obtain ⟨receives, rfl⟩ := (writeDefinitions_ok_iff d).mp wrote
    refine ⟨receives, (readDefinitions_withDefinitions d receives.directory).mp ?_⟩
    exact congrArg Prod.fst ((readDefinitions_reads.apply _).symm.trans read)
  · rintro ⟨receives, storable⟩
    rw [total_bind_apply, (writeDefinitions_ok_iff d).mpr ⟨receives, rfl⟩]
    simp only
    rw [readDefinitions_reads.apply]
    exact (readDefinitions_withDefinitions d receives.directory).mpr storable

/-- A step with texts that need every kind of escape, and twice the same reference. -/
def awkwardStep : Step where
  id := .step "say \"a>b\""
  description := "C:\\temp\nnext\tline"
  action := .copyLink
  selector := "\x00\x1f\x7f"
  pocket := "\u2028"
  onFailure := [.way "rest", .way "rest"]

def awkwardDefinitions : Definitions where
  steps := [awkwardStep, awkwardStep]
  ways := [{ id := .way "rest", description := "", repeats := 4294967295, steps := [] }]
  detours := [{ id := .detour "\\", description := "\r", pocket := "",
                entries := [⟨"default", [.way "rest"]⟩, ⟨"default", []⟩] }]

theorem awkward_read_back :
    ((writeDefinitions awkwardDefinitions >>= fun _ => readDefinitions)
      { files := ⟨[(dataDirectory, .directory)]⟩ }).1 = .ok awkwardDefinitions := by
  refine (written_read_back awkwardDefinitions _).mpr ⟨⟨fun q above => ?_, by decide, by decide, by decide⟩, ?_, ?_, ?_⟩
  · rcases List.prefix_cons_iff.mp above with rfl | ⟨rest, rfl, below⟩
    · rfl
    · rw [List.prefix_nil.mp below]
      rfl
  · have storable : awkwardStep.Storable := ⟨by decide, by decide⟩
    simpa [awkwardDefinitions] using storable
  · simp only [awkwardDefinitions, List.forall_mem_singleton]
    exact ⟨by decide, by decide, by decide⟩
  · simp only [awkwardDefinitions, List.forall_mem_singleton]
    exact ⟨by decide, by unfold Entry.Storable; decide⟩

end Workspace

end Wayfarer
