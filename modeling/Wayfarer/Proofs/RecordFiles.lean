import Wayfarer.Proofs.Json.RoundTrip
import Wayfarer.Proofs.Workspace
import Wayfarer.Workspace.RecordFiles

/-!
# Records in their files

Which records are read depends on the texts of their files alone, and what was printed into such a file
is what is read from it.
-/

namespace Wayfarer

/-! ### Printed records -/

namespace Json

theorem printable_array (items : List Json) : (array items).printable = true ↔ ∀ j ∈ items, j.printable = true := by
  simp only [printable]
  induction items with
  | nil => simp [printableItems]
  | cons j items ih => simp [printableItems, ih]

theorem toList_map {record : Json → Decode α} {toJson : α → Json} (records : List α) :
    toList record (.array (records.map toJson)) = .ok records ↔ ∀ a ∈ records, record (toJson a) = .ok a := by
  simp only [toList, mapM_eq_ok, List.forall₂_map_left_iff, List.forall₂_same]

end Json

namespace Pocket

open Json (RecordField)

theorem printable_toJson (p : Pocket) : p.toJson.printable = true := by
  simp [toJson, Json.record, Json.printable, Json.printableMembers]

theorem ofJson_toJson (p : Pocket) : ofJson p.toJson = .ok p := by
  simp only [ofJson, toJson, Json.record, List.map_cons, List.map_nil, Json.toRecord, Json.takeMembers, fields,
    List.find?_cons, RecordField.required, beq_self_eq_true, String.reduceBEq]
  rfl

end Pocket

namespace Workspace

theorem readRecords_reads (record : Json → Json.Decode α) (p : Path) : (readRecords record p).Reads :=
  ((Work.reads_readText p).during _).bind fun text => (Work.reads_decode _ text).during _

theorem readRecords_answer (record : Json → Json.Decode α) (p : Path) (fs : Files) :
    (readRecords record p).answer fs = (do
      let text ← ((fs.readText p).mapError Failure.ofSystem).mapError (·.within (.reading p))
      ((Json.decode (Json.toList record) text).mapError Failure.ofJson).mapError (·.within (.parsing p))) := by
  have text : (Work.readText p).answer fs = (fs.readText p).mapError Failure.ofSystem := by
    simp only [Work.answer, Work.readText, Work.bind_apply, Work.look, Work.ofExcept, ExceptT.mk]
  unfold readRecords
  rw [Work.answer_bind ((Work.reads_readText p).during _) fun text => (Work.reads_decode _ text).during _,
    Work.answer_during, text]
  refine bind_congr fun text => ?_
  rw [Work.answer_during]
  rfl

theorem readRecords_congr (record : Json → Json.Decode α) {p : Path} {fs gs : Files} (same : fs.readText p = gs.readText p) :
    (readRecords record p).answer fs = (readRecords record p).answer gs := by
  rw [readRecords_answer, readRecords_answer, same]

/-- What is read where records were printed is what the reader finds in their own trees. -/
theorem readRecords_answer_of_text {record : Json → Json.Decode α} {toJson : α → Json} {p : Path} {fs : Files}
    {records : List α} (holds : fs.readText p = .ok (recordsText toJson records))
    (printable : (Json.array (records.map toJson)).printable = true) :
    (readRecords record p).answer fs =
      ((Json.toList record (.array (records.map toJson))).mapError Failure.ofJson).mapError (·.within (.parsing p)) := by
  have decoded : Json.decode (Json.toList record) (recordsText toJson records) =
      Json.toList record (.array (records.map toJson)) := Json.decode_pretty printable
  rw [readRecords_answer, holds]
  change ((Json.decode (Json.toList record) (recordsText toJson records)).mapError _).mapError _ = _
  rw [decoded]

/-- Records that were printed are read back if the reader finds them in their own tree. -/
theorem readRecords_of_text {record : Json → Json.Decode α} {toJson : α → Json} {p : Path} {fs : Files} {records : List α}
    (holds : fs.readText p = .ok (recordsText toJson records))
    (printable : (Json.array (records.map toJson)).printable = true)
    (back : Json.toList record (.array (records.map toJson)) = .ok records) :
    (readRecords record p).answer fs = .ok records := by
  rw [readRecords_answer_of_text holds printable, back]
  rfl

theorem readRecords_of_text_iff {record : Json → Json.Decode α} {toJson : α → Json} {p : Path} {fs : Files}
    {records : List α} (holds : fs.readText p = .ok (recordsText toJson records))
    (printable : ∀ a, (toJson a).printable = true) :
    (readRecords record p).answer fs = .ok records ↔ ∀ a ∈ records, record (toJson a) = .ok a := by
  have all : (Json.array (records.map toJson)).printable = true := by
    rw [Json.printable_array, List.forall_mem_map]
    exact fun a _ => printable a
  rw [readRecords_answer_of_text holds all, ← Json.toList_map, mapError_eq_ok, mapError_eq_ok]

/-! ### Definitions and pockets -/

/-- The record files hold the same texts. -/
structure SameRecords (fs gs : Files) : Prop where
  steps : fs.readText stepsPath = gs.readText stepsPath
  ways : fs.readText waysPath = gs.readText waysPath
  detours : fs.readText detoursPath = gs.readText detoursPath
  pockets : fs.readText pocketsPath = gs.readText pocketsPath

theorem readDefinitions_reads : readDefinitions.Reads := by
  refine (readRecords_reads _ _).bind fun steps => (readRecords_reads _ _).bind fun ways => ?_
  exact (readRecords_reads _ _).bind fun detours => (Work.reads_note _).bind fun _ => Work.reads_pure _

theorem readDefinitions_answer (fs : Files) :
    readDefinitions.answer fs = (do
      let steps ← (readRecords Step.ofJson stepsPath).answer fs
      let ways ← (readRecords Way.ofJson waysPath).answer fs
      let detours ← (readRecords Detour.ofJson detoursPath).answer fs
      return { steps, ways, detours }) := by
  have noted : ∀ steps ways detours, (do
      Work.note (.definitionsRead steps.length ways.length detours.length)
      return { steps, ways, detours } : Work Definitions).Reads :=
    fun _ _ _ => (Work.reads_note _).bind fun _ => Work.reads_pure _
  unfold readDefinitions
  rw [Work.answer_bind (readRecords_reads _ _) fun steps => (readRecords_reads _ _).bind fun ways =>
    (readRecords_reads _ _).bind fun detours => noted _ _ _]
  refine bind_congr fun steps => ?_
  rw [Work.answer_bind (readRecords_reads _ _) fun ways => (readRecords_reads _ _).bind fun detours => noted _ _ _]
  refine bind_congr fun ways => ?_
  rw [Work.answer_bind (readRecords_reads _ _) fun detours => noted _ _ _]
  rfl

theorem readDefinitions_congr {fs gs : Files} (steps : fs.readText stepsPath = gs.readText stepsPath)
    (ways : fs.readText waysPath = gs.readText waysPath) (detours : fs.readText detoursPath = gs.readText detoursPath) :
    readDefinitions.answer fs = readDefinitions.answer gs := by
  rw [readDefinitions_answer, readDefinitions_answer, readRecords_congr _ steps, readRecords_congr _ ways,
    readRecords_congr _ detours]

theorem loadPockets_reads : loadPockets.Reads :=
  readRecords_reads _ _

theorem loadPockets_of_text {fs : Files} {pockets : List Pocket}
    (holds : fs.readText pocketsPath = .ok (recordsText Pocket.toJson pockets)) : loadPockets.answer fs = .ok pockets :=
  (readRecords_of_text_iff holds Pocket.printable_toJson).mpr fun p _ => p.ofJson_toJson

theorem reads_checked (d : Definitions) :
    (if d.violations.isEmpty then pure d else throw ⟨.invalid d.violations, []⟩ : Work Definitions).Reads := by
  split
  · exact Work.reads_pure d
  · exact Work.reads_throw _

theorem loadDefinitions_reads : loadDefinitions.Reads :=
  readDefinitions_reads.bind reads_checked

theorem loadDefinitions_eq (fs : Files) :
    loadDefinitions.answer fs = readDefinitions.answer fs >>= fun d =>
      if d.violations.isEmpty then .ok d else .error ⟨.invalid d.violations, []⟩ := by
  unfold loadDefinitions
  rw [Work.answer_bind readDefinitions_reads reads_checked]
  refine bind_congr fun d => ?_
  split <;> rfl

theorem loadDefinitions_answer {fs : Files} {d : Definitions} (read : readDefinitions.answer fs = .ok d)
    (valid : d.violations = []) : loadDefinitions.answer fs = .ok d := by
  rw [loadDefinitions_eq, read]
  exact if_pos (List.isEmpty_iff.mpr valid)

end Workspace

end Wayfarer
