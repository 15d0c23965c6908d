import Mathlib.Tactic.SplitIfs
import Wayfarer.Cursor
import Wayfarer.Proofs.Ident
import Wayfarer.Proofs.Json.RoundTrip
import Wayfarer.Proofs.Partial

/-!
# Cursors and their text

A cursor reads back from its own text exactly if it is readable: its numbers fit, its way has a name
and its spot does not nest too deep. Whatever text a cursor was read from, it is readable.
-/

namespace Wayfarer

/-! ### Identifiers -/

namespace Ident

theorem ofJson_toJson (id : Ident) :
    ofJson id.toJson = if id.name = "" then .error (.badIdent id.text) else .ok id := by
  have read : id.toJson.toText = .ok id.text := rfl
  have parsed := parse?_text id
  unfold ofJson
  by_cases nameless : id.name = ""
  · rw [if_pos nameless] at parsed ⊢
    simp only [read, bind, Except.bind, parsed]
    rfl
  · rw [if_neg nameless] at parsed ⊢
    simp only [read, bind, Except.bind, parsed]
    rfl

theorem name_of_ofJson {j : Json} {id : Ident} (h : ofJson j = .ok id) : id.name ≠ "" := by
  unfold ofJson at h
  obtain ⟨raw, -, rest⟩ := bind_eq_ok.mp h
  split at rest
  · rename_i parsed
    cases rest
    exact name_of_parse? parsed
  · cases rest

end Ident

/-! ### Spots -/

namespace Spot

/-- Indices that fit into a word, and few enough for `room` arrays. -/
def Fits (room : Nat) (path : List Nat) : Prop :=
  path.length ≤ room ∧ ∀ i ∈ path, i < Text.wordBound

instance (room : Nat) (path : List Nat) : Decidable (Fits room path) := by
  unfold Fits
  infer_instance

theorem toNatBelow_nat (bound n : Nat) :
    (Json.nat n).toNatBelow bound = if n < bound then .ok n else .error .malformed := rfl

theorem readPath_pathJson (room i : Nat) (deeper : List Nat) :
    readPath room (pathJson i deeper) =
      if Fits room (i :: deeper) then .ok (i :: deeper) else .error .malformed := by
  induction deeper generalizing room i with
  | nil =>
    cases room with
    | zero => simp [readPath, Fits]; rfl
    | succ room =>
      simp only [readPath, pathJson, toNatBelow_nat]
      have fits : Fits (room + 1) [i] ↔ i < Text.wordBound := by simp [Fits]
      by_cases small : i < Text.wordBound
      · rw [if_pos small, if_pos (fits.mpr small)]
        rfl
      · rw [if_neg small, if_neg (mt fits.mp small)]
        rfl
  | cons j deeper ih =>
    cases room with
    | zero => simp [readPath, Fits]; rfl
    | succ room =>
      have notNull : pathJson j deeper ≠ .null := by cases deeper <;> simp [pathJson]
      simp only [readPath, pathJson, toNatBelow_nat, ih]
      by_cases small : i < Text.wordBound
      · by_cases fits : Fits room (j :: deeper)
        · have all : Fits (room + 1) (i :: j :: deeper) := by
            refine ⟨by simpa using fits.1, fun k member => ?_⟩
            rcases List.mem_cons.mp member with rfl | member
            · exact small
            · exact fits.2 k member
          simp [small, fits, all]
          rfl
        · have none : ¬ Fits (room + 1) (i :: j :: deeper) := by
            intro all
            exact fits ⟨by simpa using all.1, fun k member => all.2 k (List.mem_cons_of_mem _ member)⟩
          simp [small, fits, none]
          rfl
      · have none : ¬ Fits (room + 1) (i :: j :: deeper) := fun all => small (all.2 i List.mem_cons_self)
        simp [small, none]
        rfl

theorem lt_of_toNatBelow {bound n : Nat} {j : Json} (h : j.toNatBelow bound = .ok n) : n < bound := by
  unfold Json.toNatBelow at h
  split at h
  · split at h
    · rename_i small
      cases h
      exact small
    · cases h
  · cases h

/-- The indices below the first one; `null` stands for none. -/
def readBelow (room : Nat) (j : Json) : Json.Decode (List Nat) :=
  match j with
  | .null => pure []
  | j => readPath room j

/-- Behind the first index and what is below it nothing may stand. -/
theorem readPath_below (room : Nat) (first below : Json) (rest : List Json) :
    readPath (room + 1) (.array (first :: below :: rest)) = (do
      let i ← first.toNatBelow Text.wordBound
      let deeper ← readBelow room below
      match rest with
      | [] => pure (i :: deeper)
      | extra :: _ => throw (if extra.sound then .crowded else .malformed)) := by
  simp only [readPath]
  congr 1
  funext i
  cases below <;> rfl

theorem fits_of_readPath {room : Nat} {j : Json} {path : List Nat} (h : readPath room j = .ok path) :
    path ≠ [] ∧ Fits room path := by
  induction room generalizing j path with
  | zero => cases j <;> cases h
  | succ room ih =>
    match j, h with
    | .array [], h =>
      cases h
      exact ⟨by simp, by simp, by simp [Text.wordBound]⟩
    | .array [first], h =>
      obtain ⟨i, taken, same⟩ := bind_eq_ok.mp h
      cases same
      exact ⟨by simp, by simp, by simpa using lt_of_toNatBelow taken⟩
    | .array (first :: below :: rest), h =>
      rw [readPath_below] at h
      obtain ⟨i, taken, h⟩ := bind_eq_ok.mp h
      obtain ⟨deeper, found, h⟩ := bind_eq_ok.mp h
      cases rest with
      | cons extra others => cases h
      | nil =>
        cases h
        have fits : Fits room deeper := by
          unfold readBelow at found
          split at found
          · cases found
            exact ⟨by simp, by simp⟩
          · exact (ih found).2
        refine ⟨by simp, by simpa using fits.1, fun k member => ?_⟩
        rcases List.mem_cons.mp member with rfl | member
        · exact lt_of_toNatBelow taken
        · exact fits.2 k member

theorem ofJson_toJson (room : Nat) (s : Spot) :
    ofJson room s.toJson = if Fits room s.path then .ok s else .error .malformed := by
  unfold ofJson toJson
  rw [readPath_pathJson]
  change (if Fits room s.path then _ else _) >>= _ = _
  split_ifs <;> rfl

theorem fits_of_ofJson {room : Nat} {j : Json} {s : Spot} (h : ofJson room j = .ok s) :
    Fits room s.path := by
  unfold ofJson at h
  obtain ⟨path, found, same⟩ := bind_eq_ok.mp h
  cases same
  obtain ⟨nonempty, fits⟩ := fits_of_readPath found
  rwa [path_ofPath nonempty]

end Spot

/-! ### Records -/

namespace Json

/-- What every field keeps true of a draft is true of the draft read off an object. -/
theorem takeMembers_keeps {fields : List (RecordField δ)} {good : δ → Prop}
    (keeps : ∀ field ∈ fields, ∀ j d d', good d → field.take j d = .ok d' → good d')
    {members : List (Option String × Json)} {d d' : δ} (start : good d)
    (h : takeMembers fields members d = .ok d') : good d' := by
  induction members generalizing d with
  | nil =>
    cases h
    exact start
  | cons member rest ih =>
    obtain ⟨key, value⟩ := member
    cases key with
    | none => cases h
    | some key =>
      simp only [takeMembers] at h
      split at h
      · rename_i field found
        cases held : field.held d with
        | true => rw [held] at h; cases h
        | false =>
          rw [held] at h
          obtain ⟨next, taken, h⟩ := bind_eq_ok.mp h
          exact ih (keeps field (List.mem_of_find?_eq_some found) value d next start taken) h
      · split at h
        · exact ih start h
        · cases h

theorem takeItems_keeps {fields : List (RecordField δ)} {good : δ → Prop}
    (keeps : ∀ field ∈ fields, ∀ j d d', good d → field.take j d = .ok d' → good d')
    {items : List Json} {d d' : δ} (start : good d) (h : takeItems fields items d = .ok d') :
    good d' := by
  induction fields generalizing items d with
  | nil =>
    cases items with
    | nil =>
      cases h
      exact start
    | cons j rest => cases h
  | cons field fields ih =>
    cases items with
    | nil =>
      simp only [takeItems] at h
      split at h
      · cases h
        exact start
      · cases h
    | cons value rest =>
      obtain ⟨next, taken, h⟩ := bind_eq_ok.mp h
      refine ih (fun other member => keeps other (List.mem_cons_of_mem _ member)) ?_ h
      exact keeps field List.mem_cons_self value d next start taken

theorem toRecord_keeps {fields : List (RecordField δ)} {blank : δ} {build : δ → Decode ρ}
    {good : δ → Prop} {j : Json} {r : ρ}
    (keeps : ∀ field ∈ fields, ∀ j d d', good d → field.take j d = .ok d' → good d')
    (start : good blank) (h : toRecord fields blank build j = .ok r) :
    ∃ d, good d ∧ build d = .ok r := by
  unfold toRecord at h
  split at h
  · obtain ⟨d, taken, built⟩ := bind_eq_ok.mp h
    exact ⟨d, takeMembers_keeps keeps start taken, built⟩
  · obtain ⟨d, taken, built⟩ := bind_eq_ok.mp h
    exact ⟨d, takeItems_keeps keeps start taken, built⟩
  · cases h

end Json

/-! ### Cursors -/

namespace Cursor

open Json (RecordField)

/-- The cursor can be read back once it is written. -/
structure Readable (c : Cursor) : Prop where
  limit : c.limit < Text.halfWordBound
  way : c.way.name ≠ ""
  spot : Spot.Fits (Json.maxDepth - 1) c.spot.path

theorem printable_pathJson (i : Nat) (deeper : List Nat) : (Spot.pathJson i deeper).printable = true := by
  induction deeper generalizing i with
  | nil => rfl
  | cons j deeper ih =>
    rw [Spot.pathJson]
    simp only [Json.printable, Json.printableItems, ih, Bool.and_self]

theorem printable_toJson (c : Cursor) : c.toJson.printable = true := by
  have spot : c.spot.toJson.printable = true := printable_pathJson c.spot.index c.spot.deeper
  simp [toJson, Json.record, Json.printable, Json.printableMembers, spot, Ident.toJson]

/-- The fields of a printed cursor are read in the order in which they stand. -/
theorem ofJson_toJson (c : Cursor) :
    ofJson c.toJson = (do
      let limit ← (Json.nat c.limit).toNatBelow Text.halfWordBound
      let way ← Ident.ofJson c.way.toJson
      let spot ← Spot.ofJson (Json.maxDepth - 1) c.spot.toJson
      return { running := c.running, limit, way, spot }) := by
  simp only [ofJson, toJson, Json.record, List.map_cons, List.map_nil, Json.toRecord, Json.takeMembers,
    fields, List.find?_cons, RecordField.required, RecordField.optionalOf, beq_self_eq_true,
    String.reduceBEq]
  cases (Json.nat c.limit).toNatBelow Text.halfWordBound with
  | error f => rfl
  | ok limit =>
    cases Ident.ofJson c.way.toJson with
    | error f => rfl
    | ok way => cases Spot.ofJson (Json.maxDepth - 1) c.spot.toJson <;> rfl

theorem ofJson_of_readable {c : Cursor} (h : c.Readable) : ofJson c.toJson = .ok c := by
  rw [ofJson_toJson, Spot.toNatBelow_nat, if_pos h.limit, Ident.ofJson_toJson, if_neg h.way,
    Spot.ofJson_toJson, if_pos h.spot]
  rfl

/-- The cursor keeps to the ranges of its fields; its spot may nest as deep as it likes. -/
structure Sized (c : Cursor) : Prop where
  limit : c.limit < Text.halfWordBound
  way : c.way.name ≠ ""
  spot : ∀ i ∈ c.spot.path, i < Text.wordBound

/-- Of such a cursor only the depth of its spot can be refused. -/
theorem Sized.ofJson_toJson {c : Cursor} (h : c.Sized) :
    ofJson c.toJson = if c.spot.path.length ≤ Json.maxDepth - 1 then .ok c else .error .malformed := by
  have fits : Spot.Fits (Json.maxDepth - 1) c.spot.path ↔ c.spot.path.length ≤ Json.maxDepth - 1 :=
    and_iff_left h.spot
  rw [Cursor.ofJson_toJson, Spot.toNatBelow_nat, if_pos h.limit, Ident.ofJson_toJson, if_neg h.way,
    Spot.ofJson_toJson]
  by_cases shallow : c.spot.path.length ≤ Json.maxDepth - 1
  · rw [if_pos (fits.mpr shallow), if_pos shallow]
    rfl
  · rw [if_neg (mt fits.mp shallow), if_neg shallow]
    rfl

structure Draft.Bounded (d : Draft) : Prop where
  limit : ∀ n, d.limit = some n → n < Text.halfWordBound
  way : ∀ id, d.way = some id → id.name ≠ ""
  spot : ∀ s, d.spot = some s → Spot.Fits (Json.maxDepth - 1) s.path

theorem bounded_take : ∀ field ∈ fields, ∀ (j : Json) (d d' : Draft), d.Bounded →
    field.take j d = .ok d' → d'.Bounded := by
  intro field member j d d' bounded h
  simp only [fields, List.mem_cons, List.not_mem_nil, or_false] at member
  rcases member with rfl | rfl | rfl | rfl
  all_goals
    obtain ⟨value, read, taken⟩ := bind_eq_ok.mp h
    cases taken
  · exact ⟨bounded.limit, bounded.way, bounded.spot⟩
  · exact ⟨fun n same => Option.some.inj same ▸ Spot.lt_of_toNatBelow read, bounded.way, bounded.spot⟩
  · exact ⟨bounded.limit, fun n same => Option.some.inj same ▸ Ident.name_of_ofJson read, bounded.spot⟩
  · exact ⟨bounded.limit, bounded.way, fun n same => Option.some.inj same ▸ Spot.fits_of_ofJson read⟩

theorem readable_of_ofJson {j : Json} {c : Cursor} (h : ofJson j = .ok c) : c.Readable := by
  have blank : ({} : Draft).Bounded := ⟨by simp, by simp, by simp⟩
  obtain ⟨d, bounded, built⟩ := Json.toRecord_keeps bounded_take blank h
  obtain ⟨running, limit, way, spot⟩ := d
  unfold build at built
  cases running with
  | none => cases built
  | some running =>
    cases limit with
    | none => cases built
    | some limit =>
      cases way with
      | none => cases built
      | some way =>
        cases built
        refine ⟨bounded.limit limit rfl, bounded.way way rfl, ?_⟩
        cases spot with
        | none => exact ⟨by simp [Spot.path, Spot.start, Json.maxDepth], by simp [Spot.path, Spot.start, Text.wordBound]⟩
        | some spot => exact bounded.spot spot rfl

theorem decode_text (c : Cursor) :
    (c.Readable → Json.decode ofJson (c.toJson.pretty ++ "\n") = .ok c) ∧
      (¬ c.Readable → ∃ f, Json.decode ofJson (c.toJson.pretty ++ "\n") = .error f) := by
  rw [Json.decode_pretty (printable_toJson c)]
  refine ⟨ofJson_of_readable, fun unreadable => ?_⟩
  cases read : ofJson c.toJson with
  | error f => exact ⟨f, rfl⟩
  | ok d =>
    refine absurd ?_ unreadable
    have parts := read
    rw [ofJson_toJson, Spot.toNatBelow_nat, Ident.ofJson_toJson, Spot.ofJson_toJson] at parts
    split_ifs at parts with small unnamed
    all_goals first
      | exact ⟨small, unnamed, ‹_›⟩
      | cases parts

end Cursor

end Wayfarer
