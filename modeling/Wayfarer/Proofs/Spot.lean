import Wayfarer.Proofs.Cursor

/-!
# Spots as nested arrays

Which JSON a position may be is a grammar of its own, `Nesting`. Decoding follows it exactly as long as the
text does not nest deeper than any text may.
-/

namespace Wayfarer.Spot

/-- The arrays that are a position, and the indices in them from the outside in. -/
inductive Nesting : Json → List Nat → Prop
  | start : Nesting (.array []) [0]
  | index {i : Nat} : i < Text.wordBound → Nesting (.array [.nat i]) [i]
  | closed {i : Nat} : i < Text.wordBound → Nesting (.array [.nat i, .null]) [i]
  | deeper {i : Nat} {j : Json} {path : List Nat} : i < Text.wordBound → Nesting j path →
    Nesting (.array [.nat i, j]) (i :: path)

theorem toNatBelow_eq_ok {bound n : Nat} {j : Json} : j.toNatBelow bound = .ok n ↔ j = .nat n ∧ n < bound := by
  constructor
  · intro h
    have small := lt_of_toNatBelow h
    cases j with
    | nat m =>
      rw [toNatBelow_nat] at h
      split at h
      · cases h
        exact ⟨rfl, small⟩
      · cases h
    | _ => cases h
  · rintro ⟨rfl, small⟩
    rw [toNatBelow_nat, if_pos small]

theorem nesting_of_readPath {room : Nat} {j : Json} {path : List Nat} (h : readPath room j = .ok path) :
    Nesting j path := by
  induction room generalizing j path with
  | zero => cases j <;> cases h
  | succ room ih =>
    match j, h with
    | .array [], h =>
      cases h
      exact .start
    | .array [first], h =>
      obtain ⟨i, taken, same⟩ := bind_eq_ok.mp h
      obtain ⟨rfl, small⟩ := toNatBelow_eq_ok.mp taken
      cases same
      exact .index small
    | .array (first :: below :: rest), h =>
      rw [readPath_below] at h
      obtain ⟨i, taken, behind⟩ := bind_eq_ok.mp h
      obtain ⟨deeper, found, ended⟩ := bind_eq_ok.mp behind
      obtain ⟨rfl, small⟩ := toNatBelow_eq_ok.mp taken
      -- whatever comes third, the array is refused
      cases rest with
      | cons extra others => cases ended
      | nil =>
        cases ended
        unfold readBelow at found
        split at found
        · cases found
          exact .closed small
        · exact .deeper small (ih found)

/-- Every array of a position is read while there is room for it. -/
theorem readPath_of_nesting {room : Nat} {j : Json} {path : List Nat} (h : Nesting j path) (shallow : j.depth ≤ room) :
    readPath room j = .ok path := by
  induction h generalizing room with
  | start =>
    cases room with
    | zero => cases shallow
    | succ room => rfl
  | index small =>
    cases room with
    | zero => cases shallow
    | succ room =>
      rw [readPath, toNatBelow_eq_ok.mpr ⟨rfl, small⟩]
      rfl
  | closed small =>
    cases room with
    | zero => cases shallow
    | succ room =>
      rw [readPath_below, toNatBelow_eq_ok.mpr ⟨rfl, small⟩]
      rfl
  | @deeper i j path small nesting ih =>
    cases room with
    | zero => simp [Json.depth] at shallow
    | succ room =>
      have inside : j.depth ≤ room := by
        simp only [Json.depth, Json.depthItems] at shallow
        omega
      have notNull : readBelow room j = readPath room j := by cases nesting <;> rfl
      rw [readPath_below, toNatBelow_eq_ok.mpr ⟨rfl, small⟩, notNull, ih inside]
      rfl

theorem ofJson_path_iff {room : Nat} {j : Json} (shallow : j.depth ≤ room) (path : List Nat) :
    (∃ s, ofJson room j = .ok s ∧ s.path = path) ↔ Nesting j path := by
  constructor
  · rintro ⟨s, read, rfl⟩
    obtain ⟨path, found, same⟩ := bind_eq_ok.mp read
    cases same
    rw [path_ofPath (fits_of_readPath found).1]
    exact nesting_of_readPath found
  · intro nesting
    have found := readPath_of_nesting nesting shallow
    refine ⟨ofPath path, ?_, path_ofPath (fits_of_readPath found).1⟩
    rw [ofJson, found]
    rfl

/-- Of the JSON texts that do not nest too deep exactly those decode as a spot that are a nesting of indices, and
the spot has those indices. What a spot of up to 127 indices is encoded as decodes as that spot. -/
theorem decode_exact :
    (∀ root text, Json.Document root text → root.depth ≤ 127 → ∀ path,
      (∃ s, Json.decode (ofJson Json.maxDepth) text = .ok s ∧ s.path = path) ↔ Nesting root path) ∧
    ∀ s : Spot, s.path.length ≤ 127 → (∀ i ∈ s.path, i < Text.wordBound) →
      Json.decode (ofJson Json.maxDepth) s.toJson.compact = .ok s := by
  constructor
  · intro root text document shallow path
    rw [Json.decode_of_document document]
    exact ofJson_path_iff shallow path
  · intro s shallow small
    have fits : Fits Json.maxDepth s.path := ⟨shallow, small⟩
    have printable : s.toJson.printable = true := Cursor.printable_pathJson s.index s.deeper
    rw [Json.decode_of_document (Json.document_compact printable), ofJson_toJson, if_pos fits]

open Json.Grammar in
theorem document_nested : Json.Document (.array [.nat 2, .array [.nat 70, .array []]]) " [2, [70, []]]" := by
  have number : Element (.nat 2) ['2'] :=
    Json.element_of_value Json.gap_nil (.number (.nat (@Whole.more '2' [] rfl (by decide) (by simp))))
  have below : Element (.nat 70) ['7', '0'] :=
    Json.element_of_value Json.gap_nil (.number (.nat (@Whole.more '7' ['0'] rfl (by decide) (List.forall_mem_singleton.mpr rfl))))
  have last : Element (.array []) [' ', '[', ']'] := Json.element_of_value Json.gap_space (.emptyArray Json.gap_nil)
  exact Json.element_of_value Json.gap_space (.array (.more number (.last
    (Json.element_of_value Json.gap_space (.array (.more below (.last last)))))))

theorem decode_exact_nested :
    Json.Document (.array [.nat 2, .array [.nat 70, .array []]]) " [2, [70, []]]" ∧
      (∃ s, Json.decode (ofJson Json.maxDepth) " [2, [70, []]]" = .ok s ∧ s.path = [2, 70, 0]) ∧
      Json.decode (ofJson Json.maxDepth) (toJson ⟨2, [70, 0]⟩).compact = .ok ⟨2, [70, 0]⟩ := by
  obtain ⟨decodes, back⟩ := decode_exact
  have shallow : Json.depth (.array [.nat 2, .array [.nat 70, .array []]]) ≤ 127 := by decide
  have nesting : Nesting (.array [.nat 2, .array [.nat 70, .array []]]) [2, 70, 0] :=
    .deeper (by decide) (.deeper (by decide) .start)
  exact ⟨document_nested, (decodes _ _ document_nested shallow _).mpr nesting, back ⟨2, [70, 0]⟩ (by decide) (by decide)⟩

end Wayfarer.Spot
