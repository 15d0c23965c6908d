import Wayfarer.Record

/-!
# Identifiers and their text

A text parses exactly if its first `>` cuts it into the word for a kind and a name. So such texts and the
identifiers with names correspond one to one.
-/

namespace Wayfarer

theorem Kind.ofWord?_eq_some {word : String} {kind : Kind} : ofWord? word = some kind ↔ word = kind.word := by
  constructor
  · intro h
    unfold ofWord? at h
    split at h <;> cases h <;> rfl
  · rintro rfl
    cases kind <;> rfl

theorem Kind.separator_not_mem_word (kind : Kind) : '>' ∉ kind.word.toList := by
  cases kind <;> decide

namespace Ident

theorem toList_text (id : Ident) : id.text.toList = id.kind.word.toList ++ '>' :: id.name.toList := by
  simp [text, show ">".toList = ['>'] from rfl]

theorem parse?_text (id : Ident) : parse? id.text = if id.name = "" then none else some id := by
  obtain ⟨kind, name⟩ := id
  have word : kind.word.toList.takeWhile (· ≠ '>') = kind.word.toList ∧
      kind.word.toList.dropWhile (· ≠ '>') = [] ∧ Kind.ofWord? kind.word = some kind := by
    cases kind <;> decide
  obtain ⟨taken, dropped, known⟩ := word
  have nothing : name.toList.isEmpty = true ↔ name = "" := by
    rw [List.isEmpty_iff, ← String.toList_inj]
    rfl
  unfold parse?
  rw [toList_text, List.dropWhile_append, dropped, List.takeWhile_append, taken]
  simp only [List.isEmpty_nil, if_true, List.dropWhile_cons, List.takeWhile_cons, ne_eq,
    not_true_eq_false, decide_false, Bool.false_eq_true, if_false, List.append_nil, String.ofList_toList,
    known, Option.map_some, nothing]

theorem name_of_parse? {raw : String} {id : Ident} (h : parse? raw = some id) : id.name ≠ "" := by
  unfold parse? at h
  split at h
  · cases h
  · rename_i name _
    split at h
    · cases h
    · rename_i nonempty
      obtain ⟨kind, -, rfl⟩ := Option.map_eq_some_iff.mp h
      intro empty
      rw [← String.toList_inj, String.toList_ofList] at empty
      exact nonempty (by rw [empty]; rfl)

theorem text_of_parse? {raw : String} {id : Ident} (h : parse? raw = some id) : id.text = raw := by
  unfold parse? at h
  split at h
  · cases h
  · rename_i c name rest
    split at h
    · cases h
    · obtain ⟨kind, word, rfl⟩ := Option.map_eq_some_iff.mp h
      have separator : c = '>' := by
        have head := List.head?_dropWhile_not (· ≠ '>') raw.toList
        rw [rest] at head
        simpa using head
      cases separator
      rw [← String.toList_inj, toList_text, ← Kind.ofWord?_eq_some.mp word, String.toList_ofList, String.toList_ofList, ← rest]
      exact List.takeWhile_append_dropWhile

theorem parse?_eq_some {raw : String} {id : Ident} : parse? raw = some id ↔ id.text = raw ∧ id.name ≠ "" := by
  refine ⟨fun h => ⟨text_of_parse? h, name_of_parse? h⟩, ?_⟩
  rintro ⟨rfl, named⟩
  rw [parse?_text, if_neg named]

/-- The parts of a text before and behind its first `>`. -/
def Cut (raw front back : String) : Prop :=
  raw = front ++ ">" ++ back ∧ '>' ∉ front.toList

theorem isSome_parse? {raw : String} :
    (parse? raw).isSome ↔ ∃ front back, Cut raw front back ∧ front ∈ ["Step", "Way", "Detour"] ∧ back ≠ "" := by
  rw [Option.isSome_iff_exists]
  constructor
  · rintro ⟨id, parsed⟩
    obtain ⟨rfl, named⟩ := parse?_eq_some.mp parsed
    exact ⟨id.kind.word, id.name, ⟨rfl, id.kind.separator_not_mem_word⟩, by cases id.kind <;> decide, named⟩
  · rintro ⟨front, back, ⟨rfl, -⟩, word, named⟩
    have known : ∃ kind : Kind, front = kind.word := by
      simp only [List.mem_cons, List.not_mem_nil, or_false] at word
      obtain rfl | rfl | rfl := word
      · exact ⟨.step, rfl⟩
      · exact ⟨.way, rfl⟩
      · exact ⟨.detour, rfl⟩
    obtain ⟨kind, rfl⟩ := known
    exact ⟨⟨kind, back⟩, parse?_eq_some.mpr ⟨rfl, named⟩⟩

theorem name_of_catchWay (s : Step) : s.catchWay.id.name ≠ "" := by
  intro empty
  have nothing := congrArg String.toList empty
  rw [Step.catchWay, way, String.toList_append] at nothing
  exact absurd (List.append_eq_nil_iff.mp nothing).1 (by decide)

/-- A text parses if and only if its first `>` cuts it into one of the three words and a name, and then the
identifier is written as the text was. Every identifier with a name is read from its text, so no two of them are
written alike; and so is what becomes of a parsed one under another kind, and the way that catches its step. -/
theorem text_exact :
    (∀ raw, (parse? raw).isSome ↔
      ∃ front back, Cut raw front back ∧ front ∈ ["Step", "Way", "Detour"] ∧ back ≠ "") ∧
    (∀ raw id, parse? raw = some id → id.text = raw) ∧
    (∀ id : Ident, id.name ≠ "" → parse? id.text = some id) ∧
    (∀ id other : Ident, id.name ≠ "" → other.name ≠ "" → id ≠ other → id.text ≠ other.text) ∧
    (∀ raw id kind, parse? raw = some id → parse? (id.withKind kind).text = some (id.withKind kind)) ∧
    ∀ raw (s : Step), parse? raw = some s.id → parse? s.catchWay.id.text = some s.catchWay.id := by
  refine ⟨fun _ => isSome_parse?, fun _ _ => text_of_parse?, fun _ named => parse?_eq_some.mpr ⟨rfl, named⟩, ?_, ?_,
    fun _ s _ => parse?_eq_some.mpr ⟨rfl, name_of_catchWay s⟩⟩
  · intro id other named also different same
    have parsed : parse? other.text = some id := parse?_eq_some.mpr ⟨same, named⟩
    exact different (Option.some.inj (parsed.symm.trans (parse?_eq_some.mpr ⟨rfl, also⟩)))
  · intro raw id kind parsed
    have named : id.name ≠ "" := name_of_parse? parsed
    exact parse?_eq_some.mpr ⟨rfl, named⟩

theorem text_exact_with_separators :
    (parse? "Step>a>b").isSome ∧ parse? "Step>a>b" = some (step "a>b") ∧ text (step "a>b") = "Step>a>b" ∧
      parse? (text (way ">")) = some (way ">") ∧ text (step "a>b") ≠ text (way "a>b") ∧
      parse? (withKind (step "a>b") .detour).text = some (detour "a>b") ∧
      parse? (Step.catchWay { id := step "a>b", description := "" }).id.text = some (way "Catch-a>b") := by
  obtain ⟨accepts, texts, back, distinct, kinds, catches⟩ := text_exact
  have accepted := (accepts "Step>a>b").mpr ⟨"Step", "a>b", ⟨rfl, by decide⟩, by decide, by decide⟩
  have parsed : parse? "Step>a>b" = some (step "a>b") := by decide
  exact ⟨accepted, parsed, texts _ _ parsed, back _ (by decide), distinct _ _ (by decide) (by decide) (by decide),
    kinds _ _ .detour parsed, catches "Step>a>b" { id := step "a>b", description := "" } parsed⟩

end Ident

end Wayfarer

