import Wayfarer.Json.Decode
import Wayfarer.Proofs.Json.Lexing
import Wayfarer.Proofs.Json.Printing

/-!
# Reading JSON text

The reader builds a tree from its tokens. With the lexer this gives `read_of_document`: a text of the grammar
reads as the tree that the grammar gives it, and nothing of the text is left over. A printed tree reads back as
itself.
-/

namespace Wayfarer.Json

open Reader

mutual

/-- From the tokens of a tree the reader builds the tree, wherever a value may stand. -/
theorem foldl_treeTokens (frames : List Frame) : (j : Json) → j.sound = true →
    j.treeTokens.foldl Reader.step ⟨frames, .value⟩ = put j frames
  | null, _ | bool _, _ | nat _, _ | number, _ | string _, _ | mangled, _ => rfl
  | array [], _ => rfl
  | array (j :: rest), h => by
    simp only [sound, soundItems, Bool.and_eq_true] at h
    have first := foldl_treeTokens (.array [] :: frames) j h.1
    have all := foldl_itemTokens [j] frames rest h.2
    have opened : ∀ ts, (Token.beginArray :: (j.treeTokens ++ ts)).foldl Reader.step ⟨frames, .value⟩ =
        ts.foldl Reader.step (put j (.array [] :: frames)) := by
      intro ts
      rw [List.foldl_cons, List.foldl_append, ← first]
      exact congrArg (fun r => ts.foldl Reader.step r) (foldl_valueOrEnd (.array [] :: frames) j)
    rw [treeTokens, List.append_assoc, opened, List.foldl_append]
    simp only [put] at all ⊢
    rw [all]
    simp [Reader.step, put]
  | object [], _ => rfl
  | object ((key, j) :: rest), h => by
    simp only [sound, soundMembers, Bool.and_eq_true] at h
    have first := foldl_treeTokens (.member [] key :: frames) j h.1
    have all := foldl_memberTokens [(key, j)] frames rest h.2
    have opened : ([Token.beginObject, .string key, .colon].foldl Reader.step ⟨frames, .value⟩) =
        ⟨.member [] key :: frames, .value⟩ := rfl
    have split : treeTokens (object ((key, j) :: rest)) =
        [Token.beginObject, .string key, .colon] ++ (j.treeTokens ++ (memberTokens rest ++ [.endObject])) := by
      simp [treeTokens]
    rw [split, List.foldl_append, opened, List.foldl_append, first, List.foldl_append]
    simp only [put] at all ⊢
    rw [all]
    simp [Reader.step, put]
  | broken, h => by simp [sound] at h

theorem foldl_valueOrEnd (frames : List Frame) : (j : Json) →
    j.treeTokens.foldl Reader.step ⟨frames, .valueOrEnd⟩ =
      j.treeTokens.foldl Reader.step ⟨frames, .value⟩
  | null | bool _ | nat _ | number | string _ | mangled | broken => rfl
  | array [] | array (_ :: _) | object [] | object (_ :: _) => rfl

theorem foldl_itemTokens (read : List Json) (frames : List Frame) : (items : List Json) →
    soundItems items = true →
    (itemTokens items).foldl Reader.step ⟨.array read :: frames, .commaOrEnd⟩ =
      ⟨.array (items.reverse ++ read) :: frames, .commaOrEnd⟩
  | [], _ => rfl
  | j :: rest, h => by
    simp only [soundItems, Bool.and_eq_true] at h
    have separated : Reader.step ⟨.array read :: frames, .commaOrEnd⟩ .comma =
        ⟨.array read :: frames, .value⟩ := rfl
    have item := foldl_treeTokens (.array read :: frames) j h.1
    have others := foldl_itemTokens (j :: read) frames rest h.2
    simp only [put] at item
    rw [itemTokens, List.foldl_cons, separated, List.foldl_append, item, others]
    simp

theorem foldl_memberTokens (read : List (Option String × Json)) (frames : List Frame) :
    (members : List (Option String × Json)) → soundMembers members = true →
    (memberTokens members).foldl Reader.step ⟨.object read :: frames, .commaOrEnd⟩ =
      ⟨.object (members.reverse ++ read) :: frames, .commaOrEnd⟩
  | [], _ => rfl
  | (key, j) :: rest, h => by
    simp only [soundMembers, Bool.and_eq_true] at h
    have named : [Token.comma, .string key, .colon].foldl Reader.step ⟨.object read :: frames, .commaOrEnd⟩ =
        ⟨.member read key :: frames, .value⟩ := rfl
    have member := foldl_treeTokens (.member read key :: frames) j h.1
    have others := foldl_memberTokens ((key, j) :: read) frames rest h.2
    have split : memberTokens ((key, j) :: rest) =
        [Token.comma, .string key, .colon] ++ (j.treeTokens ++ memberTokens rest) := rfl
    simp only [put] at member
    rw [split, List.foldl_append, named, List.foldl_append, member, others]
    simp

end

/-- A text of the grammar reads as its tree, with nothing behind it. -/
theorem read_of_document {root : Json} {text : String} (h : Document root text) : read text = (root, true) := by
  rw [read, tokens_of_document h, ofTokens, foldl_treeTokens [] root (Grammar.sound_of_element h)]
  rfl

theorem decode_of_document {value : Json → Decode α} {root : Json} {text : String} (h : Document root text) :
    decode value text = value root := by
  rw [decode, read_of_document h]
  change (value root >>= fun a => pure a) = value root
  cases value root <;> rfl

theorem decode_pretty {value : Json → Decode α} {j : Json} (h : j.printable = true) :
    decode value (j.pretty ++ "\n") = value j :=
  decode_of_document (document_pretty h)

theorem value_of_decode {value : Json → Decode α} {text : String} {a : α}
    (h : decode value text = .ok a) : ∃ j, value j = .ok a := by
  unfold decode at h
  generalize read text = tree at h
  obtain ⟨root, clean⟩ := tree
  cases found : value root with
  | error f => simp only [found] at h; cases h
  | ok b =>
    simp only [found, bind, Except.bind] at h
    split at h
    · cases h
      exact ⟨root, found⟩
    · cases h

end Wayfarer.Json
