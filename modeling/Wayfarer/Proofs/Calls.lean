import Wayfarer.Proofs.Partial
import Wayfarer.Session

/-!
# Calls of a page

A page is what its calls have made of it. What makes calls one after the other makes all of them, or those up
to the first that the page refuses.
-/

namespace Wayfarer

/-- The call that an event tells of. -/
def Event.call? : Event → Option PageCall
  | .called call => some call
  | _ => none

/-- The calls among the events, in order. -/
def callsOf (events : List Event) : List PageCall :=
  events.filterMap (·.call?)

theorem callsOf_concat (events : List Event) (e : Event) : callsOf (events ++ [e]) = callsOf events ++ e.call?.toList := by
  simp only [callsOf, List.filterMap_append, List.filterMap_cons, List.filterMap_nil]
  cases e.call? <;> rfl

/-- The calls that were made in the session, in order. -/
def Session.calls (s : Session π) : List PageCall :=
  callsOf s.events.toList

section

variable [Page π]

/-- The page behind some calls. -/
def Page.behind (page : π) (calls : List PageCall) : π :=
  calls.foldl (fun page call => (Page.answer call page).2) page

theorem behind_append (page : π) (calls more : List PageCall) :
    Page.behind page (calls ++ more) = Page.behind (Page.behind page calls) more := by
  simp [Page.behind]

theorem behind_concat {page : π} (calls : List PageCall) (call : PageCall) :
    Page.behind page (calls ++ [call]) = (Page.answer call (Page.behind page calls)).2 := by
  simp [Page.behind]

/-- The page does not refuse the call. Pauses are never refused. -/
def Page.Grants (page : π) : PageCall → Prop
  | .pause _ => True
  | call => ∃ text, (Page.answer call page).1 = .ok text

/-- The page grants all of these calls if they are made one after the other. -/
def Page.GrantsAll : π → List PageCall → Prop
  | _, [] => True
  | page, call :: rest => Page.Grants page call ∧ GrantsAll (Page.answer call page).2 rest

theorem grantsAll_append {page : π} {calls more : List PageCall} :
    Page.GrantsAll page (calls ++ more) ↔ Page.GrantsAll page calls ∧ Page.GrantsAll (Page.behind page calls) more := by
  induction calls generalizing page with
  | nil => exact (iff_of_eq (true_and _)).symm
  | cons call calls ih =>
    change Page.Grants page call ∧ Page.GrantsAll _ (calls ++ more) ↔ (Page.Grants page call ∧ Page.GrantsAll _ calls) ∧ _
    rw [ih, and_assoc]
    rfl

/-- The page refuses the call, for this reason. -/
structure Page.Refuses (page : π) (call : PageCall) (reason : String) : Prop where
  answer : (Page.answer call page).1 = .error reason
  noPause : ∀ millis, call ≠ .pause millis

theorem Page.Refuses.not_grants {page : π} {call : PageCall} {reason : String} (h : Page.Refuses page call reason) :
    ¬ Page.Grants page call := by
  obtain ⟨refused, noPause⟩ := h
  cases call with
  | pause millis => exact absurd rfl (noPause millis)
  | goTo | close | await | click | type | setValue | setText | readText | readLink =>
    rintro ⟨text, granted⟩
    rw [refused] at granted
    cases granted

/-! ### Sessions -/

omit [Page π] in
theorem Session.calls_note (s : Session π) {e : Event} (other : e.call? = none) : (s.note e).calls = s.calls := by
  simp only [calls, note, Array.toList_push, callsOf_concat, other, Option.toList_none, List.append_nil]

theorem Session.calls_request (s : Session π) (call : PageCall) : (s.request call).2.calls = s.calls ++ [call] := by
  have called : ∀ page : π, calls { s with page, events := s.events.push (.called call) } = s.calls ++ [call] := by
    intro page
    simp [calls, callsOf_concat, Event.call?]
  unfold request
  simp only
  split
  · rw [calls_note _ rfl]
    exact called _
  · exact called _

theorem Session.page_request (s : Session π) (call : PageCall) : (s.request call).2.page = (Page.answer call s.page).2 := by
  unfold request
  simp only
  split <;> rfl

/-- From the session `s` on, the calls are made one after the other: all of them, or those up to the first that
the page refuses. -/
inductive Session.Makes (s : Session π) (calls : List PageCall) : Except Failure Unit × Session π → Prop where
  | all {t} (made : t.calls = s.calls ++ calls) (page : t.page = Page.behind s.page calls)
    (granted : Page.GrantsAll s.page calls) : Makes s calls (.ok (), t)
  | upTo {before call rest reason t} (split : calls = before ++ call :: rest) (made : t.calls = s.calls ++ (before ++ [call]))
    (granted : Page.GrantsAll s.page before) (refused : Page.Refuses (Page.behind s.page before) call reason) :
    Makes s calls (.error ⟨.page reason, []⟩, t)

/-- It is up to the page whether all calls are made and granted. -/
theorem Session.Makes.ok_iff {s : Session π} {calls : List PageCall} {ends : Except Failure Unit × Session π}
    (h : s.Makes calls ends) : ends.1 = .ok () ↔ Page.GrantsAll s.page calls := by
  cases h with
  | all made page granted => exact ⟨fun _ => granted, fun _ => rfl⟩
  | upTo split made granted refused =>
    subst split
    refine ⟨nofun, fun all => ?_⟩
    obtain ⟨-, here, -⟩ := grantsAll_append.mp all
    exact absurd here refused.not_grants

theorem Session.Makes.calls_of_ok {s t : Session π} {calls : List PageCall} (h : s.Makes calls (.ok (), t)) :
    t.calls = s.calls ++ calls := by
  cases h with
  | all made => exact made

namespace Act

/-- The computation does nothing but make these calls. -/
def Makes (x : Act π Unit) (calls : List PageCall) : Prop :=
  ∀ s, Session.Makes s calls (x s)

theorem makes_pure : Makes (pure () : Act π Unit) [] :=
  fun _ => .all (List.append_nil _).symm rfl trivial

theorem Makes.bind {x y : Act π Unit} {calls more : List PageCall} (first : Makes x calls) (rest : Makes y more) :
    Makes (x >>= fun _ => y) (calls ++ more) := by
  intro s
  have begun := first s
  rw [total_bind_apply]
  generalize x s = ends at begun
  cases begun with
  | upTo split made granted refused => exact .upTo (by rw [split, List.append_assoc]; rfl) made granted refused
  | @all t made page granted =>
    have ended := rest t
    simp only
    generalize y t = ends at ended
    cases ended with
    | all made' page' granted' =>
      refine .all (by rw [made', made, List.append_assoc]) ?_ (grantsAll_append.mpr ⟨granted, page ▸ granted'⟩)
      rw [page', page, behind_append]
    | upTo split made' granted' refused =>
      rw [page] at granted' refused
      rw [← behind_append] at refused
      exact .upTo (by rw [split, List.append_assoc]) (by rw [made', made]; simp only [List.append_assoc])
        (grantsAll_append.mpr ⟨granted, granted'⟩) refused

theorem makes_pause (millis : Nat) : Makes (pause millis : Act π Unit) [.pause millis] :=
  fun s => .all (s.calls_request _) (s.page_request _) ⟨trivial, trivial⟩

theorem makes_ask {c : PageCall} (noPause : ∀ millis, c ≠ .pause millis) : Makes (ask c : Act π Unit) [c] := by
  intro s
  have made := s.calls_request c
  have page := s.page_request c
  have answered : (s.request c).1 = (Page.answer c s.page).1 := rfl
  have asked : (ask c : Act π Unit) s =
      (((s.request c).1.map fun _ => ()).mapError (⟨.page ·, []⟩), (s.request c).2) := by
    change (call c >>= fun _ => pure ()) s = _
    rw [total_bind_apply]
    simp only [call, ExceptT.mk]
    cases s.request c with
    | mk answer t => cases answer <;> rfl
  rw [asked]
  cases found : s.request c with
  | mk answer t =>
    rw [found] at made page answered
    cases answer with
    | error reason => exact .upTo (show [c] = [] ++ c :: [] from rfl) made trivial ⟨answered.symm, noPause⟩
    | ok text =>
      refine .all made page ⟨?_, trivial⟩
      cases c with
      | pause millis => trivial
      | goTo | close | await | click | type | setValue | setText | readText | readLink => exact ⟨text, answered.symm⟩

end Act

end

end Wayfarer
